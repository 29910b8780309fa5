import TableStore.Proofs.Keyed

set_option autoImplicit false

/- Which form of SELECT is read is told by an unquoted JOIN anywhere among the tokens. -/
namespace TableStore

namespace Grammar

inductive Name : TokenStream → String → Prop
  | mk {spaced : SpacedToken} {text : String} (named : IsName text spaced) : Name [spaced] text

-- * or name, …
inductive Shown : TokenStream → Projection → Prop
  | all {star : SpacedToken} (sign : IsSign .star star) : Shown [star] .all
  | columns {phrase : TokenStream} {names : List String} (listed : Listed Name phrase names) :
      Shown phrase (.columns names)

inductive Filter : TokenStream → Option Int64 → Prop
  | absent : Filter [] none
  | keyed {phrase : TokenStream} {column written : String} {key : Int64} (condition : Condition phrase column written)
      (right : Key column written key) : Filter phrase (some key)

-- SELECT shown FROM name, with or without a semicolon at the end. What stands before that may be a filter.
inductive Selection : TokenStream → Projection → String → TokenStream → Prop
  | mk {verb source word : SpacedToken} {list filter ending : TokenStream} {shown : Projection} {table : String}
      (leads : IsKeyword (.command .select) verb) (shows : Shown list shown) (sources : IsKeyword .fromClause source)
      (named : IsName table word) (ended : Ending ending) :
      Selection (verb :: (list ++ source :: word :: (filter ++ ending))) shown table filter

inductive Optional (word : Keyword) : TokenStream → Prop
  | absent : Optional word []
  | present {spaced : SpacedToken} (same : IsKeyword word spaced) : Optional word [spaced]

-- FROM left JOIN right ON, with or without INNER
inductive Tables : TokenStream → String → String → Prop
  | mk {source left join right condition : SpacedToken} {inner : TokenStream} {leftName rightName : String}
      (sources : IsKeyword .fromClause source) (namedLeft : IsName leftName left) (kind : Optional .inner inner)
      (joins : IsKeyword .join join) (namedRight : IsName rightName right) (conditions : IsKeyword .onClause condition) :
      Tables (source :: left :: (inner ++ [join, right, condition])) leftName rightName

def Without (word : Keyword) (tokens : TokenStream) : Prop := ∀ spaced ∈ tokens, ¬ IsKeyword word spaced

instance (word : Keyword) (tokens : TokenStream) : Decidable (Without word tokens) :=
  inferInstanceAs (Decidable (∀ spaced ∈ tokens, ¬ IsKeyword word spaced))

-- A semicolon that is the last token of all is the ending; any other one belongs to the predicate.
structure Predicate (phrase ending : TokenStream) : Prop where
  nonempty : phrase ≠ []
  ended : Ending ending
  final : ending = [] → ∀ spaced ∈ phrase.getLast?, ¬ IsSign .semicolon spaced

-- SELECT … FROM left [INNER] JOIN right ON predicate, with or without a semicolon
inductive Joining : TokenStream → String → String → TokenStream → Prop
  | mk {verb : SpacedToken} {list middle predicate ending : TokenStream} {left right : String}
      (leads : IsKeyword (.command .select) verb) (passed : Without .fromClause list) (tables : Tables middle left right)
      (conditioned : Predicate predicate ending) :
      Joining (verb :: (list ++ (middle ++ (predicate ++ ending)))) left right predicate

theorem keyword_same {word other : Keyword} {spaced : SpacedToken} (same : IsKeyword word spaced)
    (sameOther : IsKeyword other spaced) : word.text.toList.map Char.toLower = other.text.toList.map Char.toLower := by
  obtain ⟨text, shown, equal⟩ := keyword_word same
  obtain ⟨found, shownOther, equalOther⟩ := keyword_word sameOther
  rw [shown] at shownOther
  cases shownOther
  rw [Text.sameIgnoringCase, beq_iff_eq] at equal equalOther
  exact equal.symm.trans equalOther

theorem tables_mention_join {middle : TokenStream} {left right : String} (tables : Tables middle left right) :
    ∃ spaced ∈ middle, IsKeyword .join spaced := by
  cases tables with
  | @mk source left join right condition inner _ _ _ _ _ joins => exact ⟨join, by simp, joins⟩

end Grammar

namespace Parser

open Grammar

theorem starts_with_before {test : Token → Bool} {rest : TokenStream} (fails : Before (fun token => !test token) rest) :
    startsWith test rest = false := by
  cases rest with
  | nil => rfl
  | cons next others => simpa [startsWith] using fails next others rfl

theorem optional_keyword_reads (word : Keyword) :
    Reads (discard (optional (·.isKeyword word.text))) (fun phrase _ => Optional word phrase)
      (Before fun token => !token.isKeyword word.text) := by
  intro tokens _ rest stopped
  rw [discard_optional]
  constructor
  · intro read
    by_cases starts : startsWith (·.isKeyword word.text) tokens = true
    · rw [if_pos starts] at read
      cases tokens with
      | nil => cases starts
      | cons spaced behind =>
        cases read
        exact ⟨[spaced], rfl, .present starts⟩
    · rw [if_neg starts] at read
      cases read
      exact ⟨[], rfl, .absent⟩
  · intro ⟨phrase, whole, optional⟩
    subst whole
    cases optional with
    | absent => rw [List.nil_append, starts_with_before stopped, if_neg Bool.false_ne_true]
    | present same => exact congrArg (fun rest => Except.ok ((), rest)) (if_pos same)

theorem pass_reads (word : Keyword) :
    Reads (modify (List.dropWhile fun spaced => !spaced.token.isKeyword word.text)) (fun phrase _ => Without word phrase)
      (Before (·.isKeyword word.text)) := by
  intro tokens _ rest stopped
  have passes : ∀ phrase : TokenStream, Without word phrase ↔
      ∀ spaced ∈ phrase, (!spaced.token.isKeyword word.text) = true := by
    simp [Without, IsKeyword]
  constructor
  · intro read
    cases read
    refine ⟨tokens.takeWhile (!·.token.isKeyword word.text), List.takeWhile_append_dropWhile.symm, (passes _).mpr ?_⟩
    intro spaced listed
    have inside := List.mem_takeWhile_imp listed
    exact inside
  · intro read
    obtain ⟨phrase, whole, without⟩ := read
    subst whole
    have stays : rest.dropWhile (!·.token.isKeyword word.text) = rest := by
      cases rest with
      | nil => rfl
      | cons next others => exact List.dropWhile_cons_of_neg (by simp [stopped next others rfl])
    have behind : (phrase ++ rest).dropWhile (!·.token.isKeyword word.text) = rest := by
      rw [List.dropWhile_append_of_pos ((passes phrase).mp without), stays]
    exact congrArg (fun rest => Except.ok ((), rest)) behind

theorem names_read :
    Reads (commaSeparated (name .column) (name_shortens .column)) (Listed Name) (Before endsList) := by
  have item : Reads (name .column) Name anywhere := by
    intro tokens text rest _
    rw [name_reads .column tokens text rest]
    constructor
    · intro ⟨spaced, whole, named⟩
      exact ⟨[spaced], whole, .mk named⟩
    · intro ⟨phrase, whole, inPhrase⟩
      cases inPhrase with
      | mk named => exact ⟨_, whole, named⟩
  exact (comma_separated_reads (name_shortens .column) item fun _ _ _ => trivial).weaken fun _ ends => ⟨trivial, ends⟩

def moreColumns (first : String) : Parser Projection := do
  if ← optional (· == .symbol .comma) then
    return .columns (first :: (← commaSeparated (name .column) (name_shortens .column)))
  return .columns [first]

-- The first column is told apart only by the error that its absence gives.
theorem columns_named {spaced : SpacedToken} {text : String} (named : IsName text spaced) (behind : TokenStream) :
    (name .columnOrStar >>= moreColumns) (spaced :: behind) =
      (commaSeparated (name .column) (name_shortens .column) >>= fun names => pure (.columns names)) (spaced :: behind) := by
  have read : name .column (spaced :: behind) = .ok (text, behind) :=
    (name_reads .column _ text behind).mpr ⟨spaced, rfl, named⟩
  rw [(name_reads .columnOrStar).bind_cons text named, moreColumns]
  change _ = (commaSeparated (name .column) (name_shortens .column) (spaced :: behind)).bind _
  by_cases comma : startsWith (· == .symbol .comma) behind = true
  · cases behind with
    | nil => cases comma
    | cons next others =>
      have sign : IsSign .comma next := by simpa [startsWith, IsSign] using comma
      rw [optional_present (by simpa [IsSign] using sign), comma_separated_comma (name_shortens .column) read sign]
      change (commaSeparated (name .column) (name_shortens .column) others).bind _ = _
      cases commaSeparated (name .column) (name_shortens .column) others with
      | error error => rfl
      | ok pair => rfl
  · have ends : Before endsList behind := by
      intro next others same
      subst same
      simpa [startsWith, endsList] using comma
    rw [optional_absent (by simpa using comma), comma_separated_last (name_shortens .column) read ends]
    rfl

theorem columns_read :
    Reads (name .columnOrStar >>= moreColumns)
      (fun phrase shown => ∃ names, Listed Name phrase names ∧ shown = .columns names) (Before endsList) := by
  have listed := names_read.map Projection.columns
  intro tokens shown rest stopped
  rw [← listed tokens shown rest stopped]
  constructor
  · intro read
    obtain ⟨text, behind, found, _⟩ := bind_ok read
    obtain ⟨spaced, whole, named⟩ := (name_reads _ _ _ _).mp found
    subst whole
    rwa [← columns_named named]
  · intro read
    obtain ⟨names, behind, found, _⟩ := bind_ok read
    cases first : name .column tokens with
    | error error =>
      rw [comma_separated_error (name_shortens .column) first] at found
      cases found
    | ok pair =>
      obtain ⟨spaced, whole, named⟩ := (name_reads _ _ pair.1 pair.2).mp first
      rw [whole] at read ⊢
      rwa [columns_named named]

theorem projection_reads : Reads Parser.projection Shown (Before endsList) := by
  intro tokens shown rest stopped
  have named := columns_read tokens shown rest stopped
  by_cases star : startsWith (· == .symbol .star) tokens = true
  · cases tokens with
    | nil => cases star
    | cons spaced behind =>
      have sign : IsSign .star spaced := by simpa [startsWith, IsSign] using star
      rw [projection, optional_present (by simpa [IsSign] using sign)]
      constructor
      · intro read
        cases read
        exact ⟨[spaced], rfl, .all sign⟩
      · intro read
        obtain ⟨phrase, whole, shows⟩ := read
        cases shows with
        | all =>
          cases whole
          rfl
        | columns listed =>
          obtain ⟨text, _, found, _⟩ := bind_ok (named.mpr ⟨phrase, whole, _, listed, rfl⟩)
          obtain ⟨_, same, quote, word⟩ := (name_reads _ _ _ _).mp found
          cases same
          rw [sign] at word
          cases word
  · rw [projection, optional_absent (by simpa using star)]
    refine named.trans ⟨?_, ?_⟩
    · intro read
      obtain ⟨phrase, whole, names, listed, same⟩ := read
      subst same
      exact ⟨phrase, whole, .columns listed⟩
    · intro read
      obtain ⟨phrase, whole, shows⟩ := read
      cases shows with
      | all sign =>
        subst whole
        exact absurd (by simpa [startsWith, IsSign] using sign) star
      | columns listed => exact ⟨phrase, whole, _, listed, rfl⟩

theorem optional_filter_reads :
    Reads optionalFilter Filter fun rest => Delimited rest ∧ Before noFilter rest := by
  intro tokens key rest ⟨stopped, unfiltered⟩
  rw [optionalFilter]
  by_cases filters : startsWith (·.isKeyword Keyword.whereClause.text) tokens = true
  · rw [if_pos filters]
    refine ((key_filter_reads.map some) tokens key rest stopped).trans ⟨?_, ?_⟩
    · intro read
      obtain ⟨phrase, whole, found, ⟨column, written, condition, right⟩, same⟩ := read
      subst same
      exact ⟨phrase, whole, .keyed condition right⟩
    · intro read
      obtain ⟨phrase, whole, filter⟩ := read
      cases filter with
      | absent =>
        subst whole
        exact absurd filters (by simp [starts_with_before unfiltered])
      | keyed condition right => exact ⟨phrase, whole, _, ⟨_, _, condition, right⟩, rfl⟩
  · rw [if_neg filters]
    constructor
    · intro read
      cases read
      exact ⟨[], rfl, .absent⟩
    · intro read
      obtain ⟨phrase, whole, filter⟩ := read
      subst whole
      cases filter with
      | absent => rfl
      | keyed condition => exact absurd (condition_starts condition rest) filters

theorem ending_unfiltered {ending : TokenStream} (ended : Ending ending) : Before noFilter ending := by
  cases ended with
  | absent => exact fun _ _ absent => nomatch absent
  | semicolon sign => exact before_sign sign rfl []

theorem keyword_no_comma {word : Keyword} {spaced : SpacedToken} (same : IsKeyword word spaced) (rest : TokenStream) :
    Before endsList (spaced :: rest) := by
  intro next others equal
  cases equal
  obtain ⟨text, shown, _⟩ := keyword_word same
  rw [shown]
  rfl

theorem select_reads :
    Reads select (fun phrase statement => ∃ verb list source word filter shown table key,
      phrase = verb :: (list ++ source :: word :: filter) ∧ IsKeyword (.command .select) verb ∧ Shown list shown ∧
        IsKeyword .fromClause source ∧ IsName table word ∧ Filter filter key ∧ statement = .select table shown key)
      fun rest => Delimited rest ∧ Before noFilter rest := by
  have filtered := fun shown table => optional_filter_reads.map (Statement.select table shown)
  have sources := fun shown => (keyword_reads .fromClause).bind fun _ => (name_reads .table).bind (filtered shown)
  have shows := projection_reads.bind sources (by
    intro shown phrase statement rest ⟨source, _, behind, whole, sources, _⟩ _
    subst whole
    exact keyword_no_comma sources _)
  have reads := (keyword_reads (.command .select)).bind fun _ => shows
  apply reads.of_iff
  intro phrase statement
  constructor
  · intro ⟨verb, _, _, whole, leads, list, shown, _, split, inList, source, _, _, splitSource, sources, word, table, filter,
      splitName, named, key, inFilter, same⟩
    subst splitName splitSource split
    exact ⟨verb, list, source, word, filter, shown, table, key, whole, leads, inList, sources, named, inFilter, same⟩
  · intro ⟨verb, list, source, word, filter, shown, table, key, whole, leads, inList, sources, named, inFilter, same⟩
    exact ⟨verb, (), _, whole, leads, list, shown, _, rfl, inList, source, (), _, rfl, sources, word, table, filter, rfl,
      named, key, inFilter, same⟩

def joinedTables : Parser (String × String) := do
  keyword (.command .select)
  modify (List.dropWhile fun spaced => !spaced.token.isKeyword Keyword.fromClause.text)
  keyword .fromClause
  let left ← name .leftTable
  discard (optional (·.isKeyword Keyword.inner.text))
  keyword .join
  let right ← name .rightTable
  keyword .onClause
  return (left, right)

theorem join_tables :
    join = joinedTables >>= fun tables => predicate >>= fun text => pure (.join tables.1 tables.2 text) := by
  simp only [join, joinedTables, bind_assoc, pure_bind]

inductive Opened : TokenStream → String × String → Prop
  | mk {verb : SpacedToken} {list middle : TokenStream} {left right : String}
      (leads : IsKeyword (.command .select) verb) (passed : Without .fromClause list) (tables : Tables middle left right) :
      Opened (verb :: (list ++ middle)) (left, right)

theorem keyword_apart {word other : Keyword} {spaced : SpacedToken} (same : IsKeyword word spaced)
    (apart : word.text.toList.map Char.toLower ≠ other.text.toList.map Char.toLower) (rest : TokenStream) :
    Before (fun token => !token.isKeyword other.text) (spaced :: rest) := by
  intro next others equal
  cases equal
  rw [Bool.not_eq_true', ← Bool.not_eq_true]
  intro sameOther
  exact apart (keyword_same same sameOther)

theorem joined_tables_read : Reads joinedTables Opened anywhere := by
  have conditions := fun (left right : String) => (keyword_reads .onClause).bind fun _ => pure_reads (left, right) anywhere
  have joins := fun left => (keyword_reads .join).bind fun _ => (name_reads .rightTable).bind (conditions left)
  have kinds := fun left => (optional_keyword_reads .inner).bind (fun _ => joins left) (by
    intro _ phrase tables rest ⟨join, _, behind, whole, same, _⟩ _
    subst whole
    exact keyword_apart same (by decide) _)
  have sources := (keyword_reads .fromClause).bind fun _ => (name_reads .leftTable).bind kinds
  have passes := (pass_reads .fromClause).bind (fun _ => sources) (by
    intro _ phrase tables rest ⟨source, _, behind, whole, same, _⟩ _ next others equal
    subst whole
    cases equal
    exact same)
  have reads := (keyword_reads (.command .select)).bind fun _ => passes
  apply reads.of_iff
  intro phrase tables
  constructor
  · intro ⟨verb, _, _, whole, leads, list, _, _, split, passed, source, _, _, splitSource, sources, left, leftName, _,
      splitLeft, namedLeft, inner, _, _, splitInner, kind, join, _, _, splitJoin, joins, right, rightName, _, splitRight,
      namedRight, condition, _, _, splitCondition, conditions, last, same⟩
    subst last splitCondition splitRight splitJoin splitInner splitLeft splitSource split whole same
    exact .mk leads passed (.mk sources namedLeft kind joins namedRight conditions)
  · intro opened
    cases opened with
    | @mk verb list middle leftName rightName leads passed tables =>
      cases tables with
      | @mk source left join right condition inner _ _ sources namedLeft kind joins namedRight conditions =>
        exact ⟨verb, (), _, rfl, leads, list, (), _, rfl, passed, source, (), _, rfl, sources, left, leftName, _, rfl,
          namedLeft, inner, (), _, rfl, kind, join, (), _, rfl, joins, right, rightName, _, rfl, namedRight, condition, (),
          [], rfl, conditions, rfl, rfl⟩

theorem predicate_counted {tokens : TokenStream} {count : Nat}
    (counted : (if endsInSemicolon tokens then lessOne tokens.length else .ok tokens.length) = .ok count) :
    predicate tokens = if count = 0 then malformed .missingPredicate
      else (textFrom tokens 0 count).bind fun text => .ok (text, tokens.drop count) := by
  rw [predicate]
  by_cases closes : endsInSemicolon tokens = true
  · rw [if_pos closes] at counted ⊢
    rw [counted]
    rfl
  · rw [if_neg closes] at counted ⊢
    cases counted
    rfl

theorem predicate_front {phrase ending : TokenStream} (ended : Ending ending)
    (final : ending = [] → ∀ spaced ∈ phrase.getLast?, ¬ IsSign .semicolon spaced) :
    predicate (phrase ++ ending) =
      if phrase.length = 0 then malformed .missingPredicate else .ok (writtenText phrase, ending) := by
  have counted : (if endsInSemicolon (phrase ++ ending) then lessOne (phrase ++ ending).length
      else .ok (phrase ++ ending).length) = .ok phrase.length := by
    cases ended with
    | absent =>
      have other : endsInSemicolon phrase = false := by
        rw [endsInSemicolon]
        cases last : phrase.getLast? with
        | none => rfl
        | some spaced => simpa [IsSign, last] using final rfl
      rw [List.append_nil, other]
      rfl
    | @semicolon spaced sign =>
      have closes : endsInSemicolon (phrase ++ [spaced]) = true := by
        simpa [endsInSemicolon, IsSign] using sign
      rw [closes, List.length_append]
      rfl
  rw [predicate_counted counted, text_from_written, Except.bind, List.drop_left]

theorem final_ending (tokens : TokenStream) :
    ∃ phrase ending, tokens = phrase ++ ending ∧ Ending ending ∧
      (ending = [] → ∀ spaced ∈ phrase.getLast?, ¬ IsSign .semicolon spaced) := by
  by_cases closes : ∃ front last, tokens = front ++ [last] ∧ IsSign .semicolon last
  · obtain ⟨front, last, whole, sign⟩ := closes
    exact ⟨front, [last], whole, .semicolon sign, fun absent => nomatch absent⟩
  · refine ⟨tokens, [], (List.append_nil tokens).symm, .absent, ?_⟩
    intro _ spaced last sign
    obtain ⟨front, whole⟩ := List.getLast?_eq_some_iff.mp last
    exact closes ⟨front, spaced, whole, sign⟩

theorem predicate_reads {ending : TokenStream} (ended : Ending ending) :
    Reads predicate (fun phrase text => Predicate phrase ending ∧ text = writtenText phrase) (· = ending) := by
  intro tokens text rest stopped
  subst stopped
  constructor
  · intro read
    obtain ⟨phrase, last, whole, ends, final⟩ := final_ending tokens
    subst whole
    rw [predicate_front ends final] at read
    by_cases empty : phrase.length = 0
    · rw [if_pos empty] at read
      cases read
    · rw [if_neg empty] at read
      cases read
      exact ⟨phrase, rfl, ⟨by simpa using empty, ends, final⟩, rfl⟩
  · intro ⟨phrase, whole, conditioned, same⟩
    subst whole same
    rw [predicate_front ended conditioned.final, if_neg (by simpa using conditioned.nonempty)]

theorem join_reads {ending : TokenStream} (ended : Ending ending) :
    Reads join (fun phrase statement => ∃ front predicate left right, phrase = front ++ predicate ∧
      Opened front (left, right) ∧ Predicate predicate ending ∧ statement = .join left right (writtenText predicate))
      (· = ending) := by
  have conditioned := fun (tables : String × String) => (predicate_reads ended).map (Statement.join tables.1 tables.2)
  have reads := joined_tables_read.bind conditioned fun _ _ _ _ _ _ => trivial
  rw [join_tables]
  apply reads.of_iff
  intro phrase statement
  constructor
  · intro ⟨front, (left, right), predicate, whole, opened, text, ⟨conditioned, same⟩, given⟩
    subst same
    exact ⟨front, predicate, left, right, whole, opened, conditioned, given⟩
  · intro ⟨front, predicate, left, right, whole, opened, conditioned, given⟩
    exact ⟨front, (left, right), predicate, whole, opened, _, ⟨conditioned, rfl⟩, given⟩

theorem join_opened {front : TokenStream} {left right : String} (opened : Opened front (left, right)) {back rest : TokenStream}
    {statement : Statement} (read : join (front ++ back) = .ok (statement, rest)) :
    ∃ predicate, statement = .join left right predicate := by
  rw [join_tables, joined_tables_read.bind_append opened trivial] at read
  obtain ⟨text, behind, _, given⟩ := bind_ok read
  cases given
  exact ⟨text, rfl⟩

end Parser

namespace Statement

open Grammar

theorem mentions_join_iff (tokens : TokenStream) :
    mentionsJoin tokens = true ↔ ∃ spaced ∈ tokens, IsKeyword .join spaced := by
  simp [mentionsJoin, IsKeyword]

theorem without_join {tokens : TokenStream} (silent : Without .join tokens) : mentionsJoin tokens = false := by
  rw [← Bool.not_eq_true, mentions_join_iff]
  intro ⟨spaced, listed, same⟩
  exact silent spaced listed same

theorem of_tokens_join_iff {first : SpacedToken} (leads : IsKeyword (.command .select) first) (rest : TokenStream)
    (mentions : ∃ spaced ∈ first :: rest, IsKeyword .join spaced) (statement : Statement) :
    ofTokens (first :: rest) = .ok statement ↔
      ∃ left right predicate, Joining (first :: rest) left right predicate ∧
        statement = .join left right (writtenText predicate) := by
  rw [of_tokens_led leads, (mentions_join_iff _).mpr mentions,
    Parser.whole_ended_iff .select true fun ending ended => Parser.join_reads ended]
  constructor
  · intro ⟨phrase, ending, whole, ⟨front, predicate, left, right, split, opened, conditioned, given⟩, _⟩
    refine ⟨left, right, predicate, ?_, given⟩
    rw [whole, split]
    cases opened with
    | @mk verb list middle _ _ leads passed tables =>
      simp only [List.append_assoc, List.cons_append]
      exact .mk leads passed tables conditioned
  · intro ⟨left, right, predicate, joining, given⟩
    generalize whole : first :: rest = tokens at joining
    cases joining with
    | @mk verb list middle _ ending _ _ leads passed tables conditioned =>
      refine ⟨(verb :: (list ++ middle)) ++ predicate, ending, ?_,
        ⟨verb :: (list ++ middle), predicate, left, right, rfl, .mk leads passed tables, conditioned, given⟩, conditioned.ended⟩
      simp only [List.append_assoc, List.cons_append]

theorem of_tokens_select_iff {first : SpacedToken} (leads : IsKeyword (.command .select) first) (rest : TokenStream)
    (silent : Without .join (first :: rest)) (statement : Statement) :
    ofTokens (first :: rest) = .ok statement ↔
      ∃ shown table filter key, Selection (first :: rest) shown table filter ∧ Filter filter key ∧
        statement = .select table shown key := by
  rw [of_tokens_led leads, without_join silent, Parser.whole_ok_iff .select false Parser.select_reads fun _ ended =>
    ⟨Parser.ending_delimited ended, Parser.ending_unfiltered ended⟩]
  constructor
  · intro ⟨phrase, ending, whole, ⟨verb, list, source, word, filter, shown, table, key, split, leads, inList, sources,
      named, inFilter, given⟩, ended⟩
    refine ⟨shown, table, filter, key, ?_, inFilter, given⟩
    rw [whole, split]
    simp only [List.append_assoc, List.cons_append]
    exact .mk leads inList sources named ended
  · intro ⟨shown, table, filter, key, selection, inFilter, given⟩
    generalize whole : first :: rest = tokens at selection
    cases selection with
    | @mk verb source word list _ ending _ _ leads inList sources named ended =>
      refine ⟨verb :: (list ++ source :: word :: filter), ending, ?_, ⟨verb, list, source, word, filter, shown, table, key,
        rfl, leads, inList, sources, named, inFilter, given⟩, ended⟩
      simp only [List.append_assoc, List.cons_append]

theorem of_tokens_opened {first : SpacedToken} (leads : IsKeyword (.command .select) first) {list middle : TokenStream}
    {left right : String} (passed : Without .fromClause list) (tables : Tables middle left right) {back : TokenStream}
    {statement : Statement} (read : ofTokens (first :: (list ++ (middle ++ back))) = .ok statement) :
    ∃ predicate, statement = .join left right predicate := by
  obtain ⟨join, listed, joins⟩ := tables_mention_join tables
  have mentions : mentionsJoin (first :: (list ++ (middle ++ back))) = true :=
    (mentions_join_iff _).mpr ⟨join, by simp [listed], joins⟩
  rw [of_tokens_led leads, mentions, Parser.run_ok_iff] at read
  obtain ⟨rest, read⟩ := read
  obtain ⟨found, behind, formed, read⟩ := Parser.bind_ok read
  obtain ⟨_, _, _, given⟩ := Parser.bind_ok read
  cases given
  have opened : Parser.Opened (first :: (list ++ middle)) (left, right) := .mk leads passed tables
  have whole : first :: (list ++ (middle ++ back)) = (first :: (list ++ middle)) ++ back := by simp
  rw [whole] at formed
  exact Parser.join_opened opened formed

theorem select_grammar {first : SpacedToken} (leads : IsKeyword (.command .select) first) (rest : TokenStream) :
    ((∃ spaced ∈ first :: rest, IsKeyword .join spaced) →
      (∀ table shown key, ofTokens (first :: rest) ≠ .ok (.select table shown key)) ∧
      ∀ statement, ofTokens (first :: rest) = .ok statement ↔
        ∃ left right predicate, Joining (first :: rest) left right predicate ∧
          statement = .join left right (writtenText predicate)) ∧
    (Without .join (first :: rest) →
      (∀ left right predicate, ofTokens (first :: rest) ≠ .ok (.join left right predicate)) ∧
      ∀ statement, ofTokens (first :: rest) = .ok statement ↔
        ∃ shown table filter key, Selection (first :: rest) shown table filter ∧ Filter filter key ∧
          statement = .select table shown key) ∧
    (∀ list middle left right back statement, Without .fromClause list → Tables middle left right →
      ofTokens (first :: (list ++ (middle ++ back))) = .ok statement →
        ∃ predicate, statement = .join left right predicate) := by
  refine ⟨?_, ?_, fun _ _ _ _ _ _ passed tables => of_tokens_opened leads passed tables⟩
  · intro mentions
    have joins := of_tokens_join_iff leads rest mentions
    refine ⟨?_, joins⟩
    intro table shown key read
    obtain ⟨left, right, predicate, _, same⟩ := (joins _).mp read
    cases same
  · intro silent
    have selects := of_tokens_select_iff leads rest silent
    refine ⟨?_, selects⟩
    intro left right predicate read
    obtain ⟨shown, table, filter, key, _, _, same⟩ := (selects _).mp read
    cases same

def petTables : TokenStream :=
  [⟨" ", .word "FROM" none⟩, ⟨" ", .word "pets" none⟩, ⟨" ", .word "inner" none⟩, ⟨" ", .word "JOIN" none⟩,
    ⟨" ", .word "owners" none⟩, ⟨" ", .word "ON" none⟩]

def passedTokens : TokenStream :=
  [⟨" ", .word "JOIN" none⟩, ⟨"", .symbol .comma⟩, ⟨" ", .word "FROM" (some .double)⟩]

def petColumns : TokenStream :=
  [⟨" ", .word "JOIN" (some .double)⟩, ⟨"", .symbol .comma⟩, ⟨" ", .word "id" none⟩]

def petFilter : TokenStream :=
  [⟨" ", .word "WHERE" none⟩, ⟨" ", .word "Id" none⟩, ⟨" ", .symbol .equal⟩, ⟨" ", .literal .single "7"⟩]

def petSelection : TokenStream :=
  ⟨"", .word "select" none⟩ :: (petColumns ++ ⟨" ", .word "FROM" none⟩ :: ⟨" ", .word "pets" none⟩ ::
    (petFilter ++ [⟨"", .symbol .semicolon⟩]))

theorem pets_are_joined_or_selected :
    ofTokens (⟨"", .word "select" none⟩ :: (passedTokens ++ (petTables ++ [⟨" ", .symbol .semicolon⟩,
        ⟨"", .symbol .semicolon⟩]))) = .ok (.join "pets" "owners" ";") ∧
      (∀ left right predicate, ¬ Joining (⟨"", .word "select" none⟩ :: (passedTokens ++ (petTables ++
        [⟨" ", .symbol .semicolon⟩]))) left right predicate) ∧
      ofTokens petSelection = .ok (.select "pets" (.columns ["JOIN", "id"]) (some 7)) := by
  have leads : IsKeyword (.command .select) ⟨"", .word "select" none⟩ := by decide
  have passed : Without .fromClause passedTokens := by decide
  have tables : Tables petTables "pets" "owners" :=
    .mk (by decide) ⟨none, rfl⟩ (.present (by decide)) (by decide) ⟨none, rfl⟩ (by decide)
  refine ⟨?_, ?_, ?_⟩
  · have mentions : ∃ spaced ∈ ⟨"", .word "select" none⟩ :: (passedTokens ++ (petTables ++ [⟨" ", .symbol .semicolon⟩,
        ⟨"", .symbol .semicolon⟩])), IsKeyword .join spaced := by decide
    have conditioned : Predicate [⟨" ", .symbol .semicolon⟩] [⟨"", .symbol .semicolon⟩] :=
      ⟨List.cons_ne_nil _ _, .semicolon rfl, fun absent => nomatch absent⟩
    exact (((select_grammar leads _).1 mentions).2 _).mpr ⟨_, _, _, .mk leads passed tables conditioned, rfl⟩
  · intro left right predicate joining
    have mentions : ∃ spaced ∈ ⟨"", .word "select" none⟩ :: (passedTokens ++ (petTables ++ [⟨" ", .symbol .semicolon⟩])),
        IsKeyword .join spaced := by decide
    have read := (((select_grammar leads _).1 mentions).2 _).mpr ⟨left, right, predicate, joining, rfl⟩
    have refused : (ofTokens (⟨"", .word "select" none⟩ :: (passedTokens ++ (petTables ++
        [⟨" ", .symbol .semicolon⟩])))).toOption = none := by decide +kernel
    rw [read] at refused
    cases refused
  · have silent : Without .join petSelection := by decide
    have comma : IsSign .comma ⟨"", .symbol .comma⟩ := by decide
    have join : Name [⟨" ", .word "JOIN" (some .double)⟩] "JOIN" := .mk ⟨some .double, rfl⟩
    have id : Name [⟨" ", .word "id" none⟩] "id" := .mk ⟨none, rfl⟩
    have shows : Shown petColumns (.columns ["JOIN", "id"]) :=
      .columns (Parser.listed_more join comma (Parser.listed_last id))
    have filter : Filter petFilter (some 7) :=
      .keyed (.mk (by decide) ⟨none, rfl⟩ (by decide) (.quoted (.single "7"))) ⟨by decide, by decide +kernel⟩
    have selection : Selection petSelection (.columns ["JOIN", "id"]) "pets" petFilter :=
      .mk leads shows (by decide) ⟨none, rfl⟩ (.semicolon (by decide))
    exact (((select_grammar leads _).2.1 silent).2 _).mpr ⟨_, _, _, _, selection, filter, rfl⟩

end Statement

end TableStore
