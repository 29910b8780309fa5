import TableStore.Proofs.Creation
import TableStore.Proofs.Insertion
import TableStore.Proofs.Selection

set_option autoImplicit false

/- No phrase ends in a semicolon, so a last one is the ending. A join takes a second one into its predicate. -/
namespace TableStore

namespace Grammar

def Unended (phrase : TokenStream) : Prop := ∃ last ∈ phrase.getLast?, ¬ IsSign .semicolon last

theorem unended_single {spaced : SpacedToken} (other : ¬ IsSign .semicolon spaced) : Unended [spaced] :=
  ⟨spaced, rfl, other⟩

theorem Unended.last {phrase : TokenStream} (unended : Unended phrase) :
    ∀ spaced ∈ phrase.getLast?, ¬ IsSign .semicolon spaced := by
  obtain ⟨last, atEnd, other⟩ := unended
  intro spaced found
  cases atEnd.symm.trans found
  exact other

theorem unended_append_iff (front : TokenStream) {phrase : TokenStream} (nonempty : phrase ≠ []) :
    Unended (front ++ phrase) ↔ Unended phrase := by
  rw [Unended, Unended, List.getLast?_append_of_ne_nil front nonempty]

theorem Unended.behind {phrase : TokenStream} (unended : Unended phrase) (front : TokenStream) :
    Unended (front ++ phrase) := by
  refine (unended_append_iff front ?_).mpr unended
  intro empty
  obtain ⟨last, atEnd, other⟩ := unended
  rw [empty] at atEnd
  cases atEnd

theorem Unended.behind_token {phrase : TokenStream} (unended : Unended phrase) (spaced : SpacedToken) :
    Unended (spaced :: phrase) :=
  unended.behind [spaced]

theorem ending_of_unended {phrase ending : TokenStream} (ended : Ending ending) (unended : Unended (phrase ++ ending)) :
    ending = [] := by
  cases ended with
  | absent => rfl
  | @semicolon spaced sign => exact absurd sign (unended.last spaced List.getLast?_concat)

theorem ending_of_semicolon {phrase ending tokens : TokenStream} {semicolon : SpacedToken} (ended : Ending ending)
    (final : ending = [] → ∀ spaced ∈ phrase.getLast?, ¬ IsSign .semicolon spaced) (sign : IsSign .semicolon semicolon)
    (same : tokens ++ [semicolon] = phrase ++ ending) : phrase = tokens ∧ ending = [semicolon] := by
  cases ended with
  | absent =>
    rw [List.append_nil] at same
    exact absurd sign (final rfl semicolon (same ▸ List.getLast?_concat))
  | semicolon =>
    obtain ⟨front, last⟩ := List.append_inj' same rfl
    exact ⟨front.symm, last.symm⟩

theorem name_unended {text : String} {spaced : SpacedToken} (named : IsName text spaced) : Unended [spaced] := by
  obtain ⟨quote, word⟩ := named
  refine unended_single ?_
  intro sign
  rw [IsSign, word] at sign
  cases sign

theorem close_unended {closing : SpacedToken} (closes : IsSign .rightParen closing) : Unended [closing] := by
  refine unended_single ?_
  intro sign
  rw [IsSign, closes] at sign
  cases sign

theorem literal_unended {phrase : TokenStream} {content : String} (literal : Literal phrase content) :
    Unended phrase := by
  cases literal with
  | @quoted spaced _ closed =>
    refine unended_single ?_
    intro sign
    rw [show spaced.token = _ from sign] at closed
    cases closed
  | @unquoted first rest bare inside =>
    have nonempty : first :: rest ≠ [] := List.cons_ne_nil first rest
    refine ⟨_, List.getLast?_eq_some_getLast nonempty, ?_⟩
    intro sign
    have free := inside _ (List.getLast_mem nonempty)
    rw [show SpacedToken.token _ = _ from sign] at free
    exact free .semicolon

theorem condition_unended {phrase : TokenStream} {column written : String}
    (condition : Condition phrase column written) : Unended phrase := by
  cases condition with
  | @mk word name equal phrase _ _ filters named sign literal =>
    exact (literal_unended literal).behind [word, name, equal]

theorem keyed_form_unended {verb : Command} {phrase : TokenStream} {build : Int64 → Statement} {column written : String}
    (form : KeyedForm verb phrase build column written) : Unended phrase := by
  cases form with
  | @update verb word set list condition _ _ _ _ _ _ _ _ filtered =>
    exact (condition_unended filtered).behind (verb :: word :: set :: list)
  | @delete verb source word condition _ _ _ _ _ _ filtered =>
    exact (condition_unended filtered).behind [verb, source, word]

theorem closed_unended {phrase : TokenStream} {literals : List TokenStream} {values : List String}
    (closed : Closed phrase literals values) : Unended phrase := by
  cases closed with
  | empty closes => exact close_unended closes
  | filled separated read closes => exact (close_unended closes).behind _

theorem filtered_unended {word : SpacedToken} {filter : TokenStream} {table : String} {key : Option Int64}
    (named : IsName table word) (filtered : Filter filter key) : Unended (word :: filter) := by
  cases filtered with
  | absent => exact name_unended named
  | keyed condition => exact (condition_unended condition).behind_token word

end Grammar

namespace Parser

open Grammar

abbrev Closing : TokenStream → Prop := Before (· == .symbol .semicolon)

theorem closing_of_sign {semicolon : SpacedToken} (sign : IsSign .semicolon semicolon) (rest : TokenStream) :
    Closing (semicolon :: rest) :=
  before_sign sign rfl rest

theorem closing_of_ending {ending : TokenStream} (ended : Ending ending) : Closing ending := by
  cases ended with
  | absent => exact fun _ _ absent => nomatch absent
  | semicolon sign => exact closing_of_sign sign []

theorem closing_before {test : Token → Bool} (passes : test (.symbol .semicolon) = true) {rest : TokenStream}
    (closing : Closing rest) : Before test rest := by
  intro next others same
  have sign : next.token = .symbol .semicolon := by simpa using closing next others same
  rw [sign, passes]

structure Bounded (parser : Parser Statement) (grammar : TokenStream → Statement → Prop) : Prop where
  reads : Reads parser grammar Closing
  unended : ∀ phrase statement, grammar phrase statement → Unended phrase

theorem drop_table_reads :
    Reads dropTable (fun phrase statement => ∃ verb table word name, phrase = [verb, table, word] ∧
      IsKeyword (.command .drop) verb ∧ IsKeyword .table table ∧ IsName name word ∧ statement = .dropTable name)
      anywhere := by
  have named := (name_reads .table).bind fun name => pure_reads (Statement.dropTable name) anywhere
  have reads := (keyword_reads (.command .drop)).bind fun _ => (keyword_reads .table).bind fun _ => named
  apply reads.of_iff
  intro phrase statement
  constructor
  · intro led
    obtain ⟨verb, _, _, whole, leads, table, _, _, split, makes, word, name, _, last, named, none, given⟩ := led
    subst none last split
    exact ⟨verb, table, word, name, whole, leads, makes, named, given⟩
  · intro led
    obtain ⟨verb, table, word, name, whole, leads, makes, named, given⟩ := led
    exact ⟨verb, (), _, whole, leads, table, (), _, rfl, makes, word, name, _, rfl, named, rfl, given⟩

theorem create_table_bounded : ∃ grammar, Bounded createTable grammar := by
  refine ⟨_, create_table_reads.weaken fun _ _ => trivial, ?_⟩
  intro phrase statement opened
  obtain ⟨front, closing, name, columns, whole, opening, closes, given⟩ := opened
  rw [whole]
  exact (close_unended closes).behind front

theorem drop_table_bounded : ∃ grammar, Bounded dropTable grammar := by
  refine ⟨_, drop_table_reads.weaken fun _ _ => trivial, ?_⟩
  intro phrase statement led
  obtain ⟨verb, table, word, name, whole, leads, makes, named, given⟩ := led
  rw [whole]
  exact (name_unended named).behind [verb, table]

theorem insert_bounded : ∃ grammar, Bounded Parser.insert grammar := by
  refine ⟨_, insert_reads.weaken fun _ _ => trivial, ?_⟩
  intro phrase statement led
  obtain ⟨verb, _, _, whole, leads, into, _, _, splitVerb, targets, word, table, _, splitInto, named, list, _, _,
    splitName, lists, opening, _, closed, splitList, opens, values, closes, given⟩ := led
  obtain ⟨literals, closes⟩ := closes
  subst splitList splitName splitInto splitVerb whole
  exact (closed_unended closes).behind [verb, into, word, list, opening]

theorem select_bounded : ∃ grammar, Bounded select grammar := by
  refine ⟨_, select_reads.weaken ?_, ?_⟩
  · intro rest closing
    exact ⟨closing_before rfl closing, closing_before rfl closing⟩
  · intro phrase statement led
    obtain ⟨verb, list, source, word, filter, shown, table, key, whole, leads, shows, sources, named, filtered, given⟩ :=
      led
    rw [whole]
    exact (((filtered_unended named filtered).behind_token source).behind list).behind_token verb

theorem form_keyed_bounded {verb : Command} (writes : verb = .update ∨ verb = .delete) (joins : Bool) :
    ∃ grammar, Bounded (form verb joins) grammar := by
  refine ⟨_, (form_keyed_reads writes joins).weaken fun _ closing => closing_before rfl closing, ?_⟩
  intro phrase statement led
  obtain ⟨build, column, written, key, form, right, given⟩ := led
  exact keyed_form_unended form

theorem form_bounded {verb : Command} {joins : Bool} (single : joins = true → verb ≠ .select) :
    ∃ grammar, Bounded (form verb joins) grammar := by
  cases verb with
  | create => exact create_table_bounded
  | drop => exact drop_table_bounded
  | insert => exact insert_bounded
  | select =>
    cases joins with
    | false => exact select_bounded
    | true => exact absurd rfl (single rfl)
  | update => exact form_keyed_bounded (.inl rfl) joins
  | delete => exact form_keyed_bounded (.inr rfl) joins

section
variable {verb : Command} {joins : Bool} {grammar : TokenStream → Statement → Prop} {tokens : TokenStream}
  {semicolon : SpacedToken} {statement : Statement}

theorem whole_unended_iff (bounded : Bounded (form verb joins) grammar) (unended : Unended tokens) :
    (whole verb joins).run' tokens = .ok statement ↔ grammar tokens statement := by
  rw [whole_ok_iff verb joins bounded.reads fun _ => closing_of_ending]
  constructor
  · intro read
    obtain ⟨phrase, ending, split, inPhrase, ended⟩ := read
    rw [split] at unended ⊢
    rwa [ending_of_unended ended unended, List.append_nil]
  · intro inTokens
    exact ⟨tokens, [], (List.append_nil tokens).symm, inTokens, .absent⟩

theorem whole_semicolon_iff (bounded : Bounded (form verb joins) grammar) (sign : IsSign .semicolon semicolon) :
    (whole verb joins).run' (tokens ++ [semicolon]) = .ok statement ↔ grammar tokens statement := by
  rw [whole_ok_iff verb joins bounded.reads fun _ => closing_of_ending]
  constructor
  · intro read
    obtain ⟨phrase, ending, split, inPhrase, ended⟩ := read
    obtain ⟨front, _⟩ := ending_of_semicolon ended (fun _ => (bounded.unended _ _ inPhrase).last) sign split
    rwa [front] at inPhrase
  · intro inTokens
    exact ⟨tokens, [semicolon], rfl, inTokens, .semicolon sign⟩

theorem ending_semicolons (sign : IsSign .semicolon semicolon) (next : SpacedToken) (rest : TokenStream) :
    ending (semicolon :: next :: rest) = .error (.malformed (.afterEnd next.token)) := by
  have taken : startsWith (· == .symbol .semicolon) (semicolon :: next :: rest) = true := by
    simpa [startsWith, IsSign] using sign
  rw [ending]
  change (discard (optional (· == .symbol .semicolon)) (semicolon :: next :: rest)).bind _ = _
  rw [discard_optional, if_pos taken]
  rfl

-- The form stops before the first semicolon, and the ending takes no more than one.
theorem whole_semicolons (bounded : Bounded (form verb joins) grammar) (inTokens : grammar tokens statement)
    (sign : IsSign .semicolon semicolon) (next : SpacedToken) (rest : TokenStream) :
    (whole verb joins).run' (tokens ++ semicolon :: next :: rest) = .error (.malformed (.afterEnd next.token)) := by
  change ((form verb joins >>= _) _).map _ = _
  rw [bounded.reads.bind_append inTokens (closing_of_sign sign _)]
  change ((ending _).bind _).map _ = _
  rw [ending_semicolons sign]
  rfl

end

end Parser

namespace Grammar

theorem joining_iff (tokens : TokenStream) (left right : String) (predicate : TokenStream) :
    Joining tokens left right predicate ↔ ∃ front ending, tokens = front ++ predicate ++ ending ∧
      Parser.Opened front (left, right) ∧ Predicate predicate ending := by
  constructor
  · intro joining
    cases joining with
    | @mk verb list middle _ ending _ _ leads passed tables conditioned =>
      exact ⟨verb :: (list ++ middle), ending, by simp, .mk leads passed tables, conditioned⟩
  · intro parts
    obtain ⟨front, ending, whole, opened, conditioned⟩ := parts
    cases opened with
    | @mk verb list middle _ _ leads passed tables =>
      rw [whole, List.cons_append, List.cons_append, List.append_assoc, List.append_assoc]
      exact .mk leads passed tables conditioned

theorem joining_semicolon_iff {tokens : TokenStream} (unended : Unended tokens) {semicolon : SpacedToken}
    (sign : IsSign .semicolon semicolon) (left right : String) (predicate : TokenStream) :
    Joining (tokens ++ [semicolon]) left right predicate ↔ Joining tokens left right predicate := by
  rw [joining_iff, joining_iff]
  constructor
  · intro parts
    obtain ⟨front, ending, whole, opened, conditioned⟩ := parts
    have final : ending = [] → ∀ spaced ∈ (front ++ predicate).getLast?, ¬ IsSign .semicolon spaced := by
      rw [List.getLast?_append_of_ne_nil front conditioned.nonempty]
      exact conditioned.final
    obtain ⟨split, _⟩ := ending_of_semicolon conditioned.ended final sign whole
    rw [← split] at unended ⊢
    have last := ((unended_append_iff front conditioned.nonempty).mp unended).last
    exact ⟨front, [], (List.append_nil _).symm, opened, conditioned.nonempty, .absent, fun _ => last⟩
  · intro parts
    obtain ⟨front, ending, whole, opened, conditioned⟩ := parts
    rw [whole] at unended ⊢
    rw [ending_of_unended conditioned.ended unended, List.append_nil]
    exact ⟨front, [semicolon], rfl, opened, conditioned.nonempty, .semicolon sign, fun absent => nomatch absent⟩

end Grammar

namespace Statement

open Grammar

theorem mentions_join_append (tokens : TokenStream) {semicolons : TokenStream}
    (signs : ∀ semicolon ∈ semicolons, IsSign .semicolon semicolon) :
    mentionsJoin (tokens ++ semicolons) = mentionsJoin tokens := by
  have silent : mentionsJoin semicolons = false := by
    apply without_join
    intro semicolon listed same
    obtain ⟨text, shown, _⟩ := keyword_word same
    cases (signs semicolon listed).symm.trans shown
  have both : mentionsJoin (tokens ++ semicolons) = (mentionsJoin tokens || mentionsJoin semicolons) :=
    List.any_append
  rw [both, silent, Bool.or_false]

section
variable {verb : Command} {first : SpacedToken} (leads : IsKeyword (.command verb) first) (rest : TokenStream)
  {semicolon : SpacedToken} (sign : IsSign .semicolon semicolon)
include leads sign

theorem of_tokens_semicolon (statement : Statement) (unended : Unended (first :: rest)) :
    ofTokens (first :: rest) = .ok statement ↔ ofTokens (first :: rest ++ [semicolon]) = .ok statement := by
  have mentions := mentions_join_append (first :: rest) (by simpa using sign : ∀ spaced ∈ [semicolon], _)
  by_cases joins : verb = .select ∧ mentionsJoin (first :: rest) = true
  · obtain ⟨selects, joins⟩ := joins
    subst selects
    have mentioned : ∃ spaced ∈ first :: (rest ++ [semicolon]), IsKeyword .join spaced :=
      (mentions_join_iff _).mp (mentions.trans joins)
    rw [of_tokens_join_iff leads rest ((mentions_join_iff _).mp joins), List.cons_append,
      of_tokens_join_iff leads _ mentioned, ← List.cons_append]
    simp only [joining_semicolon_iff unended sign]
  · have single : mentionsJoin (first :: rest) = true → verb ≠ .select := fun mentions selects => joins ⟨selects, mentions⟩
    obtain ⟨grammar, bounded⟩ := Parser.form_bounded single
    rw [List.cons_append, of_tokens_led leads, of_tokens_led leads, ← List.cons_append, mentions,
      Parser.whole_unended_iff bounded unended, Parser.whole_semicolon_iff bounded sign]

theorem of_tokens_semicolons {statement : Statement} (read : ofTokens (first :: rest ++ [semicolon]) = .ok statement)
    (unjoined : ∀ left right predicate, statement ≠ .join left right predicate) {second : SpacedToken}
    (signSecond : IsSign .semicolon second) :
    ofTokens (first :: rest ++ [semicolon, second]) = .error (.malformed (.afterEnd (.symbol .semicolon))) := by
  have mentions := mentions_join_append (first :: rest) (by simpa using sign : ∀ spaced ∈ [semicolon], _)
  have mentionsBoth := mentions_join_append (first :: rest)
    (by simpa using ⟨sign, signSecond⟩ : ∀ spaced ∈ [semicolon, second], _)
  have single : mentionsJoin (first :: rest) = true → verb ≠ .select := by
    intro joins selects
    subst selects
    have mentioned : ∃ spaced ∈ first :: (rest ++ [semicolon]), IsKeyword .join spaced :=
      (mentions_join_iff _).mp (mentions.trans joins)
    rw [List.cons_append, of_tokens_join_iff leads _ mentioned] at read
    obtain ⟨left, right, predicate, _, same⟩ := read
    exact unjoined left right _ same
  obtain ⟨grammar, bounded⟩ := Parser.form_bounded single
  rw [List.cons_append, of_tokens_led leads, ← List.cons_append, mentions, Parser.whole_semicolon_iff bounded sign] at read
  rw [List.cons_append, of_tokens_led leads, ← List.cons_append, mentionsBoth,
    Parser.whole_semicolons bounded read sign second [], show second.token = _ from signSecond]

end

theorem last_semicolon_is_neutral {verb : Command} {first : SpacedToken} (leads : IsKeyword (.command verb) first)
    (rest : TokenStream) {semicolon : SpacedToken} (sign : IsSign .semicolon semicolon) (statement : Statement) :
    (Unended (first :: rest) →
      (ofTokens (first :: rest) = .ok statement ↔ ofTokens (first :: rest ++ [semicolon]) = .ok statement)) ∧
    (ofTokens (first :: rest ++ [semicolon]) = .ok statement →
      (∀ left right predicate, statement ≠ .join left right predicate) → ∀ second, IsSign .semicolon second →
        ofTokens (first :: rest ++ [semicolon, second]) = .error (.malformed (.afterEnd (.symbol .semicolon)))) :=
  ⟨of_tokens_semicolon leads rest sign statement, fun read unjoined _ => of_tokens_semicolons leads rest sign read unjoined⟩

-- create TABLE kennels (id int; , size ;)
def kennelTokens : TokenStream :=
  [⟨"", .word "create" none⟩, ⟨" ", .word "TABLE" none⟩, ⟨" ", .word "kennels" none⟩, ⟨" ", .symbol .leftParen⟩,
    ⟨"", .word "id" none⟩, ⟨" ", .word "int" none⟩, ⟨"", .symbol .semicolon⟩, ⟨" ", .symbol .comma⟩,
    ⟨" ", .word "size" none⟩, ⟨" ", .symbol .semicolon⟩, ⟨"", .symbol .rightParen⟩]

-- select * from pets join kennels on a ; b
def kennelJoin : TokenStream :=
  [⟨"", .word "select" none⟩, ⟨" ", .symbol .star⟩, ⟨" ", .word "from" none⟩, ⟨" ", .word "pets" none⟩,
    ⟨" ", .word "join" none⟩, ⟨" ", .word "kennels" none⟩, ⟨" ", .word "on" none⟩, ⟨" ", .word "a" none⟩,
    ⟨" ", .symbol .semicolon⟩, ⟨" ", .word "b" none⟩]

theorem kennels_end_once :
    ofTokens (kennelTokens ++ [⟨"\n", .symbol .semicolon⟩]) = .ok (.createTable "kennels" [⟨"id", "int"⟩, ⟨"size", ";"⟩]) ∧
      ofTokens (kennelTokens ++ [⟨"\n", .symbol .semicolon⟩, ⟨"", .symbol .semicolon⟩]) =
        .error (.malformed (.afterEnd (.symbol .semicolon))) ∧
      ofTokens (kennelJoin ++ [⟨"\n", .symbol .semicolon⟩]) = .ok (.join "pets" "kennels" "a ; b") ∧
      ofTokens (kennelJoin ++ [⟨"\n", .symbol .semicolon⟩, ⟨"", .symbol .semicolon⟩]) =
        .ok (.join "pets" "kennels" "a ; b\n;") := by
  have sign : IsSign .semicolon ⟨"\n", .symbol .semicolon⟩ := by decide
  have creates : IsKeyword (.command .create) ⟨"", .word "create" none⟩ := by decide
  have selects : IsKeyword (.command .select) ⟨"", .word "select" none⟩ := by decide
  have created : ofTokens kennelTokens = .ok (.createTable "kennels" [⟨"id", "int"⟩, ⟨"size", ";"⟩]) := by
    decide +kernel
  have joined : ofTokens kennelJoin = .ok (.join "pets" "kennels" "a ; b") := by decide +kernel
  have ended := ((last_semicolon_is_neutral creates kennelTokens.tail sign _).1 ⟨_, rfl, by decide⟩).mp created
  refine ⟨ended, ?_, ?_, by decide +kernel⟩
  · exact (last_semicolon_is_neutral creates kennelTokens.tail sign _).2 ended (by simp) _ rfl
  · exact ((last_semicolon_is_neutral selects kennelJoin.tail sign _).1 ⟨_, rfl, by decide⟩).mp joined

end Statement

end TableStore
