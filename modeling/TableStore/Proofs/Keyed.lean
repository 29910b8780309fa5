import TableStore.Proofs.Grammar

set_option autoImplicit false

namespace TableStore

namespace Grammar

inductive Assigned : TokenStream → Assignment → Prop
  | mk {name equal : SpacedToken} {phrase : TokenStream} {column value : String} (named : IsName column name)
      (sign : IsSign .equal equal) (literal : Literal phrase value) : Assigned (name :: equal :: phrase) ⟨column, value⟩

inductive Condition : TokenStream → String → String → Prop
  | mk {word name equal : SpacedToken} {phrase : TokenStream} {column written : String}
      (filters : IsKeyword .whereClause word) (named : IsName column name) (sign : IsSign .equal equal)
      (literal : Literal phrase written) : Condition (word :: name :: equal :: phrase) column written

-- UPDATE name SET column = value, … and DELETE FROM name, each with a condition. The statement that the tokens stand for
-- depends on the key that is read from the condition.
inductive KeyedForm : Command → TokenStream → (Int64 → Statement) → String → String → Prop
  | update {verb word set : SpacedToken} {list condition : TokenStream} {table column written : String}
      {assignments : List Assignment} (leads : IsKeyword (.command .update) verb) (named : IsName table word)
      (sets : IsKeyword .setClause set) (listed : Listed Assigned list assignments)
      (filtered : Condition condition column written) :
      KeyedForm .update (verb :: word :: set :: (list ++ condition)) (.update table assignments) column written
  | delete {verb source word : SpacedToken} {condition : TokenStream} {table column written : String}
      (leads : IsKeyword (.command .delete) verb) (sources : IsKeyword .fromClause source) (named : IsName table word)
      (filtered : Condition condition column written) :
      KeyedForm .delete (verb :: source :: word :: condition) (.delete table) column written

inductive Keyed : Command → TokenStream → (Int64 → Statement) → String → String → Prop
  | mk {verb : Command} {phrase ending : TokenStream} {build : Int64 → Statement} {column written : String}
      (form : KeyedForm verb phrase build column written) (ended : Ending ending) :
      Keyed verb (phrase ++ ending) build column written

structure Key (column written : String) (key : Int64) : Prop where
  named : Text.sameIgnoringCase column "id" = true
  read : Decimal.read (Text.trim (Text.trimQuoteMarks written)) = some key

end Grammar

def conditionKey (column written : String) : Except StoreError Int64 :=
  if Text.sameIgnoringCase column "id" = true then
    (Decimal.read (Text.trim (Text.trimQuoteMarks written))).elim
      (.error (.typeCoercion "id" (Text.trim (Text.trimQuoteMarks written)))) .ok
  else .error (.unsupportedPredicate column)

section
variable {column written : String}

theorem condition_key_other (other : Text.sameIgnoringCase column "id" = false) (written : String) :
    conditionKey column written = .error (.unsupportedPredicate column) := by
  rw [conditionKey, if_neg (by simp [other])]

theorem condition_key_unread (named : Text.sameIgnoringCase column "id" = true)
    (unread : Decimal.read (Text.trim (Text.trimQuoteMarks written)) = none) :
    conditionKey column written = .error (.typeCoercion "id" (Text.trim (Text.trimQuoteMarks written))) := by
  rw [conditionKey, if_pos named, unread]
  rfl

theorem condition_key_read {key : Int64} (named : Text.sameIgnoringCase column "id" = true)
    (read : Decimal.read (Text.trim (Text.trimQuoteMarks written)) = some key) : conditionKey column written = .ok key := by
  rw [conditionKey, if_pos named, read]
  rfl

theorem condition_key_iff (key : Int64) : conditionKey column written = .ok key ↔ Grammar.Key column written key := by
  constructor
  · intro given
    cases named : Text.sameIgnoringCase column "id" with
    | false =>
      rw [condition_key_other named] at given
      cases given
    | true =>
      cases read : Decimal.read (Text.trim (Text.trimQuoteMarks written)) with
      | none =>
        rw [condition_key_unread named read] at given
        cases given
      | some found =>
        rw [condition_key_read named read] at given
        cases given
        exact ⟨named, read⟩
  · rintro ⟨named, read⟩
    exact condition_key_read named read

end

namespace Parser

open Grammar

theorem ending_delimited {ending : TokenStream} (ended : Ending ending) : Delimited ending := by
  cases ended with
  | absent => exact fun _ _ absent => nomatch absent
  | semicolon sign => exact before_sign sign rfl []

theorem assignment_reads : Reads Parser.assignment Assigned Delimited := by
  have reads := (name_reads .column).bind fun column => (sign_reads .equal).bind fun _ =>
    literal_reads.map (Assignment.mk column)
  apply reads.of_iff
  intro phrase assigned
  constructor
  · rintro ⟨name, column, _, rfl, named, equal, _, _, rfl, sign, value, literal, rfl⟩
    exact .mk named sign literal
  · rintro ⟨named, sign, literal⟩
    exact ⟨_, _, _, rfl, named, _, (), _, rfl, sign, _, literal, rfl⟩

theorem assignments_read :
    Reads (commaSeparated Parser.assignment assignment_shortens) (Listed Assigned)
      fun rest => Delimited rest ∧ Before endsList rest :=
  comma_separated_reads assignment_shortens assignment_reads fun _ rest sign => before_sign sign rfl rest

theorem key_filter_condition {phrase : TokenStream} {column written : String} (condition : Condition phrase column written)
    {rest : TokenStream} (stopped : Delimited rest) :
    keyFilter (phrase ++ rest) = (conditionKey column written).map fun key => (key, rest) := by
  cases condition with
  | @mk word name equal phrase column written filters named sign literal =>
    rw [List.cons_append, List.cons_append, List.cons_append, keyFilter, (keyword_reads _).bind_cons () filters,
      (name_reads _).bind_cons _ named]
    cases key : Text.sameIgnoringCase column "id" with
    | false =>
      rw [condition_key_other key, if_pos (by simp)]
      rfl
    | true =>
      rw [if_neg (by simp)]
      beta_reduce
      rw [(sign_reads _).bind_cons () sign, literal_reads.bind_append literal stopped]
      cases read : Decimal.read (Text.trim (Text.trimQuoteMarks written)) with
      | none =>
        rw [condition_key_unread key read]
        rfl
      | some found =>
        rw [condition_key_read key read]
        rfl

theorem key_filter_found {tokens rest : TokenStream} {key : Int64} (read : keyFilter tokens = .ok (key, rest))
    (stopped : Delimited rest) : ∃ phrase column written, tokens = phrase ++ rest ∧ Condition phrase column written := by
  obtain ⟨_, afterWord, filtered, going⟩ := bind_ok read
  obtain ⟨word, rfl, filters⟩ := (keyword_reads _ _ _ _).mp filtered
  obtain ⟨column, afterName, found, keyed⟩ := bind_ok going
  obtain ⟨name, rfl, named⟩ := (name_reads _ _ _ _).mp found
  split at keyed
  · cases keyed
  · obtain ⟨_, afterSign, signed, valued⟩ := bind_ok keyed
    obtain ⟨equal, rfl, sign⟩ := (sign_reads _ _ _ _).mp signed
    obtain ⟨written, behind, taken, given⟩ := bind_ok valued
    obtain rfl : behind = rest := by
      cases number : Decimal.read (Text.trim (Text.trimQuoteMarks written)) with
      | none =>
        simp only [number] at given
        cases given
      | some key =>
        simp only [number] at given
        cases given
        rfl
    obtain ⟨phrase, rfl, literal⟩ := (literal_reads _ _ _ stopped).mp taken
    exact ⟨word :: name :: equal :: phrase, column, written, rfl, .mk filters named sign literal⟩

theorem key_filter_reads :
    Reads keyFilter (fun phrase key => ∃ column written, Condition phrase column written ∧ Key column written key)
      Delimited := by
  intro tokens key rest stopped
  constructor
  · intro read
    obtain ⟨phrase, column, written, rfl, condition⟩ := key_filter_found read stopped
    rw [key_filter_condition condition stopped] at read
    cases found : conditionKey column written with
    | error error =>
      rw [found] at read
      cases read
    | ok number =>
      rw [found] at read
      cases read
      exact ⟨phrase, rfl, column, written, condition, (condition_key_iff key).mp found⟩
  · rintro ⟨phrase, rfl, column, written, condition, right⟩
    rw [key_filter_condition condition stopped, (condition_key_iff key).mpr right]
    rfl

theorem condition_starts {phrase : TokenStream} {column written : String} (condition : Condition phrase column written)
    (rest : TokenStream) : startsWith (·.isKeyword Keyword.whereClause.text) (phrase ++ rest) = true := by
  cases condition with
  | mk filters => exact filters

theorem required_filter_condition (missing : SyntaxError) {phrase : TokenStream} {column written : String}
    (condition : Condition phrase column written) {rest : TokenStream} (stopped : Delimited rest) :
    requiredFilter missing (phrase ++ rest) = (conditionKey column written).map fun key => (key, rest) := by
  rw [← key_filter_condition condition stopped]
  exact if_pos (condition_starts condition rest)

theorem required_filter_reads (missing : SyntaxError) :
    Reads (requiredFilter missing)
      (fun phrase key => ∃ column written, Condition phrase column written ∧ Key column written key) Delimited := by
  intro tokens key rest stopped
  rw [← key_filter_reads tokens key rest stopped, requiredFilter]
  by_cases filters : startsWith (·.isKeyword Keyword.whereClause.text) tokens = true
  · rw [if_pos filters]
  · rw [if_neg filters]
    constructor
    · intro read
      cases read
    · intro read
      obtain ⟨phrase, rfl, column, written, condition, _⟩ := (key_filter_reads tokens key rest stopped).mp read
      exact absurd (condition_starts condition rest) filters

theorem condition_stops {phrase : TokenStream} {column written : String} (condition : Condition phrase column written)
    (rest : TokenStream) : Delimited (phrase ++ rest) ∧ Before endsList (phrase ++ rest) := by
  cases condition with
  | @mk word name equal phrase column written filters =>
    constructor
    · rintro next others ⟨⟩
      exact (ends_literal_iff _).mpr (.filter filters)
    · rintro next others ⟨⟩
      obtain ⟨text, shown, _⟩ := keyword_word filters
      rw [shown]
      rfl

theorem update_reads :
    Reads update (fun phrase statement => ∃ build column written key,
      KeyedForm .update phrase build column written ∧ Key column written key ∧ statement = build key) Delimited := by
  have filtered := fun table assignments =>
    (required_filter_reads .missingUpdateFilter).map (Statement.update table assignments)
  have listed := fun table => assignments_read.bind (filtered table) (by
    rintro assignments condition statement rest ⟨key, ⟨column, written, inCondition, -⟩, -⟩ -
    exact condition_stops inCondition rest)
  have reads := (keyword_reads (.command .update)).bind fun _ => (name_reads .table).bind fun table =>
    (keyword_reads .setClause).bind fun _ => listed table
  apply reads.of_iff
  intro phrase statement
  constructor
  · rintro ⟨verb, _, _, rfl, leads, word, table, _, rfl, named, set, _, _, rfl, sets, list, assignments, condition, rfl,
      inList, key, ⟨column, written, inCondition, right⟩, rfl⟩
    exact ⟨_, column, written, key, .update leads named sets inList inCondition, right, rfl⟩
  · rintro ⟨build, column, written, key, form, right, rfl⟩
    cases form with
    | @update verb word set list condition table _ _ assignments leads named sets inList inCondition =>
      exact ⟨verb, (), _, rfl, leads, word, table, _, rfl, named, set, (), _, rfl, sets, list, assignments, condition, rfl,
        inList, key, ⟨column, written, inCondition, right⟩, rfl⟩

theorem delete_reads :
    Reads delete (fun phrase statement => ∃ build column written key,
      KeyedForm .delete phrase build column written ∧ Key column written key ∧ statement = build key) Delimited := by
  have reads := (keyword_reads (.command .delete)).bind fun _ => (keyword_reads .fromClause).bind fun _ =>
    (name_reads .table).bind fun table => (required_filter_reads .missingDeleteFilter).map (Statement.delete table)
  apply reads.of_iff
  intro phrase statement
  constructor
  · rintro ⟨verb, _, _, rfl, leads, source, _, _, rfl, sources, word, table, condition, rfl, named, key,
      ⟨column, written, inCondition, right⟩, rfl⟩
    exact ⟨_, column, written, key, .delete leads sources named inCondition, right, rfl⟩
  · rintro ⟨build, column, written, key, form, right, rfl⟩
    cases form with
    | @delete verb source word condition table _ _ leads sources named inCondition =>
      exact ⟨verb, (), _, rfl, leads, source, (), _, rfl, sources, word, table, condition, rfl, named, key,
        ⟨column, written, inCondition, right⟩, rfl⟩

theorem form_keyed_reads {verb : Command} (writes : verb = .update ∨ verb = .delete) (joins : Bool) :
    Reads (form verb joins) (fun phrase statement => ∃ build column written key,
      KeyedForm verb phrase build column written ∧ Key column written key ∧ statement = build key) Delimited := by
  rcases writes with rfl | rfl
  · exact update_reads
  · exact delete_reads

theorem form_keyed {verb : Command} {phrase : TokenStream} {build : Int64 → Statement} {column written : String}
    (keyed : KeyedForm verb phrase build column written) (joins : Bool) {rest : TokenStream} (stopped : Delimited rest) :
    form verb joins (phrase ++ rest) = (conditionKey column written).map fun key => (build key, rest) := by
  cases keyed with
  | @update verb word set list condition table column written assignments leads named sets listed filtered =>
    rw [List.cons_append, List.cons_append, List.cons_append, List.append_assoc, form, update,
      (keyword_reads _).bind_cons () leads, (name_reads _).bind_cons _ named, (keyword_reads _).bind_cons () sets,
      assignments_read.bind_append listed (condition_stops filtered rest)]
    change (requiredFilter _ _).bind _ = _
    rw [required_filter_condition _ filtered stopped]
    cases conditionKey column written with
    | error error => rfl
    | ok key => rfl
  | @delete verb source word condition table column written leads sources named filtered =>
    rw [List.cons_append, List.cons_append, List.cons_append, form, delete,
      (keyword_reads _).bind_cons () leads, (keyword_reads _).bind_cons () sources, (name_reads _).bind_cons _ named]
    change (requiredFilter _ _).bind _ = _
    rw [required_filter_condition _ filtered stopped]
    cases conditionKey column written with
    | error error => rfl
    | ok key => rfl

end Parser

namespace Statement

open Grammar

theorem keyed_led {verb : Command} {tokens : TokenStream} {build : Int64 → Statement} {column written : String}
    (keyed : Keyed verb tokens build column written) :
    ∃ first rest, tokens = first :: rest ∧ IsKeyword (.command verb) first := by
  obtain ⟨form, ended⟩ := keyed
  cases form with
  | update leads => exact ⟨_, _, rfl, leads⟩
  | delete leads => exact ⟨_, _, rfl, leads⟩

theorem of_tokens_keyed {verb : Command} {tokens : TokenStream} {build : Int64 → Statement} {column written : String}
    (keyed : Keyed verb tokens build column written) :
    ofTokens tokens = (conditionKey column written).map build := by
  obtain ⟨first, rest, whole, leads⟩ := keyed_led keyed
  obtain ⟨form, ended⟩ := keyed
  rw [whole, of_tokens_led leads, ← whole]
  change ((Parser.form verb _ _).bind _).map _ = _
  rw [Parser.form_keyed form _ (Parser.ending_delimited ended)]
  cases conditionKey column written with
  | error error => rfl
  | ok key =>
    change ((Parser.ending _).bind _).map _ = _
    rw [(Parser.ending_iff _ []).mpr ⟨ended, rfl⟩]
    rfl

theorem of_tokens_keyed_iff {verb : Command} (writes : verb = .update ∨ verb = .delete) {first : SpacedToken}
    (leads : IsKeyword (.command verb) first) (rest : TokenStream) (statement : Statement) :
    ofTokens (first :: rest) = .ok statement ↔
      ∃ build column written key, Keyed verb (first :: rest) build column written ∧ Key column written key ∧
        statement = build key := by
  rw [of_tokens_led leads, Parser.whole_ok_iff verb _ (Parser.form_keyed_reads writes _) fun _ => Parser.ending_delimited]
  constructor
  · rintro ⟨phrase, ending, whole, ⟨build, column, written, key, form, right, rfl⟩, ended⟩
    exact ⟨build, column, written, key, whole ▸ .mk form ended, right, rfl⟩
  · rintro ⟨build, column, written, key, keyed, right, rfl⟩
    generalize whole : first :: rest = tokens at keyed
    cases keyed with
    | @mk phrase ending _ _ _ form ended =>
      exact ⟨phrase, ending, rfl, ⟨build, column, written, key, form, right, rfl⟩, ended⟩

theorem update_builds {tokens : TokenStream} {build : Int64 → Statement} {column written : String}
    (keyed : Keyed .update tokens build column written) : ∃ table assignments, build = .update table assignments := by
  obtain ⟨form, ended⟩ := keyed
  cases form
  exact ⟨_, _, rfl⟩

theorem delete_builds {tokens : TokenStream} {build : Int64 → Statement} {column written : String}
    (keyed : Keyed .delete tokens build column written) : ∃ table, build = .delete table := by
  obtain ⟨form, ended⟩ := keyed
  cases form
  exact ⟨_, rfl⟩

theorem update_keyed {tokens : TokenStream} {table : String} {assignments : List Assignment} {key : Int64}
    (read : ofTokens tokens = .ok (.update table assignments key)) :
    ∃ column written, Keyed .update tokens (.update table assignments) column written ∧ Key column written key := by
  obtain ⟨first, rest, rfl, leads⟩ := of_tokens_ok_led read rfl
  obtain ⟨build, column, written, found, keyed, right, same⟩ := (of_tokens_keyed_iff (.inl rfl) leads rest _).mp read
  obtain ⟨name, others, rfl⟩ := update_builds keyed
  cases same
  exact ⟨column, written, keyed, right⟩

theorem delete_keyed {tokens : TokenStream} {table : String} {key : Int64}
    (read : ofTokens tokens = .ok (.delete table key)) :
    ∃ column written, Keyed .delete tokens (.delete table) column written ∧ Key column written key := by
  obtain ⟨first, rest, rfl, leads⟩ := of_tokens_ok_led read rfl
  obtain ⟨build, column, written, found, keyed, right, same⟩ := (of_tokens_keyed_iff (.inr rfl) leads rest _).mp read
  obtain ⟨name, rfl⟩ := delete_builds keyed
  cases same
  exact ⟨column, written, keyed, right⟩

theorem keyed_grammar (tokens : TokenStream) :
    (∀ verb first rest, verb = .update ∨ verb = .delete → tokens = first :: rest → IsKeyword (.command verb) first →
      ∀ statement, ofTokens tokens = .ok statement ↔
        ∃ build column written key, Keyed verb tokens build column written ∧ Key column written key ∧
          statement = build key) ∧
    (∀ verb build column written, Keyed verb tokens build column written →
      (Text.sameIgnoringCase column "id" = false → ofTokens tokens = .error (.unsupportedPredicate column)) ∧
      (Text.sameIgnoringCase column "id" = true → Decimal.read (Text.trim (Text.trimQuoteMarks written)) = none →
        ofTokens tokens = .error (.typeCoercion "id" (Text.trim (Text.trimQuoteMarks written))))) ∧
    (∀ table assignments key, ofTokens tokens = .ok (.update table assignments key) →
      ∃ column written, Keyed .update tokens (.update table assignments) column written ∧ Key column written key) ∧
    (∀ table key, ofTokens tokens = .ok (.delete table key) →
      ∃ column written, Keyed .delete tokens (.delete table) column written ∧ Key column written key) := by
  refine ⟨?_, ?_, fun _ _ _ => update_keyed, fun _ _ => delete_keyed⟩
  · rintro verb first rest writes rfl leads statement
    exact of_tokens_keyed_iff writes leads rest statement
  · intro verb build column written keyed
    constructor
    · intro other
      rw [of_tokens_keyed keyed, condition_key_other other]
      rfl
    · intro named unread
      rw [of_tokens_keyed keyed, condition_key_unread named unread]
      rfl

-- update pets set name = 'Rex', age = 3 WHERE column = 'written';
def petUpdate (column written : String) : TokenStream :=
  [⟨"", .word "update" none⟩, ⟨" ", .word "pets" none⟩, ⟨" ", .word "set" none⟩, ⟨" ", .word "name" none⟩,
    ⟨" ", .symbol .equal⟩, ⟨" ", .literal .single "Rex"⟩, ⟨"", .symbol .comma⟩, ⟨" ", .word "age" none⟩,
    ⟨" ", .symbol .equal⟩, ⟨" ", .number "3" false⟩, ⟨" ", .word "WHERE" none⟩, ⟨" ", .word column none⟩,
    ⟨" ", .symbol .equal⟩, ⟨" ", .literal .single written⟩, ⟨"", .symbol .semicolon⟩]

theorem pet_update_keyed (column written : String) :
    Keyed .update (petUpdate column written) (.update "pets" [⟨"name", "Rex"⟩, ⟨"age", "3"⟩]) column written := by
  have number : Literal [⟨" ", .number "3" false⟩] "3" := by
    refine .unquoted (by rintro _ ⟨⟩) ?_
    simp only [← Parser.ends_literal_iff]
    decide
  have equal : IsSign .equal ⟨" ", .symbol .equal⟩ := by decide
  have comma : IsSign .comma ⟨"", .symbol .comma⟩ := by decide
  have name : Assigned [⟨" ", .word "name" none⟩, ⟨" ", .symbol .equal⟩, ⟨" ", .literal .single "Rex"⟩] ⟨"name", "Rex"⟩ :=
    .mk ⟨none, rfl⟩ equal (.quoted (.single "Rex"))
  have age : Assigned [⟨" ", .word "age" none⟩, ⟨" ", .symbol .equal⟩, ⟨" ", .number "3" false⟩] ⟨"age", "3"⟩ :=
    .mk ⟨none, rfl⟩ equal number
  have condition : Condition [⟨" ", .word "WHERE" none⟩, ⟨" ", .word column none⟩, ⟨" ", .symbol .equal⟩,
      ⟨" ", .literal .single written⟩] column written :=
    .mk (by decide) ⟨none, rfl⟩ equal (.quoted (.single written))
  have list := Parser.listed_more name comma (Parser.listed_last age)
  exact .mk (.update (by decide) ⟨none, rfl⟩ (by decide) list condition) (.semicolon (by decide))

theorem pets_are_updated_by_id_only :
    ofTokens (petUpdate "Id" "'7 '") = .ok (.update "pets" [⟨"name", "Rex"⟩, ⟨"age", "3"⟩] 7) ∧
      ofTokens (petUpdate "tag" "7") = .error (.unsupportedPredicate "tag") ∧
      ofTokens (petUpdate "id" "seven") = .error (.typeCoercion "id" "seven") := by
  have leads : IsKeyword (.command .update) ⟨"", .word "update" none⟩ := by decide
  have right : Key "Id" "'7 '" 7 := ⟨by decide, by decide +kernel⟩
  refine ⟨?_, ?_, ?_⟩
  · exact ((keyed_grammar _).1 .update _ _ (.inl rfl) rfl leads _).mpr ⟨_, _, _, _, pet_update_keyed _ _, right, rfl⟩
  · exact ((keyed_grammar _).2.1 _ _ _ _ (pet_update_keyed "tag" "7")).1 (by decide)
  · exact ((keyed_grammar _).2.1 _ _ _ _ (pet_update_keyed "id" "seven")).2 (by decide) (by decide +kernel)

end Statement

end TableStore
