import TableStore.Proofs.Recognition
import TableStore.Proofs.RoundTrip
import TableStore.Proofs.Selection

set_option autoImplicit false

namespace TableStore

namespace Grammar

-- The statement that the tokens stand for depends on the key that is read from their condition.
inductive Pointed : TokenStream → (Int64 → Statement) → String → String → Prop
  | select {tokens filter : TokenStream} {shown : Projection} {table column written : String}
      (silent : Without .join tokens) (selection : Selection tokens shown table filter)
      (filtered : Condition filter column written) :
      Pointed tokens (fun key => .select table shown (some key)) column written
  | keyed {verb : Command} {tokens : TokenStream} {build : Int64 → Statement} {column written : String}
      (keyed : Keyed verb tokens build column written) : Pointed tokens build column written

end Grammar

namespace Parser

open Grammar

theorem optional_filter_condition {phrase : TokenStream} {column written : String}
    (condition : Condition phrase column written) {rest : TokenStream} (stopped : Delimited rest) :
    optionalFilter (phrase ++ rest) = (conditionKey column written).map fun key => (some key, rest) := by
  rw [optionalFilter, if_pos (condition_starts condition rest)]
  change (keyFilter (phrase ++ rest)).map (fun pair => (some pair.1, pair.2)) = _
  rw [key_filter_condition condition stopped]
  cases conditionKey column written with
  | error error => rfl
  | ok key => rfl

theorem select_filtered {verb source word : SpacedToken} {list filter : TokenStream} {shown : Projection}
    {table column written : String} (leads : IsKeyword (.command .select) verb) (shows : Shown list shown)
    (sources : IsKeyword .fromClause source) (named : IsName table word) (filtered : Condition filter column written)
    {rest : TokenStream} (stopped : Delimited rest) :
    select (verb :: (list ++ source :: word :: (filter ++ rest))) =
      (conditionKey column written).map fun key => (.select table shown (some key), rest) := by
  rw [select, (keyword_reads _).bind_cons () leads, projection_reads.bind_append shows (keyword_no_comma sources _),
    (keyword_reads _).bind_cons () sources, (name_reads _).bind_cons _ named]
  change (optionalFilter _).bind _ = _
  rw [optional_filter_condition filtered stopped]
  cases conditionKey column written with
  | error error => rfl
  | ok key => rfl

end Parser

namespace Statement

open Grammar

theorem of_tokens_pointed {tokens : TokenStream} {build : Int64 → Statement} {column written : String}
    (pointed : Pointed tokens build column written) : ofTokens tokens = (conditionKey column written).map build := by
  cases pointed with
  | keyed keyed => exact of_tokens_keyed keyed
  | @select _ filter shown table _ _ silent selection filtered =>
    cases selection with
    | @mk verb source word list _ ending _ _ leads shows sources named ended =>
      rw [of_tokens_led leads, without_join silent]
      change ((Parser.select _).bind _).map _ = _
      rw [Parser.select_filtered leads shows sources named filtered (Parser.ending_delimited ended)]
      cases conditionKey column written with
      | error error => rfl
      | ok key =>
        change ((Parser.ending _).bind _).map _ = _
        rw [(Parser.ending_iff _ []).mpr ⟨ended, rfl⟩]
        rfl

structure Lexed (sql : String) (tokens : TokenStream) : Prop where
  recognised : ∃ verb, Command.named? (leadingName (Text.trim sql)) = some verb
  read : tokenize (Text.trim sql) = .ok tokens

theorem Lexed.parse {sql : String} {tokens : TokenStream} (lexed : Lexed sql tokens) :
    Statement.parse sql = ofTokens tokens := by
  obtain ⟨verb, named⟩ := lexed.recognised
  exact parse_tokens named lexed.read

end Statement

namespace Database

open Grammar

variable {db after : Database}

theorem answered_lexed {sql : String} {tokens : TokenStream} (read : tokenize (Text.trim sql) = .ok tokens)
    {answer : Answer} (answered : db.executeText sql = (.ok answer, after)) (known : ∀ word, answer ≠ .unknown word) :
    Statement.Lexed sql tokens := by
  cases named : Command.named? (Statement.leadingName (Text.trim sql)) with
  | some verb => exact ⟨⟨verb, named⟩, read⟩
  | none =>
    rw [execute_text_read (Statement.parse_unrecognised named)] at answered
    cases answered
    exact absurd rfl (known _)

theorem answered_statement {sql : String} {tokens : TokenStream} (read : tokenize (Text.trim sql) = .ok tokens)
    {answer : Answer} (answered : db.executeText sql = (.ok answer, after)) (known : ∀ word, answer ≠ .unknown word) :
    ∃ statement, Statement.ofTokens tokens = .ok statement ∧ db.execute statement = (.ok answer, after) := by
  have parsed := (answered_lexed read answered known).parse
  cases found : Statement.ofTokens tokens with
  | error error =>
    rw [execute_text_unread (parsed.trans found)] at answered
    cases answered
  | ok statement =>
    rw [execute_text_read (parsed.trans found)] at answered
    exact ⟨statement, rfl, answered⟩

theorem answered_pointed {sql : String} {tokens : TokenStream} (read : tokenize (Text.trim sql) = .ok tokens)
    {build : Int64 → Statement} {column written : String} (pointed : Pointed tokens build column written)
    {answer : Answer} (answered : db.executeText sql = (.ok answer, after)) (known : ∀ word, answer ≠ .unknown word) :
    ∃ key, Key column written key ∧ db.execute (build key) = (.ok answer, after) := by
  obtain ⟨statement, found, executed⟩ := answered_statement read answered known
  rw [Statement.of_tokens_pointed pointed] at found
  cases asked : conditionKey column written with
  | error error =>
    rw [asked] at found
    cases found
  | ok key =>
    rw [asked] at found
    cases found
    exact ⟨key, (condition_key_iff key).mp asked, executed⟩

section
variable {name : String} {table : Table} {key : Int64}

theorem select_key (consistent : db.Consistent) (present : db.table? name = some table) {set : RowSet}
    (shown : db.execute (.select name .all (some key)) = (.ok (.rows set), after)) {values : List Value}
    (listed : values ∈ set.rows) : ∃ row, table.row? key = some row ∧ values = row.values := by
  have answered : db.select name .all (some key) = .ok (.rows set) := congrArg Prod.fst shown
  cases stored : table.row? key with
  | none =>
    rw [select_missing present stored] at answered
    cases answered
    cases listed
  | some row =>
    have width := ((consistent.tables name table present).rows key row stored).2.width
    rw [select_row present stored width] at answered
    cases answered
    exact ⟨row, rfl, List.mem_singleton.mp listed⟩

theorem update_key (consistent : db.Consistent) (present : db.table? name = some table) {assignments : List Assignment}
    {answer : Answer} (done : db.execute (.update name assignments key) = (.ok answer, after)) :
    answer = .updated name key ∧
      ∃ row next, table.row? key = some row ∧ after = db.put name (table.put key next) := by
  cases execute_ok consistent done with
  | updated found stored resolved =>
    cases present.symm.trans found
    exact ⟨rfl, _, _, stored, rfl⟩
  | answered reads shown => cases reads

theorem delete_key (consistent : db.Consistent) (present : db.table? name = some table)
    {answer : Answer} (done : db.execute (.delete name key) = (.ok answer, after)) :
    answer = .deleted name key (table.rows.contains key) ∧ after = db.put name (table.without key) := by
  cases execute_ok consistent done with
  | deleted found =>
    cases present.symm.trans found
    exact ⟨rfl, rfl⟩
  | answered reads shown => cases reads

end

end Database

structure Meets (schema : Schema) (column : String) (number : Int64) (values : List Value) : Prop where
  key : values[schema.keyIndex]? = some (.integer number)
  named : column = keyName → ∀ index, schema.columnIndex? column = some index →
    values[index]? = some (.integer number)

theorem stored_meets {table : Table} (consistent : table.Consistent) {key : Int64} {row : Row}
    (stored : table.row? key = some row) (column : String) : Meets table.schema column key row.values := by
  have atKey := consistent.key_cell stored
  refine ⟨atKey, ?_⟩
  intro isKey index found
  obtain ⟨declared, listed, named⟩ := Schema.column_index_some found
  rw [consistent.schema.key_only listed (named.trans isKey)]
  exact atKey

namespace Database

open Grammar

theorem conditions_filter_keys (events : List Event) {name : String} {table : Table}
    (present : (reached events).table? name = some table) {sql : String} {tokens : TokenStream}
    (read : tokenize (Text.trim sql) = .ok tokens) {column written : String} {number : Int64}
    (reads : Decimal.read (Text.trim (Text.trimQuoteMarks written)) = some number) {after : Database} :
    (∀ filter set, Without .join tokens → Selection tokens .all name filter → Condition filter column written →
      (reached events).executeText sql = (.ok (.rows set), after) →
        Text.sameIgnoringCase column keyName = true ∧
          ∀ values ∈ set.rows, Meets table.schema column number values) ∧
    (∀ assignments key, Keyed .update tokens (.update name assignments) column written →
      (reached events).executeText sql = (.ok (.updated name key), after) →
        Text.sameIgnoringCase column keyName = true ∧ key = number ∧
          ∃ row next, table.row? number = some row ∧ Meets table.schema column number row.values ∧
            after = (reached events).put name (table.put number next)) ∧
    (∀ key removed, Keyed .delete tokens (.delete name) column written →
      (reached events).executeText sql = (.ok (.deleted name key removed), after) →
        Text.sameIgnoringCase column keyName = true ∧ key = number ∧
          after = (reached events).put name (table.without number) ∧
            ∀ row, table.row? number = some row → Meets table.schema column number row.values) := by
  have consistent := reached_consistent events
  have tableConsistent := consistent.tables name table present
  have only : ∀ key, Key column written key → key = number := by
    intro key right
    exact Option.some.inj (right.read.symm.trans reads)
  refine ⟨?_, ?_, ?_⟩
  · intro filter set silent selection filtered shown
    obtain ⟨key, right, executed⟩ := answered_pointed read (.select silent selection filtered) shown (by simp)
    obtain rfl := only key right
    refine ⟨right.named, ?_⟩
    intro values listed
    obtain ⟨row, stored, same⟩ := select_key consistent present executed listed
    rw [same]
    exact stored_meets tableConsistent stored column
  · intro assignments key keyed done
    obtain ⟨asked, right, executed⟩ := answered_pointed read (.keyed keyed) done (by simp)
    obtain rfl := only asked right
    obtain ⟨given, row, next, stored, changed⟩ := update_key consistent present executed
    cases given
    exact ⟨right.named, rfl, row, next, stored, stored_meets tableConsistent stored column, changed⟩
  · intro key removed keyed done
    obtain ⟨asked, right, executed⟩ := answered_pointed read (.keyed keyed) done (by simp)
    obtain rfl := only asked right
    obtain ⟨given, changed⟩ := delete_key consistent present executed
    cases given
    exact ⟨right.named, rfl, changed, fun row stored => stored_meets tableConsistent stored column⟩

def namedFilter (column number : String) : TokenStream :=
  [⟨" ", .word "WHERE" none⟩, ⟨" ", .word column (some .double)⟩, ⟨" ", .symbol .equal⟩, ⟨" ", .number number false⟩]

theorem named_filter_condition (column number : String) : Condition (namedFilter column number) column number := by
  have literal : Literal [⟨" ", .number number false⟩] (writtenText [⟨" ", .number number false⟩]) := by
    refine .unquoted (by rintro _ ⟨⟩) ?_
    intro spaced listed
    rw [List.mem_singleton.mp listed]
    rintro ⟨⟩
    contradiction
  have written : writtenText [⟨" ", .number number false⟩] = number := by simp [writtenText, spacedText, Token.text]
  rw [written] at literal
  exact .mk (by decide) ⟨some .double, rfl⟩ (by decide) literal

def wholeRows (table : String) : TokenStream :=
  [⟨"", .word "SELECT" none⟩, ⟨" ", .symbol .star⟩, ⟨" ", .word "FROM" none⟩, ⟨" ", .word table none⟩]

theorem whole_rows_selection (table : String) (filter : TokenStream) :
    Selection (wholeRows table ++ filter) .all table filter := by
  have selection : Selection (⟨"", .word "SELECT" none⟩ :: ([⟨" ", .symbol .star⟩] ++ ⟨" ", .word "FROM" none⟩ ::
      ⟨" ", .word table none⟩ :: (filter ++ []))) .all table filter :=
    .mk (by decide) (.all (by decide)) (by decide) ⟨none, rfl⟩ .absent
  rwa [List.append_nil] at selection

theorem pets_are_filtered_by_id :
    ((reached petEvents).executeText "SELECT * FROM pets WHERE \x22Id\x22 = 7").1 =
        .ok (.rows ⟨["name", "id", "age"], [[.text "Max", .integer 7, .integer 4]]⟩) ∧
      Meets petTable.schema "Id" 7 [.text "Max", .integer 7, .integer 4] := by
  have present : (reached petEvents).table? "pets" = some petTable := by decide +kernel
  have read : tokenize (Text.trim "SELECT * FROM pets WHERE \x22Id\x22 = 7") =
      .ok (wholeRows "pets" ++ namedFilter "Id" "7") := by
    decide +kernel
  have reads : Decimal.read (Text.trim (Text.trimQuoteMarks "7")) = some 7 := by decide +kernel
  have shown : ((reached petEvents).executeText "SELECT * FROM pets WHERE \x22Id\x22 = 7").1 =
      .ok (.rows ⟨["name", "id", "age"], [[.text "Max", .integer 7, .integer 4]]⟩) := by
    decide +kernel
  have filters := (conditions_filter_keys petEvents present read reads).1 _ _ (by decide) (whole_rows_selection "pets" _)
    (named_filter_condition "Id" "7") (Prod.ext shown rfl)
  exact ⟨shown, filters.2 _ (List.mem_singleton_self _)⟩

-- A column whose name is the key's but for the case of its letters.
def tagEvents : List Event :=
  [.statement (.createTable "tags" [⟨"id", "int"⟩, ⟨"ID", "text"⟩]), .statement (.insert "tags" ["5", "x"])]

def tagTable : Table := (Table.empty "tags" ⟨[⟨"id", .integer⟩, ⟨"ID", .text⟩], 0⟩).put 5 ⟨5, [.integer 5, .text "x"]⟩

theorem tags_are_filtered_by_another_column :
    ¬ ∀ (events : List Event) (name : String) (table : Table) (column written : String) (index : Nat) (number : Int64)
        (sql : String) (tokens filter : TokenStream) (set : RowSet),
      (reached events).table? name = some table → table.schema.columnIndex? column = some index →
      tokenize (Text.trim sql) = .ok tokens → Without .join tokens → Selection tokens .all name filter →
      Condition filter column written → Decimal.read (Text.trim (Text.trimQuoteMarks written)) = some number →
      ((reached events).executeText sql).1 = .ok (.rows set) →
        ∀ values ∈ set.rows, values[index]? = some (.integer number) := by
  intro filters
  have present : (reached tagEvents).table? "tags" = some tagTable := by decide +kernel
  have read : tokenize (Text.trim "SELECT * FROM tags WHERE \x22ID\x22 = 5") =
      .ok (wholeRows "tags" ++ namedFilter "ID" "5") := by
    decide +kernel
  have shown : ((reached tagEvents).executeText "SELECT * FROM tags WHERE \x22ID\x22 = 5").1 =
      .ok (.rows ⟨["id", "ID"], [[.integer 5, .text "x"]]⟩) := by
    decide +kernel
  have held := filters tagEvents "tags" tagTable "ID" "5" 1 5 _ _ _ _ present (by decide) read (by decide)
    (whole_rows_selection "tags" _) (named_filter_condition "ID" "5") (by decide +kernel) shown _
    (List.mem_singleton_self _)
  cases held

end Database

end TableStore
