import TableStore.Proofs.Assignment
import TableStore.Proofs.Numeral

set_option autoImplicit false

namespace TableStore

section
variable (numeral : Decimal.Numeral)

theorem numeral_unread_iff : Unread .integer numeral.text ↔ numeral.Beyond := by
  rw [Unread, numeral.bare_text]
  constructor
  · intro ⟨_, failed⟩
    rw [numeral.beyond_iff]
    intro n exact
    rw [numeral.read_text exact] at failed
    cases failed
  · exact fun beyond => ⟨rfl, numeral.read_beyond beyond⟩

theorem numeral_coerced {n : Int64} (exact : numeral.value = n.toInt) (column : String) :
    Value.coerce numeral.text .integer column = .ok (.integer n) := by
  rw [coerce_integer_iff, numeral.bare_text]
  exact numeral.read_text exact

end

section
variable {α : Type} {holds : α → Prop} {items : List α} {item : α}

theorem first_of_mem (listed : item ∈ items) (found : holds item) : ∃ first, First holds items first := by
  induction items with
  | nil => cases listed
  | cons head rest ih =>
    by_cases here : holds head
    · exact ⟨head, .here here⟩
    · obtain rfl | behind := List.mem_cons.mp listed
      · exact absurd found here
      · obtain ⟨first, later⟩ := ih behind
        exact ⟨first, .later here later⟩

theorem First.only {place : Nat} (held : items[place]? = some item)
    (others : ∀ (j : Nat) other, j ≠ place → items[j]? = some other → ¬ holds other) {found : α}
    (first : First holds items found) : found = item := by
  obtain ⟨listed, bad⟩ := first.found
  obtain ⟨j, atJ⟩ := List.mem_iff_getElem?.mp listed
  by_cases here : j = place
  · rw [here, held] at atJ
    exact (Option.some.inj atJ).symm
  · exact absurd bad (others j found here atJ)

end

namespace Row

def ReadBut (place : Nat) (columns : List Column) (literals : List String) : Prop :=
  ∀ (j : Nat) column literal, j ≠ place → columns[j]? = some column → literals[j]? = some literal →
    ¬ Unread column.type literal

variable {schema : Schema} {literals : List String} {place : Nat} {column : Column} {literal : String}

theorem of_literals_but_one (sound : schema.Sound) (same : literals.length = schema.width)
    (others : ReadBut place schema.columns literals) (listed : schema.columns[place]? = some column)
    (held : literals[place]? = some literal) :
    (∀ value, Value.coerce literal column.type column.name = .ok value →
      ∃ row, ofLiterals schema literals = .ok row ∧ row.values[place]? = some value) ∧
    (Unread column.type literal →
      ofLiterals schema literals = .error (.typeCoercion column.name (Value.bare literal))) := by
  cases bound : ofLiterals schema literals with
  | ok row =>
    obtain ⟨value, at', coerced⟩ := coerce_all_at ((of_literals_faultless sound literals).ok bound).2.2 listed held
    constructor
    · intro found read
      rw [read] at coerced
      cases coerced
      exact ⟨row, rfl, at'⟩
    · intro unread
      rw [coerce_unread unread] at coerced
      cases coerced
  | error error =>
    obtain ⟨fewer, _⟩ | ⟨more, _⟩ | ⟨_, cell, first, rfl⟩ := (of_literals_error_iff sound literals error).mp bound
    · omega
    · omega
    · have paired : (schema.columns.zip literals)[place]? = some (column, literal) :=
        List.getElem?_zip_eq_some.mpr ⟨listed, held⟩
      have only : cell = (column, literal) := by
        refine first.only paired ?_
        intro j other apart found
        obtain ⟨declared, given⟩ := List.getElem?_zip_eq_some.mp found
        exact others j other.1 other.2 apart declared given
      subst only
      have unread : Unread column.type literal := first.found.2
      constructor
      · intro value read
        rw [coerce_unread unread] at read
        cases read
      · exact fun _ => rfl

end Row

namespace Database

open Grammar

theorem insertion_literal {tokens ending : TokenStream} {table : String} {literals : List TokenStream}
    {values : List String} (insertion : Insertion tokens table literals values ending) {place : Nat}
    {phrase : TokenStream} (listed : literals[place]? = some phrase) :
    ∃ value, values[place]? = some value ∧ Literal phrase value := by
  cases insertion with
  | mk _ _ _ _ _ closes _ =>
    cases closes with
    | empty => cases listed
    | filled _ read _ =>
      have inside : place < values.length := by
        rw [← read.length_eq]
        exact (List.getElem?_eq_some_iff.mp listed).1
      have held := List.getElem?_eq_getElem inside
      exact ⟨values[place], held, Statement.related_at read listed held⟩

theorem updates_literal {tokens phrase : TokenStream} {table : String} {parts : List TokenStream}
    {assignments : List Assignment} (updates : Updates tokens table parts assignments) {place : Nat}
    {word equal : SpacedToken} (listed : parts[place]? = some (word :: equal :: phrase)) {column value : String}
    (held : assignments[place]? = some ⟨column, value⟩) : Literal phrase value := by
  cases updates with
  | mk _ _ _ _ read _ _ =>
    have assigned := Statement.related_at read listed held
    cases assigned with
    | mk _ _ literal => exact literal

theorem changes_elsewhere {table : Table} {index : Nat} {column : Column}
    (listed : table.schema.columns[index]? = some column) {assignments : List Assignment} {cells : List (Nat × Value)}
    (resolved : changes table assignments = .ok cells) (other : ∀ later ∈ assignments, later.column ≠ column.name) :
    Table.lastTo index cells = none := by
  induction assignments generalizing cells with
  | nil =>
    cases resolved
    rfl
  | cons head rest ih =>
    obtain ⟨apart, behind⟩ := List.forall_mem_cons.mp other
    obtain ⟨place, declared, found, named, ⟨_, left⟩ | ⟨_, value, others, rfl, _, left⟩⟩ := changes_cons resolved
    · exact ih left behind
    · have elsewhere : place ≠ index := by
        rintro rfl
        rw [listed] at found
        cases found
        exact apart named.symm
      rw [Table.lastTo, ih left behind, if_neg elsewhere]
      rfl

theorem changes_last {table : Table} (sound : table.schema.Sound) {index : Nat} {column : Column}
    (listed : table.schema.columns[index]? = some column) (other : index ≠ table.schema.keyIndex)
    {assignments : List Assignment} {cells : List (Nat × Value)} (resolved : changes table assignments = .ok cells)
    {i : Nat} {literal : String} {value : Value} (held : assignments[i]? = some ⟨column.name, literal⟩)
    (last : ∀ j later, i < j → assignments[j]? = some later → later.column ≠ column.name)
    (read : Value.coerce literal column.type column.name = .ok value) : Table.lastTo index cells = some value := by
  induction assignments generalizing cells i with
  | nil => cases held
  | cons head rest ih =>
    obtain ⟨place, declared, found, named, step⟩ := changes_cons resolved
    cases i with
    | zero =>
      cases held
      obtain rfl := sound.same_index found listed named
      rw [listed] at found
      cases found
      obtain ⟨isKey, _⟩ | ⟨_, given, others, rfl, coerced, left⟩ := step
      · exact absurd isKey other
      · have behind : ∀ later ∈ rest, later.column ≠ column.name := by
          intro later listed
          obtain ⟨j, found⟩ := List.mem_iff_getElem?.mp listed
          exact last (j + 1) later (Nat.succ_pos j) found
        rw [read] at coerced
        cases coerced
        rw [Table.lastTo, changes_elsewhere listed left behind, if_pos rfl]
        rfl
    | succ i =>
      have later : ∀ j later, i < j → rest[j]? = some later → later.column ≠ column.name :=
        fun j later before found => last (j + 1) later (Nat.succ_lt_succ before) found
      obtain ⟨_, left⟩ | ⟨_, given, others, rfl, _, left⟩ := step
      · exact ih left held later
      · rw [Table.lastTo, ih left held later]
        rfl

def AssignableBut (place : Nat) (schema : Schema) (assignments : List Assignment) : Prop :=
  ∀ (j : Nat) assignment, j ≠ place → assignments[j]? = some assignment → ¬ Unassignable schema assignment

theorem changes_but_one {table : Table} (sound : table.schema.Sound) {index : Nat} {column : Column}
    (listed : table.schema.columns[index]? = some column) (other : index ≠ table.schema.keyIndex)
    {assignments : List Assignment} {place : Nat} {literal : String}
    (held : assignments[place]? = some ⟨column.name, literal⟩)
    (others : AssignableBut place table.schema assignments) :
    (¬ Unread column.type literal → ∃ cells, changes table assignments = .ok cells) ∧
    (Unread column.type literal →
      changes table assignments = .error (.typeCoercion column.name (Value.bare literal))) := by
  have unassignable : Unassignable table.schema ⟨column.name, literal⟩ ↔ _ := unassignable_iff sound listed rfl
  constructor
  · intro readable
    cases resolved : changes table assignments with
    | ok cells => exact ⟨cells, rfl⟩
    | error error =>
      obtain ⟨assignment, first, _⟩ := (changes_error_iff sound assignments error).mp resolved
      obtain rfl := first.only held others
      exact absurd (unassignable.mp first.found.2).2 readable
  · intro unread
    obtain ⟨assignment, first⟩ := first_of_mem (List.mem_of_getElem? held) (unassignable.mpr ⟨other, unread⟩)
    rw [(changes_error_iff sound assignments _).mpr ⟨assignment, first, rfl⟩, first.only held others, blame,
      if_pos (declared_of_listed listed)]

section
variable {db : Database} (consistent : db.Consistent) {name : String} {table : Table}
  (present : db.table? name = some table) {numeral : Decimal.Numeral} {place : Nat} {column : Column}
include consistent present

theorem insert_numeral {values : List String} (same : values.length = table.schema.width)
    (others : Row.ReadBut place table.schema.columns values) (listed : table.schema.columns[place]? = some column)
    (integers : column.type = .integer) (held : values[place]? = some numeral.text) :
    (∀ n : Int64, numeral.value = n.toInt → ∃ row, row.values[place]? = some (.integer n) ∧
      db.execute (.insert name values) =
        (.ok (.inserted name row.id (table.rows.contains row.id)), db.put name (table.put row.id row))) ∧
    (numeral.Beyond →
      db.execute (.insert name values) = (.error (.typeCoercion column.name numeral.text), db)) := by
  have sound := (consistent.tables name table present).schema
  obtain ⟨read, unread⟩ := Row.of_literals_but_one sound same others listed held
  rw [integers] at read unread
  rw [execute, on_table_present present]
  constructor
  · intro n exact
    obtain ⟨row, bound, cell⟩ := read _ (numeral_coerced numeral exact column.name)
    exact ⟨row, cell, by rw [insert_into_bound sound name bound]⟩
  · intro beyond
    have failed := unread ((numeral_unread_iff numeral).mpr beyond)
    rw [numeral.bare_text] at failed
    rw [insert_into_unbound name failed, put_present present]

theorem update_numeral {assignments : List Assignment} {key : Int64} {row : Row} {index : Nat}
    (stored : table.row? key = some row) (others : AssignableBut place table.schema assignments)
    (listed : table.schema.columns[index]? = some column) (integers : column.type = .integer)
    (notKey : column.name ≠ keyName) (held : assignments[place]? = some ⟨column.name, numeral.text⟩) :
    (∀ n : Int64, numeral.value = n.toInt → ∃ next,
      db.execute (.update name assignments key) = (.ok (.updated name key), db.put name (table.put key next)) ∧
        ((∀ j later, place < j → assignments[j]? = some later → later.column ≠ column.name) →
          next.values[index]? = some (.integer n))) ∧
    (numeral.Beyond →
      db.execute (.update name assignments key) = (.error (.typeCoercion column.name numeral.text), db)) := by
  have tableConsistent := consistent.tables name table present
  have sound := tableConsistent.schema
  have other : index ≠ table.schema.keyIndex := by
    rintro rfl
    rw [sound.key] at listed
    cases listed
    exact notKey rfl
  obtain ⟨read, unread⟩ := changes_but_one sound listed other held others
  rw [integers] at read unread
  rw [execute, on_table_present present]
  constructor
  · intro n exact
    have readable : ¬ Unread .integer numeral.text := by
      rw [numeral_unread_iff, numeral.beyond_iff]
      exact fun apart => apart n exact
    obtain ⟨cells, resolved⟩ := read readable
    refine ⟨_, by rw [update_in_resolved tableConsistent name stored resolved], ?_⟩
    intro last
    have coerced : Value.coerce numeral.text column.type column.name = .ok (.integer n) := by
      rw [integers]
      exact numeral_coerced numeral exact column.name
    have inside : index < row.values.length := by
      rw [(tableConsistent.rows key row stored).2.width]
      exact (List.getElem?_eq_some_iff.mp listed).1
    rw [Table.written_at, List.getElem?_eq_getElem inside, Option.map_some, if_neg other,
      changes_last sound listed other resolved held last coerced]
    rfl
  · intro beyond
    have failed := unread ((numeral_unread_iff numeral).mpr beyond)
    rw [numeral.bare_text] at failed
    rw [updateIn, stored, failed]
    exact Prod.ext rfl (put_present present)

end

theorem pointed_numeral {db : Database} {sql : String} {tokens : TokenStream} (lexed : Statement.Lexed sql tokens)
    {build : Int64 → Statement} {column : String} {numeral : Decimal.Numeral}
    (pointed : Pointed tokens build column numeral.text) (named : Text.sameIgnoringCase column keyName = true) :
    (∀ n : Int64, numeral.value = n.toInt → db.executeText sql = db.execute (build n)) ∧
    (numeral.Beyond → db.executeText sql = (.error (.typeCoercion keyName numeral.text), db)) := by
  have parsed := lexed.parse.trans (Statement.of_tokens_pointed pointed)
  have bare : Text.trim (Text.trimQuoteMarks numeral.text) = numeral.text := by
    rw [numeral.marks_kept, numeral.blanks_kept]
  constructor
  · intro n exact
    rw [condition_key_read named (by rw [bare, numeral.read_text exact])] at parsed
    exact execute_text_read parsed
  · intro beyond
    rw [condition_key_unread named (by rw [bare, numeral.read_beyond beyond]), bare] at parsed
    exact execute_text_unread parsed

theorem numerals_are_exact (events : List Event) {name : String} {table : Table}
    (present : (reached events).table? name = some table) (numeral : Decimal.Numeral) :
    (∀ sql verb before found rest, Command.named? (Statement.leadingName (Text.trim sql)) = some verb →
      lexemes (Text.trim sql).toList = .ok (before ++ found) → written found = numeral.text.toList ++ rest → Ends rest →
        ∃ front gap back, Bears sql front (numeral.tokens gap) back numeral ∧
          Literal (numeral.tokens gap) numeral.text) ∧
    (∀ sql front phrase back literals values ending (place : Nat) column, Bears sql front phrase back numeral →
      Insertion (front ++ phrase ++ back) name literals values ending → literals[place]? = some phrase →
      table.schema.columns[place]? = some column → column.type = .integer → values.length = table.schema.width →
      Row.ReadBut place table.schema.columns values →
        (∀ n : Int64, numeral.value = n.toInt → ∃ row, row.values[place]? = some (.integer n) ∧
          (reached events).executeText sql = (.ok (.inserted name row.id (table.rows.contains row.id)),
            (reached events).put name (table.put row.id row))) ∧
        (numeral.Beyond → (reached events).executeText sql =
          (.error (.typeCoercion column.name numeral.text), reached events))) ∧
    (∀ sql front word equal phrase back parts assignments key row value (place index : Nat) column,
      Bears sql (front ++ [word, equal]) phrase back numeral →
      Updates (front ++ [word, equal] ++ phrase ++ back) name parts assignments →
      Statement.ofTokens (front ++ [word, equal] ++ phrase ++ back) = .ok (.update name assignments key) →
      parts[place]? = some (word :: equal :: phrase) → assignments[place]? = some ⟨column.name, value⟩ →
      table.row? key = some row → table.schema.columns[index]? = some column → column.type = .integer →
      column.name ≠ keyName → AssignableBut place table.schema assignments →
        (∀ n : Int64, numeral.value = n.toInt → ∃ next,
          (reached events).executeText sql =
            (.ok (.updated name key), (reached events).put name (table.put key next)) ∧
          ((∀ j later, place < j → assignments[j]? = some later → later.column ≠ column.name) →
            next.values[index]? = some (.integer n))) ∧
        (numeral.Beyond → (reached events).executeText sql =
          (.error (.typeCoercion column.name numeral.text), reached events))) ∧
    (∀ sql front word key equal phrase back build column value,
      Bears sql (front ++ [word, key, equal]) phrase back numeral →
      Pointed (front ++ [word, key, equal] ++ phrase ++ back) build column value →
      Condition (word :: key :: equal :: phrase) column value → Text.sameIgnoringCase column keyName = true →
        (∀ n : Int64, numeral.value = n.toInt →
          (reached events).executeText sql = (reached events).execute (build n)) ∧
        (numeral.Beyond → (reached events).executeText sql =
          (.error (.typeCoercion keyName numeral.text), reached events))) ∧
    (∀ n : Int64, ∃ shown : Decimal.Numeral, shown.value = n.toInt ∧ (Value.integer n).shown = shown.text ∧
      Json.value (.integer n) = shown.text ∧ Decimal.read shown.text = some n) := by
  have consistent := reached_consistent events
  refine ⟨?_, ?_, ?_, ?_, ?_⟩
  · intro sql verb before found rest named read stands ends
    obtain ⟨front, gap, back, bears⟩ := bears_of_text named read stands ends
    exact ⟨front, gap, back, bears, numeral.tokens_literal gap⟩
  · intro sql front phrase back literals values ending place column bears insertion written listed integers same others
    have parsed := bears.lexed.parse.trans (Statement.of_tokens_insertion insertion)
    rw [execute_text_read parsed]
    obtain ⟨value, held, literal⟩ := insertion_literal insertion written
    obtain rfl := bears.value literal
    exact insert_numeral consistent present same others listed integers held
  · intro sql front word equal phrase back parts assignments key row value place index column bears updates read written
      held stored listed integers notKey others
    rw [execute_text_read (bears.lexed.parse.trans read)]
    obtain rfl := bears.value (updates_literal updates written held)
    exact update_numeral consistent present stored others listed integers notKey held
  · intro sql front word key equal phrase back build column value bears pointed condition named
    cases condition with
    | mk _ _ _ literal =>
      obtain rfl := bears.value literal
      exact pointed_numeral bears.lexed pointed named
  · intro n
    obtain ⟨shown, text, exact⟩ := Decimal.Numeral.integer_written n
    exact ⟨shown, exact, text.symm, text.symm, shown.read_text exact⟩

def least : Decimal.Numeral := ⟨.minus, "9223372036854775808", by decide, by decide⟩

def belowLeast : Decimal.Numeral := ⟨.minus, "9223372036854775809", by decide, by decide⟩

-- One more than the greatest, behind a sign and zeros.
def aboveGreatest : Decimal.Numeral := ⟨.plus, "009223372036854775808", by decide, by decide⟩

-- INSERT INTO pets VALUES ('Rex', … , 4)
def rexFront : TokenStream :=
  [⟨"", .word "INSERT" none⟩, ⟨" ", .word "INTO" none⟩, ⟨" ", .word "pets" none⟩, ⟨" ", .word "VALUES" none⟩,
    ⟨" ", .symbol .leftParen⟩, ⟨"", .literal .single "Rex"⟩, ⟨"", .symbol .comma⟩]

def rexBack : TokenStream := [⟨"", .symbol .comma⟩, ⟨" ", .number "4" false⟩, ⟨"", .symbol .rightParen⟩]

theorem rex_insertion : Insertion (rexFront ++ least.tokens " " ++ rexBack) "pets"
    [[⟨"", .literal .single "Rex"⟩], least.tokens " ", [⟨" ", .number "4" false⟩]]
    ["Rex", "-9223372036854775808", "4"] [] := by
  have age : Literal [⟨" ", .number "4" false⟩] "4" :=
    Decimal.Numeral.tokens_literal ⟨.absent, "4", by decide, by decide⟩ " "
  have comma : IsSign .comma ⟨"", .symbol .comma⟩ := by decide
  have close : IsSign .rightParen ⟨"", .symbol .rightParen⟩ := by decide
  have closes := Closed.filled (.more [⟨"", .literal .single "Rex"⟩] comma (.more (least.tokens " ") comma (.last _)))
    (.cons (.quoted (.single "Rex")) (.cons (least.tokens_literal " ") (.cons age .nil))) close
  exact .mk (by decide) (by decide) ⟨none, rfl⟩ (by decide) (by decide) closes .absent

def rexLexemes : List Lexeme :=
  [.word "INSERT", .space, .word "INTO", .space, .word "pets", .space, .word "VALUES", .space, .sign .leftParen,
    .text "Rex", .sign .comma, .space]

theorem rex_bears :
    Bears "INSERT INTO pets VALUES ('Rex', -9223372036854775808, 4)" rexFront (least.tokens " ") rexBack least := by
  have named : Command.named? (Statement.leadingName (Text.trim
      "INSERT INTO pets VALUES ('Rex', -9223372036854775808, 4)")) = some .insert := by
    decide +kernel
  exact bears_of_parts named rexLexemes [.sign .comma, .space, .digits "4", .sign .rightParen] (by decide +kernel)
    (by decide +kernel) (by decide +kernel)

def agingFront : TokenStream := [⟨"", .word "UPDATE" none⟩, ⟨" ", .word "pets" none⟩, ⟨" ", .word "SET" none⟩]

def agingBack : TokenStream :=
  [⟨" ", .word "WHERE" none⟩, ⟨" ", .word "id" none⟩, ⟨" ", .symbol .equal⟩, ⟨" ", .number "7" false⟩]

def agingTokens : TokenStream :=
  agingFront ++ [⟨" ", .word "age" none⟩, ⟨" ", .symbol .equal⟩] ++ aboveGreatest.tokens " " ++ agingBack

theorem aging_updates : Updates agingTokens "pets"
    [⟨" ", .word "age" none⟩ :: ⟨" ", .symbol .equal⟩ :: aboveGreatest.tokens " "]
    [⟨"age", "+009223372036854775808"⟩] := by
  have seven : Literal [⟨" ", .number "7" false⟩] "7" :=
    Decimal.Numeral.tokens_literal ⟨.absent, "7", by decide, by decide⟩ " "
  have condition : Condition agingBack "id" "7" := .mk (by decide) ⟨none, rfl⟩ (by decide) seven
  have assigned : Assigned (⟨" ", .word "age" none⟩ :: ⟨" ", .symbol .equal⟩ :: aboveGreatest.tokens " ")
      ⟨"age", "+009223372036854775808"⟩ :=
    .mk ⟨none, rfl⟩ (by decide) (aboveGreatest.tokens_literal " ")
  have updates : Updates (⟨"", .word "UPDATE" none⟩ :: ⟨" ", .word "pets" none⟩ :: ⟨" ", .word "SET" none⟩ ::
      (⟨" ", .word "age" none⟩ :: ⟨" ", .symbol .equal⟩ :: aboveGreatest.tokens " " ++ agingBack ++ [])) "pets" _ _ :=
    .mk (by decide) ⟨none, rfl⟩ (by decide) (.last _) (.cons assigned .nil) condition .absent
  exact updates

theorem aging_bears :
    Bears "UPDATE pets SET age = +009223372036854775808 WHERE id = 7"
      (agingFront ++ [⟨" ", .word "age" none⟩, ⟨" ", .symbol .equal⟩]) (aboveGreatest.tokens " ") agingBack
      aboveGreatest := by
  have named : Command.named? (Statement.leadingName (Text.trim
      "UPDATE pets SET age = +009223372036854775808 WHERE id = 7")) = some .update := by
    decide +kernel
  exact bears_of_parts named
    [.word "UPDATE", .space, .word "pets", .space, .word "SET", .space, .word "age", .space, .sign .equal, .space]
    [.space, .word "WHERE", .space, .word "id", .space, .sign .equal, .space, .digits "7"] (by decide +kernel)
    (by decide +kernel) (by decide +kernel)

def leavingFront : TokenStream := [⟨"", .word "DELETE" none⟩, ⟨" ", .word "FROM" none⟩, ⟨" ", .word "pets" none⟩]

def leavingKey : TokenStream := [⟨" ", .word "WHERE" none⟩, ⟨" ", .word "id" none⟩, ⟨" ", .symbol .equal⟩]

theorem leaving_condition :
    Condition (⟨" ", .word "WHERE" none⟩ :: ⟨" ", .word "id" none⟩ :: ⟨" ", .symbol .equal⟩ :: belowLeast.tokens " ")
      "id" "-9223372036854775809" :=
  .mk (by decide) ⟨none, rfl⟩ (by decide) (belowLeast.tokens_literal " ")

theorem leaving_pointed :
    Pointed (leavingFront ++ leavingKey ++ belowLeast.tokens " " ++ []) (.delete "pets") "id" "-9223372036854775809" :=
  .keyed (.mk (.delete (by decide) (by decide) ⟨none, rfl⟩ leaving_condition) .absent)

theorem leaving_bears :
    Bears "DELETE FROM pets WHERE id = -9223372036854775809" (leavingFront ++ leavingKey) (belowLeast.tokens " ") []
      belowLeast := by
  have named : Command.named? (Statement.leadingName (Text.trim
      "DELETE FROM pets WHERE id = -9223372036854775809")) = some .delete := by
    decide +kernel
  exact bears_of_parts named
    [.word "DELETE", .space, .word "FROM", .space, .word "pets", .space, .word "WHERE", .space, .word "id", .space,
      .sign .equal, .space]
    [] (by decide +kernel) (by decide +kernel) (by decide +kernel)

theorem pet_numerals_are_exact :
    (∃ row : Row, row.values[1]? = some (.integer (-9223372036854775808)) ∧
      (reached petEvents).executeText "INSERT INTO pets VALUES ('Rex', -9223372036854775808, 4)" =
        (.ok (.inserted "pets" row.id (petTable.rows.contains row.id)),
          (reached petEvents).put "pets" (petTable.put row.id row))) ∧
      (reached petEvents).executeText "UPDATE pets SET age = +009223372036854775808 WHERE id = 7" =
        (.error (.typeCoercion "age" "+009223372036854775808"), reached petEvents) ∧
      (reached petEvents).executeText "DELETE FROM pets WHERE id = -9223372036854775809" =
        (.error (.typeCoercion "id" "-9223372036854775809"), reached petEvents) := by
  have present : (reached petEvents).table? "pets" = some petTable := by decide +kernel
  have stored : petTable.row? 7 = some ⟨7, [.text "Max", .integer 7, .integer 4]⟩ := by decide +kernel
  refine ⟨?_, ?_, ?_⟩
  · have others : Row.ReadBut 1 petTable.schema.columns ["Rex", "-9223372036854775808", "4"] := by
      intro j column literal other listed held unread
      obtain ⟨integers, failed⟩ := unread
      match j with
      | 0 =>
        cases listed
        cases integers
      | 1 => exact other rfl
      | 2 =>
        cases held
        revert failed
        decide +kernel
      | j + 3 => cases listed
    exact ((numerals_are_exact petEvents present least).2.1 _ _ _ _ _ _ _ 1 _ rex_bears rex_insertion rfl rfl rfl rfl
      others).1 (-9223372036854775808) (by decide)
  · have others : AssignableBut 0 petTable.schema [⟨"age", "+009223372036854775808"⟩] := by
      intro j assignment other given
      cases j with
      | zero => exact absurd rfl other
      | succ j => cases given
    exact ((numerals_are_exact petEvents present aboveGreatest).2.2.1 _ _ _ _ _ _ _ _ 7 _ _ 0 2 _ aging_bears
      aging_updates (by decide +kernel) rfl rfl stored rfl rfl (by decide) others).2 (by decide)
  · exact ((numerals_are_exact petEvents present belowLeast).2.2.2.1 _ _ _ _ _ _ _ _ _ _ leaving_bears
      leaving_pointed leaving_condition (by decide)).2 (by decide)

end Database

end TableStore
