import TableStore.Proofs.RoundTrip

set_option autoImplicit false

/- Coercion takes one layer of quote marks away. A text with marks at its ends loses them the next time. -/
namespace TableStore

namespace Text

open Unicode

theorem dropped_head (drops : Char → Bool) (cs : List Char) : ∀ c ∈ (cs.dropWhile drops).head?, drops c = false := by
  intro c first
  have kept := List.head?_dropWhile_not drops cs
  rw [first] at kept
  exact kept

theorem strip_firm (drops : Char → Bool) (cs : List Char) : Firm drops (strip drops cs) := by
  constructor
  · -- It is a front of what the first pass leaves.
    obtain ⟨rest, whole⟩ := strip_front drops cs
    intro c first
    apply dropped_head drops cs
    obtain ⟨more, same⟩ := List.head?_eq_some_iff.mp first
    rw [← whole, same]
    rfl
  · intro c last
    rw [strip, List.getLast?_reverse] at last
    exact dropped_head drops _ c last

theorem trim_firm (text : String) : Firm isBlank (trim text).toList := by
  rw [trim, String.toList_ofList]
  exact strip_firm isBlank text.toList

end Text

namespace Value

def Trimmed (value : Value) : Prop := ∀ content, value = .text content → Text.Firm Unicode.isBlank content.toList

def Unmarked (value : Value) : Prop := ∀ content, value = .text content → Text.Firm Text.isQuoteMark content.toList

theorem coerced_trimmed {literal column : String} {type : ColumnType} {value : Value}
    (coerced : coerce literal type column = .ok value) : value.Trimmed := by
  intro content same
  have typed := coerce_type coerced
  subst same typed
  have same : Value.text (bare literal) = .text content := Except.ok.inj coerced
  rw [← Value.text.inj same]
  exact Text.trim_firm _

theorem Trimmed.kept_iff {value : Value} (trimmed : value.Trimmed) : value.kept = value ↔ value.Unmarked := by
  rw [kept_eq_iff]
  constructor
  · intro firm content same
    exact (firm content same).2
  · intro unmarked content same
    exact ⟨trimmed content same, unmarked content same⟩

theorem all_trimmed_kept_iff {values : List Value} (trimmed : ∀ value ∈ values, value.Trimmed) :
    values.map (·.kept) = values ↔ ∀ value ∈ values, value.Unmarked := by
  have each : values.map (·.kept) = values.map id ↔ ∀ value ∈ values, value.kept = id value := List.map_eq_map_iff
  rw [List.map_id] at each
  rw [each]
  constructor
  · intro same value listed
    exact (trimmed value listed).kept_iff.mp (same value listed)
  · intro unmarked value listed
    exact (trimmed value listed).kept_iff.mpr (unmarked value listed)

theorem coerced_again_iff {literal column : String} {type : ColumnType} {value : Value}
    (coerced : coerce literal type column = .ok value) :
    coerce value.shown type column = .ok value ↔ value.Unmarked := by
  rw [← coerce_type coerced, coerce_shown, Except.ok.injEq, (coerced_trimmed coerced).kept_iff]

end Value

namespace Row

theorem coerce_all_trimmed {columns : List Column} {literals : List String} {values : List Value}
    (coerced : coerceAll columns literals = .ok values) : ∀ value ∈ values, value.Trimmed := by
  induction columns generalizing literals values with
  | nil =>
    cases coerced
    simp
  | cons column rest ih =>
    cases literals with
    | nil =>
      cases coerced
      simp
    | cons literal others =>
      obtain ⟨value, found, same, atHead, behind⟩ := coerce_all_cons coerced
      subst same
      exact List.forall_mem_cons.mpr ⟨Value.coerced_trimmed atHead, ih behind⟩

end Row

namespace Table

theorem written_trimmed (keyIndex : Nat) {values : List Value} {cells : List (Nat × Value)}
    (trimmed : ∀ value ∈ values, value.Trimmed) (given : ∀ cell ∈ cells, cell.2.Trimmed) :
    ∀ value ∈ written keyIndex values cells, value.Trimmed := by
  induction cells generalizing values with
  | nil => exact trimmed
  | cons cell rest ih =>
    obtain ⟨atHead, behind⟩ := List.forall_mem_cons.mp given
    rw [written]
    split
    · exact ih trimmed behind
    · apply ih _ behind
      intro value listed
      obtain old | same := List.mem_or_eq_of_mem_set listed
      · exact trimmed value old
      · exact same ▸ atHead

def Trimmed (table : Table) : Prop := ∀ key row, table.row? key = some row → ∀ value ∈ row.values, value.Trimmed

theorem put_trimmed {table : Table} (trimmed : table.Trimmed) (id : Int64) {row : Row}
    (rowTrimmed : ∀ value ∈ row.values, value.Trimmed) : (table.put id row).Trimmed := by
  intro key other found
  rw [row_put] at found
  split at found
  · cases found
    exact rowTrimmed
  · exact trimmed key other found

theorem without_trimmed {table : Table} (trimmed : table.Trimmed) (id : Int64) : (table.without id).Trimmed := by
  intro key row found
  rw [row_without] at found
  split at found
  · cases found
  · exact trimmed key row found

end Table

namespace Database

variable {db after : Database}

theorem changes_trimmed {table : Table} {assignments : List Assignment} {cells : List (Nat × Value)}
    (resolved : changes table assignments = .ok cells) : ∀ cell ∈ cells, cell.2.Trimmed := by
  induction assignments generalizing cells with
  | nil =>
    cases resolved
    simp
  | cons assignment rest ih =>
    obtain ⟨index, column, _, _, ⟨_, behind⟩ | ⟨_, value, others, same, coerced, behind⟩⟩ := changes_cons resolved
    · exact ih behind
    · subst same
      exact List.forall_mem_cons.mpr ⟨Value.coerced_trimmed coerced, ih behind⟩

def Trimmed (db : Database) : Prop := ∀ name table, db.table? name = some table → table.Trimmed

theorem put_trimmed (trimmed : db.Trimmed) (name : String) {table : Table} (tableTrimmed : table.Trimmed) :
    (db.put name table).Trimmed := by
  intro query other found
  rw [table_put] at found
  split at found
  · cases found
    exact tableTrimmed
  · exact trimmed query other found

theorem Effect.trimmed (consistent : db.Consistent) {statement : Statement} {answer : Answer}
    (effect : Effect db statement answer after) (trimmed : db.Trimmed) : after.Trimmed := by
  cases effect with
  | created absent accepted =>
    apply put_trimmed trimmed
    intro key row found
    cases found
  | @dropped name table present =>
    intro query other found
    rw [table_without] at found
    split at found
    · cases found
    · exact trimmed query other found
  | @inserted name literals table row present bound =>
    have sound := (consistent.tables name table present).schema
    have coerced := ((Row.of_literals_faultless sound literals).ok bound).2.2
    exact put_trimmed trimmed name (Table.put_trimmed (trimmed name table present) _ (Row.coerce_all_trimmed coerced))
  | @updated name assignments key table row cells present stored resolved =>
    have before := trimmed name table present
    have written := Table.written_trimmed table.schema.keyIndex (before key row stored) (changes_trimmed resolved)
    exact put_trimmed trimmed name (Table.put_trimmed before key written)
  | @deleted name key table present =>
    exact put_trimmed trimmed name (Table.without_trimmed (trimmed name table present) key)
  | answered reads shown => exact trimmed

theorem reached_trimmed (events : List Event) : (reached events).Trimmed := by
  have kept : ∀ db statement, Consistent db ∧ Trimmed db →
      (db.execute statement).2.Consistent ∧ (db.execute statement).2.Trimmed := by
    rintro db statement ⟨consistent, trimmed⟩
    refine ⟨execute_consistent db statement consistent, ?_⟩
    cases done : db.execute statement with
    | mk result next =>
      cases result with
      | ok answer => exact (execute_ok consistent done).trimmed consistent trimmed
      | error error =>
        rw [(execute_error consistent done).1]
        exact trimmed
  have start : Trimmed empty := by
    intro name table found
    cases found
  exact (run_keeps kept empty events ⟨empty_consistent, start⟩).2

section
variable {name : String} {table : Table} {key : Int64} {row : Row}

theorem row_put_back_iff (present : db.table? name = some table) (stored : table.row? key = some row) (next : Row) :
    db.put name (table.put key next) = db ↔ next = row := by
  constructor
  · intro same
    have found : db.table? name = some (table.put key next) := by
      rw [← same, put_found]
    have unchanged := Option.some.inj (present.symm.trans found)
    rw [unchanged, Table.put_found] at stored
    exact Option.some.inj stored
  · rintro rfl
    rw [Table.put_present stored, put_present present]

theorem set_back_iff {values : List Value} {index : Nat} {value : Value} (held : values[index]? = some value)
    (next : Value) : values.set index next = values ↔ next = value := by
  obtain ⟨inside, found⟩ := List.getElem?_eq_some_iff.mp held
  constructor
  · intro same
    have cell := congrArg (·[index]?) same
    simp only [List.getElem?_set_self inside, held] at cell
    exact Option.some.inj cell
  · rintro rfl
    rw [← found, List.set_getElem_self]

theorem inserted_again (consistent : db.Consistent) (present : db.table? name = some table)
    (stored : table.row? key = some row) :
    db.execute (.insert name (row.values.map (·.shown))) =
      (.ok (.inserted name key true), db.put name (table.put key ⟨key, row.values.map (·.kept)⟩)) := by
  have tableConsistent := consistent.tables name table present
  have typed := (tableConsistent.rows key row stored).2.typed
  obtain ⟨id, atKey, bound⟩ := Row.of_literals_shown tableConsistent.schema typed
  rw [tableConsistent.key_cell stored] at atKey
  cases atKey
  rw [execute, on_table_present present, insert_into_bound tableConsistent.schema name bound,
    (table.contains_row_iff key).mpr ⟨row, stored⟩]

theorem assigned_again (consistent : db.Consistent) (present : db.table? name = some table)
    (stored : table.row? key = some row) {index : Nat} {column : Column} {value : Value}
    (listed : table.schema.columns[index]? = some column) (held : row.values[index]? = some value) :
    db.execute (.update name [⟨column.name, value.shown⟩] key) =
      (.ok (.updated name key),
        db.put name (table.put key { row with values := row.values.set index value.kept })) := by
  have tableConsistent := consistent.tables name table present
  have found : columnIndex table column.name = .ok index := by
    rw [columnIndex, tableConsistent.schema.column_index listed]
  have typed : value.columnType = column.type := by
    have types := congrArg (·[index]?) (tableConsistent.rows key row stored).2.typed
    simpa [listed, held] using types
  have coerced : Value.coerce value.shown column.type column.name = .ok value.kept := by
    rw [← typed]
    exact value.coerce_shown column.name
  rw [execute, on_table_present present]
  by_cases isKey : index = table.schema.keyIndex
  · -- The assignment is passed over, and the key is an integer.
    have resolved : changes table [⟨column.name, value.shown⟩] = .ok [] := by
      simp [changes, found, isKey, bind, Except.bind]
    rw [isKey, tableConsistent.key_cell stored] at held
    cases held
    rw [update_in_resolved tableConsistent name stored resolved, isKey, Value.kept_integer,
      (set_back_iff (tableConsistent.key_cell stored) _).mpr rfl, Table.written]
  · have resolved : changes table [⟨column.name, value.shown⟩] = .ok [(index, value.kept)] := by
      simp [changes, found, isKey, listed, coerced, bind, Except.bind, pure, Except.pure]
    rw [update_in_resolved tableConsistent name stored resolved, Table.written, if_neg isKey, Table.written]

end

theorem coerced_values_settle (events : List Event) {name : String} {table : Table}
    (present : (reached events).table? name = some table) {key : Int64} {row : Row} (stored : table.row? key = some row) :
    (∀ literal type column value, Value.coerce literal type column = .ok value →
      (Value.coerce value.shown type column = .ok value ↔ value.Unmarked)) ∧
    ((reached events).execute (.insert name (row.values.map (·.shown))) =
        (.ok (.inserted name key true), reached events) ↔ ∀ value ∈ row.values, value.Unmarked) ∧
    ∀ (index : Nat) (column : Column) (value : Value), table.schema.columns[index]? = some column →
      row.values[index]? = some value →
        ((reached events).execute (.update name [⟨column.name, value.shown⟩] key) =
          (.ok (.updated name key), reached events) ↔ value.Unmarked) := by
  have consistent := reached_consistent events
  have trimmed := reached_trimmed events name table present key row stored
  obtain ⟨underKey, _⟩ := (consistent.tables name table present).rows key row stored
  refine ⟨fun _ _ _ _ coerced => Value.coerced_again_iff coerced, ?_, ?_⟩
  · rw [inserted_again consistent present stored, Prod.mk.injEq, and_iff_right rfl, row_put_back_iff present stored,
      ← Value.all_trimmed_kept_iff trimmed]
    subst underKey
    cases row
    simp
  · intro index column value listed held
    rw [assigned_again consistent present stored listed held, Prod.mk.injEq, and_iff_right rfl,
      row_put_back_iff present stored, ← (trimmed value (List.mem_of_getElem? held)).kept_iff, ← set_back_iff held]
    cases row
    simp

theorem quoted_pet_settles :
    Value.coerce " \x22O'Hara\x22 " .text "name" = .ok (.text "O'Hara") ∧
      Value.coerce "O'Hara" .text "name" = .ok (.text "O'Hara") ∧
      (reached petEvents).execute (.insert "pets" ["Max", "7", "4"]) =
        (.ok (.inserted "pets" 7 true), reached petEvents) ∧
      (reached petEvents).execute (.update "pets" [⟨"name", "Max"⟩] 7) =
        (.ok (.updated "pets" 7), reached petEvents) := by
  have coerced : Value.coerce " \x22O'Hara\x22 " .text "name" = .ok (.text "O'Hara") := by decide +kernel
  have unmarked : (Value.text "O'Hara").Unmarked := by
    rintro content ⟨⟩
    exact (Text.trim_quote_marks_kept_iff _).mp (by decide +kernel)
  have present : (reached petEvents).table? "pets" = some petTable := by decide +kernel
  have stored : petTable.row? 7 = some ⟨7, [.text "Max", .integer 7, .integer 4]⟩ := by decide +kernel
  have name : (Value.text "Max").Unmarked := by
    rintro content ⟨⟩
    exact (Text.trim_quote_marks_kept_iff _).mp (by decide +kernel)
  have number : ∀ n, (Value.integer n).Unmarked := by
    rintro n content ⟨⟩
  obtain ⟨settles, inserted, assigned⟩ := coerced_values_settle petEvents present stored
  refine ⟨coerced, (settles _ _ _ _ coerced).mpr unmarked, inserted.mpr ?_, ?_⟩
  · exact List.forall_mem_cons.mpr ⟨name, List.forall_mem_cons.mpr ⟨number 7, List.forall_mem_singleton.mpr (number 4)⟩⟩
  · exact (assigned 0 _ _ rfl rfl).mpr name

-- A blank between two layers of marks keeps the inner one from being taken away with the outer one.
theorem inner_marks_come_off_later :
    ¬ ∀ literal type column value, Value.coerce literal type column = .ok value →
      Value.coerce value.shown type column = .ok value := by
  intro settles
  have first : Value.coerce "' 'Rex' '" .text "name" = .ok (.text "'Rex'") := by decide +kernel
  have second : Value.coerce "'Rex'" .text "name" = .ok (.text "Rex") := by decide +kernel
  have same := (settles _ _ _ _ first).symm.trans second
  simp at same

end Database

end TableStore
