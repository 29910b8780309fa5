import TableStore.Table
import TableStore.Proofs.Map
import TableStore.Proofs.Row

set_option autoImplicit false

namespace TableStore.Table

structure Consistent (table : Table) : Prop where
  schema : table.schema.Sound
  rows : ∀ id row, table.row? id = some row → row.id = id ∧ row.Fits table.schema

theorem Consistent.key_cell {table : Table} (consistent : table.Consistent) {key : Int64} {row : Row}
    (stored : table.row? key = some row) : row.values[table.schema.keyIndex]? = some (.integer key) := by
  obtain ⟨underKey, fits⟩ := consistent.rows key row stored
  rw [fits.key, underKey]

def written (keyIndex : Nat) (values : List Value) : List (Nat × Value) → List Value
  | [] => values
  | (index, value) :: rest =>
    if index = keyIndex then written keyIndex values rest else written keyIndex (values.set index value) rest

def without (table : Table) (id : Int64) : Table := { table with rows := table.rows.erase id }

@[simp] theorem put_schema (table : Table) (id : Int64) (row : Row) : (table.put id row).schema = table.schema := rfl

theorem row_put (table : Table) (id query : Int64) (row : Row) :
    (table.put id row).row? query = if query = id then some row else table.row? query :=
  OrdMap.get_insert table.rows id row query

theorem put_found (table : Table) (id : Int64) (row : Row) : (table.put id row).row? id = some row := by
  rw [row_put, if_pos rfl]

theorem row_without (table : Table) (id query : Int64) :
    (table.without id).row? query = if query = id then none else table.row? query :=
  OrdMap.get_erase table.rows id query

theorem without_found (table : Table) (id : Int64) : (table.without id).row? id = none := by
  rw [row_without, if_pos rfl]

theorem put_present {table : Table} {id : Int64} {row : Row} (found : table.row? id = some row) :
    table.put id row = table := by
  rw [put, OrdMap.insert_present found]

theorem put_put (table : Table) (id : Int64) (first second : Row) :
    (table.put id first).put id second = table.put id second := by
  simp only [put, OrdMap.insert_insert]

theorem row_count_put (table : Table) (id : Int64) (row : Row) :
    (table.put id row).rowCount + (table.rows.contains id).toNat = table.rowCount + 1 :=
  OrdMap.size_insert table.rows id row

theorem row_count_without (table : Table) (id : Int64) :
    (table.without id).rowCount + (table.rows.contains id).toNat = table.rowCount := OrdMap.size_erase table.rows id

theorem all_rows_put {table : Table} {id : Int64} (absent : table.row? id = none) (row : Row) :
    (table.put id row).allRows.Perm (row :: table.allRows) := OrdMap.values_insert absent row

theorem contains_row_iff (table : Table) (id : Int64) :
    table.rows.contains id = true ↔ ∃ row, table.row? id = some row := Option.isSome_iff_exists

theorem row_count_replaced {table : Table} {id : Int64} {row : Row} (found : table.row? id = some row) (next : Row) :
    (table.put id next).rowCount = table.rowCount := by
  have counted := table.row_count_put id next
  rw [(table.contains_row_iff id).mpr ⟨row, found⟩] at counted
  exact Nat.succ.inj counted

theorem row_of_mem_all {table : Table} {row : Row} (listed : row ∈ table.allRows) :
    ∃ id, table.row? id = some row := OrdMap.get_of_mem_values listed

theorem empty_consistent {schema : Schema} (sound : schema.Sound) (name : String) : (empty name schema).Consistent := by
  refine ⟨sound, ?_⟩
  intro id row found
  cases found

variable {table : Table}

theorem put_consistent (consistent : table.Consistent) {row : Row} (fits : row.Fits table.schema) :
    (table.put row.id row).Consistent := by
  refine ⟨consistent.schema, ?_⟩
  intro id other found
  rw [row_put] at found
  split at found
  · rename_i same
    cases found
    exact ⟨same.symm, fits⟩
  · exact consistent.rows id other found

theorem without_consistent (consistent : table.Consistent) (id : Int64) : (table.without id).Consistent := by
  refine ⟨consistent.schema, ?_⟩
  intro query row found
  rw [row_without] at found
  split at found
  · cases found
  · exact consistent.rows query row found

theorem admits_iff (table : Table) (row : Row) :
    table.admits row = true ↔ row.values.map (·.columnType) = table.schema.columns.map (·.type) := by
  by_cases width : row.values.length = table.schema.width
  · simp [admits, width, Row.mistyped_none_iff width]
  · have untyped : row.values.map (·.columnType) ≠ table.schema.columns.map (·.type) := by
      intro typed
      have lengths := congrArg List.length typed
      simp only [List.length_map] at lengths
      exact width lengths
    simp [admits, width, untyped]

theorem insert_fits {row : Row} (fits : row.Fits table.schema) :
    table.insert row = (.ok (table.rows.contains row.id), table.put row.id row) := by
  rw [insert, if_pos ((admits_iff table row).mpr fits.typed)]

theorem check_cell_ok_iff (schema : Schema) (index : Nat) (value : Value) :
    checkCell schema index value = .ok () ↔ schema.columns[index]?.map (·.type) = some value.columnType := by
  rw [checkCell]
  cases schema.columns[index]? with
  | none => simp
  | some column =>
    by_cases fits : value.columnType = column.type
    · simp [fits]
    · simp [fits, Ne.symm fits]

theorem check_cells_ok_iff (schema : Schema) (cells : List (Nat × Value)) :
    checkCells schema cells = .ok () ↔
      ∀ cell ∈ cells, schema.columns[cell.1]?.map (·.type) = some cell.2.columnType := by
  induction cells with
  | nil => simp [checkCells]
  | cons cell rest ih =>
    rw [List.forall_mem_cons, ← check_cell_ok_iff, ← ih, checkCells]
    cases checkCell schema cell.1 cell.2 <;> simp

theorem written_typed (keyIndex : Nat) {values : List Value} {cells : List (Nat × Value)}
    (checked : ∀ cell ∈ cells, values[cell.1]?.map (·.columnType) = some cell.2.columnType) :
    (written keyIndex values cells).map (·.columnType) = values.map (·.columnType) := by
  induction cells generalizing values with
  | nil => rfl
  | cons cell rest ih =>
    obtain ⟨atHead, behind⟩ := List.forall_mem_cons.mp checked
    rw [written]
    split
    · exact ih behind
    · -- a cell takes the place of one of its own type, so the types stay as they are
      have types : (values.set cell.1 cell.2).map (·.columnType) = values.map (·.columnType) := by
        apply List.ext_getElem?
        intro index
        rw [List.map_set, List.getElem?_set]
        split
        · rename_i same
          rw [← same, List.getElem?_map, atHead]
          obtain ⟨old, listed, _⟩ := Option.map_eq_some_iff.mp atHead
          simp [(List.getElem?_eq_some_iff.mp listed).1]
        · rfl
      rw [ih, types]
      intro other later
      rw [← List.getElem?_map, types, List.getElem?_map]
      exact behind other later

theorem written_key (keyIndex : Nat) (values : List Value) (cells : List (Nat × Value)) :
    (written keyIndex values cells)[keyIndex]? = values[keyIndex]? := by
  induction cells generalizing values with
  | nil => rfl
  | cons cell rest ih =>
    rw [written]
    split
    · exact ih values
    · rename_i other
      rw [ih, List.getElem?_set_ne other]

theorem written_checked {schema : Schema} (keyIndex : Nat) {values : List Value}
    (typed : values.map (·.columnType) = schema.columns.map (·.type)) {cells : List (Nat × Value)}
    (checked : checkCells schema cells = .ok ()) :
    (written keyIndex values cells).map (·.columnType) = schema.columns.map (·.type) := by
  rw [← typed]
  apply written_typed
  intro cell listed
  have declared := (check_cells_ok_iff schema cells).mp checked cell listed
  rw [← List.getElem?_map, typed, List.getElem?_map, declared]

theorem written_fits {schema : Schema} {row : Row} (fits : row.Fits schema) {cells : List (Nat × Value)}
    (checked : checkCells schema cells = .ok ()) :
    ({ row with values := written schema.keyIndex row.values cells } : Row).Fits schema :=
  ⟨written_checked schema.keyIndex fits.typed checked, (written_key ..).trans fits.key⟩

-- Induction on the cells, over every table that holds some row under the key: each cell written changes the row.
theorem write_cells_eq {table : Table} {id : Int64} {row : Row} (found : table.row? id = some row)
    {cells : List (Nat × Value)} (inside : ∀ cell ∈ cells, cell.1 < row.values.length) :
    table.writeCells id cells = (.ok (cells.countP (·.1 != table.schema.keyIndex)),
      table.put id { row with values := written table.schema.keyIndex row.values cells }) := by
  induction cells generalizing table row with
  | nil => simp [writeCells, written, put_present found]
  | cons cell rest ih =>
    obtain ⟨index, value⟩ := cell
    obtain ⟨atHead, behind⟩ := List.forall_mem_cons.mp inside
    rw [writeCells, written]
    split
    · rename_i isKey
      simp [ih found behind, isKey]
    · rename_i other
      have atHead : index < row.values.length := atHead
      have after : (table.put id { row with values := row.values.set index value }).row? id =
          some { row with values := row.values.set index value } := put_found ..
      have others := ih after (by simpa using behind)
      simp only [writeCell, found, if_pos atHead, others, put_schema, put_put]
      simp [other, Except.map]

theorem update_checked {id : Int64} {row : Row} (found : table.row? id = some row)
    (width : row.values.length = table.schema.width) {cells : List (Nat × Value)}
    (checked : checkCells table.schema cells = .ok ()) :
    table.update id cells = (.ok (cells.countP (·.1 != table.schema.keyIndex)),
      table.put id { row with values := written table.schema.keyIndex row.values cells }) := by
  rw [update, checked, found]
  apply write_cells_eq found
  intro cell listed
  have declared := (check_cells_ok_iff table.schema cells).mp checked cell listed
  obtain ⟨column, atIndex, _⟩ := Option.map_eq_some_iff.mp declared
  rw [width]
  exact (List.getElem?_eq_some_iff.mp atIndex).1

end TableStore.Table
