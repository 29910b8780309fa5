import TableStore.Proofs.Refusal

set_option autoImplicit false

/- Cells are checked before the row is looked up, and the row is looked up before the first cell is written. -/
namespace TableStore.Table

-- Its id and its key cell may be any.
def Typed (table : Table) : Prop :=
  ∀ id row, table.row? id = some row → row.values.map (·.columnType) = table.schema.columns.map (·.type)

def lastTo (index : Nat) : List (Nat × Value) → Option Value
  | [] => none
  | cell :: rest => (lastTo index rest).or (if cell.1 = index then some cell.2 else none)

def Misfit (schema : Schema) (cell : Nat × Value) : Prop :=
  schema.columns[cell.1]?.map (·.type) ≠ some cell.2.columnType

def blame (schema : Schema) (cell : Nat × Value) : StoreError :=
  match schema.columns[cell.1]? with
  | none => .internal (.columnOutOfRange cell.1)
  | some column => .typeCoercion column.name cell.2.shown

-- The first cell that does not fit comes before the missing row.
inductive Rejected (table : Table) (id : Int64) (cells : List (Nat × Value)) : StoreError → Prop
  | outOfRange {index : Nat} {value : Value} (first : First (Misfit table.schema) cells (index, value))
      (beyond : table.schema.width ≤ index) : Rejected table id cells (.internal (.columnOutOfRange index))
  | mistyped {index : Nat} {value : Value} {column : Column} (first : First (Misfit table.schema) cells (index, value))
      (listed : table.schema.columns[index]? = some column) (other : value.columnType ≠ column.type) :
      Rejected table id cells (.typeCoercion column.name value.shown)
  | missing (fitting : ∀ cell ∈ cells, ¬ Misfit table.schema cell) (absent : table.row? id = none) :
      Rejected table id cells (.rowNotFound table.name id)

structure Overwritten (schema : Schema) (cells : List (Nat × Value)) (row next : Row) : Prop where
  id : next.id = row.id
  width : next.values.length = row.values.length
  key : next.values[schema.keyIndex]? = row.values[schema.keyIndex]?
  cells : ∀ index old, index ≠ schema.keyIndex → row.values[index]? = some old →
    next.values[index]? = some ((lastTo index cells).getD old)

structure Updated (before : Table) (id : Int64) (cells : List (Nat × Value)) (changed : Nat) (after : Table) : Prop where
  name : after.name = before.name
  schema : after.schema = before.schema
  row : ∃ row next, before.row? id = some row ∧ after.row? id = some next ∧ Overwritten before.schema cells row next
  others : ∀ other, other ≠ id → after.row? other = before.row? other
  counted : changed = cells.countP (·.1 != before.schema.keyIndex)
  typed : after.Typed

theorem last_to_cons (index : Nat) (cell : Nat × Value) (rest : List (Nat × Value)) (old : Value) :
    (lastTo index (cell :: rest)).getD old = (lastTo index rest).getD (if cell.1 = index then cell.2 else old) := by
  rw [lastTo]
  cases lastTo index rest with
  | some value => rfl
  | none =>
    by_cases hit : cell.1 = index
    · simp [hit]
    · simp [hit]

-- Over any values, since each cell written changes them for those behind it.
theorem written_at (keyIndex : Nat) (values : List Value) (cells : List (Nat × Value)) (index : Nat) :
    (written keyIndex values cells)[index]? =
      values[index]?.map fun old => if index = keyIndex then old else (lastTo index cells).getD old := by
  induction cells generalizing values with
  | nil => simp [written, lastTo]
  | cons cell rest ih =>
    simp only [last_to_cons]
    rw [written]
    by_cases isKey : cell.1 = keyIndex
    · rw [if_pos isKey, ih]
      by_cases atKey : index = keyIndex
      · simp only [if_pos atKey]
      · have elsewhere : cell.1 ≠ index := fun same => atKey (same.symm.trans isKey)
        simp only [if_neg elsewhere]
    · rw [if_neg isKey, ih]
      by_cases hit : cell.1 = index
      · subst hit
        simp only [if_neg isKey, if_true, List.getElem?_set_self']
        cases values[cell.1]? <;> rfl
      · simp only [List.getElem?_set_ne hit, if_neg hit]

theorem written_length (keyIndex : Nat) (values : List Value) (cells : List (Nat × Value)) :
    (written keyIndex values cells).length = values.length := by
  induction cells generalizing values with
  | nil => rfl
  | cons cell rest ih =>
    rw [written]
    split
    · exact ih values
    · rw [ih, List.length_set]

theorem written_overwritten (schema : Schema) (row : Row) (cells : List (Nat × Value)) :
    Overwritten schema cells row { row with values := written schema.keyIndex row.values cells } := by
  refine ⟨rfl, written_length .., written_key .., ?_⟩
  intro index old other held
  rw [written_at, held, Option.map_some, if_neg other]

theorem misfit_iff (schema : Schema) (index : Nat) (value : Value) :
    Misfit schema (index, value) ↔ schema.width ≤ index ∨
      ∃ column, schema.columns[index]? = some column ∧ value.columnType ≠ column.type := by
  rw [Misfit, Schema.width, ← List.getElem?_eq_none_iff]
  cases schema.columns[index]? with
  | none => simp
  | some column => simp [eq_comm]

theorem check_cell_misfit {schema : Schema} {cell : Nat × Value} (misfit : Misfit schema cell) :
    checkCell schema cell.1 cell.2 = .error (blame schema cell) := by
  rw [Misfit] at misfit
  rw [checkCell, blame]
  cases listed : schema.columns[cell.1]? with
  | none => rfl
  | some column =>
    have other : cell.2.columnType ≠ column.type := by simpa [listed, eq_comm] using misfit
    simp only [if_neg other]

theorem check_cells_error_iff (schema : Schema) (cells : List (Nat × Value)) (error : StoreError) :
    checkCells schema cells = .error error ↔ ∃ cell, First (Misfit schema) cells cell ∧ error = blame schema cell := by
  refine traversal_error_iff (checkCells schema) (blame schema) (by simp [checkCells]) ?_ cells error
  intro head rest error
  rw [checkCells]
  by_cases misfit : Misfit schema head
  · simp [check_cell_misfit misfit, misfit, eq_comm]
  · have fits := (check_cell_ok_iff schema head.1 head.2).mpr (Decidable.not_not.mp misfit)
    simp [fits, misfit]

theorem check_cells_fitting_iff (schema : Schema) (cells : List (Nat × Value)) :
    checkCells schema cells = .ok () ↔ ∀ cell ∈ cells, ¬ Misfit schema cell := by
  rw [check_cells_ok_iff]
  simp only [Misfit, Decidable.not_not]

section
variable {table : Table} {id : Int64} {cells : List (Nat × Value)} {error : StoreError}

theorem rejected_of_misfit {cell : Nat × Value} (first : First (Misfit table.schema) cells cell) :
    table.Rejected id cells (blame table.schema cell) := by
  obtain ⟨index, value⟩ := cell
  rw [blame]
  rcases (misfit_iff table.schema index value).mp first.found.2 with beyond | ⟨column, listed, other⟩
  · rw [List.getElem?_eq_none_iff.mpr beyond]
    exact .outOfRange first beyond
  · rw [listed]
    exact .mistyped first listed other

theorem rejected_iff : table.Rejected id cells error ↔
    checkCells table.schema cells = .error error ∨
      checkCells table.schema cells = .ok () ∧ table.row? id = none ∧ error = .rowNotFound table.name id := by
  rw [check_cells_error_iff, check_cells_fitting_iff]
  constructor
  · intro rejected
    cases rejected with
    | outOfRange first beyond => exact .inl ⟨_, first, by rw [blame, List.getElem?_eq_none_iff.mpr beyond]⟩
    | mistyped first listed other => exact .inl ⟨_, first, by rw [blame, listed]⟩
    | missing fitting absent => exact .inr ⟨fitting, absent, rfl⟩
  · rintro (⟨cell, first, rfl⟩ | ⟨fitting, absent, rfl⟩)
    · exact rejected_of_misfit first
    · exact .missing fitting absent

theorem update_unchecked (unchecked : checkCells table.schema cells = .error error) :
    table.update id cells = (.error error, table) := by
  rw [update, unchecked]

theorem update_absent (checked : checkCells table.schema cells = .ok ()) (absent : table.row? id = none) :
    table.update id cells = (.error (.rowNotFound table.name id), table) := by
  rw [update, checked, absent]

theorem Typed.width (typed : table.Typed) {row : Row} (stored : table.row? id = some row) :
    row.values.length = table.schema.width := by
  simpa [Schema.width] using congrArg List.length (typed id row stored)

theorem put_updated (typed : table.Typed) {row : Row} (stored : table.row? id = some row)
    (checked : checkCells table.schema cells = .ok ()) :
    table.Updated id cells (cells.countP (·.1 != table.schema.keyIndex))
      (table.put id { row with values := written table.schema.keyIndex row.values cells }) := by
  refine ⟨rfl, rfl, ⟨row, _, stored, put_found .., written_overwritten table.schema row cells⟩, ?_, rfl, ?_⟩
  · intro other apart
    rw [row_put, if_neg apart]
  · intro query found shown
    rw [row_put] at shown
    by_cases hit : query = id
    · rw [if_pos hit] at shown
      cases shown
      exact written_checked _ (typed id row stored) checked
    · rw [if_neg hit] at shown
      exact typed query found shown

end

theorem update_writes_all_or_nothing {table : Table} (typed : table.Typed) (id : Int64) (cells : List (Nat × Value)) :
    (∀ error, (table.update id cells).1 = .error error ↔ table.Rejected id cells error) ∧
      (∀ error, (table.update id cells).1 = .error error → (table.update id cells).2 = table) ∧
      ∀ changed, (table.update id cells).1 = .ok changed →
        table.Updated id cells changed (table.update id cells).2 := by
  simp only [rejected_iff]
  cases checked : checkCells table.schema cells with
  | error cause => simp [update_unchecked checked]
  | ok _ =>
    cases stored : table.row? id with
    | none => simp [update_absent checked stored, eq_comm]
    | some row =>
      have updated := put_updated typed stored checked
      have done : table.update id cells = (.ok (cells.countP (·.1 != table.schema.keyIndex)), _) :=
        update_checked stored (typed.width stored) checked
      rw [done]
      simpa using updated

def petCells : List (Nat × Value) := [(2, .integer 5), (1, .integer 9), (0, .text "Tom"), (2, .integer 6)]

-- A value that is no age, before an index without a column, for a row that is not there.
def faultyCells : List (Nat × Value) := [(0, .text "Tom"), (2, .text "old"), (9, .integer 1)]

theorem pet_takes_all_or_nothing :
    Database.petTable.update 7 petCells =
        (.ok 3, Database.petTable.put 7 ⟨7, [.text "Tom", .integer 7, .integer 6]⟩) ∧
      Database.petTable.Updated 7 petCells 3 (Database.petTable.update 7 petCells).2 ∧
      Database.petTable.Rejected 8 faultyCells (.typeCoercion "age" "old") ∧
      (Database.petTable.update 8 faultyCells).2 = Database.petTable := by
  have typed : Database.petTable.Typed := by
    intro id row stored
    rw [Database.petTable, row_put] at stored
    split at stored
    · cases stored
      rfl
    · cases stored
  have done : Database.petTable.update 7 petCells =
      (.ok 3, Database.petTable.put 7 ⟨7, [.text "Tom", .integer 7, .integer 6]⟩) := by decide
  have failed : (Database.petTable.update 8 faultyCells).1 = .error (.typeCoercion "age" "old") := by decide
  refine ⟨done, ?_, ?_, ?_⟩
  · exact (update_writes_all_or_nothing typed 7 petCells).2.2 3 (congrArg Prod.fst done)
  · exact ((update_writes_all_or_nothing typed 8 faultyCells).1 _).mp failed
  · exact (update_writes_all_or_nothing typed 8 faultyCells).2.1 _ failed

end TableStore.Table
