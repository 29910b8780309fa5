import TableStore.Proofs.Reading

set_option autoImplicit false

/- What a statement does to a consistent database, said once. Every fact about runs is drawn from this. -/
namespace TableStore.Database

inductive Effect (db : Database) : Statement → Answer → Database → Prop
  | created {name : String} {columns : List ColumnDef} {schema : Schema} (absent : db.table? name = none)
      (accepted : Schema.ofColumns (columns.map (·.column)) = .ok schema) :
      Effect db (.createTable name columns) (.created name) (db.put name (.empty name schema))
  | dropped {name : String} {table : Table} (present : db.table? name = some table) :
      Effect db (.dropTable name) (.dropped name) (db.without name)
  | inserted {name : String} {literals : List String} {table : Table} {row : Row}
      (present : db.table? name = some table) (bound : Row.ofLiterals table.schema literals = .ok row) :
      Effect db (.insert name literals) (.inserted name row.id (table.rows.contains row.id))
        (db.put name (table.put row.id row))
  | updated {name : String} {assignments : List Assignment} {key : Int64} {table : Table} {row : Row}
      {cells : List (Nat × Value)} (present : db.table? name = some table) (stored : table.row? key = some row)
      (resolved : changes table assignments = .ok cells) :
      Effect db (.update name assignments key) (.updated name key)
        (db.put name (table.put key { row with values := Table.written table.schema.keyIndex row.values cells }))
  | deleted {name : String} {key : Int64} {table : Table} (present : db.table? name = some table) :
      Effect db (.delete name key) (.deleted name key (table.rows.contains key)) (db.put name (table.without key))
  | answered {statement : Statement} {answer : Answer} (reads : statement.isReadOnly = true)
      (shown : db.query statement = .ok answer) : Effect db statement answer db

def Settled (db : Database) (statement : Statement) : Except StoreError Answer × Database → Prop
  | (.ok answer, after) => Effect db statement answer after
  | (.error error, after) => after = db ∧ error.family ≠ .internal

theorem coerce_faultless (literal column : String) (type : ColumnType) :
    Faultless (fun value => value.columnType = type) (Value.coerce literal type column) := by
  cases coerced : Value.coerce literal type column with
  | ok value => exact coerce_type coerced
  | error error => simp [Faultless, coerce_error coerced, StoreError.family]

theorem changes_faultless (table : Table) (assignments : List Assignment) :
    Faultless (fun cells => Table.checkCells table.schema cells = .ok ()) (changes table assignments) := by
  induction assignments with
  | nil => rfl
  | cons assignment rest ih =>
    rw [changes]
    refine (column_index_faultless table assignment.column).bind fun index inside => ?_
    split
    · exact ih
    · have listed := List.getElem?_eq_getElem inside
      rw [listed]
      refine (coerce_faultless ..).bind fun value typed => ?_
      refine ih.bind fun cells checked => ?_
      simp only [Table.check_cells_ok_iff] at checked
      apply (Table.check_cells_ok_iff _ _).mpr
      exact List.forall_mem_cons.mpr ⟨by simp [listed, typed], checked⟩

theorem changes_cons {table : Table} {assignment : Assignment} {rest : List Assignment} {cells : List (Nat × Value)}
    (resolved : changes table (assignment :: rest) = .ok cells) :
    ∃ index column, table.schema.columns[index]? = some column ∧ column.name = assignment.column ∧
      (index = table.schema.keyIndex ∧ changes table rest = .ok cells ∨
        index ≠ table.schema.keyIndex ∧ ∃ value others, cells = (index, value) :: others ∧
          Value.coerce assignment.value column.type assignment.column = .ok value ∧
          changes table rest = .ok others) := by
  rw [changes, columnIndex] at resolved
  cases found : table.schema.columnIndex? assignment.column with
  | none =>
    rw [found] at resolved
    cases resolved
  | some index =>
    obtain ⟨column, listed, named⟩ := Schema.column_index_some found
    refine ⟨index, column, listed, named, ?_⟩
    simp only [found, listed, bind, Except.bind] at resolved
    split at resolved
    · rename_i isKey
      exact .inl ⟨isKey, resolved⟩
    · rename_i other
      refine .inr ⟨other, ?_⟩
      cases coerced : Value.coerce assignment.value column.type assignment.column with
      | error error =>
        rw [coerced] at resolved
        cases resolved
      | ok value =>
        cases behind : changes table rest with
        | error error =>
          rw [coerced, behind] at resolved
          cases resolved
        | ok others =>
          rw [coerced, behind] at resolved
          cases resolved
          exact ⟨value, others, rfl, rfl, rfl⟩

variable {db : Database}

theorem create_table_settled (name : String) (columns : List ColumnDef) :
    Settled db (.createTable name columns) (db.createTable name columns) := by
  rw [createTable]
  cases present : db.contains name with
  | true => exact ⟨rfl, by simp [StoreError.family]⟩
  | false =>
    have absent : db.table? name = none := by simpa [contains, OrdMap.contains, table?] using present
    rw [if_neg Bool.false_ne_true]
    cases accepted : Schema.ofColumns (columns.map (·.column)) with
    | error error => exact ⟨rfl, by rw [Schema.of_columns_error accepted]; simp⟩
    | ok schema =>
      simp only [create, present, if_neg Bool.false_ne_true]
      exact .created absent accepted

theorem drop_table_settled (name : String) : Settled db (.dropTable name) (db.dropTable name) := by
  rw [dropTable, drop]
  cases present : db.table? name with
  | none => exact ⟨rfl, by simp [StoreError.family]⟩
  | some table => exact .dropped present

theorem insert_into_bound {table : Table} (sound : table.schema.Sound) (name : String) {literals : List String} {row : Row}
    (bound : Row.ofLiterals table.schema literals = .ok row) :
    insertInto name literals table =
      (.ok (.inserted name row.id (table.rows.contains row.id)), table.put row.id row) := by
  have fits := ((Row.of_literals_faultless sound literals).ok bound).1
  simp only [insertInto, bound, Table.insert_fits fits]
  rfl

theorem insert_into_unbound {table : Table} (name : String) {literals : List String} {error : StoreError}
    (unbound : Row.ofLiterals table.schema literals = .error error) :
    insertInto name literals table = (.error error, table) := by
  rw [insertInto, unbound]

theorem update_in_resolved {table : Table} (consistent : table.Consistent) (name : String) {assignments : List Assignment}
    {key : Int64} {row : Row} (stored : table.row? key = some row) {cells : List (Nat × Value)}
    (resolved : changes table assignments = .ok cells) :
    updateIn name assignments key table = (.ok (.updated name key),
      table.put key { row with values := Table.written table.schema.keyIndex row.values cells }) := by
  have width := (consistent.rows key row stored).2.width
  have checked := (changes_faultless table assignments).ok resolved
  simp only [updateIn, stored, resolved, Table.update_checked stored width checked]
  rfl

theorem insert_settled (consistent : db.Consistent) (name : String) (literals : List String) :
    Settled db (.insert name literals) (db.onTable name (insertInto name literals)) := by
  cases present : db.table? name with
  | none =>
    rw [on_table_absent present]
    exact ⟨rfl, by simp [StoreError.family]⟩
  | some table =>
    rw [on_table_present present]
    have sound := (consistent.tables name table present).schema
    rcases (Row.of_literals_faultless sound literals).cases with ⟨row, bound, _⟩ | ⟨error, failed, family⟩
    · rw [insert_into_bound sound name bound]
      exact .inserted present bound
    · -- The table is put back as it was.
      rw [insert_into_unbound name failed]
      exact ⟨put_present present, family⟩

theorem update_settled (consistent : db.Consistent) (name : String) (assignments : List Assignment) (key : Int64) :
    Settled db (.update name assignments key) (db.onTable name (updateIn name assignments key)) := by
  cases present : db.table? name with
  | none =>
    rw [on_table_absent present]
    exact ⟨rfl, by simp [StoreError.family]⟩
  | some table =>
    rw [on_table_present present]
    cases stored : table.row? key with
    | none =>
      rw [updateIn, stored]
      exact ⟨put_present present, by simp [StoreError.family]⟩
    | some row =>
      rcases (changes_faultless table assignments).cases with ⟨cells, resolved, _⟩ | ⟨error, failed, family⟩
      · rw [update_in_resolved (consistent.tables name table present) name stored resolved]
        exact .updated present stored resolved
      · rw [updateIn, stored, failed]
        exact ⟨put_present present, family⟩

theorem delete_settled (name : String) (key : Int64) :
    Settled db (.delete name key) (db.onTable name (deleteFrom name key)) := by
  cases present : db.table? name with
  | none =>
    rw [on_table_absent present]
    exact ⟨rfl, by simp [StoreError.family]⟩
  | some table =>
    rw [on_table_present present]
    exact .deleted present

theorem query_settled (consistent : db.Consistent) {statement : Statement} (reads : statement.isReadOnly = true) :
    Settled db statement (db.query statement, db) := by
  rcases (query_faultless consistent reads).cases with ⟨answer, shown, _⟩ | ⟨error, failed, family⟩
  · rw [shown]
    exact .answered reads shown
  · rw [failed]
    exact ⟨rfl, family⟩

theorem execute_settled (consistent : db.Consistent) (statement : Statement) :
    Settled db statement (db.execute statement) := by
  cases statement with
  | createTable name columns => exact create_table_settled name columns
  | dropTable name => exact drop_table_settled name
  | insert table values => exact insert_settled consistent table values
  | update table assignments key => exact update_settled consistent table assignments key
  | delete table key => exact delete_settled table key
  | select | join | unknown => exact query_settled consistent rfl

theorem execute_ok (consistent : db.Consistent) {statement : Statement} {answer : Answer} {after : Database}
    (done : db.execute statement = (.ok answer, after)) : Effect db statement answer after := by
  have settled := execute_settled consistent statement
  rwa [done] at settled

theorem execute_error (consistent : db.Consistent) {statement : Statement} {error : StoreError} {after : Database}
    (failed : db.execute statement = (.error error, after)) : after = db ∧ error.family ≠ .internal := by
  have settled := execute_settled consistent statement
  rwa [failed] at settled

end TableStore.Database
