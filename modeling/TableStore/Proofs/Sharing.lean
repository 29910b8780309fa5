import TableStore.Database.Shared
import TableStore.Proofs.Parser
import TableStore.Proofs.Run

set_option autoImplicit false

namespace TableStore

def StoreError.isRefusal : StoreError → Bool
  | .internal (.notReadOnly _) => true
  | _ => false

def Unrefused {α : Type} : Except StoreError α → Prop
  | .ok _ => True
  | .error error => error.isRefusal = false

section
variable {α β : Type} {result : Except StoreError α}

theorem Unrefused.ne (unrefused : Unrefused result) (statement : Statement) :
    result ≠ .error (.internal (.notReadOnly statement)) := by
  rintro rfl
  cases unrefused

theorem Unrefused.error (unrefused : Unrefused result) {error : StoreError} (failed : result = .error error) :
    error.isRefusal = false := by
  subst failed
  exact unrefused

theorem Unrefused.bind (unrefused : Unrefused result) {next : α → Except StoreError β}
    (step : ∀ value, Unrefused (next value)) : Unrefused (result >>= next) := by
  cases result with
  | ok value => exact step value
  | error error => exact unrefused

theorem Unrefused.map (unrefused : Unrefused result) (next : α → β) : Unrefused (result.map next) := by
  cases result with
  | ok value => trivial
  | error error => exact unrefused

theorem unrefused_of_family {error : StoreError} (family : error.family ≠ .internal) : error.isRefusal = false := by
  cases error with
  | internal fault => exact absurd rfl family
  | _ => rfl

end

theorem coerce_unrefused (literal column : String) (type : ColumnType) : Unrefused (Value.coerce literal type column) := by
  cases coerced : Value.coerce literal type column with
  | ok value => trivial
  | error error =>
    rw [coerce_error coerced]
    rfl

namespace Row

theorem of_values_unrefused (schema : Schema) (values : List Value) : Unrefused (ofValues schema values) := by
  rw [ofValues]
  split
  · trivial
  · cases mistyped? schema.columns values with
    | some mistyped => trivial
    | none =>
      cases values[schema.keyIndex]? with
      | none => trivial
      | some key => cases key <;> trivial

theorem of_literals_unrefused (schema : Schema) (literals : List String) : Unrefused (ofLiterals schema literals) := by
  rw [ofLiterals]
  split
  · trivial
  · split
    · trivial
    · cases coerced : coerceAll schema.columns literals with
      | ok values => exact of_values_unrefused schema values
      | error error =>
        exact unrefused_of_family (by simp [coerce_all_error coerced])

end Row

namespace Table

theorem insert_unrefused (table : Table) (row : Row) : Unrefused (table.insert row).1 := by
  rw [insert]
  split <;> trivial

theorem check_cells_unrefused (schema : Schema) (cells : List (Nat × Value)) : Unrefused (checkCells schema cells) := by
  induction cells with
  | nil => trivial
  | cons cell rest ih =>
    have first : Unrefused (checkCell schema cell.1 cell.2) := by
      rw [checkCell]
      cases schema.columns[cell.1]? with
      | none => trivial
      | some column =>
        simp only
        split <;> trivial
    rw [checkCells]
    cases checked : checkCell schema cell.1 cell.2 with
    | ok _ => exact ih
    | error error => exact first.error checked

theorem write_cells_unrefused (table : Table) (id : Int64) (cells : List (Nat × Value)) :
    Unrefused (table.writeCells id cells).1 := by
  induction cells generalizing table with
  | nil => trivial
  | cons cell rest ih =>
    have first : Unrefused (table.writeCell id cell.1 cell.2).1 := by
      rw [writeCell]
      cases table.row? id with
      | none => trivial
      | some row =>
        simp only
        split <;> trivial
    rw [writeCells]
    split
    · exact ih table
    · cases written : table.writeCell id cell.1 cell.2 with
      | mk result after =>
        cases result with
        | ok _ => exact (ih after).map _
        | error error => exact first.error (congrArg Prod.fst written)

theorem update_unrefused (table : Table) (id : Int64) (cells : List (Nat × Value)) : Unrefused (table.update id cells).1 := by
  rw [update]
  cases checked : checkCells table.schema cells with
  | error error => exact (check_cells_unrefused table.schema cells).error checked
  | ok _ =>
    cases table.row? id with
    | none => trivial
    | some row => exact write_cells_unrefused table id cells

end Table

namespace Database

theorem table_unrefused (db : Database) (name : String) : Unrefused (db.table name) := by
  rw [table]
  cases db.table? name <;> trivial

theorem column_index_unrefused (table : Table) (column : String) : Unrefused (columnIndex table column) := by
  rw [columnIndex]
  cases table.schema.columnIndex? column <;> trivial

theorem column_indexes_unrefused (table : Table) (names : List String) : Unrefused (columnIndexes table names) := by
  induction names with
  | nil => trivial
  | cons name rest ih =>
    rw [columnIndexes]
    cases found : columnIndex table name with
    | ok index => exact ih.map _
    | error error => exact (column_index_unrefused table name).error found

theorem projected_unrefused (table : Table) (projection : Projection) : Unrefused (projected table projection) := by
  cases projection with
  | all => trivial
  | columns names => exact column_indexes_unrefused table names

theorem pick_unrefused {α : Type} (items : List α) (indexes : List Nat) : Unrefused (pick items indexes) := by
  induction indexes with
  | nil => trivial
  | cons index rest ih =>
    rw [pick]
    cases items[index]? with
    | none => trivial
    | some item => exact ih.map _

theorem pick_rows_unrefused (indexes : List Nat) (rows : List Row) : Unrefused (pickRows indexes rows) := by
  induction rows with
  | nil => trivial
  | cons row rest ih =>
    rw [pickRows]
    cases picked : pick row.values indexes with
    | ok cells => exact ih.map _
    | error error => exact (pick_unrefused row.values indexes).error picked

theorem cell_unrefused (row : Row) (index : Nat) : Unrefused (cell row index) := by
  rw [cell]
  cases row.values[index]? <;> trivial

theorem join_row_unrefused (left : Row) (nameIndex keyIndex itemIndex : Nat) (rights : List Row) :
    Unrefused (joinRow left nameIndex keyIndex itemIndex rights) := by
  induction rights with
  | nil => trivial
  | cons right rest ih =>
    rw [joinRow]
    refine (cell_unrefused right keyIndex).bind fun key => ?_
    split
    · refine (cell_unrefused left nameIndex).bind fun name => ?_
      refine (cell_unrefused right itemIndex).bind fun item => ?_
      exact ih.bind fun lines => trivial
    · exact ih

theorem join_rows_unrefused (nameIndex keyIndex itemIndex : Nat) (rights lefts : List Row) :
    Unrefused (joinRows nameIndex keyIndex itemIndex rights lefts) := by
  induction lefts with
  | nil => trivial
  | cons left rest ih =>
    rw [joinRows]
    refine (join_row_unrefused left nameIndex keyIndex itemIndex rights).bind fun lines => ?_
    exact ih.bind fun others => trivial

theorem query_unrefused (db : Database) (statement : Statement) (reads : statement.isReadOnly = true) :
    Unrefused (db.query statement) := by
  cases statement with
  | select name projection key =>
    refine (table_unrefused db name).bind fun table => ?_
    refine (projected_unrefused table projection).bind fun indexes => ?_
    refine (pick_unrefused table.schema.columnNames indexes).bind fun columns => ?_
    exact (pick_rows_unrefused indexes (selected table key)).bind fun rows => trivial
  | join left right predicate =>
    refine (table_unrefused db left).bind fun leftTable => ?_
    refine (table_unrefused db right).bind fun rightTable => ?_
    refine (column_index_unrefused leftTable "username").bind fun nameIndex => ?_
    refine (column_index_unrefused rightTable "user_id").bind fun keyIndex => ?_
    refine (column_index_unrefused rightTable "item").bind fun itemIndex => ?_
    exact (join_rows_unrefused nameIndex keyIndex itemIndex rightTable.allRows leftTable.allRows).bind fun lines => trivial
  | unknown keyword => trivial
  | createTable | dropTable | insert | update | delete => cases reads

theorem changes_unrefused (table : Table) (assignments : List Assignment) : Unrefused (changes table assignments) := by
  induction assignments with
  | nil => trivial
  | cons assignment rest ih =>
    rw [changes]
    refine (column_index_unrefused table assignment.column).bind fun index => ?_
    split
    · exact ih
    · cases table.schema.columns[index]? with
      | none => trivial
      | some column =>
        refine (coerce_unrefused assignment.value assignment.column column.type).bind fun value => ?_
        exact ih.bind fun cells => trivial

theorem create_table_unrefused (db : Database) (name : String) (columns : List ColumnDef) :
    Unrefused (db.createTable name columns).1 := by
  rw [createTable]
  split
  · trivial
  · rename_i free
    cases accepted : Schema.ofColumns (columns.map (·.column)) with
    | ok schema =>
      simp only [create, if_neg free]
      trivial
    | error error =>
      exact unrefused_of_family (by simp [Schema.of_columns_error accepted])

theorem drop_table_unrefused (db : Database) (name : String) : Unrefused (db.dropTable name).1 := by
  rw [dropTable, drop]
  cases db.table? name <;> trivial

theorem on_table_unrefused {db : Database} {name : String} {α : Type} {operation : Table → Except StoreError α × Table}
    (inside : ∀ table, Unrefused (operation table).1) : Unrefused (db.onTable name operation).1 := by
  rw [onTable]
  cases db.table? name with
  | none => trivial
  | some table => exact inside table

theorem insert_into_unrefused (name : String) (literals : List String) (table : Table) :
    Unrefused (insertInto name literals table).1 := by
  rw [insertInto]
  cases bound : Row.ofLiterals table.schema literals with
  | ok row => exact (table.insert_unrefused row).map _
  | error error => exact (Row.of_literals_unrefused table.schema literals).error bound

theorem update_in_unrefused (name : String) (assignments : List Assignment) (key : Int64) (table : Table) :
    Unrefused (updateIn name assignments key table).1 := by
  rw [updateIn]
  cases table.row? key with
  | none => trivial
  | some row =>
    cases resolved : changes table assignments with
    | ok cells => exact (table.update_unrefused key cells).map _
    | error error => exact (changes_unrefused table assignments).error resolved

theorem execute_unrefused (db : Database) (statement : Statement) : Unrefused (db.execute statement).1 := by
  cases statement with
  | createTable name columns => exact create_table_unrefused db name columns
  | dropTable name => exact drop_table_unrefused db name
  | insert name literals => exact on_table_unrefused (insert_into_unrefused name literals)
  | update name assignments key => exact on_table_unrefused (update_in_unrefused name assignments key)
  | delete name key => exact on_table_unrefused fun table => trivial
  | select name projection key => exact query_unrefused db (.select name projection key) rfl
  | join left right predicate => exact query_unrefused db (.join left right predicate) rfl
  | unknown keyword => exact query_unrefused db (.unknown keyword) rfl

-- Of a text this is said in the open: behind `Unrefused` the parser would be unfolded.
theorem execute_text_unrefused (db : Database) (sql : String) (refused : Statement) :
    (db.executeText sql).1 ≠ .error (.internal (.notReadOnly refused)) := by
  cases read : Statement.parse sql with
  | error error =>
    rw [execute_text_unread read]
    intro same
    cases same
    exact Statement.parse_error read rfl
  | ok statement =>
    rw [execute_text_read read]
    exact (execute_unrefused db statement).ne refused

theorem query_refuses_iff (db : Database) (statement : Statement) :
    (∃ refused, db.query statement = .error (.internal (.notReadOnly refused))) ↔ statement.isReadOnly = false := by
  constructor
  · rintro ⟨refused, failed⟩
    by_contra reads
    exact (query_unrefused db statement (Bool.not_eq_false _ ▸ reads)).ne refused failed
  · intro writes
    cases statement with
    | createTable | dropTable | insert | update | delete => exact ⟨_, rfl⟩
    | select | join | unknown => cases writes

theorem execute_shared_eq (db : Database) (sql : String) : db.executeShared sql = db.executeText sql := by
  unfold executeShared executeText
  cases Statement.parse sql with
  | error error => rfl
  | ok statement =>
    simp only
    split
    · rename_i reads
      exact (execute_read_only db reads).symm
    · rfl

end Database

inductive Handle.Cloned {count : Nat} (handle : Handle count) : Handle count → Prop where
  | self : handle.Cloned handle
  | clone {copy : Handle count} : handle.Cloned copy → handle.Cloned copy.clone

theorem Handle.Cloned.eq {count : Nat} {handle copy : Handle count} (cloned : handle.Cloned copy) : copy = handle := by
  induction cloned with
  | self => rfl
  | clone _ ih => exact ih

namespace Cells

variable {count : Nat}

theorem database_share (cells : Cells count) (db : Database) : (cells.share db).2.database (cells.share db).1 = db :=
  Vector.getElem_push_eq ..

theorem database_execute (cells : Cells count) (handle : Handle count) (sql : String) :
    (cells.execute handle sql).2.database handle = ((cells.database handle).executeText sql).2 := by
  rw [← Database.execute_shared_eq, execute]
  generalize (cells.database handle).executeShared sql = result
  exact Vector.getElem_set_self handle.cell.isLt

theorem execute_answer (cells : Cells count) (handle : Handle count) (sql : String) :
    (cells.execute handle sql).1 = ((cells.database handle).executeText sql).1 := by
  rw [← Database.execute_shared_eq, execute]

-- By induction on the calls: the handles differ, the cell behind them is the same one.
theorem run_agrees (cells : Cells count) (handle : Handle count) (calls : List (Handle count × String))
    (cloned : ∀ call ∈ calls, handle.Cloned call.1) :
    (inOrder (fun cells call => cells.execute call.1 call.2) cells calls).1 =
        (inOrder Database.executeText (cells.database handle) (calls.map (·.2))).1 ∧
      (inOrder (fun cells call => cells.execute call.1 call.2) cells calls).2.database handle =
        (inOrder Database.executeText (cells.database handle) (calls.map (·.2))).2 := by
  induction calls generalizing cells with
  | nil => exact ⟨rfl, rfl⟩
  | cons call rest ih =>
    obtain ⟨first, others⟩ := List.forall_mem_cons.mp cloned
    have here := first.eq
    have behind := ih (cells.execute call.1 call.2).2 others
    rw [here, database_execute] at behind
    rw [List.map_cons, inOrder, inOrder]
    simp only [here, execute_answer]
    exact ⟨congrArg _ behind.1, behind.2⟩

theorem shared_runs_agree (others : Cells count) (db : Database) (calls : List (Handle (count + 1) × String))
    (cloned : ∀ call ∈ calls, (others.share db).1.Cloned call.1) :
    let shared := inOrder (fun cells call => cells.execute call.1 call.2) (others.share db).2 calls
    let direct := inOrder Database.executeText db (calls.map (·.2))
    (shared.1 = direct.1 ∧ ∀ copy, (others.share db).1.Cloned copy → shared.2.database copy = direct.2) ∧
      (∀ (found : Database) sql refused, (found.executeShared sql).1 ≠ .error (.internal (.notReadOnly refused))) ∧
      ∀ (found : Database) sql statement, Statement.parse sql = .ok statement → statement.isReadOnly = true →
        (found.executeShared sql).2 = found ∧ (found.executeText sql).2 = found := by
  intro shared direct
  have agreed := run_agrees (others.share db).2 (others.share db).1 calls cloned
  rw [database_share] at agreed
  refine ⟨⟨agreed.1, ?_⟩, ?_, ?_⟩
  · intro copy copied
    rw [copied.eq]
    exact agreed.2
  · intro found sql refused
    rw [Database.execute_shared_eq]
    exact Database.execute_text_unrefused found sql refused
  · intro found sql statement read reads
    have unchanged : (found.executeText sql).2 = found := by
      rw [Database.execute_text_read read, Database.execute_read_only found reads]
    exact ⟨Database.execute_shared_eq found sql ▸ unchanged, unchanged⟩

def petCalls (handle : Handle 2) : List (Handle 2 × String) :=
  [(handle, "CREATE TABLE pets (id int, name text)"), (handle.clone, "INSERT INTO pets VALUES (7, 'Rex')"),
    (handle.clone.clone, "SELECT name FROM pets"), (handle, "SELECT age FROM pets"),
    (handle.clone, "DROP TABLE toys")]

theorem shared_pets_agree :
    let shared := Cells.share ⟨#v[Database.reached Database.petEvents]⟩ .empty
    (inOrder (fun cells call => cells.execute call.1 call.2) shared.2 (petCalls shared.1)).1 =
      [.ok (.created "pets"), .ok (.inserted "pets" 7 false), .ok (.rows ⟨["name"], [[.text "Rex"]]⟩),
        .error (.columnNotFound "pets" "age"), .error (.tableNotFound "toys")] := by
  intro shared
  have cloned : ∀ call ∈ petCalls shared.1, shared.1.Cloned call.1 := by
    simp only [petCalls, List.forall_mem_cons]
    exact ⟨.self, .clone .self, .clone (.clone .self), .self, .clone .self, List.forall_mem_nil _⟩
  obtain ⟨⟨agreed, _⟩, _⟩ :=
    shared_runs_agree ⟨#v[Database.reached Database.petEvents]⟩ .empty (petCalls shared.1) cloned
  refine agreed.trans ?_
  decide +kernel

end Cells

end TableStore
