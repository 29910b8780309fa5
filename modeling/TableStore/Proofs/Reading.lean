import TableStore.Database.Execute
import TableStore.Proofs.Database

set_option autoImplicit false

namespace TableStore

def RowSet.Rectangular (set : RowSet) : Prop := ∀ row ∈ set.rows, row.length = set.columns.length

def Answer.Rectangular : Answer → Prop
  | .rows set => set.Rectangular
  | _ => True

def Answer.isReading : Answer → Bool
  | .rows _ | .joined _ | .unknown _ => true
  | .created _ | .dropped _ | .inserted .. | .updated .. | .deleted .. => false

namespace Database

theorem table_faultless (db : Database) (name : String) :
    Faultless (fun table => db.table? name = some table) (db.table name) := by
  rw [table]
  cases db.table? name with
  | none => simp [Faultless, StoreError.family]
  | some table => rfl

theorem column_index_faultless (table : Table) (column : String) :
    Faultless (fun index => index < table.schema.width) (columnIndex table column) := by
  rw [columnIndex]
  cases found : table.schema.columnIndex? column with
  | none => simp [Faultless, StoreError.family]
  | some index =>
    obtain ⟨declared, listed, _⟩ := Schema.column_index_some found
    exact (List.getElem?_eq_some_iff.mp listed).1

theorem column_indexes_faultless (table : Table) (names : List String) :
    Faultless (fun indexes => ∀ index ∈ indexes, index < table.schema.width) (columnIndexes table names) := by
  induction names with
  | nil => simp [Faultless, columnIndexes]
  | cons name rest ih =>
    rw [columnIndexes]
    rcases (column_index_faultless table name).cases with ⟨index, found, inside⟩ | ⟨error, failed, family⟩
    · rw [found]
      exact ih.map fun indexes others => List.forall_mem_cons.mpr ⟨inside, others⟩
    · rw [failed]
      exact family

theorem projected_faultless (table : Table) (projection : Projection) :
    Faultless (fun indexes => ∀ index ∈ indexes, index < table.schema.width) (projected table projection) := by
  cases projection with
  | all => exact fun index listed => List.mem_range.mp listed
  | columns names => exact column_indexes_faultless table names

theorem pick_inside {α : Type} (items : List α) {indexes : List Nat} (inside : ∀ index ∈ indexes, index < items.length) :
    ∃ found, pick items indexes = .ok found ∧ found.length = indexes.length := by
  induction indexes with
  | nil => exact ⟨[], rfl, rfl⟩
  | cons index rest ih =>
    obtain ⟨atHead, behind⟩ := List.forall_mem_cons.mp inside
    obtain ⟨found, picked, same⟩ := ih behind
    refine ⟨items[index] :: found, ?_, by simp [same]⟩
    simp [pick, List.getElem?_eq_getElem atHead, picked, Except.map]

theorem pick_rows_inside {rows : List Row} {indexes : List Nat}
    (inside : ∀ row ∈ rows, ∀ index ∈ indexes, index < row.values.length) :
    ∃ cells, pickRows indexes rows = .ok cells ∧ ∀ row ∈ cells, row.length = indexes.length := by
  induction rows with
  | nil => exact ⟨[], rfl, by simp⟩
  | cons row rest ih =>
    obtain ⟨atHead, behind⟩ := List.forall_mem_cons.mp inside
    obtain ⟨first, picked, width⟩ := pick_inside row.values atHead
    obtain ⟨cells, others, widths⟩ := ih behind
    refine ⟨first :: cells, ?_, List.forall_mem_cons.mpr ⟨width, widths⟩⟩
    simp [pickRows, picked, others, Except.map]

theorem all_rows_inside {table : Table} (consistent : table.Consistent) {index : Nat} (inside : index < table.schema.width) :
    ∀ row ∈ table.allRows, index < row.values.length := by
  intro row listed
  obtain ⟨id, stored⟩ := Table.row_of_mem_all listed
  rw [(consistent.rows id row stored).2.width]
  exact inside

theorem selected_inside {table : Table} (consistent : table.Consistent) (key : Option Int64) {index : Nat}
    (inside : index < table.schema.width) : ∀ row ∈ selected table key, index < row.values.length := by
  cases key with
  | none => exact all_rows_inside consistent inside
  | some id =>
    intro row listed
    have stored : table.row? id = some row := by simpa [selected] using listed
    rw [(consistent.rows id row stored).2.width]
    exact inside

theorem cell_inside {row : Row} {index : Nat} (inside : index < row.values.length) :
    cell row index = .ok row.values[index] := by
  rw [cell, List.getElem?_eq_getElem inside]

theorem join_row_inside {left : Row} {nameIndex keyIndex itemIndex : Nat} {rights : List Row}
    (nameInside : nameIndex < left.values.length) (keyInside : ∀ right ∈ rights, keyIndex < right.values.length)
    (itemInside : ∀ right ∈ rights, itemIndex < right.values.length) :
    ∃ lines, joinRow left nameIndex keyIndex itemIndex rights = .ok lines := by
  induction rights with
  | nil => exact ⟨[], rfl⟩
  | cons right rest ih =>
    obtain ⟨keyHere, keyBehind⟩ := List.forall_mem_cons.mp keyInside
    obtain ⟨itemHere, itemBehind⟩ := List.forall_mem_cons.mp itemInside
    obtain ⟨lines, others⟩ := ih keyBehind itemBehind
    simp only [joinRow, cell_inside nameInside, cell_inside keyHere, cell_inside itemHere, others, bind, Except.bind,
      pure, Except.pure]
    split
    · exact ⟨_, rfl⟩
    · exact ⟨_, rfl⟩

theorem join_rows_inside {nameIndex keyIndex itemIndex : Nat} {lefts rights : List Row}
    (nameInside : ∀ left ∈ lefts, nameIndex < left.values.length)
    (keyInside : ∀ right ∈ rights, keyIndex < right.values.length)
    (itemInside : ∀ right ∈ rights, itemIndex < right.values.length) :
    ∃ lines, joinRows nameIndex keyIndex itemIndex rights lefts = .ok lines := by
  induction lefts with
  | nil => exact ⟨[], rfl⟩
  | cons left rest ih =>
    obtain ⟨atHead, behind⟩ := List.forall_mem_cons.mp nameInside
    obtain ⟨others, joined⟩ := ih behind
    obtain ⟨lines, first⟩ := join_row_inside atHead keyInside itemInside
    exact ⟨lines ++ others, by simp [joinRows, first, joined, bind, Except.bind, pure, Except.pure]⟩

variable {db : Database}

theorem table_present {name : String} {table : Table} (present : db.table? name = some table) :
    db.table name = .ok table := by
  rw [Database.table, present]

theorem table_absent {name : String} (absent : db.table? name = none) : db.table name = .error (.tableNotFound name) := by
  rw [Database.table, absent]

theorem select_absent {name : String} (absent : db.table? name = none) (projection : Projection) (key : Option Int64) :
    db.select name projection key = .error (.tableNotFound name) := by
  rw [select, table_absent absent]
  rfl

theorem select_unprojected {name : String} {table : Table} (present : db.table? name = some table)
    {projection : Projection} {error : StoreError} (failed : projected table projection = .error error)
    (key : Option Int64) : db.select name projection key = .error error := by
  rw [select, table_present present]
  simp only [failed, bind, Except.bind]

theorem select_picked {name : String} {table : Table} (present : db.table? name = some table) {projection : Projection}
    {indexes : List Nat} (asked : projected table projection = .ok indexes) {columns : List String}
    (header : pick table.schema.columnNames indexes = .ok columns) (key : Option Int64) :
    db.select name projection key = (pickRows indexes (selected table key)).map fun rows => .rows ⟨columns, rows⟩ := by
  rw [select, table_present present]
  simp only [asked, header, bind, Except.bind]
  cases pickRows indexes (selected table key) with
  | error error => rfl
  | ok rows => rfl

theorem select_projected (consistent : db.Consistent) {name : String} {table : Table}
    (present : db.table? name = some table) {projection : Projection} {indexes : List Nat}
    (asked : projected table projection = .ok indexes) (key : Option Int64) :
    ∃ set, db.select name projection key = .ok (.rows set) ∧ set.Rectangular := by
  have inside := (projected_faultless table projection).ok asked
  have tableConsistent := consistent.tables name table present
  obtain ⟨columns, named, width⟩ := pick_inside table.schema.columnNames
    (by simpa [Schema.columnNames, Schema.width] using inside)
  have rowsInside : ∀ row ∈ selected table key, ∀ index ∈ indexes, index < row.values.length := by
    intro row listed index asked
    exact selected_inside tableConsistent key (inside index asked) row listed
  obtain ⟨cells, picked, widths⟩ := pick_rows_inside rowsInside
  refine ⟨⟨columns, cells⟩, ?_, ?_⟩
  · rw [select_picked present asked named, picked]
    rfl
  · intro row listed
    rw [widths row listed, width]

theorem select_faultless (consistent : db.Consistent) (name : String) (projection : Projection) (key : Option Int64) :
    Faultless Answer.Rectangular (db.select name projection key) := by
  cases present : db.table? name with
  | none =>
    rw [select_absent present]
    simp [Faultless, StoreError.family]
  | some table =>
    rcases (projected_faultless table projection).cases with ⟨indexes, asked, _⟩ | ⟨error, failed, family⟩
    · obtain ⟨set, answered, rectangular⟩ := select_projected consistent present asked key
      rw [answered]
      exact rectangular
    · rw [select_unprojected present failed]
      exact family

theorem join_tables_inside (consistent : db.Consistent) {leftName rightName : String} {left right : Table}
    (leftPresent : db.table? leftName = some left) (rightPresent : db.table? rightName = some right)
    {nameIndex keyIndex itemIndex : Nat} (nameInside : nameIndex < left.schema.width)
    (keyInside : keyIndex < right.schema.width) (itemInside : itemIndex < right.schema.width) :
    ∃ lines, joinRows nameIndex keyIndex itemIndex right.allRows left.allRows = .ok lines := by
  have leftConsistent := consistent.tables leftName left leftPresent
  have rightConsistent := consistent.tables rightName right rightPresent
  exact join_rows_inside (all_rows_inside leftConsistent nameInside) (all_rows_inside rightConsistent keyInside)
    (all_rows_inside rightConsistent itemInside)

theorem join_indexed (consistent : db.Consistent) {leftName rightName : String} {left right : Table}
    (leftPresent : db.table? leftName = some left) (rightPresent : db.table? rightName = some right)
    {nameIndex keyIndex itemIndex : Nat} (nameFound : columnIndex left "username" = .ok nameIndex)
    (keyFound : columnIndex right "user_id" = .ok keyIndex) (itemFound : columnIndex right "item" = .ok itemIndex) :
    ∃ lines, db.join leftName rightName = .ok (.joined lines) := by
  have nameInside := (column_index_faultless left "username").ok nameFound
  have keyInside := (column_index_faultless right "user_id").ok keyFound
  have itemInside := (column_index_faultless right "item").ok itemFound
  obtain ⟨lines, joined⟩ := join_tables_inside consistent leftPresent rightPresent nameInside keyInside itemInside
  refine ⟨lines, ?_⟩
  rw [join, table_present leftPresent, table_present rightPresent]
  simp only [nameFound, keyFound, itemFound, joined, bind, Except.bind]
  rfl

theorem join_faultless (consistent : db.Consistent) (leftName rightName : String) :
    Faultless Answer.Rectangular (db.join leftName rightName) := by
  refine (table_faultless db leftName).bind fun left leftPresent => ?_
  refine (table_faultless db rightName).bind fun right rightPresent => ?_
  refine (column_index_faultless left "username").bind fun nameIndex nameInside => ?_
  refine (column_index_faultless right "user_id").bind fun keyIndex keyInside => ?_
  refine (column_index_faultless right "item").bind fun itemIndex itemInside => ?_
  obtain ⟨lines, joined⟩ := join_tables_inside consistent leftPresent rightPresent nameInside keyInside itemInside
  rw [joined]
  trivial

theorem query_faultless (consistent : db.Consistent) {statement : Statement} (reads : statement.isReadOnly = true) :
    Faultless Answer.Rectangular (db.query statement) := by
  cases statement with
  | select table projection key => exact select_faultless consistent table projection key
  | join left right predicate => exact join_faultless consistent left right
  | unknown keyword => trivial
  | createTable | dropTable | insert | update | delete => cases reads

theorem query_reading {statement : Statement} {answer : Answer} (shown : db.query statement = .ok answer) :
    answer.isReading = true := by
  cases statement with
  | select name projection key =>
    obtain ⟨table, _, shown⟩ := bind_ok shown
    obtain ⟨indexes, _, shown⟩ := bind_ok shown
    obtain ⟨columns, _, shown⟩ := bind_ok shown
    obtain ⟨rows, _, shown⟩ := bind_ok shown
    cases shown
    rfl
  | join left right predicate =>
    obtain ⟨leftTable, _, shown⟩ := bind_ok shown
    obtain ⟨rightTable, _, shown⟩ := bind_ok shown
    obtain ⟨nameIndex, _, shown⟩ := bind_ok shown
    obtain ⟨keyIndex, _, shown⟩ := bind_ok shown
    obtain ⟨itemIndex, _, shown⟩ := bind_ok shown
    obtain ⟨lines, _, shown⟩ := bind_ok shown
    cases shown
    rfl
  | unknown keyword =>
    cases shown
    rfl
  | createTable | dropTable | insert | update | delete => cases shown

theorem execute_read_only (db : Database) {statement : Statement} (reads : statement.isReadOnly = true) :
    db.execute statement = (db.query statement, db) := by
  cases statement with
  | select | join | unknown => rfl
  | createTable | dropTable | insert | update | delete => cases reads

end Database

end TableStore
