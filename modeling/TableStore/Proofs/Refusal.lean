import TableStore.Proofs.Run

set_option autoImplicit false

/- Reasons are told by the tables, the schemas and the literals, in the order in which they are checked. -/
namespace TableStore

inductive First {α : Type} (holds : α → Prop) : List α → α → Prop
  | here {item : α} {rest : List α} (found : holds item) : First holds (item :: rest) item
  | later {head item : α} {rest : List α} (passed : ¬ holds head) (behind : First holds rest item) :
    First holds (head :: rest) item

section
variable {α β : Type} {holds : α → Prop} {item : α}

theorem first_nil : ¬ First holds [] item := by
  intro first
  cases first

theorem first_cons_iff {head : α} {rest : List α} :
    First holds (head :: rest) item ↔ holds head ∧ item = head ∨ ¬ holds head ∧ First holds rest item := by
  constructor
  · intro first
    cases first with
    | here found => exact .inl ⟨found, rfl⟩
    | later passed behind => exact .inr ⟨passed, behind⟩
  · rintro (⟨found, rfl⟩ | ⟨passed, behind⟩)
    · exact .here found
    · exact .later passed behind

theorem First.found {items : List α} (first : First holds items item) : item ∈ items ∧ holds item := by
  induction first with
  | here found => exact ⟨List.mem_cons_self .., found⟩
  | later passed behind ih => exact ⟨List.mem_cons_of_mem _ ih.1, ih.2⟩

-- A traversal that stops at the first bad item fails by the error of that item.
theorem traversal_error_iff (traverse : List α → Except StoreError β) (blame : α → StoreError)
    (none : ∀ error, traverse [] ≠ .error error)
    (step : ∀ head rest error, traverse (head :: rest) = .error error ↔
      holds head ∧ error = blame head ∨ ¬ holds head ∧ traverse rest = .error error)
    (items : List α) (error : StoreError) :
    traverse items = .error error ↔ ∃ item, First holds items item ∧ error = blame item := by
  induction items with
  | nil => simp [none, first_nil]
  | cons head rest ih =>
    rw [step, ih]
    simp only [first_cons_iff]
    constructor
    · rintro (⟨found, same⟩ | ⟨passed, item, behind, same⟩)
      · exact ⟨head, .inl ⟨found, rfl⟩, same⟩
      · exact ⟨item, .inr ⟨passed, behind⟩, same⟩
    · rintro ⟨item, ⟨found, rfl⟩ | ⟨passed, behind⟩, same⟩
      · exact .inl ⟨found, same⟩
      · exact .inr ⟨passed, item, behind, same⟩

theorem map_error_iff {result : Except StoreError α} {next : α → β} {error : StoreError} :
    result.map next = .error error ↔ result = .error error := by
  cases result with
  | ok value => simp [Except.map]
  | error cause => simp [Except.map]

end

def Unread (type : ColumnType) (literal : String) : Prop :=
  type = .integer ∧ Decimal.read (Value.bare literal) = none

theorem coerce_unread {type : ColumnType} {literal : String} (unread : Unread type literal) (column : String) :
    Value.coerce literal type column = .error (.typeCoercion column (Value.bare literal)) := by
  obtain ⟨typed, none⟩ := unread
  subst typed
  rw [Value.coerce.eq_def, none]

theorem coerce_read {type : ColumnType} {literal : String} (readable : ¬ Unread type literal) (column : String) :
    ∃ value, Value.coerce literal type column = .ok value := by
  cases type with
  | text => exact ⟨.text (Value.bare literal), by rw [Value.coerce.eq_def]⟩
  | integer =>
    cases found : Decimal.read (Value.bare literal) with
    | none => exact absurd ⟨rfl, found⟩ readable
    | some n => exact ⟨.integer n, coerce_integer_iff.mpr found⟩

namespace Row

def UnreadCell (cell : Column × String) : Prop := Unread cell.1.type cell.2

theorem coerce_all_error_iff {columns : List Column} {literals : List String} (same : literals.length = columns.length)
    (error : StoreError) :
    coerceAll columns literals = .error error ↔
      ∃ cell, First UnreadCell (columns.zip literals) cell ∧
        error = .typeCoercion cell.1.name (Value.bare cell.2) := by
  have step : ∀ (head : Column × String) (rest : List (Column × String)) (error : StoreError),
      coerceAll ((head :: rest).map (·.1)) ((head :: rest).map (·.2)) = .error error ↔
        UnreadCell head ∧ error = .typeCoercion head.1.name (Value.bare head.2) ∨
          ¬ UnreadCell head ∧ coerceAll (rest.map (·.1)) (rest.map (·.2)) = .error error := by
    intro head rest error
    rw [List.map_cons, List.map_cons, coerceAll, UnreadCell]
    by_cases unread : Unread head.1.type head.2
    · simp [coerce_unread unread, unread, eq_comm]
    · obtain ⟨value, coerced⟩ := coerce_read unread head.1.name
      simp [coerced, unread, map_error_iff]
  have traversal := traversal_error_iff
    (fun cells : List (Column × String) => coerceAll (cells.map (·.1)) (cells.map (·.2)))
    (fun cell => .typeCoercion cell.1.name (Value.bare cell.2)) (by simp [coerceAll]) step (columns.zip literals) error
  simp only [List.map_fst_zip (Nat.le_of_eq same.symm), List.map_snd_zip (Nat.le_of_eq same)] at traversal
  exact traversal

theorem of_literals_error_iff {schema : Schema} (sound : schema.Sound) (literals : List String) (error : StoreError) :
    ofLiterals schema literals = .error error ↔
      literals.length < schema.width ∧ error = .malformed (.tooFewLiterals schema.width literals.length) ∨
        schema.width < literals.length ∧ error = .malformed (.wrongValueCount schema.width literals.length) ∨
        literals.length = schema.width ∧ ∃ cell, First UnreadCell (schema.columns.zip literals) cell ∧
          error = .typeCoercion cell.1.name (Value.bare cell.2) := by
  rw [ofLiterals]
  by_cases fewer : literals.length < schema.width
  · have notMore : ¬ schema.width < literals.length := by omega
    have notSame : literals.length ≠ schema.width := by omega
    simp [fewer, notMore, notSame, eq_comm]
  · by_cases more : schema.width < literals.length
    · have notSame : literals.length ≠ schema.width := by omega
      simp [fewer, more, notSame, eq_comm]
    · have same : literals.length = schema.width := by omega
      rw [if_neg fewer, if_neg more]
      simp only [same, Nat.lt_irrefl, false_and, false_or, true_and, ← coerce_all_error_iff same]
      cases coerced : coerceAll schema.columns literals with
      | error cause => simp
      | ok values =>
        obtain ⟨id, bound, _⟩ := of_values_typed sound (coerce_all_typed same coerced)
        simp [bound]

end Row

namespace Database

def Undeclared (schema : Schema) (column : String) : Prop := column ∉ schema.columnNames

theorem column_index_undeclared {table : Table} {column : String} (undeclared : Undeclared table.schema column) :
    columnIndex table column = .error (.columnNotFound table.name column) := by
  rw [columnIndex, (Schema.column_index_none_iff column).mpr undeclared]

theorem column_index_declared {table : Table} {column : String} (declared : ¬ Undeclared table.schema column) :
    ∃ index, columnIndex table column = .ok index := by
  cases found : table.schema.columnIndex? column with
  | none => exact absurd ((Schema.column_index_none_iff column).mp found) declared
  | some index => exact ⟨index, by rw [columnIndex, found]⟩

theorem column_indexes_error_iff (table : Table) (names : List String) (error : StoreError) :
    columnIndexes table names = .error error ↔
      ∃ column, First (Undeclared table.schema) names column ∧ error = .columnNotFound table.name column := by
  refine traversal_error_iff (columnIndexes table) (.columnNotFound table.name) (by simp [columnIndexes]) ?_ names error
  intro head rest error
  rw [columnIndexes]
  by_cases undeclared : Undeclared table.schema head
  · simp [column_index_undeclared undeclared, undeclared, eq_comm]
  · obtain ⟨index, found⟩ := column_index_declared undeclared
    simp [found, undeclared, map_error_iff]

def Unassignable (schema : Schema) (assignment : Assignment) : Prop :=
  Undeclared schema assignment.column ∨ ∃ column ∈ schema.columns, column.name = assignment.column ∧
    column.name ≠ keyName ∧ Unread column.type assignment.value

def blame (table : Table) (assignment : Assignment) : StoreError :=
  if assignment.column ∈ table.schema.columnNames then .typeCoercion assignment.column (Value.bare assignment.value)
  else .columnNotFound table.name assignment.column

theorem declared_of_listed {schema : Schema} {index : Nat} {column : Column}
    (listed : schema.columns[index]? = some column) : column.name ∈ schema.columnNames :=
  List.mem_map_of_mem (List.mem_of_getElem? listed)

theorem unassignable_iff {schema : Schema} (sound : schema.Sound) {index : Nat} {column : Column}
    (listed : schema.columns[index]? = some column) {assignment : Assignment} (named : column.name = assignment.column) :
    Unassignable schema assignment ↔ index ≠ schema.keyIndex ∧ Unread column.type assignment.value := by
  constructor
  · rintro (undeclared | ⟨other, present, sameName, notKey, unread⟩)
    · exact absurd (named ▸ declared_of_listed listed) undeclared
    · obtain ⟨place, found⟩ := List.mem_iff_getElem?.mp present
      have samePlace := sound.same_index found listed (sameName.trans named.symm)
      subst samePlace
      rw [listed] at found
      cases found
      refine ⟨?_, unread⟩
      rintro rfl
      rw [sound.key] at listed
      cases listed
      exact notKey rfl
  · rintro ⟨other, unread⟩
    refine .inr ⟨column, List.mem_of_getElem? listed, named, ?_, unread⟩
    exact fun isKey => other (sound.key_only listed isKey)

theorem changes_error_iff {table : Table} (sound : table.schema.Sound) (assignments : List Assignment)
    (error : StoreError) :
    changes table assignments = .error error ↔
      ∃ assignment, First (Unassignable table.schema) assignments assignment ∧ error = blame table assignment := by
  refine traversal_error_iff (changes table) (blame table) (by simp [changes]) ?_ assignments error
  intro head rest error
  rw [changes, columnIndex]
  cases found : table.schema.columnIndex? head.column with
  | none =>
    have absent := (Schema.column_index_none_iff head.column).mp found
    have bad : Unassignable table.schema head := .inl absent
    simp [bad, blame, absent, bind, Except.bind, eq_comm]
  | some index =>
    obtain ⟨column, listed, named⟩ := Schema.column_index_some found
    have declared := declared_of_listed listed
    rw [named] at declared
    rw [unassignable_iff sound listed named]
    by_cases isKey : index = table.schema.keyIndex
    · simp [isKey, bind, Except.bind]
    · by_cases unread : Unread column.type head.value
      · simp [isKey, listed, unread, coerce_unread unread, blame, declared, bind, Except.bind, eq_comm]
      · obtain ⟨value, coerced⟩ := coerce_read unread head.column
        simp only [listed, coerced, unread, isKey, bind, Except.bind, if_false]
        cases changes table rest <;> simp [pure, Except.pure]

def neededTables : Statement → List String
  | .dropTable name | .insert name _ | .select name _ _ | .update name _ _ | .delete name _ => [name]
  | .join left right _ => [left, right]
  | .createTable .. | .unknown _ => []

def MissingTable (db : Database) (name : String) : Prop := db.table? name = none

def MissingColumn (db : Database) (needed : String × String) : Prop :=
  ∃ table, db.table? needed.1 = some table ∧ Undeclared table.schema needed.2

inductive Refused (db : Database) : Statement → StoreError → Prop
  | missingTable {statement : Statement} {name : String} (first : First db.MissingTable (neededTables statement) name) :
    Refused db statement (.tableNotFound name)
  | takenName {name : String} {columns : List ColumnDef} {table : Table} (taken : db.table? name = some table) :
    Refused db (.createTable name columns) (.tableExists name)
  | repeatedColumn {name : String} {columns : List ColumnDef} {before behind : List String} {column : String}
      (free : db.table? name = none) (split : columns.map (·.name) = before ++ column :: behind)
      (distinct : before.Nodup) (again : column ∈ before) :
    Refused db (.createTable name columns) (.duplicateColumn column)
  | missingKey {name : String} {columns : List ColumnDef} (free : db.table? name = none)
      (distinct : (columns.map (·.name)).Nodup)
      (keyless : ∀ declared ∈ columns, declared.name = keyName → ColumnType.named declared.typeName ≠ .integer) :
    Refused db (.createTable name columns) .missingPrimaryKey
  | tooFewLiterals {name : String} {literals : List String} {table : Table} (present : db.table? name = some table)
      (fewer : literals.length < table.schema.width) :
    Refused db (.insert name literals) (.malformed (.tooFewLiterals table.schema.width literals.length))
  | tooManyLiterals {name : String} {literals : List String} {table : Table} (present : db.table? name = some table)
      (more : table.schema.width < literals.length) :
    Refused db (.insert name literals) (.malformed (.wrongValueCount table.schema.width literals.length))
  | unreadLiteral {name : String} {literals : List String} {table : Table} {column : Column} {literal : String}
      (present : db.table? name = some table) (same : literals.length = table.schema.width)
      (first : First Row.UnreadCell (table.schema.columns.zip literals) (column, literal)) :
    Refused db (.insert name literals) (.typeCoercion column.name (Value.bare literal))
  | missingRow {name : String} {assignments : List Assignment} {key : Int64} {table : Table}
      (present : db.table? name = some table) (absent : table.row? key = none) :
    Refused db (.update name assignments key) (.rowNotFound name key)
  | undeclaredAssignment {name : String} {assignments : List Assignment} {key : Int64} {table : Table} {row : Row}
      {assignment : Assignment} (present : db.table? name = some table) (stored : table.row? key = some row)
      (first : First (Unassignable table.schema) assignments assignment)
      (undeclared : Undeclared table.schema assignment.column) :
    Refused db (.update name assignments key) (.columnNotFound name assignment.column)
  | unreadAssignment {name : String} {assignments : List Assignment} {key : Int64} {table : Table} {row : Row}
      {assignment : Assignment} (present : db.table? name = some table) (stored : table.row? key = some row)
      (first : First (Unassignable table.schema) assignments assignment)
      (declared : ¬ Undeclared table.schema assignment.column) :
    Refused db (.update name assignments key) (.typeCoercion assignment.column (Value.bare assignment.value))
  | undeclaredProjection {name : String} {names : List String} {key : Option Int64} {table : Table} {column : String}
      (present : db.table? name = some table) (first : First (Undeclared table.schema) names column) :
    Refused db (.select name (.columns names) key) (.columnNotFound name column)
  | unjoinable {left right predicate : String} {leftTable rightTable : Table} {needed : String × String}
      (leftPresent : db.table? left = some leftTable) (rightPresent : db.table? right = some rightTable)
      (first : First db.MissingColumn [(left, "username"), (right, "user_id"), (right, "item")] needed) :
    Refused db (.join left right predicate) (.columnNotFound needed.1 needed.2)

variable {db : Database} {error : StoreError}

theorem create_table_refused {name : String} {columns : List ColumnDef}
    (failed : (db.createTable name columns).1 = .error error) : db.Refused (.createTable name columns) error := by
  rw [createTable] at failed
  cases present : db.table? name with
  | some table =>
    have taken : db.contains name = true := congrArg Option.isSome present
    rw [if_pos taken] at failed
    cases failed
    exact .takenName present
  | none =>
    have free : db.contains name = false := congrArg Option.isSome present
    rw [free, if_neg Bool.false_ne_true] at failed
    cases accepted : Schema.ofColumns (columns.map (·.column)) with
    | ok schema =>
      simp [accepted, create, free, Except.map] at failed
    | error cause =>
      rw [accepted] at failed
      cases failed
      rcases (Schema.of_columns_error_iff _ _).mp accepted with ⟨column, repeated, rfl⟩ | ⟨single, keyless, rfl⟩
      · obtain ⟨before, behind, split, distinct, again⟩ := (Schema.first_repeated_iff _ column).mp repeated
        rw [List.map_map] at split
        exact .repeatedColumn present split distinct again
      · have distinct := ((Schema.first_repeated_none_iff [] _).mp single).1
        rw [List.map_map] at distinct
        refine .missingKey present distinct ?_
        intro declared listed named typed
        refine keyless (List.mem_map.mpr ⟨declared, listed, ?_⟩)
        rw [ColumnDef.column, named, typed]

theorem insert_refused (consistent : db.Consistent) {name : String} {literals : List String}
    (failed : (db.execute (.insert name literals)).1 = .error error) : db.Refused (.insert name literals) error := by
  rw [execute] at failed
  cases present : db.table? name with
  | none =>
    rw [on_table_absent present] at failed
    cases failed
    exact .missingTable (.here present)
  | some table =>
    rw [on_table_present present] at failed
    have sound := (consistent.tables name table present).schema
    cases bound : Row.ofLiterals table.schema literals with
    | ok row =>
      rw [insert_into_bound sound name bound] at failed
      cases failed
    | error cause =>
      rw [insert_into_unbound name bound] at failed
      cases failed
      rcases (Row.of_literals_error_iff sound literals error).mp bound with
        ⟨fewer, rfl⟩ | ⟨more, rfl⟩ | ⟨same, cell, first, rfl⟩
      · exact .tooFewLiterals present fewer
      · exact .tooManyLiterals present more
      · exact .unreadLiteral present same first

theorem update_refused (consistent : db.Consistent) {name : String} {assignments : List Assignment} {key : Int64}
    (failed : (db.execute (.update name assignments key)).1 = .error error) :
    db.Refused (.update name assignments key) error := by
  rw [execute] at failed
  cases present : db.table? name with
  | none =>
    rw [on_table_absent present] at failed
    cases failed
    exact .missingTable (.here present)
  | some table =>
    rw [on_table_present present] at failed
    have tableConsistent := consistent.tables name table present
    cases stored : table.row? key with
    | none =>
      rw [updateIn, stored] at failed
      cases failed
      exact .missingRow present stored
    | some row =>
      cases resolved : changes table assignments with
      | ok cells =>
        rw [update_in_resolved tableConsistent name stored resolved] at failed
        cases failed
      | error cause =>
        rw [updateIn, stored, resolved] at failed
        cases failed
        obtain ⟨assignment, first, rfl⟩ := (changes_error_iff tableConsistent.schema assignments error).mp resolved
        rw [blame]
        by_cases declared : assignment.column ∈ table.schema.columnNames
        · rw [if_pos declared]
          exact .unreadAssignment present stored first (Decidable.not_not.mpr declared)
        · rw [if_neg declared, consistent.named name table present]
          exact .undeclaredAssignment present stored first declared

theorem select_refused (consistent : db.Consistent) {name : String} {projection : Projection} {key : Option Int64}
    (failed : db.select name projection key = .error error) : db.Refused (.select name projection key) error := by
  cases present : db.table? name with
  | none =>
    rw [select_absent present] at failed
    cases failed
    exact .missingTable (.here present)
  | some table =>
    cases asked : projected table projection with
    | ok indexes =>
      obtain ⟨set, answered, _⟩ := select_projected consistent present asked key
      rw [answered] at failed
      cases failed
    | error cause =>
      rw [select_unprojected present asked] at failed
      cases failed
      cases projection with
      | all => cases asked
      | columns names =>
        obtain ⟨column, first, rfl⟩ := (column_indexes_error_iff table names error).mp asked
        rw [consistent.named name table present]
        exact .undeclaredProjection present first

theorem missing_column_iff {name : String} {table : Table} (present : db.table? name = some table) (column : String) :
    db.MissingColumn (name, column) ↔ Undeclared table.schema column := by
  constructor
  · rintro ⟨other, found, undeclared⟩
    rw [present] at found
    cases found
    exact undeclared
  · exact fun undeclared => ⟨table, present, undeclared⟩

theorem join_error_iff (consistent : db.Consistent) {left right : String} {leftTable rightTable : Table}
    (leftPresent : db.table? left = some leftTable) (rightPresent : db.table? right = some rightTable) :
    db.join left right = .error error ↔ ∃ needed,
      First db.MissingColumn [(left, "username"), (right, "user_id"), (right, "item")] needed ∧
        error = .columnNotFound needed.1 needed.2 := by
  have leftNamed := consistent.named left leftTable leftPresent
  have rightNamed := consistent.named right rightTable rightPresent
  simp only [first_cons_iff, first_nil, missing_column_iff leftPresent, missing_column_iff rightPresent]
  by_cases noName : Undeclared leftTable.schema "username"
  · have failed : db.join left right = .error (.columnNotFound left "username") := by
      rw [join, table_present leftPresent, table_present rightPresent, ← leftNamed]
      simp only [column_index_undeclared noName, bind, Except.bind]
    simp [failed, noName, eq_comm]
  obtain ⟨nameIndex, nameFound⟩ := column_index_declared noName
  by_cases noKey : Undeclared rightTable.schema "user_id"
  · have failed : db.join left right = .error (.columnNotFound right "user_id") := by
      rw [join, table_present leftPresent, table_present rightPresent, ← rightNamed]
      simp only [nameFound, column_index_undeclared noKey, bind, Except.bind]
    simp [failed, noName, noKey, eq_comm]
  obtain ⟨keyIndex, keyFound⟩ := column_index_declared noKey
  by_cases noItem : Undeclared rightTable.schema "item"
  · have failed : db.join left right = .error (.columnNotFound right "item") := by
      rw [join, table_present leftPresent, table_present rightPresent, ← rightNamed]
      simp only [nameFound, keyFound, column_index_undeclared noItem, bind, Except.bind]
    simp [failed, noName, noKey, noItem, eq_comm]
  · obtain ⟨itemIndex, itemFound⟩ := column_index_declared noItem
    obtain ⟨lines, answered⟩ := join_indexed consistent leftPresent rightPresent nameFound keyFound itemFound
    simp [answered, noName, noKey, noItem]

theorem join_refused (consistent : db.Consistent) {left right : String} (predicate : String)
    (failed : db.join left right = .error error) : db.Refused (.join left right predicate) error := by
  cases leftPresent : db.table? left with
  | none =>
    rw [join, table_absent leftPresent] at failed
    cases failed
    exact .missingTable (.here leftPresent)
  | some leftTable =>
    cases rightPresent : db.table? right with
    | none =>
      rw [join, table_present leftPresent, table_absent rightPresent] at failed
      cases failed
      refine .missingTable (.later ?_ (.here rightPresent))
      simp [MissingTable, leftPresent]
    | some rightTable =>
      obtain ⟨needed, first, rfl⟩ := (join_error_iff consistent leftPresent rightPresent).mp failed
      exact .unjoinable leftPresent rightPresent first

theorem error_refused (consistent : db.Consistent) {statement : Statement}
    (failed : (db.execute statement).1 = .error error) : db.Refused statement error := by
  cases statement with
  | createTable name columns => exact create_table_refused failed
  | dropTable name =>
    rw [execute, dropTable, drop] at failed
    cases present : db.table? name with
    | none =>
      rw [present] at failed
      cases failed
      exact .missingTable (.here present)
    | some table =>
      rw [present] at failed
      cases failed
  | insert name literals => exact insert_refused consistent failed
  | select name projection key => exact select_refused consistent failed
  | join left right predicate => exact join_refused consistent predicate failed
  | update name assignments key => exact update_refused consistent failed
  | delete name key =>
    rw [execute] at failed
    cases present : db.table? name with
    | none =>
      rw [on_table_absent present] at failed
      cases failed
      exact .missingTable (.here present)
    | some table =>
      rw [on_table_present present] at failed
      cases failed
  | unknown keyword => cases failed

theorem missing_table_fails {statement : Statement} {name : String}
    (first : First db.MissingTable (neededTables statement) name) :
    (db.execute statement).1 = .error (.tableNotFound name) := by
  cases statement with
  | createTable | unknown => cases first
  | dropTable table =>
    cases first with
    | here absent => rw [execute, dropTable, drop, show db.table? name = none from absent]; rfl
    | later _ behind => cases behind
  | insert | update | delete =>
    cases first with
    | here absent => rw [execute, on_table_absent absent]
    | later _ behind => cases behind
  | select table projection key =>
    cases first with
    | here absent => exact select_absent absent projection key
    | later _ behind => cases behind
  | join left right predicate =>
    cases first with
    | here absent =>
      change db.join name right = _
      rw [join, table_absent absent]
      rfl
    | later present behind =>
      cases behind with
      | here absent =>
        obtain ⟨table, found⟩ := Option.ne_none_iff_exists'.mp present
        change db.join left name = _
        rw [join, table_present found, table_absent absent]
        rfl
      | later _ behind => cases behind

theorem refused_fails (consistent : db.Consistent) {statement : Statement} (refused : db.Refused statement error) :
    (db.execute statement).1 = .error error := by
  cases refused with
  | missingTable first => exact missing_table_fails first
  | @takenName name columns table taken =>
    have present : db.contains name = true := congrArg Option.isSome taken
    rw [execute, createTable, if_pos present]
  | @repeatedColumn name columns before behind column free split distinct again =>
    have absent : db.contains name = false := congrArg Option.isSome free
    have repeated := (Schema.first_repeated_iff (columns.map (·.name)) column).mpr ⟨before, behind, split, distinct, again⟩
    have refused : Schema.ofColumns (columns.map (·.column)) = .error (.duplicateColumn column) := by
      refine (Schema.of_columns_error_iff _ _).mpr (.inl ⟨column, ?_, rfl⟩)
      rw [List.map_map]
      exact repeated
    rw [execute, createTable, absent, if_neg Bool.false_ne_true, refused]
  | @missingKey name columns free distinct keyless =>
    have absent : db.contains name = false := congrArg Option.isSome free
    have single := (Schema.first_repeated_none_iff [] (columns.map (·.name))).mpr ⟨distinct, by simp⟩
    have refused : Schema.ofColumns (columns.map (·.column)) = .error .missingPrimaryKey := by
      refine (Schema.of_columns_error_iff _ _).mpr (.inr ⟨?_, ?_, rfl⟩)
      · rw [List.map_map]
        exact single
      · intro listed
        obtain ⟨declared, given, same⟩ := List.mem_map.mp listed
        exact keyless declared given (congrArg Column.name same) (congrArg Column.type same)
    rw [execute, createTable, absent, if_neg Bool.false_ne_true, refused]
  | @tooFewLiterals name literals table present fewer =>
    have sound := (consistent.tables name table present).schema
    have unbound := (Row.of_literals_error_iff sound literals _).mpr (.inl ⟨fewer, rfl⟩)
    rw [execute, on_table_present present, insert_into_unbound name unbound]
  | @tooManyLiterals name literals table present more =>
    have sound := (consistent.tables name table present).schema
    have unbound := (Row.of_literals_error_iff sound literals _).mpr (.inr (.inl ⟨more, rfl⟩))
    rw [execute, on_table_present present, insert_into_unbound name unbound]
  | @unreadLiteral name literals table column literal present same first =>
    have sound := (consistent.tables name table present).schema
    have unbound := (Row.of_literals_error_iff sound literals _).mpr (.inr (.inr ⟨same, _, first, rfl⟩))
    rw [execute, on_table_present present, insert_into_unbound name unbound]
  | missingRow present absent => rw [execute, on_table_present present, updateIn, absent]
  | @undeclaredAssignment name assignments key table row assignment present stored first undeclared =>
    have sound := (consistent.tables name table present).schema
    have unresolved := (changes_error_iff sound assignments _).mpr ⟨assignment, first, rfl⟩
    rw [execute, on_table_present present, updateIn, stored, unresolved, blame, if_neg undeclared,
      consistent.named name table present]
  | @unreadAssignment name assignments key table row assignment present stored first declared =>
    have sound := (consistent.tables name table present).schema
    have unresolved := (changes_error_iff sound assignments _).mpr ⟨assignment, first, rfl⟩
    rw [execute, on_table_present present, updateIn, stored, unresolved, blame, if_pos (Decidable.not_not.mp declared)]
  | @undeclaredProjection name names key table column present first =>
    have failed : projected table (.columns names) = .error (.columnNotFound table.name column) :=
      (column_indexes_error_iff table names _).mpr ⟨column, first, rfl⟩
    rw [consistent.named name table present] at failed
    exact select_unprojected present failed key
  | unjoinable leftPresent rightPresent first =>
    exact (join_error_iff consistent leftPresent rightPresent).mpr ⟨_, first, rfl⟩

theorem refusals_are_exact (events : List Event) (statement : Statement) :
    (∀ error, ((reached events).execute statement).1 = .error error ↔ (reached events).Refused statement error) ∧
      ((∃ answer, ((reached events).execute statement).1 = .ok answer) ↔
        ∀ error, ¬ (reached events).Refused statement error) := by
  have consistent := reached_consistent events
  have exact : ∀ error, ((reached events).execute statement).1 = .error error ↔ (reached events).Refused statement error :=
    fun error => ⟨error_refused consistent, refused_fails consistent⟩
  refine ⟨exact, ?_⟩
  simp only [← exact]
  cases ((reached events).execute statement).1 with
  | ok answer => simp
  | error error => simp

end Database

end TableStore
