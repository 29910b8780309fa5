import TableStore.Proofs.History
import TableStore.Proofs.Run

set_option autoImplicit false

/- What the log says of a database is kept by every statement. -/
namespace TableStore.History

def RowShows (columns : List Column) (written : Entry) (row : Row) : Prop :=
  ∀ (index : Nat) (column : Column), columns[index]? = some column → column.name ≠ keyName →
    ∃ literal value, lastLiteral columns written column.name = some literal ∧
      Value.coerce literal column.type column.name = .ok value ∧ row.values[index]? = some value

structure TableShows (name : String) (life : Lifetime) (table : Table) : Prop where
  columns : table.schema.columns = life.columns
  rows : ∀ key, Option.Rel (RowShows life.columns) (entry name life.columns key life.since) (table.row? key)

def Tracks (log : List Statement) (db : Database) : Prop :=
  ∀ name, Option.Rel (TableShows name) (lifetime name log) (db.table? name)

theorem empty_tracks : Tracks [] .empty := fun _ => .none

section
variable {α β : Type} {shows : α → β → Prop} {told : Option α} {held : Option β}

theorem told_of_held (both : Option.Rel shows told held) {b : β} (present : held = some b) :
    ∃ a, told = some a ∧ shows a b := by
  subst present
  cases both with
  | some related => exact ⟨_, rfl, related⟩

theorem untold_of_absent (both : Option.Rel shows told held) (absent : held = none) : told = none := by
  subst absent
  cases both
  rfl

end

theorem key_of_bound {schema : Schema} (sound : schema.Sound) {literals : List String} {row : Row}
    (bound : Row.ofLiterals schema literals = .ok row) : keyOf schema.columns literals = some row.id := by
  obtain ⟨fits, width, coerced⟩ := (Row.of_literals_faultless sound literals).ok bound
  have inside : schema.keyIndex < literals.length := by
    rw [width]
    exact sound.key_inside
  have given := List.getElem?_eq_getElem inside
  obtain ⟨value, stored, read⟩ := Row.coerce_all_at coerced sound.key given
  rw [fits.key] at stored
  cases stored
  rw [keyOf, sound.find_key, Option.bind_some, given, Option.bind_some]
  exact coerce_integer_iff.mp read

theorem bound_row_shows {schema : Schema} (sound : schema.Sound) {literals : List String} {row : Row}
    (bound : Row.ofLiterals schema literals = .ok row) : RowShows schema.columns ⟨literals, []⟩ row := by
  obtain ⟨fits, width, coerced⟩ := (Row.of_literals_faultless sound literals).ok bound
  intro index column listed other
  have inside : index < literals.length := by
    rw [width]
    exact (List.getElem?_eq_some_iff.mp listed).1
  have given := List.getElem?_eq_getElem inside
  obtain ⟨value, stored, read⟩ := Row.coerce_all_at coerced listed given
  refine ⟨literals[index], value, ?_, read, stored⟩
  have found : schema.columns.findIdx? (·.name == column.name) = some index := sound.column_index listed
  simp [lastLiteral, found, given]

theorem key_assignment_shows {columns : List Column} {written : Entry} {row : Row} (shows : RowShows columns written row)
    {assignment : Assignment} (isKey : assignment.column = keyName) :
    RowShows columns (written.assign [assignment]) row := by
  intro index column listed notKey
  have apart : assignment.column ≠ column.name := by
    intro same
    exact notKey (same.symm.trans isKey)
  rw [last_literal_assign, if_neg apart]
  exact shows index column listed notKey

theorem cell_assignment_shows {schema : Schema} (sound : schema.Sound) {written : Entry} {row : Row}
    (width : row.values.length = schema.width) (shows : RowShows schema.columns written row) {assignment : Assignment}
    {index : Nat} {column : Column} (listed : schema.columns[index]? = some column)
    (named : column.name = assignment.column) {value : Value}
    (coerced : Value.coerce assignment.value column.type assignment.column = .ok value) :
    RowShows schema.columns (written.assign [assignment]) { row with values := row.values.set index value } := by
  intro i declared atI notKey
  rw [last_literal_assign]
  by_cases hit : i = index
  · subst hit
    rw [listed] at atI
    cases atI
    have inside : i < row.values.length := by
      rw [width]
      exact (List.getElem?_eq_some_iff.mp listed).1
    rw [if_pos named.symm]
    refine ⟨assignment.value, value, rfl, ?_, List.getElem?_set_self inside⟩
    rw [named]
    exact coerced
  · -- Names differ where indexes do, so the assignment is to another column.
    have apart : assignment.column ≠ declared.name := by
      intro same
      exact hit (sound.same_index atI listed (same.symm.trans named.symm))
    rw [if_neg apart, List.getElem?_set_ne (Ne.symm hit)]
    exact shows i declared atI notKey

-- Induction on the assignments, over every row and whatever was assigned before.
theorem written_row_shows {table : Table} (sound : table.schema.Sound) {assignments : List Assignment}
    {cells : List (Nat × Value)} (resolved : Database.changes table assignments = .ok cells) {written : Entry} {row : Row}
    (width : row.values.length = table.schema.width) (shows : RowShows table.schema.columns written row) :
    RowShows table.schema.columns (written.assign assignments)
      { row with values := Table.written table.schema.keyIndex row.values cells } := by
  induction assignments generalizing cells written row with
  | nil =>
    cases resolved
    rw [assign_nil]
    exact shows
  | cons assignment rest ih =>
    rw [← assign_assign]
    obtain ⟨index, column, listed, named, skipped | ⟨other, value, others, same, coerced, behind⟩⟩ :=
      Database.changes_cons resolved
    · obtain ⟨atKey, behind⟩ := skipped
      have isKey : assignment.column = keyName := by
        rw [atKey, sound.key] at listed
        cases listed
        exact named.symm
      exact ih behind width (key_assignment_shows shows isKey)
    · subst same
      rw [Table.written, if_neg other]
      have widthNext : ({ row with values := row.values.set index value } : Row).values.length = table.schema.width := by
        simpa using width
      exact ih behind widthNext (cell_assignment_shows sound width shows listed named coerced)

variable {log : List Statement} {statement : Statement} {db after : Database}

theorem pushed_tracks (tracks : Tracks log db)
    (pushed : ∀ name, lifetime name (statement :: log) = (lifetime name log).map (·.push statement))
    (absent : ∀ name, db.table? name = none → after.table? name = none)
    (present : ∀ name life table, db.table? name = some table → TableShows name life table →
      ∃ next, after.table? name = some next ∧ TableShows name (life.push statement) next) :
    Tracks (statement :: log) after := by
  intro name
  rw [pushed]
  cases found : db.table? name with
  | none =>
    rw [absent name found, untold_of_absent (tracks name) found]
    exact .none
  | some table =>
    obtain ⟨life, alive, shows⟩ := told_of_held (tracks name) found
    obtain ⟨next, stored, showsNext⟩ := present name life table found shows
    rw [alive, stored]
    exact .some showsNext

theorem untouched_shows {name : String} {life : Lifetime} {table : Table} (shows : TableShows name life table)
    (same : ∀ key, entry name life.columns key (statement :: life.since) = entry name life.columns key life.since) :
    TableShows name (life.push statement) table := by
  refine ⟨shows.columns, ?_⟩
  intro key
  have before := shows.rows key
  rw [← same] at before
  exact before

theorem written_tracks (tracks : Tracks log db) {target : String} {old new : Table}
    (stored : db.table? target = some old)
    (pushed : ∀ name, lifetime name (statement :: log) = (lifetime name log).map (·.push statement))
    (others : ∀ name columns key since, target ≠ name →
      entry name columns key (statement :: since) = entry name columns key since)
    (here : ∀ life, TableShows target life old → TableShows target (life.push statement) new) :
    Tracks (statement :: log) (db.put target new) := by
  apply pushed_tracks tracks pushed
  · intro name absent
    have different : name ≠ target := by
      intro same
      rw [same, stored] at absent
      cases absent
    rw [Database.table_put, if_neg different]
    exact absent
  · intro name life table present shows
    by_cases hit : name = target
    · subst hit
      rw [stored] at present
      cases present
      exact ⟨new, Database.put_found .., here life shows⟩
    · refine ⟨table, ?_, untouched_shows shows ?_⟩
      · rw [Database.table_put, if_neg hit]
        exact present
      · intro key
        exact others name life.columns key life.since (Ne.symm hit)

theorem created_tracks (tracks : Tracks log db) {name : String} {columns : List ColumnDef} {schema : Schema}
    (accepted : Schema.ofColumns (columns.map (·.column)) = .ok schema) :
    Tracks (.createTable name columns :: log) (db.put name (.empty name schema)) := by
  intro query
  have before := tracks query
  rw [lifetime, Database.table_put]
  by_cases hit : name = query
  · rw [if_pos hit, if_pos hit.symm]
    refine .some ⟨((Schema.of_columns_ok_iff _ schema).mp accepted).2.2, ?_⟩
    intro key
    exact .none
  · rw [if_neg hit, if_neg (Ne.symm hit)]
    exact before

theorem dropped_tracks (tracks : Tracks log db) (name : String) :
    Tracks (.dropTable name :: log) (db.without name) := by
  intro query
  have before := tracks query
  rw [lifetime, Database.table_without]
  by_cases hit : name = query
  · rw [if_pos hit, if_pos hit.symm]
    exact .none
  · rw [if_neg hit, if_neg (Ne.symm hit)]
    exact before

theorem inserted_shows {table : Table} (sound : table.schema.Sound) {literals : List String} {row : Row}
    (bound : Row.ofLiterals table.schema literals = .ok row) {name : String} {life : Lifetime}
    (shows : TableShows name life table) :
    TableShows name (life.push (.insert name literals)) (table.put row.id row) := by
  refine ⟨shows.columns, ?_⟩
  intro key
  have before := shows.rows key
  have underKey := key_of_bound sound bound
  have fresh := bound_row_shows sound bound
  rw [shows.columns] at underKey fresh
  change Option.Rel _ (entry name life.columns key (.insert name literals :: life.since)) _
  rw [entry, underKey, Table.row_put]
  -- Whatever was recorded under the key before, the insertion begins anew.
  by_cases hit : key = row.id
  · rw [if_pos hit, if_pos ⟨rfl, congrArg some hit.symm⟩]
    exact .some fresh
  · have apart : ¬(name = name ∧ some row.id = some key) := by
      rintro ⟨_, same⟩
      cases same
      exact hit rfl
    rw [if_neg hit, if_neg apart]
    exact before

theorem updated_shows {table : Table} (consistent : table.Consistent) {assignments : List Assignment}
    {cells : List (Nat × Value)} (resolved : Database.changes table assignments = .ok cells) {key : Int64} {row : Row}
    (stored : table.row? key = some row) {name : String} {life : Lifetime} (shows : TableShows name life table) :
    TableShows name (life.push (.update name assignments key))
      (table.put key { row with values := Table.written table.schema.keyIndex row.values cells }) := by
  refine ⟨shows.columns, ?_⟩
  intro query
  have before := shows.rows query
  change Option.Rel _ (entry name life.columns query (.update name assignments key :: life.since)) _
  rw [entry, Table.row_put]
  by_cases hit : key = query
  · subst hit
    obtain ⟨written, present, rowShows⟩ := told_of_held before stored
    rw [if_pos rfl, if_pos ⟨rfl, rfl⟩, present]
    have width := (consistent.rows key row stored).2.width
    rw [← shows.columns] at rowShows
    have rowShowsNext := written_row_shows consistent.schema resolved width rowShows
    rw [shows.columns] at rowShowsNext
    exact .some rowShowsNext
  · rw [if_neg (Ne.symm hit), if_neg fun both => hit both.2]
    exact before

theorem deleted_shows {table : Table} {name : String} {life : Lifetime} (shows : TableShows name life table)
    (key : Int64) : TableShows name (life.push (.delete name key)) (table.without key) := by
  refine ⟨shows.columns, ?_⟩
  intro query
  have before := shows.rows query
  change Option.Rel _ (entry name life.columns query (.delete name key :: life.since)) _
  rw [entry, Table.row_without]
  by_cases hit : key = query
  · rw [if_pos ⟨rfl, hit⟩, if_pos hit.symm]
    exact .none
  · rw [if_neg fun both => hit both.2, if_neg (Ne.symm hit)]
    exact before

theorem answered_tracks (tracks : Tracks log db) (reads : statement.isReadOnly = true) :
    Tracks (statement :: log) db := by
  cases statement with
  | select | join | unknown =>
    apply pushed_tracks tracks
    · exact fun _ => rfl
    · exact fun _ absent => absent
    · exact fun name life table present shows => ⟨table, present, untouched_shows shows fun _ => rfl⟩
  | createTable | dropTable | insert | update | delete => cases reads

theorem effect_tracks (consistent : db.Consistent) (tracks : Tracks log db) {answer : Answer}
    (effect : db.Effect statement answer after) : Tracks (statement :: log) after := by
  cases effect with
  | created absent accepted => exact created_tracks tracks accepted
  | dropped present => exact dropped_tracks tracks _
  | @inserted name literals table row present bound =>
    have sound := (consistent.tables name table present).schema
    apply written_tracks tracks present
    · exact fun _ => rfl
    · intro other columns key since different
      rw [entry, if_neg fun both => different both.1]
    · exact fun life shows => inserted_shows sound bound shows
  | @updated name assignments key table row cells present stored resolved =>
    have tableConsistent := consistent.tables name table present
    apply written_tracks tracks present
    · exact fun _ => rfl
    · intro other columns query since different
      rw [entry, if_neg fun both => different both.1]
    · exact fun life shows => updated_shows tableConsistent resolved stored shows
  | @deleted name key table present =>
    apply written_tracks tracks present
    · exact fun _ => rfl
    · intro other columns query since different
      rw [entry, if_neg fun both => different both.1]
    · exact fun life shows => deleted_shows shows key
  | answered reads shown => exact answered_tracks tracks reads

-- Induction on the statements, over every database the log may have led to. A failing one changes neither side.
theorem run_tracks (consistent : db.Consistent) (tracks : Tracks log db) (statements : List Statement) :
    (run db statements).Consistent ∧ Tracks (succeeded db log statements) (run db statements) := by
  induction statements generalizing log db with
  | nil => exact ⟨consistent, tracks⟩
  | cons statement rest ih =>
    have consistentNext := Database.execute_consistent db statement consistent
    rw [run, List.foldl_cons, succeeded]
    cases done : db.execute statement with
    | mk result next =>
      rw [done] at consistentNext
      cases result with
      | ok answer => exact ih consistentNext (effect_tracks consistent tracks (Database.execute_ok consistent done))
      | error error =>
        have unchanged := (Database.execute_error consistent done).1
        subst unchanged
        exact ih consistent tracks

theorem select_undeclared {name column : String} {table : Table} (present : db.table? name = some table)
    (undeclared : table.schema.columnIndex? column = none) (key : Option Int64) :
    db.select name (.columns [column]) key = .error (.columnNotFound table.name column) := by
  rw [Database.select, Database.table, present]
  simp [Database.projected, Database.columnIndexes, Database.columnIndex, undeclared, bind, Except.bind]

theorem select_cells {name column : String} {table : Table} (present : db.table? name = some table) {index : Nat}
    (found : table.schema.columnIndex? column = some index) (key : Option Int64) :
    db.select name (.columns [column]) key =
      (Database.pickRows [index] (Database.selected table key)).map (.rows ⟨[column], ·⟩) := by
  obtain ⟨declared, listed, named⟩ := Schema.column_index_some found
  have header : Database.pick table.schema.columnNames [index] = .ok [column] := by
    simp [Database.pick, Schema.columnNames, listed, named, Except.map]
  have asked : Database.projected table (.columns [column]) = .ok [index] := by
    simp only [Database.projected, Database.columnIndexes, Database.columnIndex, found, Except.map]
  exact Database.select_picked present asked header key

theorem select_no_row {name column : String} {table : Table} (present : db.table? name = some table) {index : Nat}
    (found : table.schema.columnIndex? column = some index) {key : Int64} (absent : table.row? key = none) :
    db.select name (.columns [column]) (some key) = .ok (.rows ⟨[column], []⟩) := by
  rw [select_cells present found, Database.selected, absent]
  rfl

theorem select_one_row {name column : String} {table : Table} (present : db.table? name = some table) {index : Nat}
    (found : table.schema.columnIndex? column = some index) {key : Int64} {row : Row}
    (stored : table.row? key = some row) {value : Value} (listed : row.values[index]? = some value) :
    db.select name (.columns [column]) (some key) = .ok (.rows ⟨[column], [[value]]⟩) := by
  rw [select_cells present found, Database.selected, stored]
  simp [Database.pickRows, Database.pick, listed, Except.map]

theorem column_listed {name : String} {life : Lifetime} {table : Table} (shows : TableShows name life table)
    (column : String) :
    life.column? column = (table.schema.columnIndex? column).bind (table.schema.columns[·]?) := by
  rw [Lifetime.column?, ← shows.columns]
  exact List.find?_eq_bind_findIdx?_getElem?

theorem tracked_cell {name column : String} {key : Int64} {life : Lifetime} {table : Table}
    (alive : lifetime name log = some life) (shows : TableShows name life table) (consistent : table.Consistent)
    {index : Nat} {declared : Column} (listed : table.schema.columns[index]? = some declared)
    (named : declared.name = column) {row : Row} (stored : table.row? key = some row) :
    ∃ value, row.values[index]? = some value ∧ Recorded log name key column (.ok (.rows ⟨[column], [[value]]⟩)) := by
  subst named
  have known : life.column? declared.name = some declared := by
    rw [column_listed shows, consistent.schema.column_index listed]
    exact listed
  obtain ⟨written, present, rowShows⟩ := told_of_held (shows.rows key) stored
  -- Assignments to the key are passed over, so its cell is told by the key that was asked for.
  by_cases isKey : declared.name = keyName
  · obtain ⟨underKey, fits⟩ := consistent.rows key row stored
    have atKey := consistent.schema.key_only listed isKey
    refine ⟨.integer key, ?_, .keyCell alive known present isKey⟩
    rw [atKey, fits.key, underKey]
  · have here : life.columns[index]? = some declared := by
      rw [← shows.columns]
      exact listed
    obtain ⟨literal, value, last, coerced, held⟩ := rowShows index declared here isKey
    exact ⟨value, held, .cell alive known present isKey last coerced⟩

theorem select_recorded (consistent : db.Consistent) (tracks : Tracks log db) (name : String) (key : Int64)
    (column : String) : Recorded log name key column (db.select name (.columns [column]) (some key)) := by
  cases present : db.table? name with
  | none =>
    rw [Database.select_absent present]
    exact .noTable (untold_of_absent (tracks name) present)
  | some table =>
    obtain ⟨life, alive, shows⟩ := told_of_held (tracks name) present
    have known := column_listed shows column
    cases found : table.schema.columnIndex? column with
    | none =>
      rw [select_undeclared present found, consistent.named name table present]
      rw [found] at known
      exact .noColumn alive known
    | some index =>
      obtain ⟨declared, listed, named⟩ := Schema.column_index_some found
      rw [found, Option.bind_some, listed] at known
      cases stored : table.row? key with
      | none =>
        rw [select_no_row present found stored]
        exact .noRow alive known (untold_of_absent (shows.rows key) stored)
      | some row =>
        have tableConsistent := consistent.tables name table present
        obtain ⟨value, held, recorded⟩ := tracked_cell alive shows tableConsistent listed named stored
        rw [select_one_row present found stored held]
        exact recorded

theorem lookup_is_recorded (statements : List Statement) (table : String) (key : Int64) (column : String)
    (answer : Except StoreError Answer) :
    ((run .empty statements).execute (.select table (.columns [column]) (some key))).1 = answer ↔
      Recorded (succeeded .empty [] statements) table key column answer := by
  obtain ⟨consistent, tracks⟩ := run_tracks Database.empty_consistent empty_tracks statements
  have recorded := select_recorded consistent tracks table key column
  constructor
  · intro same
    rw [← same]
    exact recorded
  · intro other
    exact recorded_unique recorded other

end TableStore.History
