import TableStore.Proofs.RoundTrip

set_option autoImplicit false

namespace TableStore

theorem entry_at_filter {κ ν : Type} [LT κ] [DecidableEq κ] [Std.Irrefl fun a b : κ => a < b] {entries : List (κ × ν)}
    (ascending : Ascending entries) (key : κ) :
    (entries.filter (·.1 == key)).map (·.2) = (entryAt key entries).toList := by
  induction entries with
  | nil => rfl
  | cons head rest ih =>
    obtain ⟨above, tail⟩ := List.pairwise_cons.mp ascending
    rw [entryAt]
    by_cases same : key = head.1
    · subst same
      have behind := ih tail
      rw [entry_at_none above] at behind
      rw [if_pos rfl, List.filter_cons_of_pos (by simp), List.map_cons, behind]
      rfl
    · rw [if_neg same, List.filter_cons_of_neg (by simpa using Ne.symm same), ih tail]

namespace Schema

def cell? (schema : Schema) (row : Row) (column : String) : Option Value :=
  (schema.columnIndex? column).bind (row.values[·]?)

def shownColumns (schema : Schema) : Projection → List String
  | .all => schema.columnNames
  | .columns names => names

variable {schema : Schema}

theorem Sound.index_at (sound : schema.Sound) {index : Nat} (inside : index < schema.width) :
    schema.columnIndex? schema.columns[index].name = some index :=
  sound.column_index (List.getElem?_eq_getElem inside)

theorem Sound.all_indexes (sound : schema.Sound) :
    schema.columnNames.map schema.columnIndex? = (List.range schema.width).map some := by
  apply List.ext_getElem
  · simp [columnNames, width]
  · intro index inside _
    have declared : index < schema.columns.length := by simpa [columnNames] using inside
    simp only [columnNames, List.getElem_map, List.getElem_range]
    exact sound.index_at declared

theorem name_at {name : String} (declared : name ∈ schema.columnNames) :
    (schema.columnIndex? name).bind (schema.columnNames[·]?) = some name := by
  cases found : schema.columnIndex? name with
  | none => exact absurd declared ((column_index_none_iff name).mp found)
  | some index =>
    obtain ⟨column, listed, named⟩ := column_index_some found
    simp [columnNames, listed, named]

theorem Sound.key_declared (sound : schema.Sound) : keyName ∈ schema.columnNames :=
  List.mem_map_of_mem (f := Column.name) (List.mem_of_getElem? sound.key)

theorem Sound.key_cell (sound : schema.Sound) (row : Row) : schema.cell? row keyName = row.values[schema.keyIndex]? := by
  rw [cell?, show schema.columnIndex? keyName = some schema.keyIndex from sound.column_index sound.key]
  rfl

end Schema

namespace Table

variable {table : Table}

theorem Consistent.all_ids (consistent : table.Consistent) : table.allRows.map (·.id) = table.rows.keys := by
  rw [allRows, OrdMap.values, OrdMap.keys, List.map_map]
  apply List.map_congr_left
  intro entry listed
  exact (consistent.rows entry.1 entry.2 (entry_at_of_mem table.rows.ascending listed)).1

theorem Consistent.ids_ascend (consistent : table.Consistent) : (table.allRows.map (·.id)).Pairwise (· < ·) := by
  rw [consistent.all_ids, OrdMap.keys, List.pairwise_map]
  exact table.rows.ascending

theorem Consistent.filter_id (consistent : table.Consistent) (key : Int64) :
    table.allRows.filter (·.id == key) = (table.row? key).toList := by
  rw [row?, OrdMap.get?, ← entry_at_filter table.rows.ascending, allRows, OrdMap.values, List.filter_map]
  congr 1
  apply List.filter_congr
  intro entry listed
  rw [Function.comp, (consistent.rows entry.1 entry.2 (entry_at_of_mem table.rows.ascending listed)).1]

theorem Consistent.row_iff (consistent : table.Consistent) (key : Int64) (row : Row) :
    table.row? key = some row ↔ row ∈ table.allRows ∧ row.id = key := by
  have found := consistent.filter_id key
  rw [← Option.mem_toList, ← found, List.mem_filter, beq_iff_eq]

theorem Consistent.key_shown (consistent : table.Consistent) {row : Row} (listed : row ∈ table.allRows) :
    table.schema.cell? row keyName = some (.integer row.id) := by
  have stored := (consistent.row_iff row.id row).mpr ⟨listed, rfl⟩
  rw [consistent.schema.key_cell, (consistent.rows row.id row stored).2.key]

end Table

structure Shows (schema : Schema) (names : List String) (rows : List Row) (set : RowSet) : Prop where
  header : set.columns = names
  cells : set.rows.map (·.map some) = rows.map fun row => names.map (schema.cell? row)

namespace Shows

variable {schema : Schema} {names : List String} {rows : List Row} {set : RowSet}

theorem rows_eq (shows : Shows schema names rows set) :
    set.rows = rows.map fun row => names.filterMap (schema.cell? row) := by
  have found := congrArg (List.map (List.filterMap id)) shows.cells
  simpa [List.filterMap_map, Function.comp_def] using found

-- The first column of a name holds the cell under that name, so it does not matter how often the name was asked for.
theorem accessors (shows : Shows schema names rows set) {column : String} (asked : column ∈ names) {index : Nat} {row : Row}
    (listed : rows[index]? = some row) :
    ∃ cell record, schema.cell? row column = some cell ∧ set.value? index column = some cell ∧
      set.records[index]? = some record ∧ record.get? column = some cell := by
  obtain ⟨header, cells⟩ := shows
  have here := congrArg (·[index]?) cells
  simp only [List.getElem?_map, listed, Option.map_some, Option.map_eq_some_iff] at here
  obtain ⟨found, atIndex, shown⟩ := here
  obtain ⟨first, position⟩ : ∃ first, names.findIdx? (· == column) = some first := by
    rw [← Option.isSome_iff_exists, List.findIdx?_isSome, List.any_eq_true]
    exact ⟨column, asked, by simp⟩
  obtain ⟨inside, same, _⟩ := List.findIdx?_eq_some_iff_getElem.mp position
  have named : names[first]? = some column := by
    rw [List.getElem?_eq_getElem inside, beq_iff_eq.mp same]
  have atFirst := congrArg (·[first]?) shown
  simp only [List.getElem?_map, named, Option.map_some, Option.map_eq_some_iff] at atFirst
  obtain ⟨cell, held, value⟩ := atFirst
  refine ⟨cell, ⟨set.columns, found⟩, value.symm, ?_, ?_, ?_⟩
  · simp only [RowSet.value?, header, position, Option.bind_some, atIndex, held]
  · simp only [RowSet.records, List.getElem?_map, atIndex, Option.map_some]
  · simp only [Record.get?, header, position, Option.bind_some, held]

theorem pointed_rows {table : Table} (consistent : table.Consistent) {number : Int64} {full keys point : RowSet}
    (fullShows : Shows table.schema names table.allRows full)
    (keysShow : Shows table.schema [keyName] table.allRows keys)
    (pointShows : Shows table.schema names (table.row? number).toList point) :
    point.rows = ((full.rows.zip keys.rows).filter (·.2 == [.integer number])).map (·.1) := by
  have shownKeys : keys.rows = table.allRows.map fun row => [.integer row.id] := by
    rw [keysShow.rows_eq]
    apply List.map_congr_left
    intro row listed
    simp [consistent.key_shown listed]
  rw [pointShows.rows_eq, ← consistent.filter_id, fullShows.rows_eq, shownKeys, List.zip_map', List.filter_map, List.map_map]
  congr 1
  apply List.filter_congr
  intro row _
  rw [Bool.eq_iff_iff]
  simp

end Shows

namespace Database

theorem pick_found {α : Type} {items found : List α} {indexes : List Nat} (picked : pick items indexes = .ok found) :
    found.map some = indexes.map (items[·]?) := by
  induction indexes generalizing found with
  | nil =>
    cases picked
    rfl
  | cons index rest ih =>
    rw [pick] at picked
    split at picked
    · cases picked
    · rename_i item here
      cases behind : pick items rest with
      | error error =>
        rw [behind] at picked
        cases picked
      | ok others =>
        rw [behind] at picked
        cases picked
        rw [List.map_cons, List.map_cons, here, ih behind]

theorem pick_rows_found {rows : List Row} {indexes : List Nat} {cells : List (List Value)}
    (picked : pickRows indexes rows = .ok cells) :
    cells.map (·.map some) = rows.map fun row => indexes.map (row.values[·]?) := by
  induction rows generalizing cells with
  | nil =>
    cases picked
    rfl
  | cons row rest ih =>
    rw [pickRows] at picked
    cases first : pick row.values indexes with
    | error error =>
      rw [first] at picked
      cases picked
    | ok found =>
      cases behind : pickRows indexes rest with
      | error error =>
        rw [first, behind] at picked
        cases picked
      | ok others =>
        rw [first, behind] at picked
        cases picked
        rw [List.map_cons, List.map_cons, pick_found first, ih behind]

theorem column_index_found {table : Table} {name : String} (declared : name ∈ table.schema.columnNames) :
    ∃ index, columnIndex table name = .ok index ∧ table.schema.columnIndex? name = some index := by
  cases found : table.schema.columnIndex? name with
  | none => exact absurd declared ((Schema.column_index_none_iff name).mp found)
  | some index => exact ⟨index, by rw [columnIndex, found], rfl⟩

theorem column_indexes_found {table : Table} {names : List String} (declared : ∀ name ∈ names, name ∈ table.schema.columnNames) :
    ∃ indexes, columnIndexes table names = .ok indexes ∧ indexes.map some = names.map table.schema.columnIndex? := by
  induction names with
  | nil => exact ⟨[], rfl, rfl⟩
  | cons name rest ih =>
    obtain ⟨here, behind⟩ := List.forall_mem_cons.mp declared
    obtain ⟨indexes, resolved, same⟩ := ih behind
    obtain ⟨index, first, found⟩ := column_index_found here
    refine ⟨index :: indexes, ?_, ?_⟩
    · simp [columnIndexes, first, resolved, Except.map]
    · rw [List.map_cons, List.map_cons, found, same]

theorem projected_found {table : Table} (sound : table.schema.Sound) {projection : Projection}
    (declared : ∀ name ∈ table.schema.shownColumns projection, name ∈ table.schema.columnNames) :
    ∃ indexes, projected table projection = .ok indexes ∧
      indexes.map some = (table.schema.shownColumns projection).map table.schema.columnIndex? := by
  cases projection with
  | all => exact ⟨_, rfl, sound.all_indexes.symm⟩
  | columns names => exact column_indexes_found declared

section
variable {db : Database} {name : String} {table : Table}

theorem select_found (present : db.table? name = some table) {projection : Projection} {key : Option Int64} {set : RowSet}
    (shown : db.select name projection key = .ok (.rows set)) :
    ∃ indexes, projected table projection = .ok indexes ∧ pick table.schema.columnNames indexes = .ok set.columns ∧
      pickRows indexes (selected table key) = .ok set.rows := by
  obtain ⟨_, found, shown⟩ := bind_ok shown
  cases (table_present present).symm.trans found
  obtain ⟨indexes, asked, shown⟩ := bind_ok shown
  obtain ⟨columns, header, shown⟩ := bind_ok shown
  obtain ⟨rows, cells, shown⟩ := bind_ok shown
  cases shown
  exact ⟨indexes, asked, header, cells⟩

theorem select_shows (consistent : db.Consistent) (present : db.table? name = some table) {projection : Projection}
    (declared : ∀ column ∈ table.schema.shownColumns projection, column ∈ table.schema.columnNames) (key : Option Int64) :
    ∃ set, db.select name projection key = .ok (.rows set) ∧
      Shows table.schema (table.schema.shownColumns projection) (selected table key) set := by
  obtain ⟨indexes, asked, same⟩ := projected_found (consistent.tables name table present).schema declared
  obtain ⟨set, answered, _⟩ := select_projected consistent present asked key
  refine ⟨set, answered, ?_⟩
  obtain ⟨others, askedAgain, header, cells⟩ := select_found present answered
  cases asked.symm.trans askedAgain
  have named : ∀ {α : Type} (items : List α), indexes.map (items[·]?) =
      (table.schema.shownColumns projection).map fun column => (table.schema.columnIndex? column).bind (items[·]?) := by
    intro α items
    have found := congrArg (List.map (·.bind (items[·]?))) same
    rwa [List.map_map, List.map_map] at found
  constructor
  · have columns := (pick_found header).trans (named table.schema.columnNames)
    rw [List.map_congr_left fun column listed => Schema.name_at (declared column listed)] at columns
    exact List.map_inj_right (fun _ _ => Option.some.inj) |>.mp columns
  · rw [pick_rows_found cells]
    exact List.map_congr_left fun row _ => named row.values

theorem select_all_named (consistent : db.Consistent) (present : db.table? name = some table) (key : Option Int64) :
    db.select name .all key = db.select name (.columns table.schema.columnNames) key := by
  have sound := (consistent.tables name table present).schema
  obtain ⟨indexes, found, same⟩ := column_indexes_found fun _ (listed : _ ∈ table.schema.columnNames) => listed
  have asked : projected table (.columns table.schema.columnNames) = .ok indexes := found
  have all : indexes = List.range table.schema.width :=
    (List.map_inj_right fun _ _ => Option.some.inj).mp (same.trans sound.all_indexes)
  rw [select_picked present rfl (header_all table.schema), select_picked present asked (all ▸ header_all table.schema), all]

end

theorem access_paths_agree (events : List Event) {name : String} {table : Table}
    (present : (reached events).table? name = some table) (projection : Projection)
    (declared : ∀ column ∈ table.schema.shownColumns projection, column ∈ table.schema.columnNames) (number : Int64) :
    ∃ full keys point,
      ((reached events).execute (.select name projection none)).1 = .ok (.rows full) ∧
      ((reached events).execute (.select name (.columns ["id"]) none)).1 = .ok (.rows keys) ∧
      ((reached events).execute (.select name projection (some number))).1 = .ok (.rows point) ∧
      -- the scan
      Shows table.schema (table.schema.shownColumns projection) table.allRows full ∧
      (table.allRows.map (·.id)).Pairwise (· < ·) ∧
      (∀ key row, table.row? key = some row ↔ row ∈ table.allRows ∧ row.id = key) ∧
      -- the lookup
      point.columns = full.columns ∧
      point.rows = ((full.rows.zip keys.rows).filter (·.2 == [.integer number])).map (·.1) ∧
      keys.rows.length = full.rows.length ∧ point.rows.length ≤ 1 ∧
      -- all columns
      (∀ key, (reached events).execute (.select name .all key) =
        (reached events).execute (.select name (.columns table.schema.columnNames) key)) ∧
      -- the cells by their names
      ∀ column ∈ table.schema.shownColumns projection,
        (∀ index row, table.allRows[index]? = some row → ∃ cell record, table.schema.cell? row column = some cell ∧
          full.value? index column = some cell ∧ full.records[index]? = some record ∧ record.get? column = some cell) ∧
        ∀ row, table.row? number = some row → ∃ cell record, table.schema.cell? row column = some cell ∧
          point.value? 0 column = some cell ∧ point.records[0]? = some record ∧ record.get? column = some cell := by
  have consistent := reached_consistent events
  have tableConsistent := consistent.tables name table present
  have keyDeclared : ∀ column ∈ table.schema.shownColumns (.columns ["id"]), column ∈ table.schema.columnNames := by
    intro column listed
    cases List.mem_singleton.mp listed
    exact tableConsistent.schema.key_declared
  obtain ⟨full, scanned, fullShows⟩ := select_shows consistent present declared none
  obtain ⟨keys, keysScanned, keysShow⟩ := select_shows consistent present keyDeclared none
  obtain ⟨point, looked, pointShows⟩ := select_shows consistent present declared (some number)
  refine ⟨full, keys, point, scanned, keysScanned, looked, fullShows, tableConsistent.ids_ascend, tableConsistent.row_iff,
    ?_, Shows.pointed_rows tableConsistent fullShows keysShow pointShows, ?_, ?_, ?_, ?_⟩
  · rw [pointShows.header, fullShows.header]
  · rw [keysShow.rows_eq, fullShows.rows_eq, List.length_map, List.length_map]
  · rw [pointShows.rows_eq, List.length_map]
    exact Option.length_toList_le
  · intro key
    exact congrArg (·, reached events) (select_all_named consistent present key)
  · intro column asked
    refine ⟨fun index row listed => fullShows.accessors asked listed, fun row stored => pointShows.accessors asked ?_⟩
    rw [selected, stored]
    rfl

def bookEvents : List Event :=
  [.statement (.createTable "books" [⟨"title", "text"⟩, ⟨"id", "int"⟩]), .statement (.insert "books" ["Emma", "5"]),
    .statement (.insert "books" ["Ulysses", "-2"])]

def bookTable : Table :=
  ((Table.empty "books" ⟨[⟨"title", .text⟩, ⟨"id", .integer⟩], 1⟩).put 5 ⟨5, [.text "Emma", .integer 5]⟩).put (-2)
    ⟨-2, [.text "Ulysses", .integer (-2)]⟩

theorem titles_agree :
    (reached bookEvents).table? "books" = some bookTable ∧
      ((reached bookEvents).execute (.select "books" (.columns ["title", "id", "title"]) none)).1 =
        .ok (.rows ⟨["title", "id", "title"],
          [[.text "Ulysses", .integer (-2), .text "Ulysses"], [.text "Emma", .integer 5, .text "Emma"]]⟩) ∧
      ((reached bookEvents).execute (.select "books" (.columns ["title", "id", "title"]) (some 5))).1 =
        .ok (.rows ⟨["title", "id", "title"], [[.text "Emma", .integer 5, .text "Emma"]]⟩) := by
  have present : (reached bookEvents).table? "books" = some bookTable := by decide +kernel
  have scan : ((reached bookEvents).execute (.select "books" (.columns ["title", "id", "title"]) none)).1 =
      .ok (.rows ⟨["title", "id", "title"],
        [[.text "Ulysses", .integer (-2), .text "Ulysses"], [.text "Emma", .integer 5, .text "Emma"]]⟩) := by
    decide +kernel
  have keysScan : ((reached bookEvents).execute (.select "books" (.columns ["id"]) none)).1 =
      .ok (.rows ⟨["id"], [[.integer (-2)], [.integer 5]]⟩) := by
    decide +kernel
  obtain ⟨full, keys, point, scanned, keysScanned, looked, _, _, _, header, rows, _⟩ :=
    access_paths_agree bookEvents present (.columns ["title", "id", "title"]) (by decide) 5
  refine ⟨present, scan, ?_⟩
  cases scan.symm.trans scanned
  cases keysScan.symm.trans keysScanned
  rw [looked]
  obtain ⟨columns, shown⟩ := point
  cases header
  cases rows
  rfl

end Database

end TableStore
