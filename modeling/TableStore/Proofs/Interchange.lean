import TableStore.Proofs.Tracking

set_option autoImplicit false

/- A write acts at one key and leaves all else as it is. Two writes that act at different keys commute. -/
namespace TableStore

namespace OrdMap

variable {κ ν : Type} [LE κ] [LT κ] [DecidableEq κ] [DecidableLT κ] [Std.IsLinearOrder κ] [Std.LawfulOrderLT κ]

def assign (map : OrdMap κ ν) (key : κ) : Option ν → OrdMap κ ν
  | some value => map.insert key value
  | none => map.erase key

theorem get_assign (map : OrdMap κ ν) (key query : κ) (value : Option ν) :
    (map.assign key value).get? query = if query = key then value else map.get? query := by
  cases value with
  | none => exact get_erase map key query
  | some value => exact get_insert map key value query

theorem assign_get {map : OrdMap κ ν} {key : κ} {value : Option ν} (found : map.get? key = value) :
    map.assign key value = map := by
  apply ext_get
  intro query
  rw [get_assign]
  by_cases hit : query = key
  · simp [hit, found]
  · simp [hit]

theorem assign_comm (map : OrdMap κ ν) {k l : κ} (apart : k ≠ l) (v w : Option ν) :
    (map.assign l w).assign k v = (map.assign k v).assign l w := by
  apply ext_get
  intro query
  simp only [get_assign]
  by_cases atK : query = k
  · have notL : query ≠ l := fun atL => apart (atK.symm.trans atL)
    simp [atK, apart]
  · simp [atK]

end OrdMap

structure Places (σ κ ν : Type) where
  look : κ → σ → Option ν
  assign : κ → Option ν → σ → σ
  look_other : ∀ {k l : κ} (value : Option ν) (state : σ), k ≠ l → look k (assign l value state) = look k state
  assign_comm : ∀ {k l : κ} (v w : Option ν) (state : σ), k ≠ l →
    assign k v (assign l w state) = assign l w (assign k v state)

structure Interchange {σ α β : Type} (first : σ → α × σ) (second : σ → β × σ) (before : σ) : Prop where
  state : (second (first before).2).2 = (first (second before).2).2
  firstAnswer : (first (second before).2).1 = (first before).1
  secondAnswer : (second (first before).2).1 = (second before).1

section
variable {σ κ ν α β : Type} {places : Places σ κ ν}

structure ActsAt (places : Places σ κ ν) (scope : σ → Prop) (key : κ) (operation : σ → α × σ)
    (act : Option ν → α × Option ν) : Prop where
  inside : ∀ state, scope state → scope (operation state).2
  acts : ∀ state, scope state →
    operation state = ((act (places.look key state)).1, places.assign key (act (places.look key state)).2 state)

variable {scope : σ → Prop} {k l : κ} {first : σ → α × σ} {second : σ → β × σ} {f : Option ν → α × Option ν}
  {g : Option ν → β × Option ν}

theorem ActsAt.interchange (atK : ActsAt places scope k first f) (atL : ActsAt places scope l second g) (apart : k ≠ l)
    {before : σ} (inScope : scope before) : Interchange first second before := by
  have firstNext := atK.acts _ (atL.inside before inScope)
  have secondNext := atL.acts _ (atK.inside before inScope)
  simp only [atK.acts before inScope, places.look_other _ before (Ne.symm apart)] at secondNext
  simp only [atL.acts before inScope, places.look_other _ before apart] at firstNext
  constructor
  · rw [atK.acts before inScope, atL.acts before inScope, firstNext, secondNext]
    exact places.assign_comm _ _ before (Ne.symm apart)
  · rw [atL.acts before inScope, firstNext, atK.acts before inScope]
  · rw [atK.acts before inScope, secondNext, atL.acts before inScope]

end

namespace Table

def places : Places Table Int64 Row where
  look id table := table.row? id
  assign id row table := { table with rows := table.rows.assign id row }
  look_other row table apart := by
    simp only [row?, OrdMap.get_assign, if_neg apart]
  assign_comm v w table apart := by
    simp only [OrdMap.assign_comm table.rows apart]

structure Shaped (name : String) (schema : Schema) (table : Table) : Prop where
  name : table.name = name
  schema : table.schema = schema
  consistent : table.Consistent

variable {name : String} {schema : Schema} {table : Table}

theorem assign_row {id : Int64} {row : Option Row} (found : table.row? id = row) : places.assign id row table = table := by
  change { table with rows := table.rows.assign id row } = table
  rw [OrdMap.assign_get found]

theorem Shaped.put (shaped : Shaped name schema table) {row : Row} (fits : row.Fits schema) :
    Shaped name schema (table.put row.id row) := by
  obtain ⟨sameName, sameSchema, consistent⟩ := shaped
  subst sameSchema
  exact ⟨sameName, rfl, put_consistent consistent fits⟩

theorem Shaped.without (shaped : Shaped name schema table) (id : Int64) : Shaped name schema (table.without id) :=
  ⟨shaped.name, shaped.schema, without_consistent shaped.consistent id⟩

theorem Shaped.changes (shaped : Shaped name schema table) (assignments : List Assignment) :
    Database.changes table assignments = Database.changes (.empty name schema) assignments := by
  obtain ⟨sameName, sameSchema, _⟩ := shaped
  induction assignments with
  | nil => rfl
  | cons assignment rest ih =>
    simp only [Database.changes, Database.columnIndex, sameName, sameSchema, ih, empty]
    rfl

-- An insertion without a key fails, so it acts at any key.
theorem insert_acts (sound : schema.Sound) (target : String) {literals : List String} {key : Int64}
    (keyed : ∀ id, History.keyOf schema.columns literals = some id → id = key) :
    ∃ act, ActsAt places (Shaped name schema) key (Database.insertInto target literals) act := by
  rcases (Row.of_literals_faultless sound literals).cases with ⟨row, bound, fits, _⟩ | ⟨error, unbound, _⟩
  · have underKey := keyed row.id (History.key_of_bound sound bound)
    subst underKey
    have done : ∀ table, Shaped name schema table → Database.insertInto target literals table =
        (.ok (.inserted target row.id (table.rows.contains row.id)), table.put row.id row) := by
      intro table shaped
      have tableSound := shaped.consistent.schema
      have tableBound := bound
      rw [← shaped.schema] at tableBound
      exact Database.insert_into_bound tableSound target tableBound
    refine ⟨fun held => (.ok (.inserted target row.id held.isSome), some row), ?_, done⟩
    intro table shaped
    rw [done table shaped]
    exact shaped.put fits
  · have done : ∀ table, Shaped name schema table →
        Database.insertInto target literals table = (.error error, table) := by
      intro table shaped
      have tableUnbound := unbound
      rw [← shaped.schema] at tableUnbound
      exact Database.insert_into_unbound target tableUnbound
    refine ⟨fun held => (.error error, held), ?_, ?_⟩
    · intro table shaped
      rwa [done table shaped]
    · intro table shaped
      rw [done table shaped]
      exact congrArg (Prod.mk _) (assign_row rfl).symm

def updateHeld (name : String) (schema : Schema) (target : String) (assignments : List Assignment) (key : Int64) :
    Option Row → Except StoreError Answer × Option Row
  | none => (.error (.rowNotFound target key), none)
  | some row =>
    match Database.changes (.empty name schema) assignments with
    | .error error => (.error error, some row)
    | .ok cells => (.ok (.updated target key), some { row with values := written schema.keyIndex row.values cells })

theorem update_acts (target : String) (assignments : List Assignment) (key : Int64) :
    ActsAt places (Shaped name schema) key (Database.updateIn target assignments key)
      (updateHeld name schema target assignments key) := by
  constructor
  · intro table shaped
    cases stored : table.row? key with
    | none => rwa [Database.updateIn, stored]
    | some row =>
      cases resolved : Database.changes table assignments with
      | error error => rwa [Database.updateIn, stored, resolved]
      | ok cells =>
        obtain ⟨underKey, fits⟩ := shaped.consistent.rows key row stored
        have checked := (Database.changes_faultless table assignments).ok resolved
        rw [Database.update_in_resolved shaped.consistent target stored resolved]
        subst underKey
        rw [shaped.schema] at fits checked ⊢
        exact shaped.put (written_fits fits checked)
  · intro table shaped
    have sameChanges := shaped.changes assignments
    have look : places.look key table = table.row? key := rfl
    cases stored : table.row? key with
    | none => simp only [look, stored, assign_row stored, Database.updateIn, updateHeld]
    | some row =>
      cases resolved : Database.changes table assignments with
      | error error =>
        simp only [look, stored, ← sameChanges, resolved, assign_row stored, Database.updateIn, updateHeld]
      | ok cells =>
        rw [Database.update_in_resolved shaped.consistent target stored resolved]
        simp only [look, stored, ← sameChanges, resolved, shaped.schema, updateHeld]
        rfl

theorem delete_acts (target : String) (key : Int64) :
    ActsAt places (Shaped name schema) key (Database.deleteFrom target key)
      (fun held => (.ok (.deleted target key held.isSome), none)) :=
  ⟨fun _ shaped => shaped.without key, fun _ _ => rfl⟩

end Table

namespace Database

def places : Places Database String Table where
  look name db := db.table? name
  assign name table db := ⟨db.tables.assign name table⟩
  look_other table db apart := by
    simp only [table?, OrdMap.get_assign, if_neg apart]
  assign_comm v w db apart := by
    simp only [OrdMap.assign_comm db.tables apart]

-- Every database is in this scope: a statement is local to its table whatever the tables hold.
def Anywhere (_ : Database) : Prop := True

variable {db : Database}

theorem assign_table {name : String} {table : Option Table} (found : db.table? name = table) :
    places.assign name table db = db := by
  change (⟨db.tables.assign name table⟩ : Database) = db
  rw [OrdMap.assign_get found]

def createHeld (name : String) (columns : List ColumnDef) : Option Table → Except StoreError Answer × Option Table
  | some table => (.error (.tableExists name), some table)
  | none =>
    match Schema.ofColumns (columns.map (·.column)) with
    | .error error => (.error error, none)
    | .ok schema => (.ok (.created name), some (.empty name schema))

theorem create_table_acts (name : String) (columns : List ColumnDef) :
    ActsAt places Anywhere name (createTable · name columns) (createHeld name columns) := by
  refine ⟨fun _ _ => trivial, ?_⟩
  intro db _
  have look : places.look name db = db.table? name := rfl
  cases present : db.table? name with
  | some table =>
    have taken : db.contains name = true := congrArg Option.isSome present
    simp only [look, present, assign_table present, createTable, taken, if_true, createHeld]
  | none =>
    have free : db.contains name = false := congrArg Option.isSome present
    cases accepted : Schema.ofColumns (columns.map (·.column)) with
    | error error => simp [look, present, assign_table present, createTable, free, accepted, createHeld]
    | ok schema =>
      simp only [look, present, createTable, free, accepted, create, createHeld, Bool.false_eq_true, if_false]
      rfl

def dropHeld (name : String) : Option Table → Except StoreError Answer × Option Table
  | some _ => (.ok (.dropped name), none)
  | none => (.error (.tableNotFound name), none)

theorem drop_table_acts (name : String) : ActsAt places Anywhere name (dropTable · name) (dropHeld name) := by
  refine ⟨fun _ _ => trivial, ?_⟩
  intro db _
  have look : places.look name db = db.table? name := rfl
  cases present : db.table? name with
  | some table =>
    simp only [look, present, dropTable, drop, dropHeld]
    rfl
  | none =>
    simp only [look, present, assign_table present, dropTable, drop, dropHeld]
    rfl

def operateHeld {α : Type} (name : String) (operation : Table → Except StoreError α × Table) :
    Option Table → Except StoreError α × Option Table
  | some table => ((operation table).1, some (operation table).2)
  | none => (.error (.tableNotFound name), none)

theorem on_table_acts {α : Type} (name : String) (operation : Table → Except StoreError α × Table) :
    ActsAt places Anywhere name (onTable · name operation) (operateHeld name operation) := by
  refine ⟨fun _ _ => trivial, ?_⟩
  intro db _
  have look : places.look name db = db.table? name := rfl
  cases present : db.table? name with
  | some table =>
    rw [on_table_present present]
    simp only [look, present, operateHeld]
    rfl
  | none =>
    rw [on_table_absent present]
    simp only [look, present, assign_table present, operateHeld]

def target? : Statement → Option String
  | .createTable name _ | .dropTable name | .insert name _ | .update name _ _ | .delete name _ => some name
  | .select .. | .join .. | .unknown _ => none

theorem execute_acts {statement : Statement} {name : String} (target : target? statement = some name) :
    ∃ act, ActsAt places Anywhere name (execute · statement) act := by
  cases statement with
  | createTable table columns =>
    cases target
    exact ⟨_, create_table_acts name columns⟩
  | dropTable table =>
    cases target
    exact ⟨_, drop_table_acts name⟩
  | insert table literals =>
    cases target
    exact ⟨_, on_table_acts name _⟩
  | update table assignments key =>
    cases target
    exact ⟨_, on_table_acts name _⟩
  | delete table key =>
    cases target
    exact ⟨_, on_table_acts name _⟩
  | select | join | unknown => cases target

def rowWrite? : Statement → Option (Table → Except StoreError Answer × Table)
  | .insert name literals => some (insertInto name literals)
  | .update name assignments key => some (updateIn name assignments key)
  | .delete name key => some (deleteFrom name key)
  | _ => none

-- The key of the row that it writes. An insertion gives one if its literal for the key is there and is an integer.
def writtenKey (schema : Schema) : Statement → Option Int64
  | .insert _ literals => History.keyOf schema.columns literals
  | .update _ _ key | .delete _ key => some key
  | _ => none

theorem row_write_acts (name : String) {schema : Schema} (sound : schema.Sound) {statement : Statement}
    {operation : Table → Except StoreError Answer × Table} (writes : rowWrite? statement = some operation) {key : Int64}
    (keyed : ∀ id, writtenKey schema statement = some id → id = key) :
    ∃ act, ActsAt Table.places (Table.Shaped name schema) key operation act := by
  cases statement with
  | insert target literals =>
    cases writes
    exact Table.insert_acts sound target keyed
  | update target assignments id =>
    cases writes
    have same := keyed id rfl
    subst same
    exact ⟨_, Table.update_acts target assignments id⟩
  | delete target id =>
    cases writes
    have same := keyed id rfl
    subst same
    exact ⟨_, Table.delete_acts target id⟩
  | createTable | dropTable | select | join | unknown => cases writes

theorem execute_row_write {statement : Statement} {name : String} (target : target? statement = some name)
    {operation : Table → Except StoreError Answer × Table} (writes : rowWrite? statement = some operation) :
    db.execute statement = db.onTable name operation := by
  cases statement with
  | insert | update | delete =>
    cases target
    cases writes
    rfl
  | createTable | dropTable | select | join | unknown => cases writes

theorem on_table_interchange {α β : Type} {name : String} {first : Table → Except StoreError α × Table}
    {second : Table → Except StoreError β × Table}
    (both : ∀ table, db.table? name = some table → Interchange first second table) :
    Interchange (onTable · name first) (onTable · name second) db := by
  cases present : db.table? name with
  | none => constructor <;> simp only [on_table_absent present]
  | some table =>
    obtain ⟨state, firstAnswer, secondAnswer⟩ := both table present
    constructor
    · simp only [on_table_present present, on_table_present (put_found ..), put_put, state]
    · simp only [on_table_present present, on_table_present (put_found ..), firstAnswer]
    · simp only [on_table_present present, on_table_present (put_found ..), secondAnswer]

-- A write without a key is apart from every other.
inductive Independent (db : Database) (first second : Statement) : Prop
  | tables {a b : String} (firstTarget : target? first = some a) (secondTarget : target? second = some b) (apart : a ≠ b)
  | rows {name : String} (firstTarget : target? first = some name) (secondTarget : target? second = some name)
      (firstWrites : (rowWrite? first).isSome) (secondWrites : (rowWrite? second).isSome)
      (apart : ∀ table, db.table? name = some table →
        ∀ key, writtenKey table.schema first = some key → writtenKey table.schema second ≠ some key)

theorem keys_apart {a b : Option Int64} (apart : ∀ key, a = some key → b ≠ some key) :
    ∃ k l, k ≠ l ∧ (∀ id, a = some id → id = k) ∧ (∀ id, b = some id → id = l) := by
  have another : ∀ key : Int64, ∃ other, other ≠ key := by
    intro key
    by_cases zero : key = 0
    · exact ⟨1, by rw [zero]; decide⟩
    · exact ⟨0, Ne.symm zero⟩
  cases a with
  | none =>
    obtain ⟨l, same⟩ : ∃ l, ∀ id, b = some id → id = l := by
      cases b with
      | none => exact ⟨0, by simp⟩
      | some l => exact ⟨l, by simp⟩
    obtain ⟨k, different⟩ := another l
    exact ⟨k, l, different, by simp, same⟩
  | some k =>
    cases b with
    | none =>
      obtain ⟨l, different⟩ := another k
      exact ⟨k, l, Ne.symm different, by simp, by simp⟩
    | some l =>
      have different : k ≠ l := fun same => apart k rfl (congrArg some same.symm)
      exact ⟨k, l, different, by simp, by simp⟩

theorem independent_writes_commute (events : List Event) {first second : Statement}
    (independent : Independent (reached events) first second) :
    Interchange (·.execute first) (·.execute second) (reached events) := by
  cases independent with
  | tables firstTarget secondTarget apart =>
    obtain ⟨f, firstActs⟩ := execute_acts firstTarget
    obtain ⟨g, secondActs⟩ := execute_acts secondTarget
    exact firstActs.interchange secondActs apart trivial
  | @rows name firstTarget secondTarget firstWrites secondWrites apart =>
    obtain ⟨f, firstIs⟩ := Option.isSome_iff_exists.mp firstWrites
    obtain ⟨g, secondIs⟩ := Option.isSome_iff_exists.mp secondWrites
    simp only [execute_row_write firstTarget firstIs, execute_row_write secondTarget secondIs]
    apply on_table_interchange
    intro table present
    have consistent := (reached_consistent events).tables name table present
    obtain ⟨k, l, different, firstKeyed, secondKeyed⟩ := keys_apart (apart table present)
    obtain ⟨_, firstActs⟩ := row_write_acts table.name consistent.schema firstIs firstKeyed
    obtain ⟨_, secondActs⟩ := row_write_acts table.name consistent.schema secondIs secondKeyed
    exact firstActs.interchange secondActs different ⟨rfl, rfl, consistent⟩

theorem pets_writes_commute :
    Interchange (·.execute (.insert "pets" ["Ann", "8", "2"])) (·.execute (.update "pets" [⟨"name", "Tom"⟩] 7))
        (reached petEvents) ∧
      Interchange (·.execute (.dropTable "pets")) (·.execute (.createTable "toys" [⟨"id", "int"⟩]))
        (reached petEvents) := by
  have present : (reached petEvents).table? "pets" = some petTable := by decide +kernel
  constructor
  · refine independent_writes_commute petEvents (.rows rfl rfl rfl rfl ?_)
    intro table found key inserted
    rw [present] at found
    cases found
    have eight : writtenKey petTable.schema (.insert "pets" ["Ann", "8", "2"]) = some 8 := by decide +kernel
    rw [eight] at inserted
    cases inserted
    decide
  · exact independent_writes_commute petEvents (.tables rfl rfl (by decide))

end Database

end TableStore
