import TableStore.Proofs.Table

set_option autoImplicit false

/- Insertion compares the types of the columns and nothing else, so a row may come from a schema whose key stands
elsewhere. The cell of the key is then the one the row was inserted with. -/
namespace TableStore.Table

structure BuiltRow where
  schema : Schema
  row : Row
  accepted : Schema.ofColumns schema.columns = .ok schema
  built : Row.ofValues schema row.values = .ok row

inductive Call where
  | insert (built : BuiltRow)
  | update (id : Int64) (cells : List (Nat × Value))
  | delete (id : Int64)

def call (table : Table) : Call → Table
  | .insert built => (table.insert built.row).2
  | .update id cells => (table.update id cells).2
  | .delete id => (table.delete id).2

def called (name : String) (schema : Schema) (calls : List Call) : Table := calls.foldl call (empty name schema)

def SameTypes (a b : Schema) : Prop := a.columns.map (·.type) = b.columns.map (·.type)

-- A row of the table's types has its key where the table has it.
def Call.Aligned (schema : Schema) : Call → Prop
  | .insert built => SameTypes built.schema schema → built.schema.keyIndex = schema.keyIndex
  | .update .. | .delete _ => True

structure Traced (schema : Schema) (calls : List Call) (table : Table) : Prop where
  kept : table.schema = schema
  rows : ∀ id row, table.row? id = some row → row.id = id ∧
    row.values.map (·.columnType) = schema.columns.map (·.type) ∧
    ∃ built, .insert built ∈ calls ∧ SameTypes built.schema schema ∧ built.row.id = id ∧
      row.values[schema.keyIndex]? = built.row.values[schema.keyIndex]?

variable {schema : Schema} {calls : List Call} {table : Table}

theorem insert_traced (traced : Traced schema calls table) {built : BuiltRow} (made : .insert built ∈ calls) :
    Traced schema calls (table.insert built.row).2 := by
  rw [insert]
  by_cases admitted : table.admits built.row = true
  · have typed := (admits_iff table built.row).mp admitted
    have fits := (Row.of_values_fits built.built).2
    rw [traced.kept] at typed
    rw [if_pos admitted]
    refine ⟨traced.kept, ?_⟩
    intro id row stored
    rw [row_put] at stored
    by_cases hit : id = built.row.id
    · rw [if_pos hit] at stored
      cases stored
      exact ⟨hit.symm, typed, built, made, fits.typed.symm.trans typed, hit.symm, rfl⟩
    · rw [if_neg hit] at stored
      exact traced.rows id row stored
  · rw [if_neg admitted]
    exact traced

theorem update_traced (traced : Traced schema calls table) (id : Int64) (cells : List (Nat × Value)) :
    Traced schema calls (table.update id cells).2 := by
  cases checked : checkCells table.schema cells with
  | error error =>
    rw [update, checked]
    exact traced
  | ok _ =>
    cases stored : table.row? id with
    | none =>
      rw [update, checked, stored]
      exact traced
    | some row =>
      obtain ⟨underId, typed, built, made, same, sameId, keyCell⟩ := traced.rows id row stored
      have width : row.values.length = table.schema.width := by
        rw [traced.kept]
        simpa [Schema.width] using congrArg List.length typed
      rw [update_checked stored width checked]
      refine ⟨traced.kept, ?_⟩
      intro query found shown
      rw [row_put] at shown
      by_cases hit : query = id
      · rw [if_pos hit] at shown
        cases shown
        rw [traced.kept] at checked ⊢
        exact ⟨underId.trans hit.symm, written_checked _ typed checked, built, made, same, sameId.trans hit.symm,
          (written_key ..).trans keyCell⟩
      · rw [if_neg hit] at shown
        exact traced.rows query found shown

theorem delete_traced (traced : Traced schema calls table) (id : Int64) : Traced schema calls (table.delete id).2 := by
  refine ⟨traced.kept, ?_⟩
  intro query row stored
  have found : (table.without id).row? query = some row := stored
  rw [row_without] at found
  by_cases hit : query = id
  · rw [if_pos hit] at found
    cases found
  · rw [if_neg hit] at found
    exact traced.rows query row found

theorem call_traced (traced : Traced schema calls table) {next : Call} (made : next ∈ calls) :
    Traced schema calls (table.call next) := by
  cases next with
  | insert built => exact insert_traced traced made
  | update id cells => exact update_traced traced id cells
  | delete id => exact delete_traced traced id

-- Induction on the calls still to be made, over every table that all of them may have led to.
theorem calls_traced (traced : Traced schema calls table) (rest : List Call) (made : ∀ next ∈ rest, next ∈ calls) :
    Traced schema calls (rest.foldl call table) := by
  induction rest generalizing table with
  | nil => exact traced
  | cons next rest ih =>
    obtain ⟨first, others⟩ := List.forall_mem_cons.mp made
    exact ih (call_traced traced first) others

theorem called_traced (name : String) (schema : Schema) (calls : List Call) :
    Traced schema calls (called name schema calls) := by
  have start : Traced schema calls (empty name schema) := by
    refine ⟨rfl, ?_⟩
    intro id row stored
    cases stored
  exact calls_traced start calls fun _ made => made

theorem ids_ascending (underId : ∀ id row, table.row? id = some row → row.id = id) :
    (table.allRows.map (·.id)).Pairwise (· < ·) := by
  have keys : table.allRows.map (·.id) = table.rows.keys := by
    simp only [allRows, OrdMap.values, OrdMap.keys, List.map_map]
    apply List.map_congr_left
    intro entry listed
    exact underId entry.1 entry.2 (entry_at_of_mem table.rows.ascending listed)
  rw [keys]
  exact List.pairwise_map.mpr table.rows.ascending

theorem called_rows_agree (name : String) (schema : Schema) (calls : List Call) :
    (∀ key row, (key, row) ∈ (called name schema calls).rows.entries →
        row.id = key ∧ row.values.length = schema.columns.length ∧
          row.values.map (·.columnType) = schema.columns.map (·.type) ∧
          ((∀ next ∈ calls, next.Aligned schema) → row.values[schema.keyIndex]? = some (.integer key))) ∧
      ((called name schema calls).allRows.map (·.id)).Pairwise (· < ·) := by
  have traced := called_traced name schema calls
  constructor
  · intro key row listed
    have stored : (called name schema calls).row? key = some row :=
      entry_at_of_mem (called name schema calls).rows.ascending listed
    obtain ⟨underId, typed, built, made, same, sameId, keyCell⟩ := traced.rows key row stored
    refine ⟨underId, by simpa using congrArg List.length typed, typed, ?_⟩
    intro aligned
    have place : built.schema.keyIndex = schema.keyIndex := aligned (.insert built) made same
    have shown := (Row.of_values_fits built.built).2.key
    rw [keyCell, ← place, shown, sameId]
  · exact ids_ascending fun id row stored => (traced.rows id row stored).1

def peopleSchema : Schema := ⟨[⟨"id", .integer⟩, ⟨"name", .text⟩, ⟨"age", .integer⟩], 0⟩

def guestRow : BuiltRow where
  schema := ⟨[⟨"id", .integer⟩, ⟨"guest", .text⟩, ⟨"visits", .integer⟩], 0⟩
  row := ⟨4, [.integer 4, .text "Ann", .integer 9]⟩
  accepted := rfl
  built := rfl

def guestCalls : List Call :=
  [.insert guestRow, .update 4 [(0, .integer 9), (2, .integer 10)], .delete 9]

theorem called_guests_agree :
    (4, ⟨4, [.integer 4, .text "Ann", .integer 10]⟩) ∈ (called "people" peopleSchema guestCalls).rows.entries ∧
      ∀ key row, (key, row) ∈ (called "people" peopleSchema guestCalls).rows.entries →
        row.values[peopleSchema.keyIndex]? = some (.integer key) := by
  have aligned : ∀ next ∈ guestCalls, next.Aligned peopleSchema := by
    simp [guestCalls, Call.Aligned, guestRow, peopleSchema]
  refine ⟨by decide, ?_⟩
  intro key row listed
  exact ((called_rows_agree "people" peopleSchema guestCalls).1 key row listed).2.2.2 aligned

-- The types of the table, but the key in the last place.
def visitRow : BuiltRow where
  schema := ⟨[⟨"visits", .integer⟩, ⟨"guest", .text⟩, ⟨"id", .integer⟩], 2⟩
  row := ⟨4, [.integer 9, .text "Ann", .integer 4]⟩
  accepted := rfl
  built := rfl

theorem visit_row_hides_its_id :
    Schema.ofColumns peopleSchema.columns = .ok peopleSchema ∧
      ((empty "people" peopleSchema).insert visitRow.row).1 = .ok false ∧
      ¬ ∀ key row, (key, row) ∈ (called "people" peopleSchema [.insert visitRow]).rows.entries →
        row.values[peopleSchema.keyIndex]? = some (.integer key) := by
  refine ⟨rfl, rfl, ?_⟩
  intro agree
  have shown := agree 4 visitRow.row (by decide)
  revert shown
  decide

end TableStore.Table
