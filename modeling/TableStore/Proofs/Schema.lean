import TableStore.Schema

set_option autoImplicit false

/- The names of an accepted schema differ, so an index, a name and a column stand for one another. -/
namespace TableStore

theorem is_key_iff (column : Column) : column.isKey = true ↔ column = ⟨keyName, .integer⟩ := by
  cases column
  simp [Column.isKey]

namespace Schema

structure Sound (schema : Schema) : Prop where
  distinct : schema.columnNames.Nodup
  key : schema.columns[schema.keyIndex]? = some ⟨keyName, .integer⟩

-- Over any names met before, since they grow along the list.
theorem first_repeated_none_iff (before names : List String) :
    firstRepeated before names = none ↔ names.Nodup ∧ ∀ name ∈ names, name ∉ before := by
  induction names generalizing before with
  | nil => simp [firstRepeated]
  | cons name rest ih =>
    rw [firstRepeated]
    by_cases seen : name ∈ before
    · simp [seen]
    · rw [if_neg seen, ih (name :: before)]
      simp only [List.nodup_cons, List.mem_cons, not_or, forall_eq_or_imp]
      constructor
      · rintro ⟨distinct, fresh⟩
        exact ⟨⟨fun again => (fresh name again).1 rfl, distinct⟩, seen, fun other later => (fresh other later).2⟩
      · rintro ⟨⟨single, distinct⟩, _, fresh⟩
        refine ⟨distinct, fun other later => ⟨?_, fresh other later⟩⟩
        intro same
        exact single (same ▸ later)

theorem first_repeated_some_iff (before names : List String) (name : String) :
    firstRepeated before names = some name ↔
      ∃ front behind, names = front ++ name :: behind ∧ (name ∈ before ∨ name ∈ front) ∧ front.Nodup ∧
        ∀ other ∈ front, other ∉ before := by
  induction names generalizing before with
  | nil => simp [firstRepeated]
  | cons head rest ih =>
    rw [firstRepeated]
    by_cases seen : head ∈ before
    · rw [if_pos seen]
      constructor
      · intro same
        cases same
        exact ⟨[], rest, rfl, .inl seen, List.nodup_nil, by simp⟩
      · rintro ⟨front, behind, split, _, _, fresh⟩
        cases front with
        | nil =>
          cases split
          rfl
        | cons first others =>
          cases split
          exact absurd seen (fresh head (List.mem_cons_self ..))
    · rw [if_neg seen, ih (head :: before)]
      constructor
      · rintro ⟨front, behind, split, again, distinct, fresh⟩
        refine ⟨head :: front, behind, by rw [split]; rfl, ?_, ?_, ?_⟩
        · simp only [List.mem_cons] at again ⊢
          grind
        · exact List.nodup_cons.mpr ⟨fun listed => fresh head listed (List.mem_cons_self ..), distinct⟩
        · refine List.forall_mem_cons.mpr ⟨seen, ?_⟩
          exact fun other listed met => fresh other listed (List.mem_cons_of_mem _ met)
      · rintro ⟨front, behind, split, again, distinct, fresh⟩
        cases front with
        | nil =>
          cases split
          simp [seen] at again
        | cons first others =>
          cases split
          obtain ⟨single, distinct⟩ := List.nodup_cons.mp distinct
          refine ⟨others, behind, rfl, ?_, distinct, ?_⟩
          · simp only [List.mem_cons] at again ⊢
            grind
          · intro other listed met
            rcases List.mem_cons.mp met with same | earlier
            · exact single (same ▸ listed)
            · exact fresh other (List.mem_cons_of_mem _ listed) earlier

theorem of_columns_ok_iff (columns : List Column) (schema : Schema) :
    ofColumns columns = .ok schema ↔
      (columns.map (·.name)).Nodup ∧ columns.findIdx? (·.isKey) = some schema.keyIndex ∧ schema.columns = columns := by
  have distinct := first_repeated_none_iff [] (columns.map (·.name))
  cases schema with
  | mk listed index =>
    rw [ofColumns]
    cases repeated : firstRepeated [] (columns.map (·.name)) with
    | some name => simp_all
    | none =>
      cases found : columns.findIdx? (·.isKey) with
      | none => simp
      | some first =>
        simp_all only [List.not_mem_nil, not_false_eq_true, implies_true, and_true, true_iff]
        simp only [Except.ok.injEq, Schema.mk.injEq, Option.some.injEq, true_and]
        exact ⟨fun same => ⟨same.2, same.1.symm⟩, fun same => ⟨same.2.symm, same.1⟩⟩

theorem of_columns_sound {columns : List Column} {schema : Schema} (accepted : ofColumns columns = .ok schema) :
    schema.Sound := by
  obtain ⟨distinct, found, same⟩ := (of_columns_ok_iff columns schema).mp accepted
  obtain ⟨inside, isKey, _⟩ := List.findIdx?_eq_some_iff_getElem.mp found
  subst same
  refine ⟨distinct, ?_⟩
  rw [List.getElem?_eq_getElem inside, (is_key_iff _).mp isKey]

theorem of_columns_error {columns : List Column} {error : StoreError} (failed : ofColumns columns = .error error) :
    error.family = .validation := by
  rw [ofColumns] at failed
  split at failed
  · cases failed
    rfl
  · split at failed
    · cases failed
    · cases failed
      rfl

theorem first_repeated_iff (names : List String) (name : String) :
    firstRepeated [] names = some name ↔
      ∃ before behind, names = before ++ name :: behind ∧ before.Nodup ∧ name ∈ before := by
  rw [first_repeated_some_iff]
  constructor
  · rintro ⟨before, behind, split, earlier, distinct, _⟩
    exact ⟨before, behind, split, distinct, by simpa using earlier⟩
  · rintro ⟨before, behind, split, distinct, earlier⟩
    exact ⟨before, behind, split, .inr earlier, distinct, by simp⟩

theorem key_absent_iff (columns : List Column) :
    columns.findIdx? (·.isKey) = none ↔ ⟨keyName, .integer⟩ ∉ columns := by
  rw [List.findIdx?_eq_none_iff]
  constructor
  · intro others listed
    cases others _ listed
  · intro absent column listed
    cases isKey : column.isKey with
    | false => rfl
    | true =>
      rw [(is_key_iff column).mp isKey] at listed
      exact absurd listed absent

theorem of_columns_error_iff (columns : List Column) (error : StoreError) :
    ofColumns columns = .error error ↔
      (∃ name, firstRepeated [] (columns.map (·.name)) = some name ∧ error = .duplicateColumn name) ∨
        firstRepeated [] (columns.map (·.name)) = none ∧ ⟨keyName, .integer⟩ ∉ columns ∧ error = .missingPrimaryKey := by
  rw [ofColumns, ← key_absent_iff]
  cases firstRepeated [] (columns.map (·.name)) with
  | some name =>
    constructor
    · intro failed
      cases failed
      exact .inl ⟨name, rfl, rfl⟩
    · rintro (⟨other, repeated, same⟩ | ⟨single, _⟩)
      · cases repeated
        rw [same]
      · cases single
  | none =>
    cases columns.findIdx? (·.isKey) with
    | some index => simp
    | none =>
      constructor
      · intro failed
        cases failed
        exact .inr ⟨rfl, rfl, rfl⟩
      · rintro (⟨name, repeated, _⟩ | ⟨_, _, same⟩)
        · cases repeated
        · rw [same]

variable {schema : Schema}

theorem Sound.same_index (sound : schema.Sound) {i j : Nat} {a b : Column} (atI : schema.columns[i]? = some a)
    (atJ : schema.columns[j]? = some b) (same : a.name = b.name) : i = j := by
  have inside : i < schema.columnNames.length := by
    rw [columnNames, List.length_map]
    exact (List.getElem?_eq_some_iff.mp atI).1
  apply (List.getElem?_inj inside sound.distinct).mp
  simp only [columnNames, List.getElem?_map, atI, atJ, Option.map_some, same]

theorem Sound.key_inside (sound : schema.Sound) : schema.keyIndex < schema.width :=
  (List.getElem?_eq_some_iff.mp sound.key).1

theorem Sound.key_only (sound : schema.Sound) {i : Nat} {column : Column} (atI : schema.columns[i]? = some column)
    (named : column.name = keyName) : i = schema.keyIndex := sound.same_index atI sound.key named

theorem Sound.find_key (sound : schema.Sound) : schema.columns.findIdx? (·.isKey) = some schema.keyIndex := by
  obtain ⟨inside, atKey⟩ := List.getElem?_eq_some_iff.mp sound.key
  refine List.findIdx?_eq_some_iff_getElem.mpr ⟨inside, by rw [atKey]; rfl, ?_⟩
  intro i before isKey
  have listed := List.getElem?_eq_getElem (Nat.lt_trans before inside)
  have same := sound.key_only listed (by rw [(is_key_iff _).mp isKey])
  omega

theorem column_index_some {name : String} {index : Nat} (found : schema.columnIndex? name = some index) :
    ∃ column, schema.columns[index]? = some column ∧ column.name = name := by
  obtain ⟨inside, named, _⟩ := List.findIdx?_eq_some_iff_getElem.mp found
  exact ⟨_, List.getElem?_eq_getElem inside, by simpa using named⟩

theorem column_index_none_iff (name : String) : schema.columnIndex? name = none ↔ name ∉ schema.columnNames := by
  simp [columnIndex?, columnNames, List.findIdx?_eq_none_iff]

theorem Sound.column_index (sound : schema.Sound) {index : Nat} {column : Column}
    (listed : schema.columns[index]? = some column) : schema.columnIndex? column.name = some index := by
  cases found : schema.columnIndex? column.name with
  | none =>
    have absent := (column_index_none_iff column.name).mp found
    exact absurd (List.mem_map.mpr ⟨column, List.mem_of_getElem? listed, rfl⟩) absent
  | some other =>
    obtain ⟨same, atOther, named⟩ := column_index_some found
    rw [sound.same_index atOther listed named]

theorem Sound.column_index_iff (sound : schema.Sound) (name : String) (index : Nat) :
    schema.columnIndex? name = some index ↔ schema.columns[index]?.map (·.name) = some name := by
  constructor
  · intro found
    obtain ⟨column, listed, named⟩ := column_index_some found
    rw [listed, Option.map_some, named]
  · intro given
    obtain ⟨column, listed, named⟩ := Option.map_eq_some_iff.mp given
    rw [← named]
    exact sound.column_index listed

theorem Sound.flagged_iff (sound : schema.Sound) {index : Nat} {column : Column}
    (listed : schema.columns[index]? = some column) : column.isKey = true ↔ index = schema.keyIndex := by
  constructor
  · intro isKey
    exact sound.key_only listed (by rw [(is_key_iff column).mp isKey])
  · rintro rfl
    rw [sound.key] at listed
    cases listed
    rfl

theorem of_columns_accepts_iff (columns : List Column) :
    (∃ schema, ofColumns columns = .ok schema) ↔
      (columns.map (·.name)).Nodup ∧ ⟨keyName, .integer⟩ ∈ columns := by
  simp only [of_columns_ok_iff]
  constructor
  · rintro ⟨schema, distinct, found, _⟩
    refine ⟨distinct, Decidable.not_not.mp fun absent => ?_⟩
    rw [(key_absent_iff columns).mpr absent] at found
    cases found
  · rintro ⟨distinct, present⟩
    cases found : columns.findIdx? (·.isKey) with
    | none => exact absurd present ((key_absent_iff columns).mp found)
    | some index => exact ⟨⟨columns, index⟩, distinct, rfl, rfl⟩

theorem of_columns_accepts_perm {columns others : List Column} (same : columns.Perm others) :
    (∃ schema, ofColumns columns = .ok schema) ↔ ∃ schema, ofColumns others = .ok schema := by
  rw [of_columns_accepts_iff, of_columns_accepts_iff, (same.map _).nodup_iff, same.mem_iff]

structure Arranges (schema : Schema) (columns : List Column) : Prop where
  order : schema.columns = columns
  key : columns[schema.keyIndex]? = some ⟨keyName, .integer⟩
  index : ∀ name index, schema.columnIndex? name = some index ↔ columns[index]?.map (·.name) = some name
  single : ∀ index column, columns[index]? = some column → (column.isKey = true ↔ index = schema.keyIndex)

theorem of_columns_arranges {columns : List Column} {schema : Schema} (accepted : ofColumns columns = .ok schema) :
    schema.Arranges columns := by
  have sound := of_columns_sound accepted
  obtain ⟨_, _, rfl⟩ := (of_columns_ok_iff columns schema).mp accepted
  exact ⟨rfl, sound.key, sound.column_index_iff, fun _ _ => sound.flagged_iff⟩

theorem acceptance_is_exact (columns : List Column) :
    ((∃ schema, ofColumns columns = .ok schema) ↔
        (columns.map (·.name)).Nodup ∧ ⟨"id", .integer⟩ ∈ columns) ∧
      (∀ error, ofColumns columns = .error error ↔
        (∃ name before behind, columns.map (·.name) = before ++ name :: behind ∧ before.Nodup ∧ name ∈ before ∧
            error = .duplicateColumn name) ∨
          (columns.map (·.name)).Nodup ∧ ⟨"id", .integer⟩ ∉ columns ∧ error = .missingPrimaryKey) ∧
      (∀ schema, ofColumns columns = .ok schema → schema.Arranges columns) ∧
      ∀ others, columns.Perm others →
        ((∃ schema, ofColumns columns = .ok schema) ↔ ∃ schema, ofColumns others = .ok schema) := by
  refine ⟨of_columns_accepts_iff columns, ?_, fun _ => of_columns_arranges, fun _ => of_columns_accepts_perm⟩
  intro error
  have distinct := first_repeated_none_iff [] (columns.map (·.name))
  simp only [List.not_mem_nil, not_false_eq_true, implies_true, and_true] at distinct
  simp only [of_columns_error_iff, first_repeated_iff, distinct]
  constructor
  · rintro (⟨name, ⟨before, behind, split, single, again⟩, rfl⟩ | keyless)
    · exact .inl ⟨name, before, behind, split, single, again, rfl⟩
    · exact .inr keyless
  · rintro (⟨name, before, behind, split, single, again, rfl⟩ | keyless)
    · exact .inl ⟨name, ⟨before, behind, split, single, again⟩, rfl⟩
    · exact .inr keyless

def pupilColumns : List Column := [⟨"name", .text⟩, ⟨"id", .integer⟩, ⟨"age", .integer⟩]

theorem pupil_columns_accepted :
    ofColumns pupilColumns = .ok ⟨pupilColumns, 1⟩ ∧ Arranges ⟨pupilColumns, 1⟩ pupilColumns ∧
      (∃ schema, ofColumns [⟨"id", .integer⟩, ⟨"name", .text⟩, ⟨"age", .integer⟩] = .ok schema) ∧
      ofColumns [⟨"name", .text⟩, ⟨"age", .integer⟩, ⟨"age", .text⟩, ⟨"name", .text⟩] = .error (.duplicateColumn "age") := by
  obtain ⟨_, _, arranged, ordered⟩ := acceptance_is_exact pupilColumns
  have accepted : ofColumns pupilColumns = .ok ⟨pupilColumns, 1⟩ := rfl
  refine ⟨accepted, arranged _ accepted, (ordered _ (.swap ..)).mp ⟨_, accepted⟩, ?_⟩
  exact ((acceptance_is_exact _).2.1 _).mpr
    (.inl ⟨"age", ["name", "age"], ["name"], rfl, by decide, by decide, rfl⟩)

end Schema

end TableStore
