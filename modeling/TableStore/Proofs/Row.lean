import TableStore.Row
import TableStore.Proofs.Faultless
import TableStore.Proofs.Schema

set_option autoImplicit false

namespace TableStore

-- What was read is generalized before any case split: evaluation would run into the decoding of the text.
theorem coerce_type {literal column : String} {type : ColumnType} {value : Value}
    (coerced : Value.coerce literal type column = .ok value) : value.columnType = type := by
  unfold Value.coerce at coerced
  generalize Decimal.read (Value.bare literal) = read at coerced
  cases type with
  | text =>
    cases coerced
    rfl
  | integer =>
    cases read with
    | none => cases coerced
    | some n =>
      cases coerced
      rfl

theorem coerce_error {literal column : String} {type : ColumnType} {error : StoreError}
    (failed : Value.coerce literal type column = .error error) : error = .typeCoercion column (Value.bare literal) := by
  unfold Value.coerce at failed
  generalize Decimal.read (Value.bare literal) = read at failed
  cases type with
  | text => cases failed
  | integer =>
    cases read with
    | none => exact (Except.error.inj failed).symm
    | some n => cases failed

theorem coerce_integer_iff {literal column : String} {id : Int64} :
    Value.coerce literal .integer column = .ok (.integer id) ↔ Decimal.read (Value.bare literal) = some id := by
  unfold Value.coerce
  generalize Decimal.read (Value.bare literal) = read
  cases read with
  | none => simp
  | some n => simp

namespace Row

structure Fits (schema : Schema) (row : Row) : Prop where
  typed : row.values.map (·.columnType) = schema.columns.map (·.type)
  key : row.values[schema.keyIndex]? = some (.integer row.id)

variable {schema : Schema} {row : Row}

theorem Fits.width (fits : row.Fits schema) : row.values.length = schema.width := by
  have lengths := congrArg List.length fits.typed
  simpa [Schema.width] using lengths

theorem mistyped_none_iff {columns : List Column} {values : List Value} (same : values.length = columns.length) :
    mistyped? columns values = none ↔ values.map (·.columnType) = columns.map (·.type) := by
  induction columns generalizing values with
  | nil =>
    cases values with
    | nil => simp [mistyped?]
    | cons => cases same
  | cons column rest ih =>
    cases values with
    | nil => cases same
    | cons value others =>
      rw [mistyped?]
      by_cases fits : value.columnType = column.type
      · simp [fits, ih (Nat.succ.inj same)]
      · simp [fits]

theorem coerce_all_cons {column : Column} {columns : List Column} {literal : String} {literals : List String}
    {values : List Value} (coerced : coerceAll (column :: columns) (literal :: literals) = .ok values) :
    ∃ value others, values = value :: others ∧ Value.coerce literal column.type column.name = .ok value ∧
      coerceAll columns literals = .ok others := by
  rw [coerceAll] at coerced
  cases first : Value.coerce literal column.type column.name with
  | error error =>
    rw [first] at coerced
    cases coerced
  | ok value =>
    cases behind : coerceAll columns literals with
    | error error =>
      rw [first, behind] at coerced
      cases coerced
    | ok others =>
      rw [first, behind] at coerced
      cases coerced
      exact ⟨value, others, rfl, rfl, rfl⟩

theorem coerce_all_at {columns : List Column} {literals : List String} {values : List Value}
    (coerced : coerceAll columns literals = .ok values) {index : Nat} {column : Column} {literal : String}
    (listed : columns[index]? = some column) (given : literals[index]? = some literal) :
    ∃ value, values[index]? = some value ∧ Value.coerce literal column.type column.name = .ok value := by
  induction columns generalizing literals values index with
  | nil => cases listed
  | cons head rest ih =>
    cases literals with
    | nil => cases given
    | cons first others =>
      obtain ⟨value, found, same, atHead, behind⟩ := coerce_all_cons coerced
      subst same
      cases index with
      | zero =>
        cases listed
        cases given
        exact ⟨value, rfl, atHead⟩
      | succ index => exact ih behind listed given

theorem coerce_all_typed {columns : List Column} {literals : List String} {values : List Value}
    (same : literals.length = columns.length) (coerced : coerceAll columns literals = .ok values) :
    values.map (·.columnType) = columns.map (·.type) := by
  induction columns generalizing literals values with
  | nil =>
    cases coerced
    rfl
  | cons head rest ih =>
    cases literals with
    | nil => cases same
    | cons first others =>
      obtain ⟨value, found, shape, atHead, behind⟩ := coerce_all_cons coerced
      rw [shape, List.map_cons, List.map_cons, coerce_type atHead, ih (Nat.succ.inj same) behind]

theorem coerce_all_error {columns : List Column} {literals : List String} {error : StoreError}
    (failed : coerceAll columns literals = .error error) : error.family = .typeCoercion := by
  induction columns generalizing literals with
  | nil => cases failed
  | cons head rest ih =>
    cases literals with
    | nil => cases failed
    | cons first others =>
      rw [coerceAll] at failed
      cases atHead : Value.coerce first head.type head.name with
      | error cause =>
        rw [atHead] at failed
        cases failed
        rw [coerce_error atHead]
        rfl
      | ok value =>
        cases behind : coerceAll rest others with
        | error cause =>
          rw [atHead, behind] at failed
          cases failed
          exact ih behind
        | ok found =>
          rw [atHead, behind] at failed
          cases failed

theorem of_values_fits {values : List Value} (built : ofValues schema values = .ok row) :
    row.values = values ∧ row.Fits schema := by
  rw [ofValues] at built
  split at built
  · cases built
  · rename_i width
    have same : values.length = schema.columns.length := Decidable.not_not.mp width
    cases checked : mistyped? schema.columns values with
    | some mistyped =>
      rw [checked] at built
      cases built
    | none =>
      have typed := (mistyped_none_iff same).mp checked
      simp only [checked] at built
      split at built
      · cases built
      · rename_i key atKey
        cases key with
        | text content => cases built
        | integer id =>
          cases built
          exact ⟨rfl, typed, atKey⟩

-- The checks made again on typed values all pass, so that a key is always found.
theorem of_values_typed (sound : schema.Sound) {values : List Value}
    (typed : values.map (·.columnType) = schema.columns.map (·.type)) :
    ∃ id, ofValues schema values = .ok ⟨id, values⟩ ∧ (Row.mk id values).Fits schema := by
  have same : values.length = schema.columns.length := by simpa using congrArg List.length typed
  have atKey := congrArg (·[schema.keyIndex]?) typed
  simp only [List.getElem?_map, sound.key, Option.map_some] at atKey
  obtain ⟨key, found, isInteger⟩ := Option.map_eq_some_iff.mp atKey
  cases key with
  | text content => cases isInteger
  | integer id =>
    refine ⟨id, ?_, typed, found⟩
    simp [ofValues, Schema.width, same, (mistyped_none_iff same).mpr typed, found, Value.integer?]

theorem of_literals_faultless (sound : schema.Sound) (literals : List String) :
    Faultless (fun row => row.Fits schema ∧ literals.length = schema.width ∧
      coerceAll schema.columns literals = .ok row.values) (ofLiterals schema literals) := by
  rw [ofLiterals]
  by_cases fewer : literals.length < schema.width
  · simp [fewer, Faultless, StoreError.family]
  · by_cases more : schema.width < literals.length
    · simp [fewer, more, Faultless, StoreError.family]
    · rw [if_neg fewer, if_neg more]
      have same : literals.length = schema.width := by omega
      cases coerced : coerceAll schema.columns literals with
      | error error => simp [Faultless, coerce_all_error coerced]
      | ok values =>
        obtain ⟨id, bound, fits⟩ := of_values_typed sound (coerce_all_typed same coerced)
        simp only [bound]
        exact ⟨fits, same, rfl⟩

end Row

end TableStore
