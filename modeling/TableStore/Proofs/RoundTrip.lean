import TableStore.Proofs.Rendering
import TableStore.Proofs.Run

set_option autoImplicit false

namespace TableStore

namespace Value

def layout : Value → List Lexeme
  | .integer n => decimal n.toInt
  | .text content => [.text content]

def kept : Value → Value
  | .integer n => .integer n
  | .text content => .text (bare content)

theorem kept_integer (n : Int64) : kept (.integer n) = .integer n := rfl

theorem kept_text (content : String) : kept (.text content) = .text (bare content) := rfl

theorem kept_type (value : Value) : value.kept.columnType = value.columnType := by
  cases value with
  | integer n => rfl
  | text content => rw [kept_text, columnType, columnType]

theorem kept_eq_iff (value : Value) : value.kept = value ↔ ∀ content, value = .text content →
    Text.Firm Unicode.isBlank content.toList ∧ Text.Firm Text.isQuoteMark content.toList := by
  cases value with
  | integer n => simp [kept_integer]
  | text content => simp [kept_text, bare_kept_iff]

theorem all_kept_iff (values : List Value) : values.map (·.kept) = values ↔ ∀ content, .text content ∈ values →
    Text.Firm Unicode.isBlank content.toList ∧ Text.Firm Text.isQuoteMark content.toList := by
  have each : values.map (·.kept) = values.map id ↔ ∀ value ∈ values, value.kept = id value := List.map_eq_map_iff
  rw [List.map_id] at each
  rw [each]
  constructor
  · intro same content listed
    exact (kept_eq_iff _).mp (same _ listed) content rfl
  · intro firm value listed
    apply (kept_eq_iff value).mpr
    rintro content rfl
    exact firm content listed

theorem coerce_shown (value : Value) (column : String) :
    coerce value.shown value.columnType column = .ok value.kept := by
  cases value with
  | integer n =>
    rw [kept_integer, columnType, shown, coerce_integer_iff, bare, Decimal.trim_write, Decimal.trim_quote_marks_write,
      Decimal.trim_write, Decimal.read_write]
  | text content => rw [kept_text, coerce.eq_def, columnType, shown]

theorem layout_spells (value : Value) : Parser.Spells value.layout value.shown := by
  cases value with
  | integer n => exact Parser.decimal_spells n.toInt
  | text content => exact Parser.text_spells content

end Value

def insertionText (table : String) (values : List Value) : String :=
  String.ofList (written (spaced (insertion table (values.map (·.layout)))))

theorem parse_insertion_text (table : String) (values : List Value) :
    Statement.parse (insertionText table values) = .ok (.insert table (values.map (·.shown))) :=
  Statement.parse_insertion table Value.layout Value.shown values fun value _ => value.layout_spells

namespace Row

theorem coerce_all_shown {columns : List Column} {values : List Value}
    (typed : values.map (·.columnType) = columns.map (·.type)) :
    coerceAll columns (values.map (·.shown)) = .ok (values.map (·.kept)) := by
  induction columns generalizing values with
  | nil =>
    cases values with
    | nil => rfl
    | cons => cases typed
  | cons column rest ih =>
    cases values with
    | nil => cases typed
    | cons value others =>
      obtain ⟨atHead, behind⟩ := List.cons.inj typed
      have here : Value.coerce value.shown column.type column.name = .ok value.kept := by
        rw [show column.type = value.columnType from atHead.symm]
        exact value.coerce_shown column.name
      simp [coerceAll, here, ih behind, Except.map]

theorem of_literals_shown {schema : Schema} (sound : schema.Sound) {values : List Value}
    (typed : values.map (·.columnType) = schema.columns.map (·.type)) :
    ∃ id, values[schema.keyIndex]? = some (.integer id) ∧
      ofLiterals schema (values.map (·.shown)) = .ok ⟨id, values.map (·.kept)⟩ := by
  have keptTyped : (values.map (·.kept)).map (·.columnType) = schema.columns.map (·.type) := by
    rw [List.map_map, ← typed]
    exact List.map_congr_left fun value _ => value.kept_type
  obtain ⟨id, built, fits⟩ := of_values_typed sound keptTyped
  refine ⟨id, ?_, ?_⟩
  · have atKey := fits.key
    simp only [List.getElem?_map, Option.map_eq_some_iff] at atKey
    obtain ⟨value, found, keeps⟩ := atKey
    cases value with
    | integer n =>
      cases keeps
      exact found
    | text content => cases keeps
  · have same : (values.map (·.shown)).length = schema.width := by
      simpa [Schema.width] using congrArg List.length typed
    rw [ofLiterals, if_neg (by omega), if_neg (by omega), coerce_all_shown typed]
    exact built

end Row

namespace Database

theorem pick_behind {α : Type} (front rest : List α) :
    pick (front ++ rest) (List.range' front.length rest.length) = .ok rest := by
  induction rest generalizing front with
  | nil => rfl
  | cons item others ih =>
    have next : pick (front ++ item :: others) (List.range' (front.length + 1) others.length) = .ok others := by
      simpa using ih (front ++ [item])
    have here : (front ++ item :: others)[front.length]? = some item := by simp
    simp only [List.length_cons, List.range'_succ, pick, here, next, Except.map]

theorem pick_all {α : Type} (items : List α) : pick items (List.range items.length) = .ok items := by
  rw [List.range_eq_range']
  exact pick_behind [] items

theorem header_all (schema : Schema) : pick schema.columnNames (List.range schema.width) = .ok schema.columnNames := by
  simpa [Schema.columnNames, Schema.width] using pick_all schema.columnNames

theorem select_row {db : Database} {name : String} {table : Table} (present : db.table? name = some table) {key : Int64}
    {row : Row} (stored : table.row? key = some row) (width : row.values.length = table.schema.width) :
    db.select name .all (some key) = .ok (.rows ⟨table.schema.columnNames, [row.values]⟩) := by
  have cells : pick row.values (List.range table.schema.width) = .ok row.values := by
    rw [← width]
    exact pick_all row.values
  rw [select_picked present rfl (header_all table.schema), selected, stored]
  simp [pickRows, cells, Except.map]

theorem select_missing {db : Database} {name : String} {table : Table} (present : db.table? name = some table)
    {key : Int64} (missing : table.row? key = none) :
    db.select name .all (some key) = .ok (.rows ⟨table.schema.columnNames, []⟩) := by
  rw [select_picked present rfl (header_all table.schema), selected, missing]
  rfl

theorem execute_insertion_text {db : Database} {name : String} {table : Table} (present : db.table? name = some table)
    (sound : table.schema.Sound) {values : List Value}
    (typed : values.map (·.columnType) = table.schema.columns.map (·.type)) :
    ∃ id, values[table.schema.keyIndex]? = some (.integer id) ∧
      db.executeText (insertionText name values) = (.ok (.inserted name id (table.rows.contains id)),
        db.put name (table.put id ⟨id, values.map (·.kept)⟩)) := by
  obtain ⟨id, atKey, bound⟩ := Row.of_literals_shown sound typed
  refine ⟨id, atKey, ?_⟩
  rw [execute_text_read (parse_insertion_text name values), execute, on_table_present present,
    insert_into_bound sound name bound]

theorem select_put (db : Database) (name : String) {table : Table} {row : Row} (key : Int64)
    (width : row.values.length = table.schema.width) :
    (db.put name (table.put key row)).select name .all (some key) =
      .ok (.rows ⟨table.schema.columnNames, [row.values]⟩) := by
  have present : (db.put name (table.put key row)).table? name = some (table.put key row) := by
    rw [table_put, if_pos rfl]
  have stored : (table.put key row).row? key = some row := by
    rw [Table.row_put, if_pos rfl]
  exact select_row present stored width

theorem inserted_values_return (events : List Event) {name : String} {table : Table}
    (present : (reached events).table? name = some table) {values : List Value}
    (typed : values.map (·.columnType) = table.schema.columns.map (·.type)) :
    ∃ id replaced, values[table.schema.keyIndex]? = some (.integer id) ∧
      ((reached events).executeText (insertionText name values)).1 = .ok (.inserted name id replaced) ∧
      (((reached events).executeText (insertionText name values)).2.executeText
        (Statement.select name .all (some id)).render).1 =
          .ok (.rows ⟨table.schema.columnNames, [values.map (·.kept)]⟩) ∧
      (values.map (·.kept) = values ↔ ∀ content, .text content ∈ values →
        Text.Firm Unicode.isBlank content.toList ∧ Text.Firm Text.isQuoteMark content.toList) := by
  have consistent := (reached_consistent events).tables name table present
  obtain ⟨id, atKey, inserted⟩ := execute_insertion_text present consistent.schema typed
  have width : (values.map (·.kept)).length = table.schema.width := by
    simpa [Schema.width] using congrArg List.length typed
  refine ⟨id, table.rows.contains id, atKey, ?_, ?_, ?_⟩
  · rw [inserted]
  · rw [inserted, execute_text_read (Statement.parse_selection name (by simp) (some id))]
    exact select_put (reached events) name id width
  · exact Value.all_kept_iff values

def noteEvents : List Event := [.statement (.createTable "my notes" [⟨"body", "text"⟩, ⟨"id", "int"⟩])]

def noteTable : Table := .empty "my notes" ⟨[⟨"body", .text⟩, ⟨"id", .integer⟩], 1⟩

def noteValues : List Value := [.text " \x22it's (5, --\n JOIN) ", .integer Int64.minValue]

theorem inserted_note_returns :
    (reached noteEvents).table? "my notes" = some noteTable ∧
      (((reached noteEvents).executeText (insertionText "my notes" noteValues)).2.executeText
        "SELECT * FROM \"my notes\" WHERE id = -9223372036854775808").1 =
          .ok (.rows ⟨["body", "id"], [[.text "it's (5, --\n JOIN)", .integer Int64.minValue]]⟩) := by
  have present : (reached noteEvents).table? "my notes" = some noteTable := by decide +kernel
  obtain ⟨id, replaced, atKey, inserted, returned, _⟩ := inserted_values_return noteEvents present
    (by decide : noteValues.map (·.columnType) = noteTable.schema.columns.map (·.type))
  cases atKey
  refine ⟨present, ?_⟩
  have asked : (Statement.select "my notes" .all (some Int64.minValue)).render =
      "SELECT * FROM \"my notes\" WHERE id = -9223372036854775808" := by decide +kernel
  have kept : noteValues.map (·.kept) = [.text "it's (5, --\n JOIN)", .integer Int64.minValue] := by decide +kernel
  rw [asked, kept] at returned
  exact returned

-- The blanks of the text are lost, though its type is the column's.
theorem padded_note_is_trimmed :
    (reached noteEvents).table? "my notes" = some noteTable ∧
      ¬ ∀ values : List Value, values.map (·.columnType) = noteTable.schema.columns.map (·.type) →
        ∀ id, values[noteTable.schema.keyIndex]? = some (.integer id) →
          (((reached noteEvents).executeText (insertionText "my notes" values)).2.executeText
            (Statement.select "my notes" .all (some id)).render).1 =
              .ok (.rows ⟨noteTable.schema.columnNames, [values]⟩) := by
  refine ⟨by decide +kernel, ?_⟩
  intro unchanged
  have shown := unchanged [.text " x ", .integer 7] rfl 7 rfl
  revert shown
  decide +kernel

end Database

end TableStore
