import TableStore.Proofs.Rendering
import TableStore.Proofs.Run

set_option autoImplicit false

/- What a schema is shown as declares it again where the names of its columns are bare words. -/
namespace TableStore

namespace Column

def layout (column : Column) : List Lexeme := spaced [[.word column.name], [.word column.type.name]]

def declared (column : Column) : ColumnDef := ⟨column.name, column.type.name⟩

theorem declared_column (column : Column) : column.declared.column = column := by
  have typed : ColumnType.named column.type.name = column.type := by
    cases column.type with
    | integer => decide
    | text => decide
  rw [declared, ColumnDef.column, typed]

theorem layout_written (column : Column) : String.ofList (written column.layout) = column.declaration := by
  apply String.toList_injective
  simp [layout, spaced, joined, written, Lexeme.word, Lexeme.space, declaration]

theorem type_name_bare (type : ColumnType) : Lexeme.isBare type.name.toList = true := by
  cases type with
  | integer => rfl
  | text => rfl

theorem layout_detached {column : Column} (bare : Lexeme.isBare column.name.toList = true) : Detached column.layout := by
  apply spaced_detached
  simp [word_detached bare, word_detached (type_name_bare column.type)]

end Column

namespace Schema

def layout (schema : Schema) : List Lexeme := enclosed (listed (schema.columns.map (·.layout)))

theorem listed_written (phrases : List (List Lexeme)) :
    String.ofList (written (listed phrases)) =
      ", ".intercalate (phrases.map fun phrase => String.ofList (written phrase)) := by
  induction phrases with
  | nil => rfl
  | cons phrase rest ih =>
    cases rest with
    | nil =>
      rw [List.map_singleton, String.intercalate_singleton]
      rfl
    | cons next others =>
      rw [List.map_cons] at ih
      rw [List.map_cons, List.map_cons, String.intercalate_cons_cons, ← ih]
      apply String.toList_injective
      simp [listed, joined, written, Lexeme.sign, Lexeme.space, Symbol.text]

theorem layout_written (schema : Schema) : String.ofList (written schema.layout) = schema.declaration := by
  have columns : schema.columns.map (·.declaration) =
      (schema.columns.map (·.layout)).map fun phrase => String.ofList (written phrase) := by
    rw [List.map_map]
    exact List.map_congr_left fun column _ => column.layout_written.symm
  rw [declaration, columns, ← listed_written]
  apply String.toList_injective
  simp [layout, enclosed, written, Lexeme.sign, Symbol.text]

def creation (table : String) (schema : Schema) : List (List Lexeme) :=
  [[.keyword (.command .create)], [.keyword .table], [.word table], schema.layout]

theorem creation_written (table : String) (schema : Schema) :
    String.ofList (written (spaced (schema.creation table))) = "CREATE TABLE " ++ table ++ " " ++ schema.declaration := by
  rw [← layout_written]
  apply String.toList_injective
  simp [creation, spaced, joined, written, Lexeme.keyword, Lexeme.word, Lexeme.space, Keyword.text, Command.text]

end Schema

namespace Parser

theorem column_takes (gap : String) (column : Column) :
    Takes columnDef gap column.layout column.declared endsColumn := by
  have typed : Takes (typeName column.name) " " [.word column.type.name] column.type.name anyToken := fun _ _ => rfl
  apply (word_takes gap .column column.name).spaced
  exact (typed.weaken fun _ _ => rfl).alone (modifiers_take.map _)

end Parser

namespace Statement

-- The words of the table and of the columns may be keywords: none of them is read as one where a name is expected.
theorem parse_creation {table : String} (bare : Lexeme.isBare table.toList = true) {schema : Schema}
    (nonempty : schema.columns ≠ []) (names : ∀ column ∈ schema.columns, Lexeme.isBare column.name.toList = true) :
    parse ("CREATE TABLE " ++ table ++ " " ++ schema.declaration) =
      .ok (.createTable table (schema.columns.map (·.declared))) := by
  have columns : ∀ phrase ∈ schema.columns.map (·.layout), Detached phrase := by
    simpa using fun column listed => Column.layout_detached (names column listed)
  have detached : ∀ phrase ∈ schema.creation table, Detached phrase := by
    simp [Schema.creation, keyword_detached, word_detached bare, Schema.layout, enclosed_detached (listed_detached columns)]
  have taken := Parser.creation_takes Column.layout Column.declared schema.columns nonempty
    (fun gap column _ => Parser.column_takes gap column) (Parser.word_takes " " .table table)
  rw [← Schema.creation_written]
  exact parse_spaced .create [[.keyword .table], [.word table]] _ rfl detached (enclosed_solid _) taken.all

end Statement

namespace Database

theorem create_declared {db : Database} {table : String} (absent : db.table? table = none) {schema : Schema}
    (accepted : Schema.ofColumns schema.columns = .ok schema) :
    db.execute (.createTable table (schema.columns.map (·.declared))) =
      (.ok (.created table), db.put table (.empty table schema)) := by
  have free : db.contains table = false := congrArg Option.isSome absent
  have columns : (schema.columns.map (·.declared)).map (·.column) = schema.columns := by
    rw [List.map_map]
    exact (List.map_congr_left fun column _ => column.declared_column).trans (List.map_id _)
  rw [execute, createTable, if_neg (by simp [free]), columns, accepted]
  simp [create, free, Except.map]

theorem shown_schema_is_declared {columns : List Column} {schema : Schema}
    (accepted : Schema.ofColumns columns = .ok schema)
    (names : ∀ column ∈ columns, Lexeme.isBare column.name.toList = true) {table : String}
    (bare : Lexeme.isBare table.toList = true) :
    Statement.parse ("CREATE TABLE " ++ table ++ " " ++ schema.declaration) =
        .ok (.createTable table (columns.map (·.declared))) ∧
      ∀ events, (reached events).table? table = none →
        (reached events).executeText ("CREATE TABLE " ++ table ++ " " ++ schema.declaration) =
            (.ok (.created table), (reached events).put table (.empty table schema)) ∧
          ((reached events).put table (.empty table schema)).table? table = some ⟨table, schema, .empty⟩ := by
  obtain ⟨_, found, same⟩ := (Schema.of_columns_ok_iff columns schema).mp accepted
  subst same
  have nonempty : schema.columns ≠ [] := by
    intro none
    rw [none] at found
    cases found
  have parsed := Statement.parse_creation bare nonempty names
  refine ⟨parsed, ?_⟩
  intro events absent
  rw [execute_text_read parsed, table_put, if_pos rfl]
  exact ⟨create_declared absent accepted, rfl⟩

def wordColumns : List Column := [⟨"select", .text⟩, ⟨"x", .integer⟩, ⟨"ID", .text⟩, ⟨"id", .integer⟩, ⟨"_2", .text⟩]

def wordSchema : Schema := ⟨wordColumns, 3⟩

theorem word_schema_is_declared :
    wordSchema.declaration = "(select text, x int, ID text, id int, _2 text)" ∧
      ((reached []).executeText "CREATE TABLE TABLE (select text, x int, ID text, id int, _2 text)").2.table? "TABLE" =
        some ⟨"TABLE", wordSchema, .empty⟩ := by
  have shown : wordSchema.declaration = "(select text, x int, ID text, id int, _2 text)" := by decide +kernel
  have accepted : Schema.ofColumns wordColumns = .ok wordSchema := by decide
  have names : ∀ column ∈ wordColumns, Lexeme.isBare column.name.toList = true := by decide
  have declared := (shown_schema_is_declared accepted names (rfl : Lexeme.isBare "TABLE".toList = true)).2 [] (by decide)
  rw [shown] at declared
  have text : "CREATE TABLE " ++ "TABLE" ++ " " ++ "(select text, x int, ID text, id int, _2 text)" =
      "CREATE TABLE TABLE (select text, x int, ID text, id int, _2 text)" := by
    decide +kernel
  rw [text] at declared
  refine ⟨shown, ?_⟩
  rw [declared.1]
  exact declared.2

end Database

end TableStore
