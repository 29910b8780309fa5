import Mathlib.Control.Monad.Basic
import TableStore.Database.Seed
import TableStore.Proofs.Effect

set_option autoImplicit false

/- Runs from the empty database, failing steps among them. What each statement keeps, every run keeps. -/
namespace TableStore

section
variable {σ α β : Type}

def inOrder (step : σ → α → β × σ) (state : σ) : List α → List β × σ
  | [] => ([], state)
  | input :: rest =>
    let first := step state input
    let others := inOrder step first.2 rest
    (first.1 :: others.1, others.2)

theorem in_order_keeps {step : σ → α → β × σ} {holds : List β → σ → Prop}
    (kept : ∀ seen state input, holds seen state → holds (seen ++ [(step state input).1]) (step state input).2)
    {seen : List β} {state : σ} (inputs : List α) (before : holds seen state) :
    holds (seen ++ (inOrder step state inputs).1) (inOrder step state inputs).2 := by
  induction inputs generalizing seen state with
  | nil =>
    rw [inOrder, List.append_nil]
    exact before
  | cons input rest ih =>
    have behind := ih (kept seen state input before)
    rwa [List.append_assoc] at behind

end

namespace Database

inductive Event where
  | text (sql : String)
  | statement (statement : Statement)
  | seed

def react (db : Database) : Event → Database
  | .text sql => (db.executeText sql).2
  | .statement statement => (db.execute statement).2
  | .seed => db.seed.2

def reached (events : List Event) : Database := events.foldl react empty

theorem execute_text_read {db : Database} {sql : String} {statement : Statement}
    (read : Statement.parse sql = .ok statement) : db.executeText sql = db.execute statement := by
  unfold executeText
  rw [read]

theorem execute_text_unread {db : Database} {sql : String} {error : StoreError}
    (unread : Statement.parse sql = .error error) : db.executeText sql = (.error error, db) := by
  unfold executeText
  rw [unread]

section
variable {holds : Database → Prop} (kept : ∀ db statement, holds db → holds (db.execute statement).2)
include kept

theorem execute_text_keeps (db : Database) (sql : String) (before : holds db) : holds (db.executeText sql).2 := by
  cases read : Statement.parse sql with
  | error error =>
    rw [execute_text_unread read]
    exact before
  | ok statement =>
    rw [execute_text_read read]
    exact kept db statement before

theorem execute_all_keeps (db : Database) (statements : List Statement) (before : holds db) :
    holds (db.executeAll statements).2 := by
  induction statements generalizing db with
  | nil => exact before
  | cons statement rest ih =>
    have next := kept db statement before
    rw [executeAll]
    split
    · rename_i failed
      rwa [failed] at next
    · rename_i done
      rw [done] at next
      exact ih _ next

theorem create_missing_keeps (db : Database) (builtIn : BuiltIn) (before : holds db) :
    holds (db.createMissing builtIn).2 := by
  rw [createMissing]
  split
  · exact before
  · exact execute_all_keeps kept db _ before

theorem fill_empty_keeps (db : Database) (builtIn : BuiltIn) (before : holds db) : holds (db.fillEmpty builtIn).2 := by
  rw [fillEmpty]
  split
  · exact before
  · split
    · exact execute_all_keeps kept db _ before
    · exact before

omit kept in
theorem and_then_keeps {first : Except StoreError Unit × Database}
    {second : Database → Except StoreError Unit × Database} (before : holds first.2)
    (step : ∀ db, holds db → holds (second db).2) : holds (andThen first second).2 := by
  rw [andThen.eq_def]
  split
  · exact before
  · exact step _ before

theorem seed_keeps (db : Database) (before : holds db) : holds db.seed.2 := by
  rw [seed]
  apply and_then_keeps
  · apply and_then_keeps
    · apply and_then_keeps
      · exact create_missing_keeps kept db users before
      · exact fun next => create_missing_keeps kept next orders
    · exact fun next => fill_empty_keeps kept next users
  · exact fun next => fill_empty_keeps kept next orders

theorem react_keeps (db : Database) (event : Event) (before : holds db) : holds (db.react event) := by
  cases event with
  | text sql => exact execute_text_keeps kept db sql before
  | statement statement => exact kept db statement before
  | seed => exact seed_keeps kept db before

theorem run_keeps (db : Database) (events : List Event) (before : holds db) : holds (events.foldl react db) := by
  induction events generalizing db with
  | nil => exact before
  | cons event rest ih => exact ih (db.react event) (react_keeps kept db event before)

end

theorem Effect.consistent {db after : Database} {statement : Statement} {answer : Answer}
    (effect : Effect db statement answer after) (before : db.Consistent) : after.Consistent := by
  cases effect with
  | @created name columns schema absent accepted =>
    exact put_consistent before (Table.empty_consistent (Schema.of_columns_sound accepted) name)
  | dropped present => exact without_consistent before _
  | @inserted name literals table row present bound =>
    have tableBefore := before.tables name table present
    have fits := ((Row.of_literals_faultless tableBefore.schema literals).ok bound).1
    exact replaced_consistent before present (Table.put_consistent tableBefore fits) rfl
  | @updated name assignments key table row cells present stored resolved =>
    have tableBefore := before.tables name table present
    obtain ⟨underKey, fits⟩ := tableBefore.rows key row stored
    subst underKey
    have checked := (changes_faultless table assignments).ok resolved
    have written := Table.put_consistent tableBefore (Table.written_fits fits checked)
    exact replaced_consistent before present written rfl
  | @deleted name key table present =>
    have tableBefore := before.tables name table present
    exact replaced_consistent before present (Table.without_consistent tableBefore key) rfl
  | answered reads shown => exact before

theorem execute_consistent (db : Database) (statement : Statement) (before : db.Consistent) :
    (db.execute statement).2.Consistent := by
  cases done : db.execute statement with
  | mk result after =>
    cases result with
    | ok answer => exact (execute_ok before done).consistent before
    | error error =>
      rw [(execute_error before done).1]
      exact before

theorem reached_consistent (events : List Event) : (reached events).Consistent :=
  run_keeps execute_consistent empty events empty_consistent

theorem reached_tables_agree (events : List Event) {name : String} {table : Table}
    (present : (reached events).table? name = some table) :
    table.name = name ∧
      (table.schema.columnNames.Nodup ∧ table.schema.columns[table.schema.keyIndex]? = some ⟨"id", .integer⟩ ∧
        ∀ index type, table.schema.columns[index]? = some ⟨"id", type⟩ → index = table.schema.keyIndex) ∧
      ∀ key row, (key, row) ∈ table.rows.entries →
        row.id = key ∧ row.values[table.schema.keyIndex]? = some (.integer key) ∧
          row.values.length = table.schema.columns.length ∧
          row.values.map (·.columnType) = table.schema.columns.map (·.type) := by
  have consistent := (reached_consistent events).tables name table present
  refine ⟨(reached_consistent events).named name table present, ⟨consistent.schema.distinct, consistent.schema.key, ?_⟩, ?_⟩
  · intro index type listed
    exact consistent.schema.key_only listed rfl
  · intro key row listed
    obtain ⟨underKey, fits⟩ := consistent.rows key row (entry_at_of_mem table.rows.ascending listed)
    exact ⟨underKey, underKey ▸ fits.key, fits.width, fits.typed⟩

-- The key is not the first column, and the update tries to move the row.
def petEvents : List Event :=
  [.text "CREATE TABLE pets (name text, id int, age int)", .statement (.insert "pets" ["Rex", "7", "4"]),
    .statement (.update "pets" [⟨"id", "9"⟩, ⟨"name", "Max"⟩] 7)]

def petTable : Table :=
  (Table.empty "pets" ⟨[⟨"name", .text⟩, ⟨"id", .integer⟩, ⟨"age", .integer⟩], 1⟩).put 7
    ⟨7, [.text "Max", .integer 7, .integer 4]⟩

theorem reached_pets_agree :
    (reached (.seed :: petEvents)).table? "pets" = some petTable ∧ petTable.name = "pets" ∧
      ∀ key row, (key, row) ∈ petTable.rows.entries → row.id = key := by
  have present : (reached (.seed :: petEvents)).table? "pets" = some petTable := by decide +kernel
  obtain ⟨named, _, rows⟩ := reached_tables_agree (.seed :: petEvents) present
  refine ⟨present, named, ?_⟩
  intro key row listed
  exact (rows key row listed).1

theorem failure_leaves_no_trace (events : List Event) :
    (∀ statement error, ((reached events).execute statement).1 = .error error →
        ((reached events).execute statement).2 = reached events) ∧
      ∀ sql error, ((reached events).executeText sql).1 = .error error →
        ((reached events).executeText sql).2 = reached events := by
  have statements : ∀ statement error, ((reached events).execute statement).1 = .error error →
      ((reached events).execute statement).2 = reached events := by
    intro statement error failed
    exact (execute_error (reached_consistent events) (Prod.ext failed rfl)).1
  refine ⟨statements, ?_⟩
  intro sql error failed
  cases read : Statement.parse sql with
  | error cause => rw [execute_text_unread read]
  | ok statement =>
    rw [execute_text_read read] at failed ⊢
    exact statements statement error failed

-- A good assignment before a bad one, a last literal that does not fit, a schema that repeats a name.
theorem failures_leave_pets :
    (reached petEvents).execute (.update "pets" [⟨"name", "Max"⟩, ⟨"age", "old"⟩] 7) =
        (.error (.typeCoercion "age" "old"), reached petEvents) ∧
      (reached petEvents).execute (.insert "pets" ["Ann", "2", "x"]) =
        (.error (.typeCoercion "age" "x"), reached petEvents) ∧
      (reached petEvents).executeText "CREATE TABLE toys (id int, id text)" =
        (.error (.duplicateColumn "id"), reached petEvents) := by
  obtain ⟨statements, texts⟩ := failure_leaves_no_trace petEvents
  refine ⟨?_, ?_, ?_⟩
  · have failed : ((reached petEvents).execute (.update "pets" [⟨"name", "Max"⟩, ⟨"age", "old"⟩] 7)).1 =
        .error (.typeCoercion "age" "old") := by
      decide +kernel
    exact Prod.ext failed (statements _ _ failed)
  · have failed : ((reached petEvents).execute (.insert "pets" ["Ann", "2", "x"])).1 =
        .error (.typeCoercion "age" "x") := by
      decide +kernel
    exact Prod.ext failed (statements _ _ failed)
  · have failed : ((reached petEvents).executeText "CREATE TABLE toys (id int, id text)").1 =
        .error (.duplicateColumn "id") := by
      decide +kernel
    exact Prod.ext failed (texts _ _ failed)

end Database

end TableStore
