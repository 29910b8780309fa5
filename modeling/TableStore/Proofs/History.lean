import TableStore.Database.Execute

set_option autoImplicit false

/- What a history says of a cell is read off the statements alone: no table is built and no row is kept. -/
namespace TableStore.History

structure Lifetime where
  columns : List Column
  since : List Statement

def Lifetime.push (statement : Statement) (life : Lifetime) : Lifetime := { life with since := statement :: life.since }

def Lifetime.column? (life : Lifetime) (name : String) : Option Column := life.columns.find? (·.name == name)

def lifetime (table : String) : List Statement → Option Lifetime
  | [] => none
  | .createTable name columns :: earlier =>
    if name = table then some ⟨columns.map (·.column), []⟩ else lifetime table earlier
  | .dropTable name :: earlier => if name = table then none else lifetime table earlier
  | statement :: earlier => (lifetime table earlier).map (·.push statement)

def keyOf (columns : List Column) (literals : List String) : Option Int64 :=
  ((columns.findIdx? (·.isKey)).bind (literals[·]?)).bind fun literal => Decimal.read (Value.bare literal)

structure Entry where
  literals : List String
  assignments : List Assignment

def Entry.assign (assignments : List Assignment) (entry : Entry) : Entry :=
  { entry with assignments := entry.assignments ++ assignments }

def entry (table : String) (columns : List Column) (key : Int64) : List Statement → Option Entry
  | [] => none
  | .insert name literals :: earlier =>
    if name = table ∧ keyOf columns literals = some key then some ⟨literals, []⟩ else entry table columns key earlier
  | .delete name id :: earlier => if name = table ∧ id = key then none else entry table columns key earlier
  | .update name assignments id :: earlier =>
    if name = table ∧ id = key then (entry table columns key earlier).map (·.assign assignments)
    else entry table columns key earlier
  | _ :: earlier => entry table columns key earlier

def lastLiteral (columns : List Column) (entry : Entry) (column : String) : Option String :=
  match (entry.assignments.filter (·.column == column)).getLast? with
  | some assignment => some assignment.value
  | none => (columns.findIdx? (·.name == column)).bind (entry.literals[·]?)

theorem last_literal_assign (columns : List Column) (written : Entry) (assignment : Assignment) (column : String) :
    lastLiteral columns (written.assign [assignment]) column =
      if assignment.column = column then some assignment.value else lastLiteral columns written column := by
  by_cases hit : assignment.column = column
  · simp [lastLiteral, Entry.assign, List.filter_append, hit]
  · simp [lastLiteral, Entry.assign, List.filter_append, hit]

theorem assign_assign (written : Entry) (first : Assignment) (rest : List Assignment) :
    (written.assign [first]).assign rest = written.assign (first :: rest) := by
  simp [Entry.assign]

theorem assign_nil (written : Entry) : written.assign [] = written := by
  simp [Entry.assign]

inductive Recorded (log : List Statement) (table : String) (key : Int64) (column : String) :
    Except StoreError Answer → Prop
  | noTable (gone : lifetime table log = none) : Recorded log table key column (.error (.tableNotFound table))
  | noColumn {life : Lifetime} (alive : lifetime table log = some life) (undeclared : life.column? column = none) :
      Recorded log table key column (.error (.columnNotFound table column))
  | noRow {life : Lifetime} {declared : Column} (alive : lifetime table log = some life)
      (listed : life.column? column = some declared) (absent : entry table life.columns key life.since = none) :
      Recorded log table key column (.ok (.rows ⟨[column], []⟩))
  | keyCell {life : Lifetime} {declared : Column} {written : Entry} (alive : lifetime table log = some life)
      (listed : life.column? column = some declared)
      (present : entry table life.columns key life.since = some written) (isKey : column = keyName) :
      Recorded log table key column (.ok (.rows ⟨[column], [[.integer key]]⟩))
  | cell {life : Lifetime} {declared : Column} {written : Entry} {literal : String} {value : Value}
      (alive : lifetime table log = some life) (listed : life.column? column = some declared)
      (present : entry table life.columns key life.since = some written) (other : column ≠ keyName)
      (last : lastLiteral life.columns written column = some literal)
      (coerced : Value.coerce literal declared.type column = .ok value) :
      Recorded log table key column (.ok (.rows ⟨[column], [[value]]⟩))

theorem recorded_unique {log : List Statement} {table : String} {key : Int64} {column : String}
    {a b : Except StoreError Answer} (left : Recorded log table key column a) (right : Recorded log table key column b) :
    a = b := by
  cases left <;> cases right <;> simp_all

def run (db : Database) (statements : List Statement) : Database :=
  statements.foldl (fun db statement => (db.execute statement).2) db

def succeeded (db : Database) (earlier : List Statement) : List Statement → List Statement
  | [] => earlier
  | statement :: rest =>
    match db.execute statement with
    | (.ok _, after) => succeeded after (statement :: earlier) rest
    | (.error _, after) => succeeded after earlier rest

end TableStore.History
