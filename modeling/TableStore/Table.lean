import TableStore.OrdMap
import TableStore.Row

set_option autoImplicit false

/- An operation gives its outcome and the table behind it, also where it fails. -/
namespace TableStore

structure Table where
  name : String
  schema : Schema
  rows : OrdMap Int64 Row
deriving DecidableEq

namespace Table

def empty (name : String) (schema : Schema) : Table := ⟨name, schema, .empty⟩

def row? (table : Table) (id : Int64) : Option Row := table.rows.get? id

def allRows (table : Table) : List Row := table.rows.values

def rowCount (table : Table) : Nat := table.rows.size

def isEmpty (table : Table) : Bool := table.rows.isEmpty

def put (table : Table) (id : Int64) (row : Row) : Table := { table with rows := table.rows.insert id row }

def admits (table : Table) (row : Row) : Bool :=
  row.values.length == table.schema.width && (Row.mistyped? table.schema.columns row.values).isNone

-- Says whether a row with the same key was replaced.
def insert (table : Table) (row : Row) : Except StoreError Bool × Table :=
  if table.admits row then (.ok (table.rows.contains row.id), table.put row.id row)
  else (.error (.internal (.foreignRow row.id table.name)), table)

-- Says whether a row was removed; a missing key is no failure.
def delete (table : Table) (id : Int64) : Bool × Table :=
  (table.rows.contains id, { table with rows := table.rows.erase id })

def checkCell (schema : Schema) (index : Nat) (value : Value) : Except StoreError Unit :=
  match schema.columns[index]? with
  | none => .error (.internal (.columnOutOfRange index))
  | some column =>
    if value.columnType = column.type then .ok () else .error (.typeCoercion column.name value.shown)

def checkCells (schema : Schema) : List (Nat × Value) → Except StoreError Unit
  | [] => .ok ()
  | (index, value) :: rest =>
    match checkCell schema index value with
    | .error error => .error error
    | .ok () => checkCells schema rest

def writeCell (table : Table) (id : Int64) (index : Nat) (value : Value) : Except StoreError Unit × Table :=
  match table.row? id with
  | none => (.error (.rowNotFound table.name id), table)
  | some row =>
    if index < row.values.length then (.ok (), table.put id { row with values := row.values.set index value })
    else (.error (.internal (.missingCell index)), table)

-- One cell after the other; those of the key are passed over. The outcome counts the cells written.
def writeCells (table : Table) (id : Int64) : List (Nat × Value) → Except StoreError Nat × Table
  | [] => (.ok 0, table)
  | (index, value) :: rest =>
    if index = table.schema.keyIndex then table.writeCells id rest
    else
      match table.writeCell id index value with
      | (.error error, after) => (.error error, after)
      | (.ok (), after) =>
        let result := after.writeCells id rest
        (result.1.map (· + 1), result.2)

-- All cells are checked before the row is looked up, and the row is looked up before the first cell is written.
def update (table : Table) (id : Int64) (cells : List (Nat × Value)) : Except StoreError Nat × Table :=
  match checkCells table.schema cells with
  | .error error => (.error error, table)
  | .ok () =>
    match table.row? id with
    | none => (.error (.rowNotFound table.name id), table)
    | some _ => table.writeCells id cells

end Table

end TableStore
