import TableStore.Answer
import TableStore.Database
import TableStore.Statement.Parser

set_option autoImplicit false

namespace TableStore

def ColumnDef.column (declared : ColumnDef) : Column := ⟨declared.name, .named declared.typeName⟩

namespace Database

def columnIndex (table : Table) (column : String) : Except StoreError Nat :=
  match table.schema.columnIndex? column with
  | some index => .ok index
  | none => .error (.columnNotFound table.name column)

def columnIndexes (table : Table) : List String → Except StoreError (List Nat)
  | [] => .ok []
  | column :: rest =>
    match columnIndex table column with
    | .error error => .error error
    | .ok index => (columnIndexes table rest).map (index :: ·)

def projected (table : Table) : Projection → Except StoreError (List Nat)
  | .all => .ok (List.range table.schema.width)
  | .columns names => columnIndexes table names

def pick {α : Type} (items : List α) : List Nat → Except StoreError (List α)
  | [] => .ok []
  | index :: rest =>
    match items[index]? with
    | none => .error (.internal (.missingCell index))
    | some item => (pick items rest).map (item :: ·)

def pickRows (indexes : List Nat) : List Row → Except StoreError (List (List Value))
  | [] => .ok []
  | row :: rest =>
    match pick row.values indexes with
    | .error error => .error error
    | .ok cells => (pickRows indexes rest).map (cells :: ·)

def selected (table : Table) : Option Int64 → List Row
  | none => table.allRows
  | some key => (table.row? key).toList

def select (db : Database) (name : String) (projection : Projection) (key : Option Int64) : Except StoreError Answer := do
  let table ← db.table name
  let indexes ← projected table projection
  let columns ← pick table.schema.columnNames indexes
  let rows ← pickRows indexes (selected table key)
  return .rows ⟨columns, rows⟩

def cell (row : Row) (index : Nat) : Except StoreError Value :=
  match row.values[index]? with
  | some value => .ok value
  | none => .error (.internal (.missingCell index))

def joinRow (left : Row) (nameIndex keyIndex itemIndex : Nat) : List Row → Except StoreError (List String)
  | [] => .ok []
  | right :: rest => do
    let key ← cell right keyIndex
    if key.integer? = some left.id then
      let name ← cell left nameIndex
      let item ← cell right itemIndex
      return (name.shown ++ " bought " ++ item.shown) :: (← joinRow left nameIndex keyIndex itemIndex rest)
    else
      joinRow left nameIndex keyIndex itemIndex rest

def joinRows (nameIndex keyIndex itemIndex : Nat) (rights : List Row) : List Row → Except StoreError (List String)
  | [] => .ok []
  | left :: rest => do
    let lines ← joinRow left nameIndex keyIndex itemIndex rights
    return lines ++ (← joinRows nameIndex keyIndex itemIndex rights rest)

-- The predicate of the statement plays no part.
def join (db : Database) (leftName rightName : String) : Except StoreError Answer := do
  let left ← db.table leftName
  let right ← db.table rightName
  let nameIndex ← columnIndex left "username"
  let keyIndex ← columnIndex right "user_id"
  let itemIndex ← columnIndex right "item"
  return .joined (← joinRows nameIndex keyIndex itemIndex right.allRows left.allRows)

def query (db : Database) : Statement → Except StoreError Answer
  | .select table projection key => db.select table projection key
  | .join left right _ => db.join left right
  | .unknown keyword => .ok (.unknown keyword)
  | statement => .error (.internal (.notReadOnly statement))

def createTable (db : Database) (name : String) (columns : List ColumnDef) : Except StoreError Answer × Database :=
  if db.contains name then (.error (.tableExists name), db)
  else
    match Schema.ofColumns (columns.map (·.column)) with
    | .error error => (.error error, db)
    | .ok schema =>
      let result := db.create name schema
      (result.1.map fun _ => .created name, result.2)

def dropTable (db : Database) (name : String) : Except StoreError Answer × Database :=
  let result := db.drop name
  (result.1.map fun _ => .dropped name, result.2)

def insertInto (name : String) (literals : List String) (table : Table) : Except StoreError Answer × Table :=
  match Row.ofLiterals table.schema literals with
  | .error error => (.error error, table)
  | .ok row =>
    let result := table.insert row
    (result.1.map (.inserted name row.id), result.2)

-- Assignments to the key are passed over, whatever their value.
def changes (table : Table) : List Assignment → Except StoreError (List (Nat × Value))
  | [] => .ok []
  | assignment :: rest => do
    let index ← columnIndex table assignment.column
    if index = table.schema.keyIndex then
      changes table rest
    else
      match table.schema.columns[index]? with
      | none => throw (.internal (.missingCell index))
      | some column =>
        let value ← Value.coerce assignment.value column.type assignment.column
        return (index, value) :: (← changes table rest)

def updateIn (name : String) (assignments : List Assignment) (key : Int64) (table : Table) :
    Except StoreError Answer × Table :=
  match table.row? key with
  | none => (.error (.rowNotFound name key), table)
  | some _ =>
    match changes table assignments with
    | .error error => (.error error, table)
    | .ok cells =>
      let result := table.update key cells
      (result.1.map fun _ => .updated name key, result.2)

def deleteFrom (name : String) (key : Int64) (table : Table) : Except StoreError Answer × Table :=
  let result := table.delete key
  (.ok (.deleted name key result.1), result.2)

def execute (db : Database) : Statement → Except StoreError Answer × Database
  | .createTable name columns => db.createTable name columns
  | .dropTable name => db.dropTable name
  | .insert table values => db.onTable table (insertInto table values)
  | .update table assignments key => db.onTable table (updateIn table assignments key)
  | .delete table key => db.onTable table (deleteFrom table key)
  | statement => (db.query statement, db)

def executeText (db : Database) (sql : String) : Except StoreError Answer × Database :=
  match Statement.parse sql with
  | .error error => (.error error, db)
  | .ok statement => db.execute statement

def failureText (error : StoreError) : String := "Error: " ++ error.message

def message : Except StoreError Answer → String
  | .ok answer => answer.text
  | .error error => failureText error

def run (db : Database) (sql : String) : String × Database :=
  let result := db.executeText sql
  (message result.1, result.2)

end Database

end TableStore
