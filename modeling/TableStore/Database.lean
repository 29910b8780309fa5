import TableStore.Table

set_option autoImplicit false

/- As with a table, an operation gives its outcome and the database behind it, also where it fails. -/
namespace TableStore

structure Database where
  tables : OrdMap String Table
deriving DecidableEq

namespace Database

def empty : Database := ⟨.empty⟩

def table? (db : Database) (name : String) : Option Table := db.tables.get? name

def table (db : Database) (name : String) : Except StoreError Table :=
  match db.table? name with
  | some table => .ok table
  | none => .error (.tableNotFound name)

def contains (db : Database) (name : String) : Bool := db.tables.contains name

def tableNames (db : Database) : List String := db.tables.keys

def allTables (db : Database) : List Table := db.tables.values

def tableCount (db : Database) : Nat := db.tables.size

def isEmpty (db : Database) : Bool := db.tables.isEmpty

def put (db : Database) (name : String) (table : Table) : Database := ⟨db.tables.insert name table⟩

def create (db : Database) (name : String) (schema : Schema) : Except StoreError Table × Database :=
  if db.contains name then (.error (.tableExists name), db)
  else (.ok (.empty name schema), db.put name (.empty name schema))

def drop (db : Database) (name : String) : Except StoreError Table × Database :=
  match db.table? name with
  | some table => (.ok table, ⟨db.tables.erase name⟩)
  | none => (.error (.tableNotFound name), db)

-- An operation on the table of this name; what it leaves behind is stored whatever its outcome.
def onTable {α : Type} (db : Database) (name : String) (operation : Table → Except StoreError α × Table) :
    Except StoreError α × Database :=
  match db.table? name with
  | none => (.error (.tableNotFound name), db)
  | some table => ((operation table).1, db.put name (operation table).2)

end Database

end TableStore
