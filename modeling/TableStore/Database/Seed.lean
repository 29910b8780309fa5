import TableStore.Database.Execute

set_option autoImplicit false

/- A built-in table that is missing is created; one without rows gets its built-in rows. -/
namespace TableStore.Database

structure BuiltIn where
  name : String
  columns : List ColumnDef
  rows : List (List String)

def users : BuiltIn where
  name := "users"
  columns := [⟨"id", "int"⟩, ⟨"username", "text"⟩, ⟨"age", "int"⟩]
  rows := [["1", "John Doe", "30"], ["2", "Jane Smith", "25"]]

def orders : BuiltIn where
  name := "orders"
  columns := [⟨"id", "int"⟩, ⟨"user_id", "int"⟩, ⟨"item", "text"⟩]
  rows := [["1", "1", "Laptop"]]

def executeAll (db : Database) : List Statement → Except StoreError Unit × Database
  | [] => (.ok (), db)
  | statement :: rest =>
    match db.execute statement with
    | (.error error, after) => (.error error, after)
    | (.ok _, after) => after.executeAll rest

def createMissing (db : Database) (builtIn : BuiltIn) : Except StoreError Unit × Database :=
  match db.table? builtIn.name with
  | some _ => (.ok (), db)
  | none => db.executeAll [.createTable builtIn.name builtIn.columns]

def fillEmpty (db : Database) (builtIn : BuiltIn) : Except StoreError Unit × Database :=
  match db.table? builtIn.name with
  | none => (.ok (), db)
  | some table =>
    if table.isEmpty then db.executeAll (builtIn.rows.map (.insert builtIn.name)) else (.ok (), db)

def andThen (first : Except StoreError Unit × Database) (second : Database → Except StoreError Unit × Database) :
    Except StoreError Unit × Database :=
  match first with
  | (.error error, after) => (.error error, after)
  | (.ok (), after) => second after

-- Both tables exist before the first row goes into either.
def seed (db : Database) : Except StoreError Unit × Database :=
  andThen (andThen (andThen (db.createMissing users) (createMissing · orders)) (fillEmpty · users)) (fillEmpty · orders)

end TableStore.Database
