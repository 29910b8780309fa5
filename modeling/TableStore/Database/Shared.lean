import TableStore.Database.Execute

set_option autoImplicit false

/- A statement that only reads is answered by a query, so that readers need not wait for each other. -/
namespace TableStore

namespace Database

def executeShared (db : Database) (sql : String) : Except StoreError Answer × Database :=
  match Statement.parse sql with
  | .error error => (.error error, db)
  | .ok statement => if statement.isReadOnly then (db.query statement, db) else db.execute statement

end Database

structure Cells (count : Nat) where
  databases : Vector Database count

structure Handle (count : Nat) where
  cell : Fin count
deriving DecidableEq

-- Another handle on the same cell: the reference is copied, not the database.
def Handle.clone {count : Nat} (handle : Handle count) : Handle count := ⟨handle.cell⟩

namespace Cells

variable {count : Nat}

def share (cells : Cells count) (db : Database) : Handle (count + 1) × Cells (count + 1) :=
  (⟨Fin.last count⟩, ⟨cells.databases.push db⟩)

def database (cells : Cells count) (handle : Handle count) : Database := cells.databases[handle.cell]

def execute (cells : Cells count) (handle : Handle count) (sql : String) : Except StoreError Answer × Cells count :=
  let result := (cells.database handle).executeShared sql
  (result.1, ⟨cells.databases.set handle.cell result.2⟩)

end Cells

end TableStore
