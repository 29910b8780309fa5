import TableStore.Value

set_option autoImplicit false

/- The rows of a selection under the names that were asked for. A name may occur twice. -/
namespace TableStore

structure RowSet where
  columns : List String
  rows : List (List Value)
deriving DecidableEq

structure Record where
  columns : List String
  values : List Value
deriving DecidableEq

namespace Record

def get? (record : Record) (column : String) : Option Value :=
  (record.columns.findIdx? (· == column)).bind (record.values[·]?)

def entries (record : Record) : List (String × Value) := record.columns.zip record.values

end Record

namespace RowSet

def size (set : RowSet) : Nat := set.rows.length

def isEmpty (set : RowSet) : Bool := set.rows.isEmpty

def records (set : RowSet) : List Record := set.rows.map (Record.mk set.columns)

def value? (set : RowSet) (row : Nat) (column : String) : Option Value :=
  (set.columns.findIdx? (· == column)).bind fun index => (set.rows[row]?).bind (·[index]?)

end RowSet

end TableStore
