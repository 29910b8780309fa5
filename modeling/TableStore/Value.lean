import TableStore.Error
import TableStore.Text

set_option autoImplicit false

namespace TableStore

inductive ColumnType where
  | integer
  | text
deriving DecidableEq

namespace ColumnType

-- Only `int` names the integers; any other name stands for text.
def named (name : String) : ColumnType := if Text.sameIgnoringCase name "int" then .integer else .text

def name : ColumnType → String
  | .integer => "int"
  | .text => "text"

end ColumnType

inductive Value where
  | integer (n : Int64)
  | text (content : String)
deriving DecidableEq

namespace Value

def columnType : Value → ColumnType
  | .integer _ => .integer
  | .text _ => .text

def integer? : Value → Option Int64
  | .integer n => some n
  | .text _ => none

def shown : Value → String
  | .integer n => Decimal.write n
  | .text content => content

def bare (literal : String) : String := Text.trim (Text.trimQuoteMarks (Text.trim literal))

def coerce (literal : String) (type : ColumnType) (column : String) : Except StoreError Value :=
  match type with
  | .text => .ok (.text (bare literal))
  | .integer =>
    match Decimal.read (bare literal) with
    | some n => .ok (.integer n)
    | none => .error (.typeCoercion column (bare literal))

end Value

end TableStore
