import TableStore.Statement
import TableStore.Text.Decimal
import TableStore.Unicode.Unprinted

set_option autoImplicit false

namespace TableStore.Outline

def escaped (c : Char) : List Char :=
  if c = '\x22' ∨ c = '\\' then ['\\', c]
  else if c = '\n' then ['\\', 'n']
  else if c = '\r' then ['\\', 'r']
  else if c = '\t' then ['\\', 't']
  else if c = '\x00' then ['\\', '0']
  else if Unicode.isUnprinted c then '\\' :: 'u' :: '\x7b' :: Nat.toDigits 16 c.toNat ++ ['\x7d']
  else [c]

def quoted (text : String) : String := "\"" ++ String.ofList (text.toList.flatMap escaped) ++ "\""

def listing (items : List String) : String := "[" ++ ", ".intercalate items ++ "]"

def parts (name : String) (fields : List (String × String)) : String :=
  name ++ " \x7b " ++ ", ".intercalate (fields.map fun field => field.1 ++ ": " ++ field.2) ++ " \x7d"

def columnDef (column : ColumnDef) : String :=
  parts "ColumnDef" [("name", quoted column.name), ("type_name", quoted column.typeName)]

def assignment (assigned : Assignment) : String :=
  parts "Assignment" [("column", quoted assigned.column), ("value", quoted assigned.value)]

def keyFilter (key : Int64) : String := parts "KeyFilter" [("id", Decimal.write key)]

def optionalFilter : Option Int64 → String
  | none => "None"
  | some key => "Some(" ++ keyFilter key ++ ")"

def projection : Projection → String
  | .all => "All"
  | .columns names => "Columns(" ++ listing (names.map quoted) ++ ")"

def statement : Statement → String
  | .createTable name columns =>
    parts "CreateTable" [("name", quoted name), ("columns", listing (columns.map columnDef))]
  | .dropTable name => parts "DropTable" [("name", quoted name)]
  | .insert table values => parts "Insert" [("table", quoted table), ("values", listing (values.map quoted))]
  | .select table shown key =>
    parts "Select" [("table", quoted table), ("projection", projection shown), ("filter", optionalFilter key)]
  | .join left right predicate =>
    parts "Join" [("left", quoted left), ("right", quoted right), ("on", quoted predicate)]
  | .update table assignments key =>
    parts "Update" [("table", quoted table), ("assignments", listing (assignments.map assignment)),
      ("filter", keyFilter key)]
  | .delete table key => parts "Delete" [("table", quoted table), ("filter", keyFilter key)]
  | .unknown keyword => parts "Unknown" [("keyword", quoted keyword)]

end TableStore.Outline
