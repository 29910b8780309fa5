import TableStore.Value

set_option autoImplicit false

namespace TableStore

structure Column where
  name : String
  type : ColumnType
deriving DecidableEq

def keyName : String := "id"

namespace Column

def isKey (column : Column) : Bool := column.name == keyName && column.type == .integer

def declaration (column : Column) : String := column.name ++ " " ++ column.type.name

end Column

structure Schema where
  columns : List Column
  keyIndex : Nat
deriving DecidableEq

namespace Schema

def firstRepeated (before : List String) : List String → Option String
  | [] => none
  | name :: rest => if name ∈ before then some name else firstRepeated (name :: before) rest

def ofColumns (columns : List Column) : Except StoreError Schema :=
  match firstRepeated [] (columns.map (·.name)) with
  | some name => .error (.duplicateColumn name)
  | none =>
    match columns.findIdx? (·.isKey) with
    | some index => .ok ⟨columns, index⟩
    | none => .error .missingPrimaryKey

def width (schema : Schema) : Nat := schema.columns.length

def columnNames (schema : Schema) : List String := schema.columns.map (·.name)

def columnIndex? (schema : Schema) (name : String) : Option Nat := schema.columns.findIdx? (·.name == name)

def column? (schema : Schema) (name : String) : Option Column := schema.columns.find? (·.name == name)

def declaration (schema : Schema) : String := "(" ++ ", ".intercalate (schema.columns.map (·.declaration)) ++ ")"

end Schema

end TableStore
