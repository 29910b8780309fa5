import TableStore.Answer.Json

set_option autoImplicit false

namespace TableStore

inductive Answer where
  | created (table : String)
  | dropped (table : String)
  | inserted (table : String) (id : Int64) (replaced : Bool)
  | rows (set : RowSet)
  | joined (lines : List String)
  | updated (table : String) (id : Int64)
  | deleted (table : String) (id : Int64) (removed : Bool)
  | unknown (keyword : String)
deriving DecidableEq

namespace Answer

def noResults : String := "No results."

def rowSet? : Answer → Option RowSet
  | .rows set => some set
  | _ => none

def text : Answer → String
  | .created table => "Table '" ++ table ++ "' created successfully."
  | .dropped table => "Table '" ++ table ++ "' dropped successfully."
  | .inserted table _ _ => "1 row inserted into '" ++ table ++ "'."
  | .rows set => if set.isEmpty then noResults else Json.lines set
  | .joined lines => if lines.isEmpty then noResults else "\n".intercalate lines
  | .updated table _ => "1 row updated in '" ++ table ++ "'."
  | .deleted table _ removed => (if removed then "1" else "0") ++ " row(s) deleted from '" ++ table ++ "'."
  | .unknown _ => "Unknown command."

end Answer

end TableStore
