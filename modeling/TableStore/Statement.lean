set_option autoImplicit false

/- Values and type names are kept as they were written. -/
namespace TableStore

structure ColumnDef where
  name : String
  typeName : String
deriving DecidableEq

structure Assignment where
  column : String
  value : String
deriving DecidableEq

inductive Projection where
  | all
  | columns (names : List String)
deriving DecidableEq

inductive Statement where
  | createTable (name : String) (columns : List ColumnDef)
  | dropTable (name : String)
  | insert (table : String) (values : List String)
  -- Without a key every row is meant.
  | select (table : String) (projection : Projection) (key : Option Int64)
  -- The predicate is kept as text and never evaluated.
  | join (left right predicate : String)
  | update (table : String) (assignments : List Assignment) (key : Int64)
  | delete (table : String) (key : Int64)
  | unknown (keyword : String)
deriving DecidableEq

namespace Statement

def isReadOnly : Statement → Bool
  | .select .. | .join .. | .unknown .. => true
  | .createTable .. | .dropTable .. | .insert .. | .update .. | .delete .. => false

end Statement

inductive Command where
  | create | drop | insert | select | update | delete
deriving DecidableEq

def Command.text : Command → String
  | .create => "CREATE"
  | .drop => "DROP"
  | .insert => "INSERT"
  | .select => "SELECT"
  | .update => "UPDATE"
  | .delete => "DELETE"

def Command.all : List Command := [.create, .drop, .insert, .select, .update, .delete]

def Command.named? (name : String) : Option Command := Command.all.find? (·.text == name)

inductive Keyword where
  | command (verb : Command)
  | table | into | values | fromClause | whereClause | setClause | inner | join | onClause
deriving DecidableEq

def Keyword.text : Keyword → String
  | .command verb => verb.text
  | .table => "TABLE"
  | .into => "INTO"
  | .values => "VALUES"
  | .fromClause => "FROM"
  | .whereClause => "WHERE"
  | .setClause => "SET"
  | .inner => "INNER"
  | .join => "JOIN"
  | .onClause => "ON"

end TableStore
