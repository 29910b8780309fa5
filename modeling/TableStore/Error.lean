import TableStore.Statement.Outline
import TableStore.Token
import TableStore.Token.Fault

set_option autoImplicit false

/- Causes are data; their wording is in one function for each type. -/
namespace TableStore

inductive NameRole where
  | table | column | columnOrStar | leftTable | rightTable
deriving DecidableEq

def NameRole.text : NameRole → String
  | .table => "table name"
  | .column => "column name"
  | .columnOrStar => "column name or '*'"
  | .leftTable => "left table name"
  | .rightTable => "right table name"

inductive SyntaxError where
  | misread (error : TokenError)
  | expectedKeyword (keyword : Keyword) (found : Option Token)
  | expectedName (role : NameRole) (found : Option Token)
  | expectedSymbol (sign : Symbol) (found : Option Token)
  | expectedCommaOrClose (found : Token)
  | openColumnList
  | openValueList
  | missingType (column : String)
  | missingPredicate
  | missingUpdateFilter
  | missingDeleteFilter
  | missingValue
  | tooFewLiterals (expected count : Nat)
  | wrongValueCount (expected count : Nat)
  | afterEnd (found : Token)
deriving DecidableEq

def foundText : Option Token → String
  | none => ""
  | some token => ", found '" ++ token.text ++ "'"

def countText (expected count : Nat) : String :=
  "expected " ++ toString expected ++ " values, got " ++ toString count

def SyntaxError.message : SyntaxError → String
  | .misread error => error.message
  | .expectedKeyword keyword found => "expected " ++ keyword.text ++ foundText found
  | .expectedName role found => "expected " ++ role.text ++ foundText found
  | .expectedSymbol sign found => "expected '" ++ sign.text ++ "'" ++ foundText found
  | .expectedCommaOrClose found => "expected ',' or ')'" ++ foundText (some found)
  | .openColumnList => "expected ')' to close the column list"
  | .openValueList => "expected ')' to close the value list"
  | .missingType column => "expected a type for column '" ++ column ++ "'"
  | .missingPredicate => "expected a predicate after ON"
  | .missingUpdateFilter => "UPDATE requires WHERE clause"
  | .missingDeleteFilter => "DELETE requires WHERE clause"
  | .missingValue => "expected a value"
  | .tooFewLiterals expected count =>
    countText expected count ++ " (value index " ++ toString count ++ " out of range)"
  | .wrongValueCount expected count => countText expected count
  | .afterEnd found => "unexpected '" ++ found.text ++ "' after end of statement"

inductive InternalFault where
  | foreignRow (id : Int64) (table : String)
  | columnOutOfRange (index : Nat)
  | keyNotInteger
  | notReadOnly (statement : Statement)
  | missingCell (index : Nat)
  | wideRow
  | missingToken (index : Nat)
  | missingGap (index : Nat)
  | belowZero
  -- A text is to be padded to more characters than the formatter takes.
  | wideColumn (width : Nat)
deriving DecidableEq

def InternalFault.message : InternalFault → String
  | .foreignRow id table => "row " ++ Decimal.write id ++ " does not match the schema of '" ++ table ++ "'"
  | .columnOutOfRange index => "column index " ++ toString index ++ " out of range"
  | .keyNotInteger => "primary key is not an integer"
  | .notReadOnly statement => "statement is not read-only: " ++ Outline.statement statement
  | .missingCell index => "no cell at column index " ++ toString index
  | .wideRow => "a row is longer than the list of columns"
  | .missingToken index => "no token at index " ++ toString index
  | .missingGap index => "no gap at index " ++ toString index
  | .belowZero => "a count falls below zero"
  | .wideColumn width => "width " ++ toString width ++ " out of range"

-- Whether the program ends at the fault, with no word about it. The others are told like any error.
def InternalFault.stops : InternalFault → Bool
  | .foreignRow .. | .columnOutOfRange _ | .keyNotInteger | .notReadOnly _ => false
  | .missingCell _ | .wideRow | .missingToken _ | .missingGap _ | .belowZero | .wideColumn _ => true

inductive StoreError where
  | malformed (cause : SyntaxError)
  | tableNotFound (table : String)
  | rowNotFound (table : String) (id : Int64)
  | columnNotFound (table column : String)
  | tableExists (table : String)
  | duplicateColumn (column : String)
  | missingPrimaryKey
  | typeCoercion (column value : String)
  | unsupportedPredicate (column : String)
  | internal (fault : InternalFault)
deriving DecidableEq

def StoreError.message : StoreError → String
  | .malformed cause => "Syntax error: " ++ cause.message
  | .tableNotFound table => "Table '" ++ table ++ "' does not exist."
  | .rowNotFound table id => "Row with id " ++ Decimal.write id ++ " not found in '" ++ table ++ "'."
  | .columnNotFound table column => "Column '" ++ column ++ "' does not exist in '" ++ table ++ "'."
  | .tableExists _ => "Table already exists."
  | .duplicateColumn column => "Column '" ++ column ++ "' is declared more than once."
  | .missingPrimaryKey => "Table must declare an 'id' column of type int."
  | .typeCoercion column value => "Invalid integer value '" ++ value ++ "' for column '" ++ column ++ "'."
  | .unsupportedPredicate column => "Unsupported predicate on '" ++ column ++ "': only id=<value> is supported."
  | .internal fault => "Internal error: " ++ fault.message

inductive ErrorFamily where
  | malformed | notFound | validation | typeCoercion | unsupportedPredicate | internal
deriving DecidableEq

def StoreError.family : StoreError → ErrorFamily
  | .malformed _ => .malformed
  | .tableNotFound _ | .rowNotFound .. | .columnNotFound .. => .notFound
  | .tableExists _ | .duplicateColumn _ | .missingPrimaryKey => .validation
  | .typeCoercion .. => .typeCoercion
  | .unsupportedPredicate _ => .unsupportedPredicate
  | .internal _ => .internal

def StoreError.stops : StoreError → Bool
  | .internal fault => fault.stops
  | _ => false

def lessOne : Nat → Except StoreError Nat
  | 0 => .error (.internal .belowZero)
  | n + 1 => .ok n

end TableStore
