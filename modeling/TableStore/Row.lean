import TableStore.Schema

set_option autoImplicit false

namespace TableStore

structure Row where
  id : Int64
  values : List Value
deriving DecidableEq

namespace Row

def mistyped? : List Column → List Value → Option (Column × Value)
  | column :: columns, value :: values =>
    if value.columnType = column.type then mistyped? columns values else some (column, value)
  | _, _ => none

def ofValues (schema : Schema) (values : List Value) : Except StoreError Row :=
  if values.length ≠ schema.width then .error (.malformed (.wrongValueCount schema.width values.length))
  else
    match mistyped? schema.columns values with
    | some (column, value) => .error (.typeCoercion column.name value.shown)
    | none =>
      match values[schema.keyIndex]? with
      | none => .error (.internal (.missingCell schema.keyIndex))
      | some key =>
        match key.integer? with
        | none => .error (.internal .keyNotInteger)
        | some id => .ok ⟨id, values⟩

def coerceAll : List Column → List String → Except StoreError (List Value)
  | column :: columns, literal :: literals =>
    match Value.coerce literal column.type column.name with
    | .error error => .error error
    | .ok value => (coerceAll columns literals).map (value :: ·)
  | _, _ => .ok []

def ofLiterals (schema : Schema) (literals : List String) : Except StoreError Row :=
  if literals.length < schema.width then .error (.malformed (.tooFewLiterals schema.width literals.length))
  else if schema.width < literals.length then .error (.malformed (.wrongValueCount schema.width literals.length))
  else
    match coerceAll schema.columns literals with
    | .error error => .error error
    | .ok values => ofValues schema values

end Row

end TableStore
