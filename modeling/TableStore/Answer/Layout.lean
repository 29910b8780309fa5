import TableStore.Answer
import TableStore.Answer.Grid

set_option autoImplicit false

namespace TableStore

inductive Layout where
  | json
  | table
deriving DecidableEq

def Layout.render (layout : Layout) : Answer → Except StoreError String
  | .rows set =>
    if set.isEmpty then .ok Answer.noResults
    else
      match layout with
      | .json => .ok (Json.lines set)
      | .table => Grid.render set
  | answer => .ok answer.text

end TableStore
