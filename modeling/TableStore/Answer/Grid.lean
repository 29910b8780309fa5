import TableStore.Answer.RowSet

set_option autoImplicit false

/- A column is as wide as its name or its widest cell, in characters. -/
namespace TableStore.Grid

-- A row may be shorter than the columns, not longer.
def widen : List Nat → List Value → Except StoreError (List Nat)
  | widths, [] => .ok widths
  | [], _ :: _ => .error (.internal .wideRow)
  | width :: widths, value :: values => (widen widths values).map (max width value.shown.length :: ·)

def widths (set : RowSet) : Except StoreError (List Nat) :=
  set.rows.foldlM widen (set.columns.map String.length)

def bar (width : Nat) : String := String.ofList (List.replicate (width + 2) '─')

def barsFrom (middle : String) (widths : List Nat) (index : Nat) : List Nat → Except StoreError String
  | [] => .ok ""
  | width :: rest => do
    let last ← lessOne widths.length
    return bar width ++ (if index < last then middle else "") ++ (← barsFrom middle widths (index + 1) rest)

def border (left middle right : String) (widths : List Nat) : Except StoreError String :=
  (barsFrom middle widths 0 widths).map fun bars => left ++ bars ++ right ++ "\n"

-- The formatter counts in sixteen bits.
def widthLimit : Nat := 65535

def padded (text : String) (width : Nat) : Except StoreError String :=
  if width ≤ widthLimit then .ok (text ++ String.ofList (List.replicate (width - text.length) ' '))
  else .error (.internal (.wideColumn width))

def fields : List String → List Nat → Except StoreError String
  | cell :: cells, width :: widths => do
    let text ← padded cell width
    return " " ++ text ++ " │" ++ (← fields cells widths)
  | _, _ => .ok ""

def line (cells : List String) (widths : List Nat) : Except StoreError String :=
  (fields cells widths).map fun fields => "│" ++ fields ++ "\n"

def body (widths : List Nat) : List (List Value) → Except StoreError String
  | [] => .ok ""
  | row :: rows => do
    let first ← line (row.map (·.shown)) widths
    return first ++ (← body widths rows)

def render (set : RowSet) : Except StoreError String := do
  let widths ← widths set
  let top ← border "┌" "┬" "┐" widths
  let names ← line set.columns widths
  let rule ← border "├" "┼" "┤" widths
  let cells ← body widths set.rows
  let bottom ← border "└" "┴" "┘" widths
  return top ++ names ++ rule ++ cells ++ bottom ++ toString set.size ++ " row(s) returned"

end TableStore.Grid
