set_option autoImplicit false

namespace TableStore.Unicode

-- Inclusive ranges of code points, ascending and apart from each other.
abbrev Ranges := List (Nat × Nat)

-- The search ends at the first range that starts beyond the code point.
def Ranges.covers : Ranges → Nat → Bool
  | [], _ => false
  | (first, last) :: rest, n => if n < first then false else if n ≤ last then true else Ranges.covers rest n

end TableStore.Unicode
