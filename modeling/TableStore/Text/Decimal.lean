set_option autoImplicit false

/- What is written reads back, and a number beyond 64 bits is not read at all. -/
namespace TableStore.Decimal

def natural (cs : List Char) : Option Nat :=
  if cs.isEmpty then none
  else if cs.all Char.isDigit then some (Nat.ofDigitChars 10 cs 0)
  else none

def integer : List Char → Option Int
  | '-' :: digits => (natural digits).map fun n => -(n : Int)
  | '+' :: digits => (natural digits).map Int.ofNat
  | digits => (natural digits).map Int.ofNat

def read (text : String) : Option Int64 :=
  (integer text.toList).bind fun n =>
    if Int64.minValue.toInt ≤ n ∧ n ≤ Int64.maxValue.toInt then some (Int64.ofInt n) else none

def write (n : Int64) : String := toString n.toInt

theorem natural_to_digits (n : Nat) : natural (Nat.toDigits 10 n) = some n := by
  have digits : (Nat.toDigits 10 n).all Char.isDigit = true :=
    List.all_eq_true.mpr fun c member => Nat.isDigit_of_mem_toDigits (by decide) (by decide) member
  have some : (Nat.toDigits 10 n).isEmpty = false := by simp
  simp [natural, digits, some, Nat.ofDigitChars_toDigits]

theorem digits_head_is_digit {n : Nat} {c : Char} {rest : List Char} (same : Nat.toDigits 10 n = c :: rest) :
    c.isDigit = true :=
  Nat.isDigit_of_mem_toDigits (b := 10) (n := n) (by decide) (by decide) (same ▸ List.mem_cons_self ..)

theorem to_string_of_nat (m : Nat) : (toString (Int.ofNat m)).toList = Nat.toDigits 10 m := Nat.toList_repr

theorem to_string_neg_succ (m : Nat) : (toString (Int.negSucc m)).toList = '-' :: Nat.toDigits 10 (m + 1) := by
  change ("-" ++ (m + 1).repr).toList = _
  rw [String.toList_append, Nat.toList_repr]
  rfl

theorem integer_to_string (n : Int) : integer (toString n).toList = some n := by
  cases n with
  | ofNat m =>
    rw [to_string_of_nat, integer.eq_def]
    split
    · rename_i same
      cases digits_head_is_digit same
    · rename_i same
      cases digits_head_is_digit same
    · rw [natural_to_digits]
      rfl
  | negSucc m =>
    rw [to_string_neg_succ, integer, natural_to_digits]
    rfl

theorem read_write (n : Int64) : read (write n) = some n := by
  rw [read, write, integer_to_string, Option.bind_some, if_pos ⟨n.minValue_le_toInt, n.toInt_le⟩, Int64.ofInt_toInt]

end TableStore.Decimal
