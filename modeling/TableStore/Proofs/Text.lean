import Mathlib.Data.List.TakeWhile
import Mathlib.Data.String.Basic
import TableStore.Value

set_option autoImplicit false

namespace TableStore

namespace Text

open Unicode

def Firm (drops : Char → Bool) (cs : List Char) : Prop :=
  (∀ c ∈ cs.head?, drops c = false) ∧ ∀ c ∈ cs.getLast?, drops c = false

theorem drop_while_kept_iff (drops : Char → Bool) (cs : List Char) :
    cs.dropWhile drops = cs ↔ ∀ c ∈ cs.head?, drops c = false := by
  rw [List.dropWhile_eq_self_iff]
  cases cs with
  | nil => simp
  | cons c rest => simp

theorem strip_front (drops : Char → Bool) (cs : List Char) : strip drops cs <+: cs.dropWhile drops := by
  have back := List.dropWhile_suffix (l := (cs.dropWhile drops).reverse) drops
  rwa [← List.reverse_prefix, List.reverse_reverse] at back

theorem strip_infix (drops : Char → Bool) (cs : List Char) : strip drops cs <:+: cs :=
  (strip_front drops cs).isInfix.trans (List.dropWhile_suffix drops).isInfix

theorem strip_kept_iff (drops : Char → Bool) (cs : List Char) : strip drops cs = cs ↔ Firm drops cs := by
  constructor
  · intro same
    have shorter := (strip_front drops cs).length_le
    rw [same] at shorter
    have front : cs.dropWhile drops = cs := (List.dropWhile_suffix drops).eq_of_length_le shorter
    have back : cs.reverse.dropWhile drops = cs.reverse := by
      rw [strip, front] at same
      exact List.reverse_eq_iff.mp same
    refine ⟨(drop_while_kept_iff drops cs).mp front, ?_⟩
    simpa using (drop_while_kept_iff drops cs.reverse).mp back
  · intro ⟨front, back⟩
    have reversed : cs.reverse.dropWhile drops = cs.reverse :=
      (drop_while_kept_iff drops cs.reverse).mpr (by simpa using back)
    rw [strip, (drop_while_kept_iff drops cs).mpr front, reversed, List.reverse_reverse]

theorem take_while_before {test : Char → Bool} (front : List Char) {rest : List Char}
    (stops : ∀ c ∈ rest.head?, test c = false) : (front ++ rest).takeWhile test = front.takeWhile test := by
  have none : rest.takeWhile test = [] := by
    cases rest with
    | nil => rfl
    | cons c more => exact List.takeWhile_cons_of_neg (by simp [stops c rfl])
  rw [List.takeWhile_append, none, List.append_nil]
  by_cases whole : (front.takeWhile test).length = front.length
  · rw [if_pos whole]
    exact ((List.takeWhile_prefix test).eq_of_length whole).symm
  · rw [if_neg whole]

theorem drop_while_before {drops : Char → Bool} (front : List Char) {rest : List Char}
    (stops : ∀ c ∈ rest.head?, drops c = false) : (front ++ rest).dropWhile drops = front.dropWhile drops ++ rest := by
  rw [List.dropWhile_append, (drop_while_kept_iff drops rest).mpr stops]
  by_cases empty : (front.dropWhile drops).isEmpty = true
  · rw [if_pos empty, List.isEmpty_iff.mp empty, List.nil_append]
  · rw [if_neg empty]

theorem strip_around {drops : Char → Bool} {core : List Char} (nonempty : core ≠ []) (firm : Firm drops core)
    (front back : List Char) :
    strip drops (front ++ core ++ back) = front.dropWhile drops ++ core ++ (back.reverse.dropWhile drops).reverse := by
  obtain ⟨first, last⟩ := firm
  have begins : ∀ c ∈ (core ++ back).head?, drops c = false := by
    rwa [List.head?_append_of_ne_nil core nonempty]
  have ends : ∀ c ∈ (core.reverse ++ (front.dropWhile drops).reverse).head?, drops c = false := by
    rwa [List.head?_append_of_ne_nil _ (by simpa using nonempty), List.head?_reverse]
  rw [strip, List.append_assoc, drop_while_before front begins, List.reverse_append, List.reverse_append,
    List.append_assoc, drop_while_before back.reverse ends]
  simp

theorem trim_kept_iff (text : String) : trim text = text ↔ Firm isBlank text.toList := by
  rw [trim, String.ofList_eq, strip_kept_iff]

theorem trim_quote_marks_kept_iff (text : String) : trimQuoteMarks text = text ↔ Firm isQuoteMark text.toList := by
  rw [trimQuoteMarks, String.ofList_eq, strip_kept_iff]

theorem digit_range {c : Char} (digit : c.isDigit = true) : 48 ≤ c.toNat ∧ c.toNat ≤ 57 := by
  simpa [Char.isDigit, UInt32.le_iff_toNat_le] using digit

theorem alpha_range {c : Char} (alpha : c.isAlpha = true) :
    (65 ≤ c.toNat ∧ c.toNat ≤ 90) ∨ (97 ≤ c.toNat ∧ c.toNat ≤ 122) := by
  rcases (Bool.or_eq_true _ _).mp alpha with upper | lower
  · obtain ⟨first, last⟩ := of_decide_eq_true upper
    exact .inl ⟨UInt32.le_iff_toNat_le.mp first, UInt32.le_iff_toNat_le.mp last⟩
  · obtain ⟨first, last⟩ := (Bool.and_eq_true _ _).mp lower
    exact .inr ⟨UInt32.le_iff_toNat_le.mp (of_decide_eq_true first), UInt32.le_iff_toNat_le.mp (of_decide_eq_true last)⟩

theorem digit_not_blank {c : Char} (digit : c.isDigit = true) : isBlank c = false := by
  have range := digit_range digit
  simp only [isBlank, blankRanges, Ranges.covers]
  grind

theorem digit_no_quote_mark {c : Char} (digit : c.isDigit = true) : isQuoteMark c = false := by
  simp only [isQuoteMark, Bool.or_eq_false_iff, beq_eq_false_iff_ne]
  constructor
  · rintro rfl
    cases digit
  · rintro rfl
    cases digit

theorem firm_of_all {drops : Char → Bool} {cs : List Char} (kept : ∀ c ∈ cs, drops c = false) : Firm drops cs :=
  ⟨fun c first => kept c (List.mem_of_head? first), fun c last => kept c (List.mem_of_getLast? last)⟩

theorem trim_of_ends {text : String} {first last : Char} (front : text.toList.head? = some first)
    (back : text.toList.getLast? = some last) (firstKept : isBlank first = false) (lastKept : isBlank last = false) :
    trim text = text := by
  rw [trim_kept_iff, Firm, front, back]
  refine ⟨?_, ?_⟩
  · intro c here
    cases here
    exact firstKept
  · intro c here
    cases here
    exact lastKept

theorem to_lower_number (c : Char) :
    c.toLower.toNat = if 65 ≤ c.toNat ∧ c.toNat ≤ 90 then c.toNat + 32 else c.toNat := by
  change (if capital : c.val ≥ 'A'.val ∧ c.val ≤ 'Z'.val then Char.mk (c.val + 32) _ else c).toNat = _
  have number : c.toNat = c.val.toNat := rfl
  split
  · rename_i capital
    have range : 65 ≤ c.toNat ∧ c.toNat ≤ 90 := by simpa [UInt32.le_iff_toNat_le] using capital
    rw [if_pos range]
    change (c.val + 32).toNat = _
    rw [UInt32.toNat_add]
    change (c.val.toNat + 32) % 4294967296 = _
    omega
  · rename_i other
    rw [if_neg (by simpa [UInt32.le_iff_toNat_le] using other)]

theorem to_upper_number (c : Char) :
    c.toUpper.toNat = if 97 ≤ c.toNat ∧ c.toNat ≤ 122 then c.toNat - 32 else c.toNat := by
  change (if small : c.val ≥ 'a'.val ∧ c.val ≤ 'z'.val then Char.mk (c.val + 4294967264) _ else c).toNat = _
  have number : c.toNat = c.val.toNat := rfl
  split
  · rename_i small
    have range : 97 ≤ c.toNat ∧ c.toNat ≤ 122 := by simpa [UInt32.le_iff_toNat_le] using small
    rw [if_pos range]
    change (c.val + 4294967264).toNat = _
    rw [UInt32.toNat_add]
    change (c.val.toNat + 4294967264) % 4294967296 = _
    omega
  · rename_i other
    rw [if_neg (by simpa [UInt32.le_iff_toNat_le] using other)]

theorem upper_case_of_same {c capital : Char} (upper : 65 ≤ capital.toNat ∧ capital.toNat ≤ 90)
    (same : c.toLower = capital.toLower) : upperCase c = [capital] := by
  have lower := congrArg Char.toNat same
  rw [to_lower_number, to_lower_number, if_pos upper] at lower
  have letter : c.toNat = capital.toNat ∨ c.toNat = capital.toNat + 32 := by
    split at lower <;> omega
  have raised : c.toUpper = capital := by
    rw [← Char.toNat_inj, to_upper_number]
    split <;> omega
  rw [upperCase, upperParts, if_pos (by omega), raised]

theorem upper_cases_of_same {cs capitals : List Char} (range : ∀ c ∈ capitals, 65 ≤ c.toNat ∧ c.toNat ≤ 90)
    (same : cs.map Char.toLower = capitals.map Char.toLower) : cs.flatMap upperCase = capitals := by
  induction cs generalizing capitals with
  | nil => simpa using same.symm
  | cons c rest ih =>
    cases capitals with
    | nil => cases same
    | cons capital others =>
      obtain ⟨first, more⟩ := List.cons.inj same
      obtain ⟨inRange, othersRange⟩ := List.forall_mem_cons.mp range
      rw [List.flatMap_cons, upper_case_of_same inRange first, ih othersRange more]
      rfl

theorem upper_of_same {text word : String} (capitals : ∀ c ∈ word.toList, 65 ≤ c.toNat ∧ c.toNat ≤ 90)
    (same : sameIgnoringCase text word = true) : upper text = word := by
  rw [sameIgnoringCase, beq_iff_eq] at same
  rw [upper, upper_cases_of_same capitals same, String.ofList_toList]

end Text

namespace Decimal

theorem write_characters (n : Int64) {c : Char} (listed : c ∈ (write n).toList) : c = '-' ∨ c.isDigit = true := by
  rw [write] at listed
  cases same : n.toInt with
  | ofNat m =>
    rw [same, to_string_of_nat] at listed
    exact .inr (Nat.isDigit_of_mem_toDigits (by decide) (by decide) listed)
  | negSucc m =>
    rw [same, to_string_neg_succ, List.mem_cons] at listed
    rcases listed with minus | digit
    · exact .inl minus
    · exact .inr (Nat.isDigit_of_mem_toDigits (by decide) (by decide) digit)

theorem write_nonempty (n : Int64) : (write n).toList ≠ [] := by
  rw [write]
  cases n.toInt with
  | ofNat m =>
    rw [to_string_of_nat]
    exact Nat.toDigits_ne_nil
  | negSucc m =>
    rw [to_string_neg_succ]
    exact List.cons_ne_nil _ _

theorem write_firm {drops : Char → Bool} (minus : drops '-' = false)
    (digits : ∀ c, c.isDigit = true → drops c = false) (n : Int64) : Text.Firm drops (write n).toList := by
  apply Text.firm_of_all
  intro c listed
  rcases write_characters n listed with rfl | digit
  · exact minus
  · exact digits c digit

theorem trim_write (n : Int64) : Text.trim (write n) = write n :=
  (Text.trim_kept_iff _).mpr (write_firm (by decide) (fun _ => Text.digit_not_blank) n)

theorem trim_quote_marks_write (n : Int64) : Text.trimQuoteMarks (write n) = write n :=
  (Text.trim_quote_marks_kept_iff _).mpr (write_firm (by decide) (fun _ => Text.digit_no_quote_mark) n)

end Decimal

namespace Value

theorem bare_kept_iff (text : String) :
    bare text = text ↔ Text.Firm Unicode.isBlank text.toList ∧ Text.Firm Text.isQuoteMark text.toList := by
  constructor
  · intro same
    -- Each step only takes away, so a text that survives all three is left alone by each of them.
    have first := Text.strip_infix Unicode.isBlank text.toList
    have second := Text.strip_infix Text.isQuoteMark (Text.strip Unicode.isBlank text.toList)
    have third := Text.strip_infix Unicode.isBlank (Text.strip Text.isQuoteMark (Text.strip Unicode.isBlank text.toList))
    simp only [bare, Text.trim, Text.trimQuoteMarks, String.toList_ofList, String.ofList_eq] at same
    rw [same] at third
    have blanks := first.eq_of_length_le (third.trans second).length_le
    rw [blanks] at second third
    have marks := second.eq_of_length_le third.length_le
    exact ⟨(Text.strip_kept_iff _ _).mp blanks, (Text.strip_kept_iff _ _).mp marks⟩
  · intro ⟨blanks, marks⟩
    rw [bare, (Text.trim_kept_iff text).mpr blanks, (Text.trim_quote_marks_kept_iff text).mpr marks,
      (Text.trim_kept_iff text).mpr blanks]

end Value

end TableStore
