import TableStore.Proofs.Text

set_option autoImplicit false

/- What ends a line is lost in trimming it. -/
namespace TableStore.Text

open Unicode

theorem split_line {line : List Char} (unbroken : '\n' ∉ line) (rest : List Char) :
    splitLines (line ++ '\n' :: rest) = (line ++ ['\n']) :: splitLines rest := by
  induction line with
  | nil => simp [splitLines]
  | cons c line ih =>
    obtain ⟨other, behind⟩ := List.ne_and_not_mem_of_not_mem_cons unbroken
    rw [List.cons_append, splitLines, if_neg (Ne.symm other), ih behind]
    rfl

theorem split_last_line {line : List Char} (unbroken : '\n' ∉ line) (nonempty : line ≠ []) :
    splitLines line = [line] := by
  induction line with
  | nil => exact absurd rfl nonempty
  | cons c line ih =>
    obtain ⟨other, behind⟩ := List.ne_and_not_mem_of_not_mem_cons unbroken
    rw [splitLines, if_neg (Ne.symm other)]
    cases line with
    | nil => rfl
    | cons next line =>
      rw [ih behind (List.cons_ne_nil next line)]
      rfl

theorem without_line_feed {line : List Char} (kept : line.getLast? ≠ some '\r') :
    withoutBreak (line ++ ['\n']) = line := by
  rw [withoutBreak, List.reverse_append]
  split
  · rename_i front same
    have last : line.reverse = '\r' :: front := (List.cons.inj same).2
    rw [← List.head?_reverse, last] at kept
    exact absurd rfl kept
  · rename_i front _ same
    have reversed : line.reverse = front := (List.cons.inj same).2
    rw [← reversed, List.reverse_reverse]
  · rename_i _ other
    exact absurd rfl (other line.reverse)

theorem without_break_kept {line : List Char} (unbroken : '\n' ∉ line) : withoutBreak line = line := by
  rw [withoutBreak]
  split
  · rename_i front same
    exact absurd (List.mem_reverse.mp (by simp [same])) unbroken
  · rename_i front _ same
    exact absurd (List.mem_reverse.mp (by simp [same])) unbroken
  · rfl

theorem lines_joined {front : List (List Char)} {last : List Char} (lastUnbroken : '\n' ∉ last) (nonempty : last ≠ [])
    (unbrokenLines : ∀ line ∈ front, '\n' ∉ line ∧ line.getLast? ≠ some '\r') :
    lines (String.ofList (front.flatMap (· ++ ['\n']) ++ last)) = (front ++ [last]).map String.ofList := by
  rw [lines, rawLines, List.map_map, String.toList_ofList]
  induction front with
  | nil =>
    rw [List.flatMap_nil, List.nil_append, split_last_line lastUnbroken nonempty]
    simp [unbroken, without_break_kept lastUnbroken]
  | cons line front ih =>
    obtain ⟨⟨plain, kept⟩, behind⟩ := List.forall_mem_cons.mp unbrokenLines
    rw [List.flatMap_cons, List.append_assoc, List.append_assoc, List.singleton_append, split_line plain,
      List.map_cons, ih behind, Function.comp_apply, unbroken, String.toList_ofList, without_line_feed kept]
    rfl

theorem strip_append (drops : Char → Bool) (cs : List Char) {c : Char} (dropped : drops c = true) :
    strip drops (cs ++ [c]) = strip drops cs := by
  have single : [c].dropWhile drops = [] := List.dropWhile_cons_of_pos dropped
  rw [strip, strip, List.dropWhile_append, single]
  split
  · rename_i none
    rw [List.isEmpty_iff.mp none]
  · rw [List.reverse_append, List.reverse_singleton, List.singleton_append, List.dropWhile_cons_of_pos dropped]

theorem strip_without_break (line : List Char) : strip isBlank (withoutBreak line) = strip isBlank line := by
  rw [withoutBreak]
  split
  · rename_i front ends
    have whole : line = front.reverse ++ ['\r'] ++ ['\n'] := by simpa using List.reverse_eq_iff.mp ends
    rw [whole, strip_append isBlank _ (by decide), strip_append isBlank _ (by decide)]
  · rename_i front _ ends
    have whole : line = front.reverse ++ ['\n'] := by simpa using List.reverse_eq_iff.mp ends
    rw [whole, strip_append isBlank _ (by decide)]
  · rfl

theorem trim_lines (text : String) : (lines text).map trim = (rawLines text).map trim := by
  simp [lines, unbroken, trim, strip_without_break]

end TableStore.Text
