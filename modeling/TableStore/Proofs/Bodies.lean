import TableStore.Token.Stream

set_option autoImplicit false

/- A body is its content where no mark is doubled and nothing is escaped in it. -/
namespace TableStore.Quoted

def isSpecial (mark : Char) (escapes : Bool) (c : Char) : Bool := c == mark || (escapes && c == '\\')

-- A special character and one or more behind it stand for one character of the content.
inductive Decodes (special : Char → Bool) : List Char → List Char → Prop
  | nil : Decodes special [] []
  | plain {c : Char} {raw content : List Char} (plain : special c = false) (behind : Decodes special raw content) :
      Decodes special (c :: raw) (c :: content)
  | coded {c : Char} {code raw content : List Char} (value : Char) (starts : special c = true) (some : code ≠ [])
      (behind : Decodes special raw content) : Decodes special (c :: (code ++ raw)) (value :: content)

section
variable {special : Char → Bool} {raw content : List Char}

theorem Decodes.length_le (decodes : Decodes special raw content) : content.length ≤ raw.length := by
  induction decodes with
  | nil => exact Nat.le_refl 0
  | plain _ _ ih => exact Nat.succ_le_succ ih
  | coded _ _ _ _ ih =>
    simp only [List.length_cons, List.length_append]
    omega

theorem Decodes.of_plain (plain : ∀ c ∈ raw, special c = false) : Decodes special raw raw := by
  induction raw with
  | nil => exact .nil
  | cons c rest ih =>
    obtain ⟨here, behind⟩ := List.forall_mem_cons.mp plain
    exact .plain here (ih behind)

-- A code is longer than what it stands for, and nothing behind it makes up for that.
theorem Decodes.same_iff (decodes : Decodes special raw content) : content = raw ↔ ∀ c ∈ raw, special c = false := by
  induction decodes with
  | nil => simp
  | plain plain _ ih =>
    rw [List.cons.injEq, and_iff_right rfl, ih, List.forall_mem_cons, and_iff_right plain]
  | @coded c code raw content value starts nonempty behind ih =>
    constructor
    · intro same
      have lengths := congrArg List.length same
      have shorter := behind.length_le
      have long := List.length_pos_iff.mpr nonempty
      simp only [List.length_cons, List.length_append] at lengths
      omega
    · intro plain
      rw [plain c List.mem_cons_self] at starts
      cases starts

theorem Decodes.behind (decodes : Decodes special raw content) {c value : Char} (starts : special c = true)
    {cs more rest : List Char} {mark : Char} (suffix : more <:+ cs) (shorter : more.length < cs.length)
    (split : more = raw ++ mark :: rest) :
    ∃ whole, c :: cs = whole ++ mark :: rest ∧ Decodes special whole (value :: content) := by
  obtain ⟨code, rfl⟩ := suffix
  refine ⟨c :: (code ++ raw), by simp [split], .coded value starts ?_ decodes⟩
  rintro rfl
  exact absurd shorter (Nat.lt_irrefl _)

end

section
variable {content rest : List Char}

theorem emitted {c : Char} {body : Option (List Char × List Char)} (read : body.map (emit c) = some (content, rest)) :
    ∃ inner, body = some (inner, rest) ∧ content = c :: inner := by
  obtain ⟨⟨inner, behind⟩, found, same⟩ := Option.map_eq_some_iff.mp read
  cases same
  exact ⟨inner, found, rfl⟩

theorem all_emitted {head : List Char} {body : Option (List Char × List Char)}
    (read : body.map (emitAll head) = some (content, rest)) :
    ∃ inner, body = some (inner, rest) ∧ content = head ++ inner := by
  obtain ⟨⟨inner, behind⟩, found, same⟩ := Option.map_eq_some_iff.mp read
  cases same
  exact ⟨inner, found, rfl⟩

theorem emitted_ok {c : Char} {body : Except ScanFault (List Char × List Char)}
    (read : body.map (emit c) = .ok (content, rest)) : ∃ inner, body = .ok (inner, rest) ∧ content = c :: inner := by
  cases body with
  | error => cases read
  | ok pair =>
    obtain ⟨inner, behind⟩ := pair
    cases read
    exact ⟨inner, rfl, rfl⟩

theorem body_decodes {mark : Char} {escapes : Bool} {cs : List Char}
    (read : body mark escapes cs = some (content, rest)) :
    ∃ raw, cs = raw ++ mark :: rest ∧ Decodes (isSpecial mark escapes) raw content := by
  fun_induction body mark escapes cs generalizing content with
  | case1 => cases read
  | case2 =>
    cases read
    exact ⟨[], by simp_all, .nil⟩
  | case3 more ih =>
    obtain ⟨inner, found, rfl⟩ := emitted read
    obtain ⟨raw, rfl, decodes⟩ := ih found
    exact ⟨mark :: ([mark] ++ raw), rfl, .coded mark (by simp [isSpecial]) (by simp) decodes⟩
  | case4 d more single =>
    cases read
    exact ⟨[], rfl, .nil⟩
  | case5 => cases read
  | case6 c other escape d more ih =>
    obtain ⟨inner, found, rfl⟩ := emitted read
    obtain ⟨raw, rfl, decodes⟩ := ih found
    exact ⟨c :: ([d] ++ raw), rfl, .coded _ (by simp [isSpecial, escape]) (by simp) decodes⟩
  | case7 c behind other plain ih =>
    obtain ⟨inner, found, rfl⟩ := emitted read
    obtain ⟨raw, rfl, decodes⟩ := ih found
    exact ⟨c :: raw, rfl, .plain (by simpa [isSpecial, other] using plain) decodes⟩

theorem escape_char_shorter {cs : List Char} {c : Char} (read : escapeChar cs = some (c, rest)) :
    rest.length < cs.length := by
  cases cs with
  | nil => cases read
  | cons head tail => exact Nat.lt_succ_of_le (escape_char_tail read).length_le

theorem escaped_body_decodes {cs : List Char} (read : escapedBody cs = some (content, rest)) :
    ∃ raw, cs = raw ++ '\x27' :: rest ∧ Decodes (isSpecial '\x27' true) raw content := by
  fun_induction escapedBody cs generalizing content with
  | case1 => cases read
  | case2 =>
    cases read
    exact ⟨[], by simp_all, .nil⟩
  | case3 more ih =>
    obtain ⟨inner, found, rfl⟩ := emitted read
    obtain ⟨raw, rfl, decodes⟩ := ih found
    exact ⟨'\x27' :: (['\x27'] ++ raw), rfl, .coded _ (by decide) (by simp) decodes⟩
  | case4 d more single =>
    cases read
    exact ⟨[], rfl, .nil⟩
  | case5 => cases read
  | case6 => cases read
  | case7 behind value more escape written other ih =>
    obtain ⟨inner, found, rfl⟩ := emitted read
    obtain ⟨raw, split, decodes⟩ := ih found
    exact decodes.behind (by decide) (escape_char_suffix escape) (escape_char_shorter escape) split
  | case8 c more other plain ih =>
    obtain ⟨inner, found, rfl⟩ := emitted read
    obtain ⟨raw, rfl, decodes⟩ := ih found
    exact ⟨c :: raw, rfl, .plain (by simp [isSpecial, other, plain]) decodes⟩

theorem hex_digits_length {count value number : Nat} {cs : List Char} (read : hexDigits count value cs = .ok (number, rest)) :
    rest.length + count = cs.length := by
  fun_induction hexDigits count value cs with
  | case1 =>
    cases read
    rfl
  | case2 => cases read
  | case3 value count c more digit found ih =>
    have behind := ih read
    simp only [List.length_cons]
    omega
  | case4 => cases read

theorem code_point_length {count : Nat} {c : Char} {cs : List Char} (read : codePoint count cs = .ok (c, rest)) :
    rest.length + count = cs.length := by
  rw [codePoint] at read
  split at read
  · cases read
  · rename_i digits
    split at read
    · cases read
      exact hex_digits_length digits
    · cases read

theorem unicode_char_shorter {c : Char} {cs : List Char} (read : unicodeChar cs = .ok (c, rest)) :
    rest.length < cs.length := by
  cases cs with
  | nil =>
    simp only [unicodeChar] at read
    have lengths := code_point_length read
    omega
  | cons head tail =>
    simp only [unicodeChar] at read
    split at read
    · cases read
      exact Nat.lt_succ_self _
    · split at read
      · have lengths := code_point_length read
        simp only [List.length_cons]
        omega
      · have lengths := code_point_length read
        omega

theorem unicode_body_decodes {cs : List Char} (read : unicodeBody cs = .ok (content, rest)) :
    ∃ raw, cs = raw ++ '\x27' :: rest ∧ Decodes (isSpecial '\x27' true) raw content := by
  fun_induction unicodeBody cs generalizing content with
  | case1 => cases read
  | case2 =>
    cases read
    exact ⟨[], rfl, .nil⟩
  | case3 more ih =>
    obtain ⟨inner, found, rfl⟩ := emitted_ok read
    obtain ⟨raw, rfl, decodes⟩ := ih found
    exact ⟨'\x27' :: (['\x27'] ++ raw), rfl, .coded _ (by decide) (by simp) decodes⟩
  | case4 d more single =>
    cases read
    exact ⟨[], rfl, .nil⟩
  | case5 => cases read
  | case6 behind value more escape other ih =>
    obtain ⟨inner, found, rfl⟩ := emitted_ok read
    obtain ⟨raw, split, decodes⟩ := ih found
    exact decodes.behind (by decide) (unicode_char_suffix escape) (unicode_char_shorter escape) split
  | case7 c more other plain ih =>
    obtain ⟨inner, found, rfl⟩ := emitted_ok read
    obtain ⟨raw, rfl, decodes⟩ := ih found
    exact ⟨c :: raw, rfl, .plain (by simp [isSpecial, other, plain]) decodes⟩

theorem triple_body_source {mark : Char} {cs : List Char} (read : tripleBody mark cs = some (content, rest)) :
    cs = content ++ [mark, mark, mark] ++ rest := by
  fun_induction tripleBody mark cs generalizing content with
  | case1 => cases read
  | case2 c more closed =>
    simp only [Bool.and_eq_true, decide_eq_true_eq, beq_iff_eq] at closed
    obtain ⟨⟨rfl, second⟩, third⟩ := closed
    obtain ⟨others, rfl⟩ := List.head?_eq_some_iff.mp second
    obtain ⟨behind, rfl⟩ := List.head?_eq_some_iff.mp third
    cases read
    rfl
  | case3 c more opens ih =>
    obtain ⟨inner, found, rfl⟩ := emitted read
    rw [ih found]
    rfl

theorem dollar_body_source {cs : List Char} (read : dollarBody cs = some (content, rest)) :
    cs = content ++ ['$', '$'] ++ rest := by
  fun_induction dollarBody cs generalizing content with
  | case1 => cases read
  | case2 c more closed =>
    simp only [Bool.and_eq_true, decide_eq_true_eq, beq_iff_eq] at closed
    obtain ⟨rfl, second⟩ := closed
    obtain ⟨others, rfl⟩ := List.head?_eq_some_iff.mp second
    cases read
    rfl
  | case3 c more opens ih =>
    obtain ⟨inner, found, rfl⟩ := emitted read
    rw [ih found]
    rfl

theorem comment_body_source {depth : Nat} {last : Char} {cs : List Char}
    (read : commentBody depth last cs = some (content, rest)) : cs = content ++ rest := by
  fun_induction commentBody depth last cs generalizing content with
  | case1 => cases read
  | case2 depth last c more opens ih =>
    obtain ⟨inner, found, rfl⟩ := emitted read
    rw [ih found, List.cons_append]
  | case3 last c more other closes =>
    cases read
    rfl
  | case4 last c more other closes outer ih =>
    obtain ⟨inner, found, rfl⟩ := emitted read
    rw [ih found, List.cons_append]
  | case5 depth last c more other inside ih =>
    obtain ⟨inner, found, rfl⟩ := emitted read
    rw [ih found, List.cons_append]

-- What was read of the closing tag so far, the dollar before it included.
def matched (tag : List Char) : Option (List Char) → List Char
  | none => []
  | some left => '$' :: tag.take (tag.length - left.length)

theorem matched_front (front left : List Char) : matched (front ++ left) (some left) = '$' :: front := by
  rw [matched, List.length_append, Nat.add_sub_cancel, List.take_left]

-- A match that fails belongs to the body, with the character that it fails at.
theorem tagged_body_source {tag : List Char} {left : Option (List Char)} {cs : List Char}
    (read : taggedBody tag left cs = some (content, rest)) (behind : ∀ remaining, left = some remaining → remaining <:+ tag) :
    matched tag left ++ cs = content ++ ('$' :: tag ++ ['$']) ++ rest := by
  fun_induction taggedBody tag left cs generalizing content with
  | case1 => cases read
  | case2 more ih => simpa [matched] using ih read (by rintro _ ⟨⟩; exact List.suffix_refl _)
  | case3 c more other ih =>
    obtain ⟨inner, found, rfl⟩ := emitted read
    simpa [matched] using ih found (by rintro _ ⟨⟩)
  | case4 more =>
    cases read
    simp [matched]
  | case5 c more other ih =>
    obtain ⟨inner, found, rfl⟩ := all_emitted read
    simpa [matched] using ih found (by rintro _ ⟨⟩)
  | case6 left c more ih =>
    obtain ⟨front, rfl⟩ := behind _ rfl
    have split : front ++ c :: left = (front ++ [c]) ++ left := by simp
    have later := ih read (by rintro _ ⟨⟩; exact ⟨front ++ [c], by simp⟩)
    rw [matched_front]
    rw [split, matched_front] at later
    simpa using later
  | case7 t left c more other ih =>
    obtain ⟨front, rfl⟩ := behind _ rfl
    obtain ⟨inner, found, rfl⟩ := all_emitted read
    have front : (front ++ t :: left).take ((front ++ t :: left).length - left.length - 1) = front := by
      rw [Nat.sub_sub, List.length_append, List.length_cons, Nat.add_sub_cancel, List.take_left]
    rw [matched_front, front]
    simpa [matched] using ih found (by rintro _ ⟨⟩)

end

end TableStore.Quoted
