import TableStore.Proofs.Bodies
import TableStore.Proofs.Legible

set_option autoImplicit false

/- Most lexemes are shown as they are written. -/
namespace TableStore

open Unicode

def Piece.shown : Piece → String
  | .gap shown => shown
  | .token read => read.text

def Token.isPlain : Token → Bool
  | .word _ (some _) | .literal .. => false
  | _ => true

def LiteralStyle.isSpecial : LiteralStyle → Char → Bool
  | .single | .byteSingle | .rawSingle => Quoted.isSpecial '\x27' false
  | .double | .byteDouble | .rawDouble => Quoted.isSpecial '\x22' false
  | .national | .escaped | .unicode | .hex => Quoted.isSpecial '\x27' true
  | .rawTripleSingle | .rawTripleDouble => fun _ => false

namespace Lexeme

def keptGaps : List Char := [' ', '\t', '\n', '-', '/']

inductive Spelled : List Char → Piece → Prop
  | gap {c : Char} {rest : List Char} (kept : c ∈ keptGaps) : Spelled (c :: rest) (.gap (String.ofList (c :: rest)))
  | carriage {source : List Char} (read : source = ['\r'] ∨ source = ['\r', '\n']) : Spelled source (.gap "\n")
  | otherBlank {c : Char} (blank : isBlank c = true) (other : c ∉ [' ', '\t', '\n', '\r']) : Spelled [c] (.gap " ")
  | plain {token : Token} (plain : token.isPlain = true) : Spelled token.text.toList (.token token)
  | unequal : Spelled ['!', '='] (.token (.symbol .notEqual))
  | quotedWord {quote : WordQuote} {raw content : List Char}
      (decodes : Quoted.Decodes (Quoted.isSpecial quote.mark false) raw content) :
      Spelled (quote.mark :: raw ++ [quote.mark]) (.token (.word (String.ofList content) (some quote)))
  | literal {style : LiteralStyle} {lead raw content : List Char} (opens : lead.map Char.toUpper = style.opening.toList)
      (decodes : Quoted.Decodes style.isSpecial raw content) :
      Spelled (lead ++ raw ++ style.closing.toList) (.token (.literal style (String.ofList content)))
  | hexadecimal (digits : List Char) : Spelled ('0' :: 'x' :: digits) (.token (.literal .hex (String.ofList digits)))

def Scanned (cs : List Char) (piece : Piece) (rest : List Char) : Prop :=
  ∃ source, cs = source ++ rest ∧ Spelled source piece

section
variable {c : Char} {head lead cs rest : List Char} {piece : Piece}

theorem scanned_plain {token : Token} (plain : token.isPlain = true) (whole : cs = token.text.toList ++ rest) :
    Scanned cs (.token token) rest :=
  ⟨_, whole, .plain plain⟩

theorem word_from_scanned (read : wordFrom head cs = .ok (piece, rest)) : Scanned (head ++ cs) piece rest := by
  cases read
  refine scanned_plain rfl ?_
  rw [Token.text, String.toList_ofList, List.append_assoc, List.takeWhile_append_dropWhile]

theorem literal_scanned {style : LiteralStyle} {mark : Char} {escapes : Bool} {unread : List Char} (lead : List Char)
    (opens : lead.map Char.toUpper = style.opening.toList) (closes : style.closing.toList = [mark])
    (special : style.isSpecial = Quoted.isSpecial mark escapes)
    (read : literal style mark escapes unread cs = .ok (piece, rest)) : Scanned (lead ++ cs) piece rest := by
  rw [literal] at read
  split at read
  · rename_i found
    cases read
    obtain ⟨raw, rfl, decodes⟩ := Quoted.body_decodes found
    refine ⟨lead ++ raw ++ style.closing.toList, ?_, .literal opens (special ▸ decodes)⟩
    simp [closes]
  · cases read

theorem triple_literal_scanned {style : LiteralStyle} {mark : Char} (lead : List Char)
    (opens : lead.map Char.toUpper = style.opening.toList) (closes : style.closing.toList = [mark, mark, mark])
    (plain : ∀ c, style.isSpecial c = false) (read : tripleLiteral style mark cs = .ok (piece, rest)) :
    Scanned (lead ++ cs) piece rest := by
  rw [tripleLiteral] at read
  split at read
  · rename_i content _ found
    cases read
    refine ⟨lead ++ content ++ style.closing.toList, ?_, .literal opens (.of_plain fun c _ => plain c)⟩
    rw [Quoted.triple_body_source found, closes]
    simp
  · cases read

theorem raw_literal_scanned {short long : LiteralStyle} {mark : Char} (lead : List Char)
    (shortOpens : lead.map Char.toUpper = short.opening.toList) (shortCloses : short.closing.toList = [mark])
    (special : short.isSpecial = Quoted.isSpecial mark false)
    (longOpens : (lead ++ [mark, mark]).map Char.toUpper = long.opening.toList)
    (longCloses : long.closing.toList = [mark, mark, mark]) (plain : ∀ c, long.isSpecial c = false)
    (read : rawLiteral short long mark cs = .ok (piece, rest)) : Scanned (lead ++ cs) piece rest := by
  have empty : Spelled (lead ++ [mark]) (.token (.literal short "")) := by
    have spelled := Spelled.literal shortOpens (.nil : Quoted.Decodes short.isSpecial [] [])
    rwa [shortCloses, List.append_nil] at spelled
  simp only [rawLiteral] at read
  split at read
  · exact literal_scanned lead shortOpens shortCloses special read
  · rename_i c more
    split at read
    · rename_i first
      split at read
      · cases read
        exact ⟨_, by simp [first], empty⟩
      · rename_i d inner
        split at read
        · rename_i second
          have scanned := triple_literal_scanned _ longOpens longCloses plain read
          rw [first, second]
          simpa using scanned
        · cases read
          exact ⟨_, by simp [first], empty⟩
    · exact literal_scanned lead shortOpens shortCloses special read

theorem byte_or_word_scanned (letter : c.toUpper = 'B') (read : byteOrWord c cs = .ok (piece, rest)) :
    Scanned (c :: cs) piece rest := by
  simp only [byteOrWord] at read
  split at read
  · exact literal_scanned [c, '\x27'] (by simp [letter, LiteralStyle.opening]) rfl rfl read
  · exact literal_scanned [c, '\x22'] (by simp [letter, LiteralStyle.opening]) rfl rfl read
  · exact word_from_scanned read

theorem raw_or_word_scanned (letter : c.toUpper = 'R') (read : rawOrWord c cs = .ok (piece, rest)) :
    Scanned (c :: cs) piece rest := by
  simp only [rawOrWord] at read
  split at read
  · exact raw_literal_scanned [c, '\x27'] (by simp [letter, LiteralStyle.opening]) rfl rfl
      (by simp [letter, LiteralStyle.opening]) rfl (fun _ => rfl) read
  · exact raw_literal_scanned [c, '\x22'] (by simp [letter, LiteralStyle.opening]) rfl rfl
      (by simp [letter, LiteralStyle.opening]) rfl (fun _ => rfl) read
  · exact word_from_scanned read

theorem letter_literal_scanned {style : LiteralStyle} (opens : [c, '\x27'].map Char.toUpper = style.opening.toList)
    (closes : style.closing.toList = ['\x27']) (special : style.isSpecial = Quoted.isSpecial '\x27' true)
    (read : letterLiteral style c cs = .ok (piece, rest)) : Scanned (c :: cs) piece rest := by
  simp only [letterLiteral] at read
  split at read
  · exact literal_scanned [c, '\x27'] opens closes special read
  · exact word_from_scanned read

theorem escaped_or_word_scanned (letter : c.toUpper = 'E') (read : escapedOrWord c cs = .ok (piece, rest)) :
    Scanned (c :: cs) piece rest := by
  simp only [escapedOrWord] at read
  split at read
  · split at read
    · rename_i found
      cases read
      obtain ⟨raw, rfl, decodes⟩ := Quoted.escaped_body_decodes found
      have opens : [c, '\x27'].map Char.toUpper = LiteralStyle.escaped.opening.toList := by
        simp [letter, LiteralStyle.opening]
      exact ⟨_, by simp [LiteralStyle.closing], .literal opens decodes⟩
    · cases read
  · exact word_from_scanned read

theorem unicode_or_word_scanned (letter : c.toUpper = 'U') (read : unicodeOrWord c cs = .ok (piece, rest)) :
    Scanned (c :: cs) piece rest := by
  simp only [unicodeOrWord] at read
  split at read
  · split at read
    · rename_i found
      cases read
      obtain ⟨raw, rfl, decodes⟩ := Quoted.unicode_body_decodes found
      have opens : [c, '&', '\x27'].map Char.toUpper = LiteralStyle.unicode.opening.toList := by
        simp [letter, LiteralStyle.opening]
      exact ⟨_, by simp [LiteralStyle.closing], .literal opens decodes⟩
    · cases read
  · exact word_from_scanned read

theorem quoted_word_scanned {quote : WordQuote} (read : quotedWord quote cs = .ok (piece, rest)) :
    Scanned (quote.mark :: cs) piece rest := by
  rw [quotedWord] at read
  split at read
  · rename_i found
    cases read
    obtain ⟨raw, rfl, decodes⟩ := Quoted.body_decodes found
    exact ⟨_, by simp, .quotedWord decodes⟩
  · cases read

theorem exponent_source (cs : List Char) : (exponent cs).1 ++ (exponent cs).2 = cs := by
  unfold exponent
  split
  · split
    · split
      · rw [List.cons_append, List.takeWhile_append_dropWhile]
      · split
        · rw [List.cons_append, List.cons_append, List.takeWhile_append_dropWhile]
        · rfl
    · rfl
  · rfl

theorem long_mark_source (cs : List Char) : (if (longMark cs).1 then ['L'] else []) ++ (longMark cs).2 = cs := by
  unfold longMark
  split
  · rfl
  · rfl

theorem numeral_from_scanned (nonempty : head ≠ []) (read : numeralFrom head cs = .ok (piece, rest)) :
    Scanned (head ++ cs) piece rest := by
  have digits := List.takeWhile_append_dropWhile (p := Char.isDigit) (l := cs)
  simp only [numeralFrom] at read
  split at read
  · rename_i period
    cases read
    obtain ⟨c, none⟩ | ⟨c, none⟩ := List.append_eq_singleton_iff.mp period
    · exact absurd c nonempty
    · exact scanned_plain rfl (by rw [c]; rfl)
  · cases read
    have power := exponent_source (cs.dropWhile Char.isDigit)
    have long := long_mark_source (exponent (cs.dropWhile Char.isDigit)).2
    rw [← power, ← long] at digits
    refine scanned_plain rfl ((congrArg (head ++ ·) digits.symm).trans ?_)
    cases (longMark (exponent (cs.dropWhile Char.isDigit)).2).1 with
    | false => simp [Token.text]
    | true => simp [Token.text]

theorem numeral_scanned (read : numeral c cs = .ok (piece, rest)) : Scanned (c :: cs) piece rest := by
  have digits := List.takeWhile_append_dropWhile (p := Char.isDigit) (l := cs)
  simp only [numeral] at read
  split at read
  · exact numeral_from_scanned (by simp) read
  · split at read
    · rename_i behind
      rw [behind] at digits
      split at read
      · rename_i whole
        obtain ⟨rfl, none⟩ := List.cons.inj whole
        cases read
        rw [← digits, none]
        exact ⟨_, by rw [List.cons_append, List.cons_append, List.takeWhile_append_dropWhile]; rfl, .hexadecimal _⟩
      · rw [← digits]
        exact numeral_from_scanned (by simp) read
    · rename_i behind
      rw [behind] at digits
      have scanned := numeral_from_scanned (by simp) read
      rw [← digits]
      simpa using scanned
    · have scanned := numeral_from_scanned (by simp) read
      rwa [List.cons_append, digits] at scanned

theorem line_comment_scanned (read : lineComment cs = .ok (piece, rest)) : Scanned ('-' :: '-' :: cs) piece rest := by
  have line := List.takeWhile_append_dropWhile (p := (· ≠ '\n')) (l := cs)
  simp only [lineComment] at read
  split at read
  · rename_i ended
    cases read
    rw [ended] at line
    exact ⟨'-' :: '-' :: cs.takeWhile (· ≠ '\n'), congrArg (['-', '-'] ++ ·) line.symm, .gap (by decide)⟩
  · rename_i behind
    cases read
    rw [behind] at line
    exact ⟨_, (congrArg (['-', '-'] ++ ·) line.symm).trans (by simp), .gap (by decide)⟩

theorem block_comment_scanned (read : blockComment cs = .ok (piece, rest)) : Scanned ('/' :: '*' :: cs) piece rest := by
  rw [blockComment] at read
  split at read
  · rename_i found
    cases read
    rw [Quoted.comment_body_source found]
    exact ⟨_, rfl, .gap (by decide)⟩
  · cases read

theorem sign_or_word_scanned {sign : Symbol} (text : sign.text.toList = head)
    (read : signOrWord sign head cs = .ok (piece, rest)) : Scanned (head ++ cs) piece rest := by
  cases cs with
  | nil =>
    cases read
    exact scanned_plain rfl (by rw [Token.text, text])
  | cons c more =>
    simp only [signOrWord] at read
    split at read
    · cases read
      exact scanned_plain rfl (by rw [Token.text, text])
    · have scanned := word_from_scanned read
      rwa [List.append_assoc] at scanned

theorem dollar_or_placeholder_scanned (read : dollarOrPlaceholder cs = .ok (piece, rest)) :
    Scanned ('$' :: cs) piece rest := by
  simp only [dollarOrPlaceholder] at read
  split at read
  · split at read
    · rename_i found
      cases read
      rw [Quoted.dollar_body_source found]
      exact scanned_plain rfl (by simp [Token.text])
    · cases read
  · have tag := List.takeWhile_append_dropWhile (p := isTagPart) (l := cs)
    split at read
    · rename_i behind
      rw [behind] at tag
      split at read
      · rename_i found
        cases read
        have source := Quoted.tagged_body_source found (by rintro _ ⟨⟩)
        rw [Quoted.matched, List.nil_append] at source
        rw [source] at tag
        exact scanned_plain rfl ((congrArg ('$' :: ·) tag.symm).trans (by simp [Token.text]))
      · cases read
    · cases read
      exact scanned_plain rfl (by simp [Token.text])

-- One sign only has a second spelling.
theorem spellings_text : ∀ entry ∈ spellings, entry.2.text.toList = entry.1 ∨ entry = (['!', '='], .notEqual) := by
  decide

theorem symbol_at_scanned {sign : Symbol} (found : symbolAt cs = some (sign, rest)) :
    Scanned cs (.token (.symbol sign)) rest := by
  obtain ⟨spelling, listed, read⟩ := List.exists_of_findSome?_eq_some found
  obtain ⟨behind, split, same⟩ := Option.map_eq_some_iff.mp read
  cases same
  have whole := prefix_rest_suffix split
  rcases spellings_text spelling listed with text | second
  · exact scanned_plain rfl (by rw [Token.text, text, whole])
  · rw [second] at whole ⊢
    exact ⟨_, whole, .unequal⟩

theorem sign_or_other_scanned (other : c ∉ [' ', '\t', '\n', '\r']) (read : signOrOther c cs = .ok (piece, rest)) :
    Scanned (c :: cs) piece rest := by
  simp only [signOrOther] at read
  split at read
  · rename_i found
    cases read
    exact symbol_at_scanned found
  · split at read
    · rename_i hash
      exact sign_or_word_scanned (by rw [hash]; rfl) read
    · split at read
      · rename_i at'
        split at read
        · have scanned := sign_or_word_scanned (by rw [at']; rfl) read
          exact scanned
        · exact sign_or_word_scanned (by rw [at']; rfl) read
      · split at read
        · rename_i question
          cases read
          exact scanned_plain rfl (by simp [Token.text, question])
        · split at read
          · exact word_from_scanned read
          · split at read
            · rename_i dollar
              rw [dollar]
              exact dollar_or_placeholder_scanned read
            · split at read
              · rename_i blank
                cases read
                exact ⟨[c], rfl, .otherBlank blank other⟩
              · cases read
                exact scanned_plain rfl (by simp [Token.text])

theorem carriage_return_scanned (read : carriageReturn cs = .ok (piece, rest)) : Scanned ('\r' :: cs) piece rest := by
  simp only [carriageReturn] at read
  split at read
  · cases read
    exact ⟨['\r', '\n'], rfl, .carriage (.inr rfl)⟩
  · cases read
    exact ⟨['\r'], rfl, .carriage (.inl rfl)⟩

theorem slash_or_comment_scanned (read : slashOrComment cs = .ok (piece, rest)) : Scanned ('/' :: cs) piece rest := by
  simp only [slashOrComment] at read
  split at read
  · exact block_comment_scanned read
  · exact sign_or_other_scanned (by decide) read

theorem minus_or_comment_scanned (read : minusOrComment cs = .ok (piece, rest)) : Scanned ('-' :: cs) piece rest := by
  simp only [minusOrComment] at read
  split at read
  · exact line_comment_scanned read
  · exact sign_or_other_scanned (by decide) read

theorem next_scanned (read : next c cs = .ok (piece, rest)) : Scanned (c :: cs) piece rest := by
  have branch := next_branch c cs
  generalize next c cs = scan at branch read
  cases branch with
  | blank first =>
    cases read
    have kept : c ∈ keptGaps := by rcases first with rfl | rfl | rfl <;> decide
    exact ⟨[c], rfl, .gap kept⟩
  | carriage first =>
    rw [first]
    exact carriage_return_scanned read
  | byte first => exact byte_or_word_scanned (by rcases first with rfl | rfl <;> rfl) read
  | raw first => exact raw_or_word_scanned (by rcases first with rfl | rfl <;> rfl) read
  | national first => exact letter_literal_scanned (by rcases first with rfl | rfl <;> rfl) rfl rfl read
  | escaped first => exact escaped_or_word_scanned (by rcases first with rfl | rfl <;> rfl) read
  | unicode first => exact unicode_or_word_scanned (by rcases first with rfl | rfl <;> rfl) read
  | hex first => exact letter_literal_scanned (by rcases first with rfl | rfl <;> rfl) rfl rfl read
  | single first =>
    rw [first] at read ⊢
    exact literal_scanned ['\x27'] rfl rfl rfl read
  | double first =>
    rw [first]
    exact quoted_word_scanned read
  | backtick first =>
    rw [first]
    exact quoted_word_scanned read
  | numeral => exact numeral_scanned read
  | minus first =>
    rw [first]
    exact minus_or_comment_scanned read
  | slash first =>
    rw [first]
    exact slash_or_comment_scanned read
  | other visible inside => exact sign_or_other_scanned (by simp_all) read

end

def Verbatim (source : List Char) : Piece → Prop
  | .gap _ => ∃ c rest, source = c :: rest ∧ c ∈ keptGaps
  | .token (.symbol _) => source ≠ ['!', '=']
  | .token (.word _ (some quote)) => ∃ body, source = quote.mark :: body ++ [quote.mark] ∧ quote.mark ∉ body
  | .token (.literal style _) =>
    ∃ body, source = style.opening.toList ++ body ++ style.closing.toList ∧ ∀ c ∈ body, style.isSpecial c = false
  | .token _ => True

theorem symbol_text_other (sign : Symbol) : sign.text.toList ≠ ['!', '='] := by
  cases sign <;> decide

theorem plain_verbatim {token : Token} (plain : token.isPlain = true) : Verbatim token.text.toList (.token token) := by
  cases token with
  | word text quote =>
    cases quote with
    | none => trivial
    | some quote => cases plain
  | literal => cases plain
  | symbol sign => exact symbol_text_other sign
  | number | dollar | placeholder | stray => trivial

theorem quoted_word_shown_iff {quote : WordQuote} {raw content : List Char}
    (decodes : Quoted.Decodes (Quoted.isSpecial quote.mark false) raw content) :
    quote.mark :: content ++ [quote.mark] = quote.mark :: raw ++ [quote.mark] ↔
      ∃ body, quote.mark :: raw ++ [quote.mark] = quote.mark :: body ++ [quote.mark] ∧ quote.mark ∉ body := by
  have whole : ∀ body other : List Char,
      quote.mark :: body ++ [quote.mark] = quote.mark :: other ++ [quote.mark] ↔ body = other := by
    simp
  have plain : (∀ c ∈ raw, Quoted.isSpecial quote.mark false c = false) ↔ quote.mark ∉ raw := by
    simp only [Quoted.isSpecial, Bool.false_and, Bool.or_false, beq_eq_false_iff_ne]
    exact ⟨fun other listed => other _ listed rfl, fun missing c listed same => missing (same ▸ listed)⟩
  rw [whole, decodes.same_iff, plain]
  simp only [whole, exists_eq_left']

theorem literal_shown_iff {style : LiteralStyle} {lead raw content : List Char}
    (opens : lead.map Char.toUpper = style.opening.toList) (decodes : Quoted.Decodes style.isSpecial raw content) :
    style.opening.toList ++ content ++ style.closing.toList = lead ++ raw ++ style.closing.toList ↔
      ∃ body, lead ++ raw ++ style.closing.toList = style.opening.toList ++ body ++ style.closing.toList ∧
        ∀ c ∈ body, style.isSpecial c = false := by
  have long : style.opening.toList.length = lead.length := by rw [← opens, List.length_map]
  have whole : ∀ body, style.opening.toList ++ body ++ style.closing.toList = lead ++ raw ++ style.closing.toList ↔
      style.opening.toList = lead ∧ body = raw := by
    intro body
    rw [List.append_left_inj]
    constructor
    · intro same
      exact List.append_inj same long
    · rintro ⟨first, rfl⟩
      rw [first]
  rw [whole, decodes.same_iff]
  constructor
  · rintro ⟨same, plain⟩
    exact ⟨raw, ((whole raw).mpr ⟨same, rfl⟩).symm, plain⟩
  · rintro ⟨body, split, plain⟩
    obtain ⟨same, rfl⟩ := (whole body).mp split.symm
    exact ⟨same, plain⟩

theorem Spelled.shown_iff {source : List Char} {piece : Piece} (spelled : Spelled source piece) :
    piece.shown.toList = source ↔ Verbatim source piece := by
  cases spelled with
  | @gap c rest kept =>
    rw [Piece.shown, String.toList_ofList]
    exact iff_of_true rfl ⟨c, rest, rfl, kept⟩
  | carriage read =>
    rcases read with rfl | rfl
    · exact iff_of_false (by decide) (by rintro ⟨c, rest, ⟨⟩, kept⟩; revert kept; decide)
    · exact iff_of_false (by decide) (by rintro ⟨c, rest, ⟨⟩, kept⟩; revert kept; decide)
  | @otherBlank c blank other =>
    have lost : c ∉ keptGaps := by
      intro kept
      have minus : isBlank '-' = false := by decide +kernel
      have slash : isBlank '/' = false := by decide +kernel
      simp only [keptGaps, List.mem_cons, List.not_mem_nil, or_false] at kept other
      grind
    refine iff_of_false ?_ ?_
    · intro same
      have space : c = ' ' := by simpa [Piece.shown] using same.symm
      exact lost (space ▸ by decide)
    · rintro ⟨_, _, same, kept⟩
      cases same
      exact lost kept
  | plain plain => exact iff_of_true rfl (plain_verbatim plain)
  | unequal => exact iff_of_false (by decide) (by simp [Verbatim])
  | @quotedWord quote raw content decodes =>
    have shown : (Piece.token (.word (String.ofList content) (some quote))).shown.toList =
        quote.mark :: content ++ [quote.mark] := by
      simp [Piece.shown, Token.text]
    rw [shown]
    exact quoted_word_shown_iff decodes
  | @literal style lead raw content opens decodes =>
    have shown : (Piece.token (.literal style (String.ofList content))).shown.toList =
        style.opening.toList ++ content ++ style.closing.toList := by
      simp [Piece.shown, Token.text]
    rw [shown]
    exact literal_shown_iff opens decodes
  | hexadecimal digits =>
    refine iff_of_false ?_ ?_
    · simp [Piece.shown, Token.text, LiteralStyle.opening]
    · rintro ⟨body, split, _⟩
      cases split

-- Only a number in hexadecimal becomes longer.
theorem Spelled.length_le {source : List Char} {piece : Piece} (spelled : Spelled source piece) :
    piece.shown.toList.length ≤ source.length ∨
      ∃ digits, source = '0' :: 'x' :: digits ∧ piece.shown.toList = 'X' :: '\x27' :: digits ++ ['\x27'] := by
  cases spelled with
  | gap => exact .inl (by simp [Piece.shown])
  | carriage read => exact .inl (by rcases read with rfl | rfl <;> decide)
  | otherBlank => exact .inl (by simp [Piece.shown])
  | plain => exact .inl (Nat.le_refl _)
  | unequal => exact .inl (by decide)
  | quotedWord decodes =>
    have shorter := decodes.length_le
    exact .inl (by simpa [Piece.shown, Token.text] using shorter)
  | @literal style lead raw content opens decodes =>
    have shorter := decodes.length_le
    have long : style.opening.toList.length = lead.length := by rw [← opens, List.length_map]
    refine .inl ?_
    simp only [Piece.shown, Token.text, String.toList_append, String.toList_ofList, List.length_append]
    omega
  | hexadecimal digits => exact .inr ⟨digits, rfl, by simp [Piece.shown, Token.text, LiteralStyle.opening, LiteralStyle.closing]⟩

-- And that one differs from its source at the front, wherever its source is laid beside it.
theorem Spelled.shown_not_around {source : List Char} {piece : Piece} (spelled : Spelled source piece)
    (front back : List Char) (longer : front ++ back ≠ []) : piece.shown.toList ≠ front ++ source ++ back := by
  intro same
  have positive := List.length_pos_iff.mpr longer
  rw [List.length_append] at positive
  rcases spelled.length_le with shorter | ⟨digits, rfl, shown⟩
  · rw [same, List.length_append, List.length_append] at shorter
    omega
  · rw [shown] at same
    cases front with
    | nil => cases same
    | cons c others =>
      have lengths := congrArg List.length same
      simp only [List.length_append, List.length_cons, List.length_nil] at lengths
      obtain rfl : others = [] := List.eq_nil_of_length_eq_zero (by omega)
      cases same

end Lexeme

end TableStore
