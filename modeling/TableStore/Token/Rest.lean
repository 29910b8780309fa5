import TableStore.Token.Lexeme

set_option autoImplicit false

namespace TableStore.Lexeme

theorem word_from_suffix {head cs rest : List Char} {piece : Piece} (read : wordFrom head cs = .ok (piece, rest)) :
    rest <:+ cs := by
  cases read
  exact List.dropWhile_suffix ..

theorem literal_suffix {style : LiteralStyle} {mark : Char} {escapes : Bool} {unread cs rest : List Char} {piece : Piece}
    (read : literal style mark escapes unread cs = .ok (piece, rest)) : rest <:+ cs := by
  simp only [literal] at read
  split at read
  · rename_i found
    cases read
    exact Quoted.body_suffix _ _ _ found
  · cases read

theorem triple_literal_suffix {style : LiteralStyle} {mark : Char} {cs rest : List Char} {piece : Piece}
    (read : tripleLiteral style mark cs = .ok (piece, rest)) : rest <:+ cs := by
  simp only [tripleLiteral] at read
  split at read
  · rename_i found
    cases read
    exact Quoted.triple_body_suffix _ _ found
  · cases read

theorem raw_literal_suffix {short long : LiteralStyle} {mark : Char} {cs rest : List Char} {piece : Piece}
    (read : rawLiteral short long mark cs = .ok (piece, rest)) : rest <:+ cs := by
  simp only [rawLiteral] at read
  split at read
  · exact literal_suffix read
  · rename_i c more
    split at read
    · split at read
      · cases read
        exact List.suffix_cons ..
      · rename_i d inner
        split at read
        · exact (triple_literal_suffix read).trans ⟨[c, d], rfl⟩
        · cases read
          exact List.suffix_cons ..
    · exact literal_suffix read

theorem byte_or_word_suffix {c : Char} {cs rest : List Char} {piece : Piece}
    (read : byteOrWord c cs = .ok (piece, rest)) : rest <:+ cs := by
  simp only [byteOrWord] at read
  split at read
  · exact (literal_suffix read).trans (List.suffix_cons ..)
  · exact (literal_suffix read).trans (List.suffix_cons ..)
  · exact word_from_suffix read

theorem raw_or_word_suffix {c : Char} {cs rest : List Char} {piece : Piece}
    (read : rawOrWord c cs = .ok (piece, rest)) : rest <:+ cs := by
  simp only [rawOrWord] at read
  split at read
  · exact (raw_literal_suffix read).trans (List.suffix_cons ..)
  · exact (raw_literal_suffix read).trans (List.suffix_cons ..)
  · exact word_from_suffix read

theorem letter_literal_suffix {style : LiteralStyle} {c : Char} {cs rest : List Char} {piece : Piece}
    (read : letterLiteral style c cs = .ok (piece, rest)) : rest <:+ cs := by
  simp only [letterLiteral] at read
  split at read
  · exact (literal_suffix read).trans (List.suffix_cons ..)
  · exact word_from_suffix read

theorem escaped_or_word_suffix {c : Char} {cs rest : List Char} {piece : Piece}
    (read : escapedOrWord c cs = .ok (piece, rest)) : rest <:+ cs := by
  simp only [escapedOrWord] at read
  split at read
  · split at read
    · rename_i found
      cases read
      exact (Quoted.escaped_body_suffix _ found).trans (List.suffix_cons ..)
    · cases read
  · exact word_from_suffix read

theorem unicode_or_word_suffix {c : Char} {cs rest : List Char} {piece : Piece}
    (read : unicodeOrWord c cs = .ok (piece, rest)) : rest <:+ cs := by
  simp only [unicodeOrWord] at read
  split at read
  · split at read
    · rename_i found
      cases read
      exact (Quoted.unicode_body_suffix _ found).trans ⟨['&', '\x27'], rfl⟩
    · cases read
  · exact word_from_suffix read

theorem quoted_word_suffix {quote : WordQuote} {cs rest : List Char} {piece : Piece}
    (read : quotedWord quote cs = .ok (piece, rest)) : rest <:+ cs := by
  simp only [quotedWord] at read
  split at read
  · rename_i found
    cases read
    exact Quoted.body_suffix _ _ _ found
  · cases read

theorem exponent_suffix (cs : List Char) : (exponent cs).2 <:+ cs := by
  unfold exponent
  split
  · rename_i e sign rest
    split
    · split
      · exact (List.dropWhile_suffix ..).trans ⟨[e], rfl⟩
      · split
        · exact (List.dropWhile_suffix ..).trans ⟨[e, sign], rfl⟩
        · exact List.suffix_refl ..
    · exact List.suffix_refl ..
  · exact List.suffix_refl ..

theorem long_mark_suffix (cs : List Char) : (longMark cs).2 <:+ cs := by
  unfold longMark
  split
  · exact List.suffix_cons ..
  · exact List.suffix_refl ..

theorem numeral_from_suffix {head cs rest : List Char} {piece : Piece}
    (read : numeralFrom head cs = .ok (piece, rest)) : rest <:+ cs := by
  simp only [numeralFrom] at read
  split at read
  · cases read
    exact List.suffix_refl ..
  · cases read
    exact (long_mark_suffix _).trans ((exponent_suffix _).trans (List.dropWhile_suffix ..))

theorem numeral_suffix {c : Char} {cs rest : List Char} {piece : Piece} (read : numeral c cs = .ok (piece, rest)) :
    rest <:+ cs := by
  have digits := List.dropWhile_suffix (l := cs) Char.isDigit
  simp only [numeral] at read
  split at read
  · exact numeral_from_suffix read
  · split at read
    · rename_i behind
      rw [behind] at digits
      split at read
      · cases read
        exact (List.dropWhile_suffix ..).trans ((List.suffix_cons ..).trans digits)
      · exact (numeral_from_suffix read).trans digits
    · rename_i behind
      rw [behind] at digits
      exact (numeral_from_suffix read).trans ((List.suffix_cons ..).trans digits)
    · exact (numeral_from_suffix read).trans digits

theorem line_comment_suffix {cs rest : List Char} {piece : Piece} (read : lineComment cs = .ok (piece, rest)) :
    rest <:+ cs := by
  have line := List.dropWhile_suffix (l := cs) (· ≠ '\n')
  simp only [lineComment] at read
  split at read
  · cases read
    exact List.nil_suffix
  · rename_i behind
    cases read
    rw [behind] at line
    exact (List.suffix_cons ..).trans line

theorem block_comment_suffix {cs rest : List Char} {piece : Piece} (read : blockComment cs = .ok (piece, rest)) :
    rest <:+ cs := by
  simp only [blockComment] at read
  split at read
  · rename_i found
    cases read
    exact Quoted.comment_body_suffix _ _ _ found
  · cases read

theorem sign_or_word_suffix {sign : Symbol} {head cs rest : List Char} {piece : Piece}
    (read : signOrWord sign head cs = .ok (piece, rest)) : rest <:+ cs := by
  cases cs with
  | nil => cases read; exact List.suffix_refl ..
  | cons c more =>
    simp only [signOrWord] at read
    split at read
    · cases read
      exact List.suffix_refl ..
    · exact (word_from_suffix read).trans (List.suffix_cons ..)

theorem dollar_or_placeholder_suffix {cs rest : List Char} {piece : Piece}
    (read : dollarOrPlaceholder cs = .ok (piece, rest)) : rest <:+ cs := by
  simp only [dollarOrPlaceholder] at read
  split at read
  · split at read
    · rename_i found
      cases read
      exact (Quoted.dollar_body_suffix _ found).trans (List.suffix_cons ..)
    · cases read
  · have tag := List.dropWhile_suffix (l := cs) isTagPart
    split at read
    · rename_i behind
      rw [behind] at tag
      split at read
      · rename_i found
        cases read
        exact (Quoted.tagged_body_suffix _ _ _ found).trans ((List.suffix_cons ..).trans tag)
      · cases read
    · cases read
      exact tag

theorem prefix_rest_suffix {head cs rest : List Char} (found : head.isPrefixOf? cs = some rest) : cs = head ++ rest := by
  induction head generalizing cs with
  | nil => exact Option.some.inj found
  | cons c more ih =>
    cases cs with
    | nil => cases found
    | cons d behind =>
      change (if c == d then more.isPrefixOf? behind else none) = some rest at found
      split at found
      · rename_i same
        rw [ih found, eq_of_beq same]
        rfl
      · cases found

theorem symbol_at_suffix {c : Char} {cs rest : List Char} {sign : Symbol}
    (found : symbolAt (c :: cs) = some (sign, rest)) : rest <:+ cs := by
  obtain ⟨spelling, listed, read⟩ := List.exists_of_findSome?_eq_some found
  obtain ⟨behind, split, same⟩ := Option.map_eq_some_iff.mp read
  cases same
  have whole := prefix_rest_suffix split
  have long : ∀ entry ∈ spellings, entry.1 ≠ [] := by decide
  cases start : spelling.1 with
  | nil => exact absurd start (long spelling listed)
  | cons d more =>
    rw [start] at whole
    cases whole
    exact List.suffix_append ..

theorem sign_or_other_suffix {c : Char} {cs rest : List Char} {piece : Piece}
    (read : signOrOther c cs = .ok (piece, rest)) : rest <:+ cs := by
  simp only [signOrOther] at read
  split at read
  · rename_i found
    cases read
    exact symbol_at_suffix found
  · split at read
    · exact sign_or_word_suffix read
    · split at read
      · split at read
        · exact (sign_or_word_suffix read).trans (List.suffix_cons ..)
        · exact sign_or_word_suffix read
      · split at read
        · cases read
          exact List.dropWhile_suffix ..
        · split at read
          · exact word_from_suffix read
          · split at read
            · exact dollar_or_placeholder_suffix read
            · split at read <;> (cases read; exact List.suffix_refl ..)

theorem carriage_return_suffix {cs rest : List Char} {piece : Piece} (read : carriageReturn cs = .ok (piece, rest)) :
    rest <:+ cs := by
  simp only [carriageReturn] at read
  split at read
  · cases read
    exact List.suffix_cons ..
  · cases read
    exact List.suffix_refl ..

theorem slash_or_comment_suffix {cs rest : List Char} {piece : Piece} (read : slashOrComment cs = .ok (piece, rest)) :
    rest <:+ cs := by
  simp only [slashOrComment] at read
  split at read
  · exact (block_comment_suffix read).trans (List.suffix_cons ..)
  · exact sign_or_other_suffix read

theorem minus_or_comment_suffix {cs rest : List Char} {piece : Piece} (read : minusOrComment cs = .ok (piece, rest)) :
    rest <:+ cs := by
  simp only [minusOrComment] at read
  split at read
  · exact (line_comment_suffix read).trans (List.suffix_cons ..)
  · exact sign_or_other_suffix read

inductive Branch (c : Char) (cs : List Char) : Scan → Prop
  | blank (first : c = ' ' ∨ c = '\t' ∨ c = '\n') : Branch c cs (.ok (.gap (String.singleton c), cs))
  | carriage (first : c = '\r') : Branch c cs (carriageReturn cs)
  | byte (first : c = 'b' ∨ c = 'B') : Branch c cs (byteOrWord c cs)
  | raw (first : c = 'r' ∨ c = 'R') : Branch c cs (rawOrWord c cs)
  | national (first : c = 'n' ∨ c = 'N') : Branch c cs (letterLiteral .national c cs)
  | escaped (first : c = 'e' ∨ c = 'E') : Branch c cs (escapedOrWord c cs)
  | unicode (first : c = 'u' ∨ c = 'U') : Branch c cs (unicodeOrWord c cs)
  | hex (first : c = 'x' ∨ c = 'X') : Branch c cs (letterLiteral .hex c cs)
  | single (first : c = '\x27') : Branch c cs (literal .single c false (c :: cs) cs)
  | double (first : c = '\x22') : Branch c cs (quotedWord .double cs)
  | backtick (first : c = '\x60') : Branch c cs (quotedWord .backtick cs)
  | numeral (first : c.isDigit ∨ c = '.') : Branch c cs (numeral c cs)
  | minus (first : c = '-') : Branch c cs (minusOrComment cs)
  | slash (first : c = '/') : Branch c cs (slashOrComment cs)
  | other (visible : ¬ (c = ' ' ∨ c = '\t' ∨ c = '\n')) (inside : c ≠ '\r') : Branch c cs (signOrOther c cs)

theorem next_branch (c : Char) (cs : List Char) : Branch c cs (next c cs) := by
  rw [next]
  refine iteInduction .blank fun visible => ?_
  refine iteInduction .carriage fun inside => ?_
  refine iteInduction .byte fun _ => ?_
  refine iteInduction .raw fun _ => ?_
  refine iteInduction .national fun _ => ?_
  refine iteInduction .escaped fun _ => ?_
  refine iteInduction .unicode fun _ => ?_
  refine iteInduction .hex fun _ => ?_
  refine iteInduction .single fun _ => ?_
  refine iteInduction .double fun _ => ?_
  refine iteInduction .backtick fun _ => ?_
  refine iteInduction .numeral fun _ => ?_
  refine iteInduction .minus fun _ => ?_
  exact iteInduction .slash fun _ => .other visible inside

theorem next_suffix {c : Char} {cs rest : List Char} {piece : Piece} (read : next c cs = .ok (piece, rest)) :
    rest <:+ cs := by
  have branch := next_branch c cs
  generalize next c cs = scan at branch read
  cases branch with
  | blank =>
    cases read
    exact List.suffix_refl ..
  | carriage => exact carriage_return_suffix read
  | byte => exact byte_or_word_suffix read
  | raw => exact raw_or_word_suffix read
  | national => exact letter_literal_suffix read
  | escaped => exact escaped_or_word_suffix read
  | unicode => exact unicode_or_word_suffix read
  | hex => exact letter_literal_suffix read
  | single => exact literal_suffix read
  | double => exact quoted_word_suffix read
  | backtick => exact quoted_word_suffix read
  | numeral => exact numeral_suffix read
  | minus => exact minus_or_comment_suffix read
  | slash => exact slash_or_comment_suffix read
  | other => exact sign_or_other_suffix read

end TableStore.Lexeme
