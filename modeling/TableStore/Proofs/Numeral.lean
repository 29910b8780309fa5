import TableStore.Proofs.Excerpt

set_option autoImplicit false

namespace TableStore

open Grammar Unicode

namespace Decimal

inductive Sign where
  | absent | plus | minus
deriving DecidableEq

def Sign.text : Sign → String
  | .absent => ""
  | .plus => "+"
  | .minus => "-"

structure Numeral where
  sign : Sign
  digits : String
  nonempty : digits.toList ≠ []
  decimal : digits.toList.all Char.isDigit = true

namespace Numeral

def text (numeral : Numeral) : String := numeral.sign.text ++ numeral.digits

def magnitude (numeral : Numeral) : Nat := Nat.ofDigitChars 10 numeral.digits.toList 0

def value (numeral : Numeral) : Int :=
  match numeral.sign with
  | .absent | .plus => numeral.magnitude
  | .minus => -numeral.magnitude

def Beyond (numeral : Numeral) : Prop := numeral.value < -9223372036854775808 ∨ 9223372036854775807 < numeral.value

instance (numeral : Numeral) : Decidable numeral.Beyond := inferInstanceAs (Decidable (_ ∨ _))

variable (numeral : Numeral)

theorem digit {c : Char} (listed : c ∈ numeral.digits.toList) : c.isDigit = true :=
  List.all_eq_true.mp numeral.decimal c listed

theorem characters {c : Char} (listed : c ∈ numeral.text.toList) : c = '-' ∨ c = '+' ∨ c.isDigit = true := by
  rw [text, String.toList_append, List.mem_append] at listed
  rcases listed with front | digit
  · cases same : numeral.sign with
    | absent => simp [same, Sign.text] at front
    | plus => exact .inr (.inl (by simpa [same, Sign.text] using front))
    | minus => exact .inl (by simpa [same, Sign.text] using front)
  · exact .inr (.inr (numeral.digit digit))

theorem natural_digits : natural numeral.digits.toList = some numeral.magnitude := by
  have some : numeral.digits.toList.isEmpty = false := by simpa using numeral.nonempty
  rw [natural, some, numeral.decimal]
  rfl

theorem integer_text : integer numeral.text.toList = some numeral.value := by
  have read := numeral.natural_digits
  rw [text, value, String.toList_append]
  cases numeral.sign with
  | absent =>
    have digits (c : Char) : c ∈ numeral.digits.toList → c.isDigit = true := numeral.digit
    rw [Sign.text, String.toList_empty, List.nil_append, integer.eq_def]
    split
    · rename_i same
      cases digits '-' (by simp [same])
    · rename_i same
      cases digits '+' (by simp [same])
    · rw [read]
      rfl
  | plus =>
    change (natural numeral.digits.toList).map Int.ofNat = _
    rw [read]
    rfl
  | minus =>
    change (natural numeral.digits.toList).map (fun n => -(n : Int)) = _
    rw [read]
    rfl

theorem read_text {n : Int64} (exact : numeral.value = n.toInt) : read numeral.text = some n := by
  rw [read, integer_text, Option.bind_some, exact, if_pos ⟨n.minValue_le_toInt, n.toInt_le⟩, Int64.ofInt_toInt]

theorem read_beyond (beyond : numeral.Beyond) : read numeral.text = none := by
  have least : Int64.minValue.toInt = -9223372036854775808 := by decide
  have greatest : Int64.maxValue.toInt = 9223372036854775807 := by decide
  rw [read, integer_text, Option.bind_some, least, greatest, if_neg]
  rcases beyond with below | above
  · omega
  · omega

-- The two cases leave nothing out.
theorem beyond_iff : numeral.Beyond ↔ ∀ n : Int64, numeral.value ≠ n.toInt := by
  constructor
  · intro beyond n same
    have none := numeral.read_beyond beyond
    rw [numeral.read_text same] at none
    cases none
  · intro other
    by_contra inside
    have within : -9223372036854775808 ≤ numeral.value ∧ numeral.value ≤ 9223372036854775807 := by
      rw [Beyond] at inside
      omega
    exact other (Int64.ofInt numeral.value) (Int64.toInt_ofInt_of_le within.1 (Int.lt_add_one_of_le within.2)).symm

theorem text_firm {drops : Char → Bool} (minus : drops '-' = false) (plus : drops '+' = false)
    (digits : ∀ c, c.isDigit = true → drops c = false) : Text.Firm drops numeral.text.toList := by
  apply Text.firm_of_all
  intro c listed
  obtain same | same | digit := numeral.characters listed
  · rwa [same]
  · rwa [same]
  · exact digits c digit

theorem blanks_kept : Text.trim numeral.text = numeral.text :=
  (Text.trim_kept_iff _).mpr (numeral.text_firm (by decide) (by decide) fun _ => Text.digit_not_blank)

theorem marks_kept : Text.trimQuoteMarks numeral.text = numeral.text :=
  (Text.trim_quote_marks_kept_iff _).mpr (numeral.text_firm (by decide) (by decide) fun _ => Text.digit_no_quote_mark)

theorem bare_text : Value.bare numeral.text = numeral.text := by
  rw [Value.bare, blanks_kept, marks_kept, blanks_kept]

def counting (sign : Sign) (n : Nat) : Numeral where
  sign := sign
  digits := String.ofList (Nat.toDigits 10 n)
  nonempty := by simp [Nat.toDigits_ne_nil]
  decimal := by
    rw [String.toList_ofList, List.all_eq_true]
    exact fun c listed => Nat.isDigit_of_mem_toDigits (by decide) (by decide) listed

theorem counting_magnitude (sign : Sign) (n : Nat) : (counting sign n).magnitude = n := by
  rw [magnitude, counting, String.toList_ofList]
  exact Nat.ofDigitChars_ten_toDigits

theorem counting_text (sign : Sign) (n : Nat) :
    (counting sign n).text.toList = sign.text.toList ++ Nat.toDigits 10 n := by
  rw [text, counting, String.toList_append, String.toList_ofList]

theorem integer_written (n : Int64) : ∃ numeral : Numeral, numeral.text = write n ∧ numeral.value = n.toInt := by
  rw [write]
  cases n.toInt with
  | ofNat m =>
    refine ⟨counting .absent m, String.toList_injective ?_, ?_⟩
    · rw [counting_text, to_string_of_nat]
      rfl
    · exact congrArg Int.ofNat (counting_magnitude .absent m)
  | negSucc m =>
    refine ⟨counting .minus (m + 1), String.toList_injective ?_, ?_⟩
    · rw [counting_text, to_string_neg_succ]
      rfl
    · exact congrArg (fun n : Nat => -(n : Int)) (counting_magnitude .minus (m + 1))

end Numeral

-- A sign is a token of its own.
def Sign.parts : Sign → List Lexeme
  | .absent => []
  | .plus => [Lexeme.sign .plus]
  | .minus => [Lexeme.sign .minus]

namespace Numeral

def parts (numeral : Numeral) : List Lexeme := numeral.sign.parts ++ [Lexeme.digits numeral.digits]

variable (numeral : Numeral)

theorem written_parts : written numeral.parts = numeral.text.toList := by
  rw [parts, written_append, text, String.toList_append]
  cases numeral.sign with
  | absent | plus | minus => simp [Sign.parts, Sign.text, written, Lexeme.digits, Lexeme.sign, Symbol.text]

theorem lexemes_text {rest : List Char} (ends : Ends rest) :
    lexemes (numeral.text.toList ++ rest) = (lexemes rest).map (numeral.parts ++ ·) := by
  have behind : lexemes (numeral.digits.toList ++ rest) = (lexemes rest).map (Lexeme.digits numeral.digits :: ·) :=
    lexemes_reads (Lexeme.digits_reads numeral.nonempty (fun _ => numeral.digit) ends)
  rw [text, parts, String.toList_append, List.append_assoc]
  cases numeral.sign with
  | absent => exact behind
  | plus =>
    have plus : (Lexeme.sign .plus).Reads (numeral.digits.toList ++ rest) := Lexeme.sign_reads (by decide) _
    have sign := lexemes_reads plus
    rw [behind] at sign
    refine sign.trans ?_
    cases lexemes rest <;> rfl
  | minus =>
    obtain ⟨c, cs, split⟩ := List.exists_cons_of_ne_nil numeral.nonempty
    have digit : c.isDigit = true := numeral.digit (by simp [split])
    have sign := lexemes_reads (Lexeme.minus_reads digit (cs ++ rest))
    rw [← List.cons_append, ← split, behind] at sign
    refine sign.trans ?_
    cases lexemes rest <;> rfl

def tokens (gap : String) : TokenStream :=
  match numeral.sign with
  | .absent => [⟨gap, .number numeral.digits false⟩]
  | .plus => [⟨gap, .symbol .plus⟩, ⟨"", .number numeral.digits false⟩]
  | .minus => [⟨gap, .symbol .minus⟩, ⟨"", .number numeral.digits false⟩]

theorem spaced_tokens_parts (gap : String) (after : List Lexeme) :
    spacedTokens gap (numeral.parts ++ after) = numeral.tokens gap ++ spacedTokens "" after := by
  rw [parts, tokens]
  cases numeral.sign with
  | absent | plus | minus => rfl

theorem written_tokens (gap : String) : writtenText (numeral.tokens gap) = numeral.text := by
  rw [tokens, text]
  cases numeral.sign with
  | absent | plus | minus => simp [writtenText, spacedText, Token.text, Symbol.text, Sign.text]

theorem tokens_plain {spaced : SpacedToken} {gap : String} (listed : spaced ∈ numeral.tokens gap) :
    (∀ content, ¬ Quoted spaced.token content) ∧ ¬ Delimits spaced.token := by
  have kinds : spaced.token ∈ [.symbol .plus, .symbol .minus, .number numeral.digits false] := by
    rw [tokens] at listed
    revert listed
    cases numeral.sign with
    | absent | plus | minus => simp +contextual [or_imp]
  simp only [List.mem_cons, List.not_mem_nil, or_false] at kinds
  rw [← Parser.ends_literal_iff]
  rcases kinds with same | same | same
  · rw [same]
    exact ⟨fun _ quoted => (nomatch quoted), by decide⟩
  · rw [same]
    exact ⟨fun _ quoted => (nomatch quoted), by decide⟩
  · rw [same]
    exact ⟨fun _ quoted => (nomatch quoted), Bool.false_ne_true⟩

theorem tokens_literal (gap : String) : Literal (numeral.tokens gap) numeral.text := by
  obtain ⟨first, rest, whole⟩ : ∃ first rest, numeral.tokens gap = first :: rest := by
    rw [tokens]
    cases numeral.sign with
    | absent | plus | minus => exact ⟨_, _, rfl⟩
  have plain : ∀ spaced ∈ first :: rest, (∀ content, ¬ Quoted spaced.token content) ∧ ¬ Delimits spaced.token :=
    fun _ listed => numeral.tokens_plain (whole ▸ listed)
  rw [← numeral.written_tokens gap, whole]
  exact .unquoted (plain first List.mem_cons_self).1 fun spaced listed => (plain spaced listed).2

end Numeral

end Decimal

theorem Lexeme.Spelled.shown_of_decimal {source : List Char} {piece : Piece} (spelled : Lexeme.Spelled source piece)
    (decimal : ∀ c ∈ source, c = '-' ∨ c = '+' ∨ c.isDigit = true) : piece.shown.toList = source := by
  have absent {c : Char} (other : c ∉ ['-', '+']) (noDigit : c.isDigit = false) : c ∉ source := by
    intro listed
    rcases decimal c listed with rfl | rfl | digit
    · exact other (by decide)
    · exact other (by decide)
    · rw [noDigit] at digit
      cases digit
  cases spelled with
  | gap kept => exact String.toList_ofList
  | carriage read =>
    have first : '\r' ∈ source := by rcases read with rfl | rfl <;> decide
    exact absurd first (absent (by decide) (by decide))
  | @otherBlank c blank other =>
    have minus : isBlank '-' = false := by decide
    have plus : isBlank '+' = false := by decide
    rcases decimal c List.mem_cons_self with rfl | rfl | digit
    · rw [minus] at blank
      cases blank
    · rw [plus] at blank
      cases blank
    · rw [Text.digit_not_blank digit] at blank
      cases blank
  | plain plain => rfl
  | unequal => exact absurd (by decide) (absent (c := '!') (by decide) (by decide))
  | @quotedWord quote raw content decodes =>
    cases quote with
    | double => exact absurd (by simp [WordQuote.mark]) (absent (c := '\x22') (by decide) (by decide))
    | backtick => exact absurd (by simp [WordQuote.mark]) (absent (c := '\x60') (by decide) (by decide))
  | @literal style lead raw content opens decodes =>
    have mark : '\x27' ∈ style.closing.toList ∨ '\x22' ∈ style.closing.toList := by cases style <;> decide
    rcases mark with single | double
    · exact absurd (List.mem_append_right _ single) (absent (by decide) (by decide))
    · exact absurd (List.mem_append_right _ double) (absent (by decide) (by decide))
  | hexadecimal digits => exact absurd (by simp) (absent (c := 'x') (by decide) (by decide))

theorem shown_of_decimal {run : List Lexeme} (spelled : Spelled run)
    (decimal : ∀ c ∈ written run, c = '-' ∨ c = '+' ∨ c.isDigit = true) : shownText run = written run := by
  induction run with
  | nil => rfl
  | cons lexeme rest ih =>
    obtain ⟨here, behind⟩ := List.forall_mem_cons.mp spelled
    rw [written_cons] at decimal
    obtain ⟨first, others⟩ := List.forall_mem_append.mp decimal
    rw [shownText, List.flatMap_cons, here.shown_of_decimal first, written_cons]
    exact congrArg (_ ++ ·) (ih behind others)

theorem token_placed {before after other behind : List Lexeme} {first next : Lexeme} {token found : Token}
    (read : first.piece = .token token) (readNext : next.piece = .token found)
    (same : before ++ first :: after = other ++ next :: behind)
    (counted : (tokensOf before).length = (tokensOf other).length) :
    before = other ∧ first = next ∧ after = behind := by
  have apart {front more back tail : List Lexeme} {lexeme : Lexeme} {token : Token} (here : lexeme.piece = .token token)
      (split : lexeme :: tail = more ++ back) (counts : (tokensOf front).length = (tokensOf (front ++ more)).length) :
      more = [] := by
    cases more with
    | nil => rfl
    | cons c cs =>
      obtain ⟨rfl, -⟩ := List.cons.inj split
      rw [tokens_of_append, List.length_append, tokens_of_cons here, List.length_cons] at counts
      omega
  rcases List.append_eq_append_iff.mp same with ⟨more, rfl, left⟩ | ⟨more, rfl, left⟩
  · obtain rfl := apart read left counted
    simpa using left
  · obtain rfl := apart readNext left counted.symm
    simpa [eq_comm] using left

theorem excerpt_unique {found run other : List Lexeme} {skipped : Nat} {phrase : TokenStream}
    (excerpt : Excerpt found skipped phrase run) (again : Excerpt found skipped phrase other) : run = other := by
  obtain ⟨before, after, whole, counted⟩ := excerpt.placed
  obtain ⟨front, back, split, countedAgain⟩ := again.placed
  rw [whole, List.append_assoc, List.append_assoc] at split
  have runs : run ++ after = other ++ back := by
    obtain ⟨first, token, starts, read⟩ := excerpt.starts
    obtain ⟨next, _, startsAgain, readNext⟩ := again.starts
    obtain ⟨rest, rfl⟩ := List.head?_eq_some_iff.mp starts
    obtain ⟨more, rfl⟩ := List.head?_eq_some_iff.mp startsAgain
    obtain ⟨rfl, -, -⟩ := token_placed read readNext split (counted.trans countedAgain.symm)
    exact List.append_cancel_left split
  obtain ⟨last, token, ends, read⟩ := excerpt.ends
  obtain ⟨final, found, endsAgain, readFinal⟩ := again.ends
  obtain ⟨inner, rfl⟩ := List.getLast?_eq_some_iff.mp ends
  obtain ⟨innerAgain, rfl⟩ := List.getLast?_eq_some_iff.mp endsAgain
  have lengths := congrArg List.length (excerpt.tokens.trans again.tokens.symm)
  rw [tokens_of_append, tokens_of_append, tokens_of_cons read, tokens_of_cons readFinal, List.length_append,
    List.length_append] at lengths
  rw [List.append_assoc, List.append_assoc] at runs
  obtain ⟨rfl, rfl, -⟩ := token_placed read readFinal runs (Nat.add_right_cancel lengths)
  rfl

-- The tokens of the phrase, behind those of the front, are the text of the numeral in the statement.
structure Bears (sql : String) (front phrase back : TokenStream) (numeral : Decimal.Numeral) : Prop where
  lexed : Statement.Lexed sql (front ++ phrase ++ back)
  written : ∃ found run, lexemes (Text.trim sql).toList = .ok found ∧ Excerpt found front.length phrase run ∧
    written run = numeral.text.toList

-- What is cut behind a lexeme is what the rest is cut into on its own.
theorem lexemes_behind {cs : List Char} {lexeme : Lexeme} {found : List Lexeme}
    (read : lexemes cs = .ok (lexeme :: found)) : lexemes (written found) = .ok found := by
  revert read
  fun_cases lexemes cs with
  | case1 | case2 =>
    intro read
    cases read
  | case3 c rest piece behind step =>
    intro read
    cases tail : lexemes behind with
    | error fault =>
      rw [tail] at read
      cases read
    | ok others =>
      rw [tail] at read
      cases read
      rwa [written, lexemes_sources _ tail]

theorem lexemes_rest {cs : List Char} {before found : List Lexeme} (read : lexemes cs = .ok (before ++ found)) :
    lexemes (written found) = .ok found := by
  induction before generalizing cs with
  | nil =>
    have whole := lexemes_sources _ read
    rw [List.nil_append] at read whole
    rw [written, whole, read]
  | cons lexeme before ih => exact ih (lexemes_behind read)

theorem spaced_tokens_behind (gap : String) (before found : List Lexeme) :
    ∃ front behind, spacedTokens gap (before ++ found) = front ++ spacedTokens behind found ∧
      (tokensOf before).length = front.length := by
  induction before generalizing gap with
  | nil => exact ⟨[], gap, rfl, rfl⟩
  | cons lexeme before ih =>
    cases read : lexeme.piece with
    | gap shown =>
      obtain ⟨front, behind, split, counted⟩ := ih (gap ++ shown)
      refine ⟨front, behind, ?_, ?_⟩
      · rw [List.cons_append, spacedTokens, read]
        exact split
      · rwa [tokensOf, List.filterMap_cons_none (by rw [read]; rfl)]
    | token token =>
      obtain ⟨front, behind, split, counted⟩ := ih ""
      refine ⟨⟨gap, token⟩ :: front, behind, ?_, ?_⟩
      · rw [List.cons_append, spacedTokens, read]
        exact congrArg (_ :: ·) split
      · rw [tokens_of_cons read, List.length_cons, List.length_cons, counted]

theorem numeral_excerpt (numeral : Decimal.Numeral) (before after : List Lexeme) (gap : String) {skipped : Nat}
    (counted : (tokensOf before).length = skipped) :
    Excerpt (before ++ (numeral.parts ++ after)) skipped (numeral.tokens gap) numeral.parts := by
  refine ⟨⟨before, after, by rw [List.append_assoc], counted⟩, ?_, ?_, ?_⟩
  · rw [Decimal.Numeral.parts, Decimal.Numeral.tokens]
    cases numeral.sign with
    | absent | plus | minus => rfl
  · rw [Decimal.Numeral.parts]
    cases numeral.sign with
    | absent | plus | minus => exact ⟨_, _, rfl, rfl⟩
  · exact ⟨Lexeme.digits numeral.digits, _, List.getLast?_concat, rfl⟩

theorem bears_of_parts {sql : String} {verb : Command}
    (named : Command.named? (Statement.leadingName (Text.trim sql)) = some verb) {numeral : Decimal.Numeral}
    (before after : List Lexeme) (read : lexemes (Text.trim sql).toList = .ok (before ++ (numeral.parts ++ after)))
    {front back : TokenStream} {gap : String}
    (tokens : tokenize (Text.trim sql) = .ok (front ++ numeral.tokens gap ++ back))
    (counted : (tokensOf before).length = front.length) : Bears sql front (numeral.tokens gap) back numeral := by
  refine ⟨⟨⟨verb, named⟩, tokens⟩, _, numeral.parts, read, ?_, numeral.written_parts⟩
  exact numeral_excerpt numeral before after gap counted

theorem bears_of_text {sql : String} {verb : Command}
    (named : Command.named? (Statement.leadingName (Text.trim sql)) = some verb) {before found : List Lexeme}
    (read : lexemes (Text.trim sql).toList = .ok (before ++ found)) {numeral : Decimal.Numeral} {rest : List Char}
    (stands : written found = numeral.text.toList ++ rest) (ends : Ends rest) :
    ∃ front gap back, Bears sql front (numeral.tokens gap) back numeral := by
  have cut := lexemes_rest read
  rw [stands, numeral.lexemes_text ends] at cut
  cases behind : lexemes rest with
  | error fault =>
    rw [behind] at cut
    cases cut
  | ok after =>
    rw [behind] at cut
    obtain rfl : numeral.parts ++ after = found := Except.ok.inj cut
    obtain ⟨front, gap, split, counted⟩ := spaced_tokens_behind "" before (numeral.parts ++ after)
    rw [numeral.spaced_tokens_parts, ← List.append_assoc front] at split
    refine ⟨front, gap, spacedTokens "" after, bears_of_parts named before after read ?_ counted⟩
    rw [tokenize, read]
    exact congrArg Except.ok split

theorem Bears.shown {sql : String} {front phrase back : TokenStream} {numeral : Decimal.Numeral}
    (bears : Bears sql front phrase back numeral) : writtenText phrase = numeral.text := by
  obtain ⟨found, run, lexed, excerpt, text⟩ := bears.written
  have tokens := bears.lexed.read
  rw [tokenize, lexed] at tokens
  have nonempty : phrase ≠ [] := by
    rintro rfl
    obtain ⟨first, token, starts, read⟩ := excerpt.starts
    obtain ⟨rest, rfl⟩ := List.head?_eq_some_iff.mp starts
    have none := excerpt.tokens
    rw [tokens_of_cons read] at none
    cases none
  obtain ⟨other, again, shown⟩ := excerpt_of_phrase (Except.ok.inj tokens) nonempty
  obtain rfl := excerpt_unique excerpt again
  obtain ⟨before, after, whole, -⟩ := excerpt.placed
  have spelled : Spelled run := fun lexeme listed => lexemes_spelled _ lexed lexeme (by simp [whole, listed])
  apply String.toList_injective
  rw [shown, shown_of_decimal spelled, text]
  rw [text]
  exact fun c listed => numeral.characters listed

theorem quoted_marked {token : Token} {content : String} (quoted : Quoted token content) :
    ∃ mark ∈ ['\x27', '\x22', '\x60'], mark ∈ token.text.toList := by
  cases quoted with
  | single => exact ⟨'\x27', by decide, by simp [Token.text, LiteralStyle.opening]⟩
  | double => exact ⟨'\x22', by decide, by simp [Token.text, LiteralStyle.opening]⟩
  | word text mark =>
    refine ⟨mark.mark, ?_, by simp [Token.text]⟩
    cases mark with
    | double | backtick => decide

theorem Bears.value {sql : String} {front phrase back : TokenStream} {numeral : Decimal.Numeral}
    (bears : Bears sql front phrase back numeral) {value : String} (literal : Literal phrase value) :
    value = numeral.text := by
  have shown := bears.shown
  cases literal with
  | unquoted => exact shown
  | @quoted spaced _ closed =>
    have text : spaced.token.text = numeral.text := by simpa [writtenText, spacedText] using shown
    obtain ⟨mark, kinds, listed⟩ := quoted_marked closed
    rw [text] at listed
    have noNumeral : ∀ mark ∈ ['\x27', '\x22', '\x60'], ¬ (mark = '-' ∨ mark = '+' ∨ mark.isDigit = true) := by
      simp
    exact absurd (numeral.characters listed) (noNumeral mark kinds)

end TableStore
