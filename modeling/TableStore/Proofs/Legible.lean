import TableStore.Proofs.Text
import TableStore.Statement.Parser

set_option autoImplicit false

/- How a source is read depends on the character behind it, so lexemes are laid out with ones that end a token. -/
namespace TableStore

open Unicode

def written (found : List Lexeme) : List Char := found.flatMap (·.source.toList)

theorem written_cons (lexeme : Lexeme) (rest : List Lexeme) :
    written (lexeme :: rest) = lexeme.source.toList ++ written rest := rfl

theorem written_append (front rest : List Lexeme) : written (front ++ rest) = written front ++ written rest :=
  List.flatMap_append

namespace Lexeme

def Reads (lexeme : Lexeme) (rest : List Char) : Prop :=
  ∃ c cs, lexeme.source.toList ++ rest = c :: cs ∧ next c cs = .ok (lexeme.piece, rest)

def space : Lexeme := ⟨" ", .gap " "⟩

def word (text : String) : Lexeme := ⟨text, .token (.word text none)⟩

def doubled (mark : Char) (cs : List Char) : List Char := cs.flatMap fun c => if c = mark then [mark, mark] else [c]

def quoted (mark : Char) (content : String) : String :=
  String.ofList (mark :: doubled mark content.toList ++ [mark])

def name (content : String) : Lexeme := ⟨quoted '\x22' content, .token (.word content (some .double))⟩

def text (content : String) : Lexeme := ⟨quoted '\x27' content, .token (.literal .single content)⟩

def digits (shown : String) : Lexeme := ⟨shown, .token (.number shown false)⟩

def sign (symbol : Symbol) : Lexeme := ⟨symbol.text, .token (.symbol symbol)⟩

end Lexeme

def Legible : List Lexeme → Prop
  | [] => True
  | lexeme :: rest => lexeme.Reads (written rest) ∧ Legible rest

theorem lexemes_step {c : Char} {cs rest : List Char} {piece : Piece} (step : Lexeme.next c cs = .ok (piece, rest)) :
    lexemes (c :: cs) = (lexemes rest).map
      (⟨String.ofList ((c :: cs).take (cs.length + 1 - rest.length)), piece⟩ :: ·) := by
  rw [lexemes.eq_def]
  simp only
  split
  · rename_i failed
    rw [step] at failed
    cases failed
  · rename_i found
    rw [step] at found
    cases found
    rfl

theorem lexemes_reads {lexeme : Lexeme} {rest : List Char} (reads : lexeme.Reads rest) :
    lexemes (lexeme.source.toList ++ rest) = (lexemes rest).map (lexeme :: ·) := by
  obtain ⟨c, cs, whole, step⟩ := reads
  have source : (c :: cs).take (cs.length + 1 - rest.length) = lexeme.source.toList := by
    have lengths := congrArg List.length whole
    simp only [List.length_append, List.length_cons] at lengths
    rw [← whole]
    exact List.take_left' (by omega)
  rw [whole, lexemes_step step, source, String.ofList_toList]

-- Induction along the list: each step reads the lexeme at the front and leaves what is written behind it.
theorem lexemes_written {found : List Lexeme} (legible : Legible found) : lexemes (written found) = .ok found := by
  induction found with
  | nil => simp [written, lexemes]
  | cons lexeme rest ih =>
    obtain ⟨reads, behind⟩ := legible
    rw [written_cons, lexemes_reads reads, ih behind]
    rfl

theorem tokenize_written {found : List Lexeme} (legible : Legible found) :
    tokenize (String.ofList (written found)) = .ok (spacedTokens "" found) := by
  rw [tokenize, String.toList_ofList, lexemes_written legible]

def endings : List Char := [' ', ',', '(', ')', ';']

def Ends (cs : List Char) : Prop := ∀ c rest, cs = c :: rest → c ∈ endings

theorem nil_ends : Ends [] := by
  intro c rest same
  cases same

theorem ends_at {c : Char} (listed : c ∈ endings) (cs : List Char) : Ends (c :: cs) := by
  intro d rest same
  cases same
  exact listed

theorem Ends.drop_while {cs : List Char} (ends : Ends cs) {test : Char → Bool} (fails : endings.any test = false) :
    cs.takeWhile test = [] ∧ cs.dropWhile test = cs := by
  cases cs with
  | nil => exact ⟨rfl, rfl⟩
  | cons c rest =>
    have other := List.any_eq_false.mp fails c (ends c rest rfl)
    exact ⟨List.takeWhile_cons_of_neg other, List.dropWhile_cons_of_neg other⟩

def Detached (found : List Lexeme) : Prop :=
  ∀ rest, Ends (written rest) → Legible rest → Legible (found ++ rest)

theorem Detached.legible {found : List Lexeme} (detached : Detached found) : Legible found := by
  have whole := detached [] nil_ends trivial
  rwa [List.append_nil] at whole

theorem detached_of_reads {lexeme : Lexeme} (reads : ∀ rest, Ends rest → lexeme.Reads rest) : Detached [lexeme] := by
  intro rest ends legible
  exact ⟨reads _ ends, legible⟩

namespace Lexeme

theorem space_reads (rest : List Char) : space.Reads rest := ⟨' ', rest, rfl, rfl⟩

theorem sign_reads {symbol : Symbol} (alone : symbol ∈ [.comma, .leftParen, .rightParen, .star, .semicolon, .plus])
    (rest : List Char) : (sign symbol).Reads rest := by
  simp only [List.mem_cons, List.not_mem_nil, or_false] at alone
  rcases alone with rfl | rfl | rfl | rfl | rfl | rfl <;> exact ⟨_, rest, rfl, rfl⟩

theorem equal_reads {rest : List Char} (ends : Ends rest) : (sign .equal).Reads rest := by
  refine ⟨'=', rest, rfl, ?_⟩
  cases rest with
  | nil => rfl
  | cons c cs =>
    have listed := ends c cs rfl
    simp only [endings, List.mem_cons, List.not_mem_nil, or_false] at listed
    rcases listed with rfl | rfl | rfl | rfl | rfl <;> rfl

theorem minus_reads {c : Char} (digit : c.isDigit = true) (rest : List Char) : (sign .minus).Reads (c :: rest) := by
  have noComment : c ≠ '-' := by
    rintro rfl
    cases digit
  have noArrow : c ≠ '>' := by
    rintro rfl
    cases digit
  refine ⟨'-', c :: rest, rfl, ?_⟩
  change minusOrComment (c :: rest) = _
  rw [minusOrComment.eq_def]
  split
  · rename_i same
    cases same
    exact absurd rfl noComment
  · have single : symbolAt ('-' :: c :: rest) = some (.minus, c :: rest) := by
      simp [symbolAt, spellings, List.isPrefixOf?, noArrow.symm]
    unfold signOrOther
    rw [single]
    rfl

theorem body_doubled (mark : Char) (cs : List Char) {rest : List Char} (other : rest.head? ≠ some mark) :
    Quoted.body mark false (doubled mark cs ++ mark :: rest) = some (cs, rest) := by
  induction cs with
  | nil =>
    cases rest with
    | nil => simp [doubled, Quoted.body]
    | cons d more =>
      have different : d ≠ mark := by simpa using other
      simp [doubled, Quoted.body, different]
  | cons c cs ih =>
    by_cases same : c = mark
    · have twice : doubled mark (c :: cs) = mark :: mark :: doubled mark cs := by simp [doubled, same]
      rw [twice, List.cons_append, List.cons_append, Quoted.body.eq_def]
      simp [ih, Quoted.emit, same]
    · have once : doubled mark (c :: cs) = c :: doubled mark cs := by simp [doubled, same]
      rw [once, List.cons_append, Quoted.body.eq_def]
      simp [ih, Quoted.emit, same]

theorem quoted_source (mark : Char) (content : String) (rest : List Char) :
    (quoted mark content).toList ++ rest = mark :: (doubled mark content.toList ++ mark :: rest) := by
  simp [quoted]

theorem ends_other {mark : Char} (unlisted : mark ∉ endings) {rest : List Char} (ends : Ends rest) :
    rest.head? ≠ some mark := by
  cases rest with
  | nil => simp
  | cons c cs =>
    intro same
    cases same
    exact unlisted (ends _ cs rfl)

theorem name_reads (content : String) {rest : List Char} (ends : Ends rest) : (name content).Reads rest := by
  refine ⟨_, _, quoted_source '\x22' content rest, ?_⟩
  change quotedWord .double _ = _
  rw [quotedWord, WordQuote.mark, body_doubled _ _ (ends_other (by decide) ends)]
  simp [name]

theorem text_reads (content : String) {rest : List Char} (ends : Ends rest) : (text content).Reads rest := by
  refine ⟨_, _, quoted_source '\x27' content rest, ?_⟩
  change literal .single '\x27' false _ _ = _
  rw [literal, body_doubled _ _ (ends_other (by decide) ends)]
  simp [text]

def isStart (c : Char) : Bool := c.isAlpha || c == '_'

def isBare : List Char → Bool
  | [] => false
  | c :: rest => isStart c && rest.all Statement.isNameChar

theorem is_alphabetic_of_alpha {c : Char} (alpha : c.isAlpha = true) : isAlphabetic c = true := by
  obtain ⟨rest, front⟩ : ∃ rest, alphabeticRanges = (65, 90) :: (97, 122) :: rest := ⟨_, rfl⟩
  have letter := Text.alpha_range alpha
  rw [isAlphabetic, front]
  simp only [Ranges.covers]
  grind

theorem is_word_part_of_name_char {c : Char} (part : Statement.isNameChar c = true) : isWordPart c = true := by
  simp only [Statement.isNameChar, Char.isAlphanum, Bool.or_eq_true] at part
  rcases part with (alpha | digit) | underscore
  · simp [isWordPart, is_alphabetic_of_alpha alpha]
  · simp [isWordPart, digit]
  · simp [isWordPart, underscore]

theorem is_word_start_of_start {c : Char} (start : isStart c = true) : isWordStart c = true := by
  simp only [isStart, Bool.or_eq_true] at start
  rcases start with alpha | underscore
  · simp [isWordStart, is_alphabetic_of_alpha alpha]
  · simp [isWordStart, underscore]

theorem start_not_digit {c : Char} (start : isStart c = true) : c.isDigit = false := by
  rw [← Bool.not_eq_true]
  intro digit
  have range := Text.digit_range digit
  rcases (Bool.or_eq_true _ _).mp start with alpha | underscore
  · have letter := Text.alpha_range alpha
    omega
  · rw [beq_iff_eq.mp underscore] at digit
    cases digit

theorem symbol_at_start {c : Char} (start : isStart c = true) (cs : List Char) : symbolAt (c :: cs) = none := by
  have heads : ∀ spelling ∈ spellings, ∃ d rest, spelling.1 = d :: rest ∧ isStart d = false := by
    simp [spellings, isStart]
  rw [symbolAt, List.findSome?_eq_none_iff]
  intro spelling listed
  obtain ⟨d, rest, same, other⟩ := heads spelling listed
  have different : d ≠ c := by
    rintro rfl
    rw [start] at other
    cases other
  simp [same, List.isPrefixOf?, different]

-- Behind a letter these characters begin a literal.
def openers : List Char := ['\x27', '\x22', '&']

section
variable {c : Char} {tail : List Char} (plain : ∀ d more, tail = d :: more → d ∉ openers)
include plain

theorem byte_or_word_plain : byteOrWord c tail = wordFrom [c] tail := by
  rw [byteOrWord.eq_def]
  split
  · exact absurd (by decide) (plain _ _ rfl)
  · exact absurd (by decide) (plain _ _ rfl)
  · rfl

theorem raw_or_word_plain : rawOrWord c tail = wordFrom [c] tail := by
  rw [rawOrWord.eq_def]
  split
  · exact absurd (by decide) (plain _ _ rfl)
  · exact absurd (by decide) (plain _ _ rfl)
  · rfl

theorem letter_literal_plain (style : LiteralStyle) : letterLiteral style c tail = wordFrom [c] tail := by
  rw [letterLiteral.eq_def]
  split
  · exact absurd (by decide) (plain _ _ rfl)
  · rfl

theorem escaped_or_word_plain : escapedOrWord c tail = wordFrom [c] tail := by
  rw [escapedOrWord.eq_def]
  split
  · exact absurd (by decide) (plain _ _ rfl)
  · rfl

theorem unicode_or_word_plain : unicodeOrWord c tail = wordFrom [c] tail := by
  rw [unicodeOrWord.eq_def]
  split
  · exact absurd (by decide) (plain _ _ rfl)
  · rfl

theorem next_start (start : isStart c = true) : next c tail = wordFrom [c] tail := by
  have other : ∀ d, isStart d = false → c ≠ d := by
    rintro d unlike rfl
    rw [start] at unlike
    cases unlike
  have noDigit := start_not_digit start
  have sign : signOrOther c tail = wordFrom [c] tail := by
    unfold signOrOther
    rw [symbol_at_start start]
    simp [other '#' (by decide), other '@' (by decide), other '?' (by decide), is_word_start_of_start start]
  unfold next
  rw [byte_or_word_plain plain, raw_or_word_plain plain, letter_literal_plain plain, escaped_or_word_plain plain,
    unicode_or_word_plain plain, letter_literal_plain plain, sign]
  simp [other ' ' (by decide), other '\t' (by decide), other '\n' (by decide), other '\r' (by decide),
    other '\x27' (by decide), other '\x22' (by decide), other '\x60' (by decide), other '.' (by decide),
    other '-' (by decide), other '/' (by decide), noDigit]

end

theorem word_reads {shown : String} (bare : isBare shown.toList = true) {rest : List Char} (ends : Ends rest) :
    (word shown).Reads rest := by
  have nonempty : shown.toList ≠ [] := by
    intro empty
    rw [empty] at bare
    cases bare
  obtain ⟨c, cs, split⟩ := List.exists_cons_of_ne_nil nonempty
  rw [split, isBare, Bool.and_eq_true, List.all_eq_true] at bare
  obtain ⟨start, parts⟩ := bare
  have plain : ∀ d more, cs ++ rest = d :: more → d ∉ openers := by
    have noEnding : endings.any openers.contains = false := rfl
    have noPart : openers.any Statement.isNameChar = false := rfl
    intro d more next opener
    cases cs with
    | nil => simpa [opener] using List.any_eq_false.mp noEnding d (ends d more next)
    | cons e others =>
      cases next
      exact List.any_eq_false.mp noPart d opener (parts d (List.mem_cons_self ..))
  have behind := ends.drop_while (rfl : endings.any isWordPart = false)
  have inside : ∀ d ∈ cs, isWordPart d = true := fun d listed => is_word_part_of_name_char (parts d listed)
  refine ⟨c, cs ++ rest, by rw [word, split]; rfl, ?_⟩
  rw [next_start plain start, wordFrom, List.takeWhile_append_of_pos inside, List.dropWhile_append_of_pos inside,
    behind.1, behind.2]
  simp [word, ← split]

-- Characters that are looked for before the digits are.
def leaders : List Char :=
  [' ', '\t', '\n', '\r', 'b', 'B', 'r', 'R', 'n', 'N', 'e', 'E', 'u', 'U', 'x', 'X', '\x27', '\x22', '\x60']

theorem next_digit {c : Char} (digit : c.isDigit = true) (tail : List Char) : next c tail = numeral c tail := by
  have noDigit : leaders.any Char.isDigit = false := rfl
  have other : ∀ d ∈ leaders, c ≠ d := by
    rintro d listed rfl
    exact List.any_eq_false.mp noDigit c listed digit
  simp only [leaders, List.forall_mem_cons] at other
  simp [next, other, digit]

theorem numeral_from_digits {c : Char} (digit : c.isDigit = true) (cs : List Char) {rest : List Char} (ends : Ends rest) :
    numeralFrom (c :: cs) rest = .ok (.token (.number (String.ofList (c :: cs)) false), rest) := by
  have noPoint : c ≠ '.' := by
    rintro rfl
    cases digit
  have whole := ends.drop_while (rfl : endings.any Char.isDigit = false)
  have power : exponent rest = ([], rest) := by
    rw [exponent.eq_def]
    split
    · rename_i e sign more
      have noExponent : endings.any (fun d => d = 'e' ∨ d = 'E') = false := rfl
      have other := List.any_eq_false.mp noExponent e (ends e _ rfl)
      rw [if_neg (by simpa using other)]
    · rfl
  have mark : longMark rest = (false, rest) := by
    rw [longMark.eq_def]
    split
    · rename_i more
      exact absurd (ends 'L' more rfl) (by decide)
    · rfl
  simp [numeralFrom, whole, power, mark, noPoint]

theorem digits_reads {shown : String} (nonempty : shown.toList ≠ []) (all : ∀ c ∈ shown.toList, c.isDigit = true)
    {rest : List Char} (ends : Ends rest) : (digits shown).Reads rest := by
  obtain ⟨c, cs, split⟩ := List.exists_cons_of_ne_nil nonempty
  rw [split] at all
  obtain ⟨first, others⟩ := List.forall_mem_cons.mp all
  have noPoint : c ≠ '.' := by
    rintro rfl
    cases first
  have whole := ends.drop_while (rfl : endings.any Char.isDigit = false)
  refine ⟨c, cs ++ rest, by rw [digits, split]; rfl, ?_⟩
  rw [next_digit first, numeral, if_neg noPoint, List.takeWhile_append_of_pos others, List.dropWhile_append_of_pos others,
    whole.1, whole.2, List.append_nil]
  simp only
  split
  · rename_i more
    exact absurd (ends 'x' more rfl) (by decide)
  · rename_i more
    exact absurd (ends '.' more rfl) (by decide)
  · rw [numeral_from_digits first cs ends, ← split, String.ofList_toList]
    rfl

end Lexeme

end TableStore
