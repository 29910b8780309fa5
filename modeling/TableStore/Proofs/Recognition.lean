import TableStore.Proofs.Grammar

set_option autoImplicit false

/- The first token may go on behind the leading name: then the text is unknown, but its body has been read. -/
namespace TableStore

namespace Text

open Unicode

theorem strip_word {word : List Char} (nonempty : word ≠ []) (solid : ∀ c ∈ word, isBlank c = false) (body : List Char) :
    ∃ rest, strip isBlank (word ++ ' ' :: body) = word ++ rest ∧ ∀ c ∈ rest.head?, c = ' ' := by
  have stripped := strip_around nonempty (firm_of_all solid) [] (' ' :: body)
  rw [List.nil_append, List.dropWhile_nil, List.nil_append] at stripped
  refine ⟨_, stripped, ?_⟩
  obtain ⟨dropped, whole⟩ := List.dropWhile_suffix (l := (' ' :: body).reverse) isBlank
  have kept : ((' ' :: body).reverse.dropWhile isBlank).reverse ++ dropped.reverse = ' ' :: body := by
    rw [← List.reverse_append, whole, List.reverse_reverse]
  intro c first
  obtain ⟨more, same⟩ := List.head?_eq_some_iff.mp first
  rw [same] at kept
  exact (List.cons.inj kept).1

theorem trim_word {word : String} (nonempty : word ≠ "") (solid : ∀ c ∈ word.toList, isBlank c = false) (body : String) :
    ∃ rest, (trim (word ++ " " ++ body)).toList = word.toList ++ rest ∧ ∀ c ∈ rest.head?, c = ' ' := by
  obtain ⟨rest, kept, spaced⟩ := strip_word (by simpa using nonempty) solid body.toList
  refine ⟨rest, ?_, spaced⟩
  rw [trim, String.toList_ofList, ← kept]
  simp

theorem first_word_solid {word : List Char} (nonempty : word ≠ []) (solid : ∀ c ∈ word, isBlank c = false)
    {rest : List Char} (spaced : ∀ c ∈ rest.head?, c = ' ') : (nextWord (word ++ rest)).1 = word := by
  obtain ⟨c, more, rfl⟩ := List.exists_cons_of_ne_nil nonempty
  have inside : ∀ d ∈ c :: more, (!isBlank d) = true := by simpa using solid
  have start : (c :: more ++ rest).dropWhile isBlank = c :: more ++ rest :=
    List.dropWhile_cons_of_neg (by simp [solid c List.mem_cons_self])
  have stops : ∀ d ∈ rest.head?, (!isBlank d) = false := by
    intro d first
    rw [spaced d first]
    decide
  rw [nextWord, start, take_while_before _ stops]
  exact List.takeWhile_eq_self_iff.mpr inside

theorem solid_of_none {word : String} (none : word.toList.any isBlank = false) : ∀ c ∈ word.toList, isBlank c = false := by
  intro c listed
  have other := List.any_eq_false.mp none c listed
  rwa [Bool.not_eq_true] at other

theorem upper_ascii {cs : List Char} (ascii : ∀ c ∈ cs, c.toNat < 128) : cs.flatMap upperCase = cs.map Char.toUpper := by
  induction cs with
  | nil => rfl
  | cons c rest ih =>
    obtain ⟨first, others⟩ := List.forall_mem_cons.mp ascii
    have single : upperCase c = [c.toUpper] := by rw [upperCase, upperParts, if_pos first]
    rw [List.flatMap_cons, single, ih others]
    rfl

end Text

namespace Statement

theorem name_char_ascii {c : Char} (part : isNameChar c = true) : c.toNat < 128 := by
  simp only [isNameChar, Char.isAlphanum, Bool.or_eq_true] at part
  obtain (alpha | digit) | underscore := part
  · have range := Text.alpha_range alpha
    omega
  · have range := Text.digit_range digit
    omega
  · rw [beq_iff_eq.mp underscore]
    decide

theorem name_char_start {c : Char} (part : isNameChar c = true) (capital : 65 ≤ c.toUpper.toNat ∧ c.toUpper.toNat ≤ 90) :
    Lexeme.isStart c = true := by
  simp only [isNameChar, Char.isAlphanum, Bool.or_eq_true] at part
  obtain (alpha | digit) | underscore := part
  · simp [Lexeme.isStart, alpha]
  · have range := Text.digit_range digit
    rw [Text.to_upper_number, if_neg (by omega)] at capital
    omega
  · simp [Lexeme.isStart, underscore]

theorem named_text {name : String} {verb : Command} (named : Command.named? name = some verb) : verb.text = name := by
  have same := List.find?_some named
  simpa using same

theorem taken_first {cs behind : List Char} {letter : Char}
    (same : letter :: behind = (cs.takeWhile isNameChar).map Char.toUpper) :
    ∃ c rest, cs = c :: rest ∧ isNameChar c = true ∧ letter = c.toUpper ∧
      behind = (rest.takeWhile isNameChar).map Char.toUpper := by
  cases cs with
  | nil => cases same
  | cons c rest =>
    by_cases part : isNameChar c = true
    · rw [List.takeWhile_cons_of_pos part] at same
      obtain ⟨first, others⟩ := List.cons.inj same
      exact ⟨c, rest, rfl, part, first, others⟩
    · rw [List.takeWhile_cons_of_neg part] at same
      cases same

-- Only ASCII is taken, so the upper case is that of each character by itself.
theorem leading_letters (text : String) :
    (leadingName text).toList = (text.toList.takeWhile isNameChar).map Char.toUpper := by
  rw [leadingName, Text.upper, String.toList_ofList, String.toList_ofList]
  exact Text.upper_ascii fun c listed => name_char_ascii (List.mem_takeWhile_imp listed)

-- Every command has two letters at least, so a text that it leads begins with a letter that no quote mark follows.
theorem recognised_starts {text : String} {verb : Command} (named : Command.named? (leadingName text) = some verb) :
    ∃ c d more, text.toList = c :: d :: more ∧ Lexeme.isStart c = true ∧ isNameChar d = true := by
  have same := congrArg String.toList (named_text named)
  rw [leading_letters] at same
  obtain ⟨a, b, rest, letters⟩ : ∃ a b rest, verb.text.toList = a :: b :: rest := by
    cases verb <;> exact ⟨_, _, _, rfl⟩
  have capital := command_capitals verb a (by simp [letters])
  rw [letters] at same
  obtain ⟨c, others, split, part, first, behind⟩ := taken_first same
  obtain ⟨d, more, splitOthers, partOther, _, _⟩ := taken_first behind
  rw [splitOthers] at split
  exact ⟨c, d, more, split, name_char_start part (first ▸ capital), partOther⟩

theorem recognised_next {text : String} {verb : Command} (named : Command.named? (leadingName text) = some verb) :
    ∃ c cs, text.toList = c :: cs ∧ Lexeme.isWordPart c = true ∧ Lexeme.next c cs = Lexeme.wordFrom [c] cs := by
  obtain ⟨c, d, more, split, start, part⟩ := recognised_starts named
  refine ⟨c, d :: more, split, ?_, Lexeme.next_start ?_ start⟩
  · apply Lexeme.is_word_part_of_name_char
    simp only [Lexeme.isStart, Bool.or_eq_true] at start
    simp only [isNameChar, Char.isAlphanum, Bool.or_eq_true]
    exact start.imp .inl id
  · intro e others same opener
    cases same
    have noPart : Lexeme.openers.any isNameChar = false := rfl
    exact List.any_eq_false.mp noPart d opener part

theorem recognised_tokens {text : String} {verb : Command} (named : Command.named? (leadingName text) = some verb)
    {tokens : TokenStream} (read : tokenize text = .ok tokens) :
    ∃ rest, tokens = ⟨"", .word (String.ofList (text.toList.takeWhile Lexeme.isWordPart)) none⟩ :: rest := by
  obtain ⟨c, cs, split, part, step⟩ := recognised_next named
  rw [tokenize, split, lexemes_step step] at read
  cases behind : lexemes (cs.dropWhile Lexeme.isWordPart) with
  | error fault =>
    rw [behind] at read
    cases read
  | ok others =>
    rw [behind] at read
    cases read
    refine ⟨spacedTokens "" others, ?_⟩
    rw [split, List.takeWhile_cons_of_pos part]
    rfl

theorem of_tokens_unknown_iff (gap text : String) (rest : TokenStream) (keyword : String) :
    ofTokens (⟨gap, .word text none⟩ :: rest) = .ok (.unknown keyword) ↔
      Command.named? (Text.upper text) = none ∧ Text.upper text = keyword := by
  cases named : Command.named? (Text.upper text) with
  | none => simp [ofTokens, named]
  | some verb =>
    simp only [ofTokens, named, reduceCtorEq, false_and, iff_false]
    intro read
    obtain ⟨behind, whole⟩ := (Parser.run_ok_iff _ _ _).mp read
    obtain ⟨statement, others, formed, read⟩ := Parser.bind_ok whole
    obtain ⟨_, _, _, given⟩ := Parser.bind_ok read
    cases given
    have commands := Parser.form_gives _ _ _ _ _ formed
    cases commands

theorem parse_unrecognised {sql : String} (unnamed : Command.named? (leadingName (Text.trim sql)) = none) :
    parse sql = .ok (.unknown (Text.upper (Text.firstWord (Text.trim sql)))) := by
  unfold parse
  simp only [unnamed]

theorem parse_misread {sql : String} {verb : Command} {fault : TokenError}
    (named : Command.named? (leadingName (Text.trim sql)) = some verb) (failed : tokenize (Text.trim sql) = .error fault) :
    parse sql = .error (.malformed (.misread fault)) := by
  unfold parse
  simp only [named, failed]

theorem parse_unknown_iff {sql : String} {verb : Command} {tokens : TokenStream}
    (named : Command.named? (leadingName (Text.trim sql)) = some verb) (read : tokenize (Text.trim sql) = .ok tokens)
    (keyword : String) :
    parse sql = .ok (.unknown keyword) ↔
      Command.named? (Text.upper (String.ofList ((Text.trim sql).toList.takeWhile Lexeme.isWordPart))) = none ∧
        Text.upper (String.ofList ((Text.trim sql).toList.takeWhile Lexeme.isWordPart)) = keyword := by
  obtain ⟨rest, whole⟩ := recognised_tokens named read
  rw [parse_tokens named read, whole]
  exact of_tokens_unknown_iff "" _ rest keyword

theorem unknown_with_body {word : String} (nonempty : word ≠ "") (solid : ∀ c ∈ word.toList, Unicode.isBlank c = false)
    (body : String) {keyword : String} (read : parse word = .ok (.unknown keyword)) :
    (Command.named? (leadingName word) = none → parse (word ++ " " ++ body) = .ok (.unknown keyword)) ∧
    ∀ verb, Command.named? (leadingName word) = some verb →
      (∀ tokens, tokenize (Text.trim (word ++ " " ++ body)) = .ok tokens →
        parse (word ++ " " ++ body) = .ok (.unknown keyword)) ∧
      ∀ fault, tokenize (Text.trim (word ++ " " ++ body)) = .error fault →
        parse (word ++ " " ++ body) = .error (.malformed (.misread fault)) := by
  have trimmed : Text.trim word = word := (Text.trim_kept_iff word).mpr (Text.firm_of_all solid)
  obtain ⟨rest, whole, spaced⟩ := Text.trim_word nonempty solid body
  have sameName : leadingName (Text.trim (word ++ " " ++ body)) = leadingName word := by
    rw [leadingName, whole, Text.take_while_before _ fun c first => by rw [spaced c first]; decide]
    rfl
  have sameToken : (Text.trim (word ++ " " ++ body)).toList.takeWhile Lexeme.isWordPart =
      word.toList.takeWhile Lexeme.isWordPart := by
    rw [whole, Text.take_while_before _ fun c first => by rw [spaced c first]; decide]
  refine ⟨?_, ?_⟩
  · intro unnamed
    rw [parse_unrecognised (trimmed.symm ▸ unnamed), trimmed] at read
    have alone := Text.first_word_solid (by simpa using nonempty) solid (by simp : ∀ c ∈ ([] : List Char).head?, c = ' ')
    have behind := Text.first_word_solid (by simpa using nonempty) solid spaced
    have sameWord : Text.firstWord (Text.trim (word ++ " " ++ body)) = Text.firstWord word := by
      rw [List.append_nil] at alone
      rw [Text.firstWord, Text.firstWord, whole, behind, alone]
    rw [parse_unrecognised (sameName.symm ▸ unnamed), sameWord]
    exact read
  · intro verb named
    refine ⟨?_, fun fault failed => parse_misread (sameName.symm ▸ named) failed⟩
    intro tokens readBody
    cases readWord : tokenize word with
    | error fault =>
      rw [parse_misread (trimmed.symm ▸ named) (trimmed.symm ▸ readWord)] at read
      cases read
    | ok others =>
      have unknown := (parse_unknown_iff (trimmed.symm ▸ named) (trimmed.symm ▸ readWord) keyword).mp read
      rw [trimmed] at unknown
      rwa [parse_unknown_iff (sameName.symm ▸ named) readBody, sameToken]

def continuedTokens : TokenStream :=
  [⟨"", .word "drop@x" none⟩, ⟨" ", .symbol .leftParen⟩, ⟨"", .number "1" false⟩, ⟨"", .symbol .comma⟩,
    ⟨" ", .word "y" none⟩, ⟨"", .symbol .rightParen⟩]

theorem words_keep_their_bodies_out :
    parse "HELLO 'open" = .ok (.unknown "HELLO") ∧ parse "drop@x (1, y)" = .ok (.unknown "DROP@X") ∧
      parse "drop@x 'open" = .error (.malformed (.misread ⟨.openLiteral, ⟨1, 8⟩⟩)) := by
  have hello : parse "HELLO" = .ok (.unknown "HELLO") := by decide +kernel
  have dropped : parse "drop@x" = .ok (.unknown "DROP@X") := by decide +kernel
  have nonempty : "drop@x" ≠ "" := by decide
  have solid : ∀ c ∈ "drop@x".toList, Unicode.isBlank c = false := Text.solid_of_none (by decide)
  have named : Command.named? (leadingName "drop@x") = some .drop := by decide +kernel
  refine ⟨?_, ?_, ?_⟩
  · have unnamed : Command.named? (leadingName "HELLO") = none := by decide +kernel
    exact (unknown_with_body (by decide) (Text.solid_of_none (by decide)) "'open" hello).1 unnamed
  · have read : tokenize (Text.trim ("drop@x" ++ " " ++ "(1, y)")) = .ok continuedTokens := by decide +kernel
    exact ((unknown_with_body nonempty solid "(1, y)" dropped).2 .drop named).1 _ read
  · have failed : tokenize (Text.trim ("drop@x" ++ " " ++ "'open")) = .error ⟨.openLiteral, ⟨1, 8⟩⟩ := by decide +kernel
    exact ((unknown_with_body nonempty solid "'open" dropped).2 .drop named).2 _ failed

theorem continued_command_reads_its_body :
    ¬ ∀ (word body keyword : String), word ≠ "" → (∀ c ∈ word.toList, Unicode.isBlank c = false) →
      parse word = .ok (.unknown keyword) → parse (word ++ " " ++ body) = .ok (.unknown keyword) := by
  intro outlives
  have read : parse "SELECT@x" = .ok (.unknown "SELECT@X") := by decide +kernel
  have failed : (parse ("SELECT@x" ++ " " ++ "'")).toOption = none := by decide +kernel
  rw [outlives "SELECT@x" "'" "SELECT@X" (by decide) (Text.solid_of_none (by decide)) read] at failed
  cases failed

end Statement

end TableStore
