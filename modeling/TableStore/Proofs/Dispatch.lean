import TableStore.Proofs.Pointed

set_option autoImplicit false

/- The leading name of a text, its first token over all characters and the word that a form asks for are compared in
three ways. They agree. -/
namespace TableStore

namespace Text

open Unicode

theorem lower_of_upper (c : Char) : c.toUpper.toLower = c.toLower := by
  rw [← Char.toNat_inj, to_lower_number, to_upper_number, to_lower_number]
  by_cases small : 97 ≤ c.toNat ∧ c.toNat ≤ 122
  · rw [if_pos small, if_pos (by omega), if_neg (by omega)]
    omega
  · rw [if_neg small]

theorem upper_nil_iff (cs : List Char) : cs.flatMap upperCase = [] ↔ cs = [] := by
  cases cs with
  | nil => simp
  | cons c rest => simp [upperCase]

end Text

namespace Parser

open Grammar

structure Entered (verb : Command) (tokens rest : TokenStream) : Prop where
  found : keyword (.command verb) tokens = .ok ((), rest)
  reads : ∀ joins, ∃ body : Parser Statement, form verb joins = (keyword (.command verb) >>= fun _ => body) ∧
    form verb joins tokens = body rest

theorem entered_of_led {verb : Command} {first : SpacedToken} (leads : IsKeyword (.command verb) first)
    (rest : TokenStream) : Entered verb (first :: rest) rest := by
  have found : keyword (.command verb) (first :: rest) = .ok ((), rest) := (keyword_reads _ _ _ _).mpr ⟨first, rfl, leads⟩
  refine ⟨found, ?_⟩
  intro joins
  obtain ⟨body, begins⟩ := form_begins verb joins
  exact ⟨body, begins, begins ▸ bind_read found⟩

end Parser

namespace Statement

open Grammar

theorem command_alone (verb other : Command) : verb.text.toList <+: other.text.toList → other = verb := by
  cases verb <;> cases other <;> decide

theorem word_goes_on (cs : List Char) :
    cs.takeWhile Lexeme.isWordPart = cs.takeWhile isNameChar ++ (cs.dropWhile isNameChar).takeWhile Lexeme.isWordPart := by
  have front : ∀ c ∈ cs.takeWhile isNameChar, Lexeme.isWordPart c = true := fun c listed =>
    Lexeme.is_word_part_of_name_char (List.mem_takeWhile_imp listed)
  rw [← List.takeWhile_append_of_pos front, List.takeWhile_append_dropWhile]

-- The upper case is at least as long as the word, so nothing can stand behind the letters of a command.
theorem named_word_iff {run beyond : List Char} {verb : Command} (ascii : ∀ c ∈ run, c.toNat < 128)
    (raised : run.map Char.toUpper = verb.text.toList) (found : Command) :
    Command.named? (Text.upper (String.ofList (run ++ beyond))) = some found ↔
      found = verb ∧ Text.sameIgnoringCase (String.ofList (run ++ beyond)) verb.text = true := by
  constructor
  · intro named
    have letters := congrArg String.toList (named_text named)
    rw [Text.upper, String.toList_ofList, String.toList_ofList, List.flatMap_append, Text.upper_ascii ascii, raised]
      at letters
    have same : found = verb := command_alone verb found ⟨_, letters.symm⟩
    subst same
    have behind : beyond = [] := (Text.upper_nil_iff beyond).mp (List.append_right_eq_self.mp letters.symm)
    refine ⟨rfl, ?_⟩
    rw [behind, List.append_nil, Text.sameIgnoringCase, beq_iff_eq, String.toList_ofList, ← raised, List.map_map]
    exact List.map_congr_left fun c _ => (Text.lower_of_upper c).symm
  · intro both
    obtain ⟨same, cased⟩ := both
    rw [same, Text.upper_of_same (command_capitals verb) cased, named_command]

theorem recognised_selects {text : String} {verb : Command} (named : Command.named? (leadingName text) = some verb)
    (found : Command) :
    Command.named? (Text.upper (String.ofList (text.toList.takeWhile Lexeme.isWordPart))) = some found ↔
      found = verb ∧
        Text.sameIgnoringCase (String.ofList (text.toList.takeWhile Lexeme.isWordPart)) verb.text = true := by
  have letters := leading_letters text
  rw [← named_text named] at letters
  rw [word_goes_on]
  exact named_word_iff (fun c listed => name_char_ascii (List.mem_takeWhile_imp listed)) letters.symm found

structure Dispatched (sql : String) (verb : Command) (tokens : TokenStream) : Prop extends Lexed sql tokens where
  named : ∃ gap word rest, tokens = ⟨gap, .word word none⟩ :: rest ∧ Command.named? (Text.upper word) = some verb

structure Classified (sql : String) (verb : Command) (word : String) (tokens rest : TokenStream) : Prop where
  begins : tokens = ⟨"", .word word none⟩ :: rest
  leading : (Text.trim sql).toList.takeWhile isNameChar <+: word.toList
  selects : ∀ found, Command.named? (Text.upper word) = some found ↔
    found = verb ∧ Text.sameIgnoringCase word verb.text = true
  enters : Text.sameIgnoringCase word verb.text = true →
    parse sql = (Parser.whole verb (mentionsJoin tokens)).run' tokens ∧ Parser.Entered verb tokens rest
  unknown : Text.sameIgnoringCase word verb.text = false → parse sql = .ok (.unknown (Text.upper word))

theorem lexed_classified {sql : String} {verb : Command} {tokens : TokenStream}
    (leads : Command.named? (leadingName (Text.trim sql)) = some verb) (read : tokenize (Text.trim sql) = .ok tokens) :
    ∃ word rest, Classified sql verb word tokens rest := by
  obtain ⟨rest, begins⟩ := recognised_tokens leads read
  have selects := recognised_selects leads
  generalize word : String.ofList ((Text.trim sql).toList.takeWhile Lexeme.isWordPart) = first at begins selects
  have parsed := parse_tokens leads read
  rw [begins] at parsed
  refine ⟨first, rest, begins, ?_, selects, ?_, ?_⟩
  · rw [← word, String.toList_ofList, word_goes_on]
    exact List.prefix_append ..
  · intro cased
    have asked : IsKeyword (.command verb) ⟨"", .word first none⟩ := cased
    rw [begins, parsed, of_tokens_led asked]
    exact ⟨rfl, Parser.entered_of_led asked rest⟩
  · intro cased
    rw [parsed, of_tokens_unknown_iff]
    refine ⟨?_, rfl⟩
    cases named : Command.named? (Text.upper first) with
    | none => rfl
    | some found =>
      have same := ((selects found).mp named).2
      rw [cased] at same
      cases same

theorem Dispatched.classified {sql : String} {verb : Command} {tokens : TokenStream}
    (reached : Dispatched sql verb tokens) :
    ∃ word rest, Classified sql verb word tokens rest ∧ Text.sameIgnoringCase word verb.text = true := by
  obtain ⟨leading, leads⟩ := reached.recognised
  obtain ⟨gap, bare, behind, whole, named⟩ := reached.named
  obtain ⟨word, rest, classified⟩ := lexed_classified leads reached.read
  have begins := classified.begins
  rw [whole] at begins
  cases begins
  obtain ⟨same, cased⟩ := (classified.selects verb).mp named
  subst same
  exact ⟨bare, behind, classified, cased⟩

theorem undispatched_outcome {sql : String} (unreached : ∀ verb tokens, ¬ Dispatched sql verb tokens) :
    (∃ keyword, parse sql = .ok (.unknown keyword)) ∨ ∃ fault, parse sql = .error (.malformed (.misread fault)) := by
  cases leads : Command.named? (leadingName (Text.trim sql)) with
  | none => exact .inl ⟨_, parse_unrecognised leads⟩
  | some verb =>
    cases read : tokenize (Text.trim sql) with
    | error fault => exact .inr ⟨fault, parse_misread leads read⟩
    | ok tokens =>
      obtain ⟨word, rest, classified⟩ := lexed_classified leads read
      cases cased : Text.sameIgnoringCase word verb.text with
      | false => exact .inl ⟨_, classified.unknown cased⟩
      | true =>
        have named := (classified.selects verb).mpr ⟨rfl, cased⟩
        exact absurd ⟨⟨⟨verb, leads⟩, read⟩, "", word, rest, classified.begins, named⟩ (unreached verb tokens)

-- A command that leads the text would begin the word, and what the word goes on with would stand in its upper case too: a
-- word that only its upper case makes a command is led by none.
theorem disguised_unknown {sql gap word : String} {rest : TokenStream} {verb : Command}
    (read : tokenize (Text.trim sql) = .ok (⟨gap, .word word none⟩ :: rest)) (raised : Text.upper word = verb.text)
    (other : Text.sameIgnoringCase word verb.text = false) :
    parse sql = .ok (.unknown (Text.upper (Text.firstWord (Text.trim sql)))) := by
  cases leads : Command.named? (leadingName (Text.trim sql)) with
  | none => exact parse_unrecognised leads
  | some leading =>
    have named : Command.named? (Text.upper word) = some verb := by rw [raised, named_command]
    have reached : Dispatched sql verb (⟨gap, .word word none⟩ :: rest) :=
      ⟨⟨⟨leading, leads⟩, read⟩, gap, word, rest, rfl, named⟩
    obtain ⟨bare, behind, classified, cased⟩ := reached.classified
    cases classified.begins
    rw [other] at cased
    cases cased

theorem classifications_agree (sql : String) :
    (∀ verb tokens, Command.named? (leadingName (Text.trim sql)) = some verb → tokenize (Text.trim sql) = .ok tokens →
      ∃ word rest, Classified sql verb word tokens rest) ∧
    (∀ verb tokens, Dispatched sql verb tokens →
      parse sql = (Parser.whole verb (mentionsJoin tokens)).run' tokens ∧
        ∃ first rest, tokens = first :: rest ∧ IsKeyword (.command verb) first) ∧
    ((∀ verb tokens, ¬ Dispatched sql verb tokens) →
      (∃ keyword, parse sql = .ok (.unknown keyword)) ∨ ∃ fault, parse sql = .error (.malformed (.misread fault))) ∧
    ∀ (gap word : String) (rest : TokenStream) (verb : Command),
      tokenize (Text.trim sql) = .ok (⟨gap, .word word none⟩ :: rest) → Text.upper word = verb.text →
        Text.sameIgnoringCase word verb.text = false →
          parse sql = .ok (.unknown (Text.upper (Text.firstWord (Text.trim sql)))) := by
  refine ⟨fun verb tokens leads read => lexed_classified leads read, ?_, undispatched_outcome, ?_⟩
  · intro verb tokens reached
    obtain ⟨word, rest, classified, cased⟩ := reached.classified
    exact ⟨(classified.enters cased).1, ⟨"", .word word none⟩, rest, classified.begins, cased⟩
  · intro gap word rest verb read raised other
    exact disguised_unknown read raised other

def dropTokens : TokenStream :=
  [⟨"", .word "Drop" none⟩, ⟨" ", .word "table" none⟩, ⟨" ", .word "pets" none⟩]

-- ınsert into pets values ()
def dotlessTokens : TokenStream :=
  [⟨"", .word "\u0131nsert" none⟩, ⟨" ", .word "into" none⟩, ⟨" ", .word "pets" none⟩, ⟨" ", .word "values" none⟩,
    ⟨" ", .symbol .leftParen⟩, ⟨"", .symbol .rightParen⟩]

-- A command in a mixture of cases, a text without tokens behind a command, and a word that its upper case makes INSERT:
-- by its tokens alone it would come to the form, which would not find its word.
theorem dotless_insert_is_unknown :
    (∃ word rest, Classified " Drop table pets" .drop word dropTokens rest) ∧
      (parse " Drop table pets" = (Parser.whole .drop false).run' dropTokens ∧
        ∃ first rest, dropTokens = first :: rest ∧ IsKeyword (.command .drop) first) ∧
      ((∃ keyword, parse "drop 'open" = .ok (.unknown keyword)) ∨
        ∃ fault, parse "drop 'open" = .error (.malformed (.misread fault))) ∧
      parse "\u0131nsert into pets values ()" = .ok (.unknown "INSERT") ∧
      ofTokens dotlessTokens =
        .error (.malformed (.expectedKeyword (.command .insert) (some (.word "\u0131nsert" none)))) := by
  have leads : Command.named? (leadingName (Text.trim " Drop table pets")) = some .drop := by decide +kernel
  have read : tokenize (Text.trim " Drop table pets") = .ok dropTokens := by decide +kernel
  have raised : Command.named? (Text.upper "Drop") = some .drop := by decide
  have reached : Dispatched " Drop table pets" .drop dropTokens := ⟨⟨⟨.drop, leads⟩, read⟩, _, _, _, rfl, raised⟩
  have failed : (tokenize (Text.trim "drop 'open")).toOption = none := by decide +kernel
  have unreached : ∀ verb tokens, ¬ Dispatched "drop 'open" verb tokens := by
    intro verb tokens reached
    rw [reached.read] at failed
    cases failed
  have readDotless : tokenize (Text.trim "\u0131nsert into pets values ()") = .ok dotlessTokens := by decide +kernel
  refine ⟨?_, ?_, ?_, ?_, by decide +kernel⟩
  · exact (classifications_agree " Drop table pets").1 .drop dropTokens leads read
  · exact (classifications_agree " Drop table pets").2.1 .drop dropTokens reached
  · exact (classifications_agree "drop 'open").2.2.1 unreached
  · exact (classifications_agree "\u0131nsert into pets values ()").2.2.2 _ _ _ .insert readDotless (by decide)
      (by decide)

end Statement

end TableStore
