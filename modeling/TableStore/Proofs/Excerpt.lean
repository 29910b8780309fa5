import TableStore.Proofs.Insertion
import TableStore.Proofs.Keyed
import TableStore.Proofs.Pointed
import TableStore.Proofs.Spelling

set_option autoImplicit false

/- A value that is not quoted is the text in its statement just if each lexeme of it is shown as it is written. -/
namespace TableStore

def Piece.token? : Piece → Option Token
  | .gap _ => none
  | .token read => some read

def tokensOf (found : List Lexeme) : List Token := found.filterMap (·.piece.token?)

def shownText (found : List Lexeme) : List Char := found.flatMap (·.piece.shown.toList)

def Spelled (found : List Lexeme) : Prop := ∀ lexeme ∈ found, Lexeme.Spelled lexeme.source.toList lexeme.piece

def Verbatim (found : List Lexeme) : Prop := ∀ lexeme ∈ found, Lexeme.Verbatim lexeme.source.toList lexeme.piece

theorem lexemes_spelled (cs : List Char) {found : List Lexeme} (read : lexemes cs = .ok found) : Spelled found := by
  fun_induction lexemes cs generalizing found with
  | case1 =>
    cases read
    exact List.forall_mem_nil _
  | case2 => cases read
  | case3 c rest piece behind step ih =>
    cases tail : lexemes behind with
    | error fault =>
      rw [tail] at read
      cases read
    | ok others =>
      rw [tail] at read
      cases read
      obtain ⟨source, whole, spelled⟩ := Lexeme.next_scanned step
      have front : (c :: rest).take (rest.length + 1 - behind.length) = source := by
        have lengths := congrArg List.length whole
        simp only [List.length_append, List.length_cons] at lengths
        rw [whole]
        exact List.take_left' (by omega)
      refine List.forall_mem_cons.mpr ⟨?_, ih tail⟩
      rwa [front, String.toList_ofList]

section
variable {run : List Lexeme}

-- No text is shown as itself with more in front of it: one of its lexemes would have to grow by what is in front of it.
theorem shown_not_behind (spelled : Spelled run) {front : List Char} (nonempty : front ≠ []) :
    shownText run ≠ front ++ written run := by
  induction run generalizing front with
  | nil =>
    intro same
    exact nonempty (List.append_eq_nil_iff.mp same.symm).1
  | cons lexeme rest ih =>
    obtain ⟨here, behind⟩ := List.forall_mem_cons.mp spelled
    intro same
    rw [shownText, List.flatMap_cons, written_cons, ← List.append_assoc] at same
    rcases List.append_eq_append_iff.mp same with ⟨more, grown, left⟩ | ⟨more, shown, _⟩
    · cases more with
      | nil => exact here.shown_not_around front [] (by simpa using nonempty) (by simpa using grown.symm)
      | cons c cs => exact ih behind (List.cons_ne_nil c cs) left
    · exact here.shown_not_around front more (by simp [nonempty]) shown

-- So a lexeme that is shown as less than it is written is not made up for by those behind it.
theorem shown_iff_verbatim (spelled : Spelled run) : shownText run = written run ↔ Verbatim run := by
  induction run with
  | nil => exact iff_of_true rfl (List.forall_mem_nil _)
  | cons lexeme rest ih =>
    obtain ⟨here, behind⟩ := List.forall_mem_cons.mp spelled
    rw [Verbatim, List.forall_mem_cons, ← here.shown_iff, shownText, List.flatMap_cons, written_cons]
    constructor
    · intro same
      rcases List.append_eq_append_iff.mp same with ⟨more, source, left⟩ | ⟨more, shown, left⟩
      · cases more with
        | nil => exact ⟨by simpa using source.symm, (ih behind).mp left⟩
        | cons c cs => exact absurd left (shown_not_behind behind (List.cons_ne_nil c cs))
      · cases more with
        | nil => exact ⟨by simpa using shown, (ih behind).mp left.symm⟩
        | cons c cs => exact absurd shown (here.shown_not_around [] (c :: cs) (List.cons_ne_nil c cs))
    · rintro ⟨first, others⟩
      rw [first]
      exact congrArg (_ ++ ·) ((ih behind).mpr others)

end

theorem tokens_of_append (front back : List Lexeme) : tokensOf (front ++ back) = tokensOf front ++ tokensOf back :=
  List.filterMap_append

theorem tokens_of_cons {lexeme : Lexeme} {token : Token} (read : lexeme.piece = .token token) (rest : List Lexeme) :
    tokensOf (lexeme :: rest) = token :: tokensOf rest :=
  List.filterMap_cons_some (by rw [read]; rfl)

theorem spaced_tokens_cons {gap : String} {found : List Lexeme} {spaced : SpacedToken} {rest : TokenStream}
    (tokens : spacedTokens gap found = spaced :: rest) :
    ∃ blanks lexeme after, found = blanks ++ lexeme :: after ∧ tokensOf blanks = [] ∧
      lexeme.piece = .token spaced.token ∧ spaced.gap.toList = gap.toList ++ shownText blanks ∧
      spacedTokens "" after = rest := by
  induction found generalizing gap with
  | nil => cases tokens
  | cons lexeme others ih =>
    cases read : lexeme.piece with
    | gap shown =>
      rw [spacedTokens, read] at tokens
      obtain ⟨blanks, first, after, rfl, none, piece, gaps, behind⟩ := ih tokens
      refine ⟨lexeme :: blanks, first, after, rfl, ?_, piece, ?_, behind⟩
      · rwa [tokensOf, List.filterMap_cons_none (by rw [read]; rfl)]
      · rw [gaps, String.toList_append, shownText, shownText, List.flatMap_cons, read, List.append_assoc]
        rfl
    | token token =>
      rw [spacedTokens, read] at tokens
      cases tokens
      exact ⟨[], lexeme, others, rfl, rfl, read, by simp [shownText], rfl⟩

theorem spaced_tokens_front {gap : String} {found : List Lexeme} {front rest : TokenStream} {first : SpacedToken}
    (tokens : spacedTokens gap found = front ++ first :: rest) :
    ∃ before lexeme after, found = before ++ lexeme :: after ∧ tokensOf before = front.map (·.token) ∧
      lexeme.piece = .token first.token ∧ spacedTokens "" after = rest := by
  induction front generalizing gap found with
  | nil =>
    obtain ⟨blanks, lexeme, after, rfl, none, piece, _, behind⟩ := spaced_tokens_cons tokens
    exact ⟨blanks, lexeme, after, rfl, none, piece, behind⟩
  | cons spaced others ih =>
    obtain ⟨blanks, lexeme, after, rfl, none, piece, _, behind⟩ := spaced_tokens_cons tokens
    obtain ⟨before, next, later, rfl, same, read, left⟩ := ih behind
    refine ⟨blanks ++ lexeme :: before, next, later, by simp, ?_, read, left⟩
    rw [tokens_of_append, none, tokens_of_cons piece, same]
    rfl

theorem spaced_tokens_phrase {gap : String} {found : List Lexeme} {phrase rest : TokenStream}
    (tokens : spacedTokens gap found = phrase ++ rest) :
    ∃ run after, found = run ++ after ∧ tokensOf run = phrase.map (·.token) ∧
      (run = [] ∨ ∃ last token, run.getLast? = some last ∧ last.piece = .token token) ∧
      (spacedText phrase).toList = (if phrase = [] then [] else gap.toList) ++ shownText run := by
  induction phrase generalizing gap found with
  | nil => exact ⟨[], found, rfl, rfl, .inl rfl, rfl⟩
  | cons spaced others ih =>
    obtain ⟨blanks, lexeme, after, rfl, none, piece, gaps, behind⟩ := spaced_tokens_cons tokens
    obtain ⟨run, later, rfl, same, ended, text⟩ := ih behind
    refine ⟨blanks ++ lexeme :: run, later, by simp, ?_, .inr ?_, ?_⟩
    · rw [tokens_of_append, none, tokens_of_cons piece, same]
      rfl
    · rcases ended with rfl | ⟨last, token, atEnd, read⟩
      · exact ⟨lexeme, _, by simp, piece⟩
      · exact ⟨last, token, by simp [List.getLast?_append, List.getLast?_cons, atEnd], read⟩
    · have first : lexeme.piece.shown = spaced.token.text := by rw [piece]; rfl
      simp [spacedText, gaps, text, shownText, first]

structure Excerpt (found : List Lexeme) (skipped : Nat) (phrase : TokenStream) (run : List Lexeme) : Prop where
  placed : ∃ before after, found = before ++ run ++ after ∧ (tokensOf before).length = skipped
  tokens : tokensOf run = phrase.map (·.token)
  starts : ∃ first token, run.head? = some first ∧ first.piece = .token token
  ends : ∃ last token, run.getLast? = some last ∧ last.piece = .token token

theorem excerpt_of_phrase {found : List Lexeme} {front phrase back : TokenStream}
    (tokens : spacedTokens "" found = front ++ phrase ++ back) (nonempty : phrase ≠ []) :
    ∃ run, Excerpt found front.length phrase run ∧ (writtenText phrase).toList = shownText run := by
  cases phrase with
  | nil => exact absurd rfl nonempty
  | cons first others =>
    rw [List.append_assoc] at tokens
    obtain ⟨before, lexeme, after, rfl, same, piece, behind⟩ := spaced_tokens_front tokens
    obtain ⟨run, later, rfl, others, ended, text⟩ := spaced_tokens_phrase behind
    refine ⟨lexeme :: run, ⟨⟨before, later, by simp, by rw [same, List.length_map]⟩, ?_, ⟨lexeme, _, rfl, piece⟩, ?_⟩, ?_⟩
    · rw [tokens_of_cons piece, others]
      rfl
    · rcases ended with rfl | ⟨last, token, atEnd, read⟩
      · exact ⟨lexeme, _, rfl, piece⟩
      · exact ⟨last, token, by simp [List.getLast?_cons, atEnd], read⟩
    · have head : lexeme.piece.shown = first.token.text := by rw [piece]; rfl
      simp [writtenText, text, shownText, head]

namespace Grammar

def Unquoted (phrase : TokenStream) : Prop := ∀ first rest content, phrase = first :: rest → ¬ Quoted first.token content

def tokensBefore : List TokenStream → Nat → Nat
  | _, 0 => 0
  | [], _ + 1 => 0
  | part :: parts, index + 1 => part.length + 1 + tokensBefore parts index

-- UPDATE name SET column = value, … WHERE …, with the assignments part by part
inductive Updates : TokenStream → String → List TokenStream → List Assignment → Prop
  | mk {verb word set : SpacedToken} {list condition ending : TokenStream} {table column written : String}
      {parts : List TokenStream} {assignments : List Assignment} (leads : IsKeyword (.command .update) verb)
      (named : IsName table word) (sets : IsKeyword .setClause set) (separated : Separated parts list)
      (read : List.Forall₂ Assigned parts assignments) (filtered : Condition condition column written)
      (ended : Ending ending) :
      Updates (verb :: word :: set :: (list ++ condition ++ ending)) table parts assignments

theorem literal_written {phrase : TokenStream} {value : String} (literal : Literal phrase value)
    (unquoted : Unquoted phrase) : phrase ≠ [] ∧ value = writtenText phrase := by
  cases literal with
  | quoted closed => exact absurd closed (unquoted _ _ _ rfl)
  | unquoted => exact ⟨List.cons_ne_nil _ _, rfl⟩

theorem separated_placed {parts : List TokenStream} {whole : TokenStream} (separated : Separated parts whole) {index : Nat}
    {part : TokenStream} (listed : parts[index]? = some part) :
    ∃ front back, whole = front ++ part ++ back ∧ front.length = tokensBefore parts index := by
  induction separated generalizing index with
  | last only =>
    cases index with
    | zero =>
      cases listed
      exact ⟨[], [], by simp, rfl⟩
    | succ index => simp at listed
  | @more first comma sign others whole behind ih =>
    cases index with
    | zero =>
      cases listed
      exact ⟨[], comma :: whole, by simp, rfl⟩
    | succ index =>
      obtain ⟨front, back, rfl, long⟩ := ih (by simpa using listed)
      refine ⟨first ++ comma :: front, back, by simp, ?_⟩
      rw [tokensBefore, List.length_append, List.length_cons, long]
      omega

end Grammar

open Grammar

def Taken (found : List Lexeme) (skipped : Nat) (phrase : TokenStream) (value : String) : Prop :=
  ∃ run, Excerpt found skipped phrase run ∧ value.toList = shownText run ∧
    (value.toList = written run ↔ Verbatim run)

theorem literal_taken {found : List Lexeme} (spelled : Spelled found) {front phrase back : TokenStream}
    (tokens : spacedTokens "" found = front ++ phrase ++ back) {value : String} (literal : Literal phrase value)
    (unquoted : Unquoted phrase) : Taken found front.length phrase value := by
  obtain ⟨nonempty, rfl⟩ := literal_written literal unquoted
  obtain ⟨run, excerpt, text⟩ := excerpt_of_phrase tokens nonempty
  refine ⟨run, excerpt, text, ?_⟩
  obtain ⟨before, after, rfl, _⟩ := excerpt.placed
  rw [text]
  exact shown_iff_verbatim fun lexeme listed => spelled lexeme (by simp [listed])

namespace Statement

theorem parse_lexemes {sql : String} {statement : Statement} {verb : Command} (read : parse sql = .ok statement)
    (commands : statement.command? = some verb) :
    ∃ found, lexemes (Text.trim sql).toList = .ok found ∧ ofTokens (spacedTokens "" found) = .ok statement := by
  cases named : Command.named? (leadingName (Text.trim sql)) with
  | none =>
    rw [parse_unrecognised named] at read
    cases read
    cases commands
  | some found =>
    cases lexed : lexemes (Text.trim sql).toList with
    | error fault =>
      rw [parse_misread named (by rw [tokenize, lexed])] at read
      cases read
    | ok found =>
      rw [parse_tokens named (by rw [tokenize, lexed])] at read
      exact ⟨found, rfl, read⟩

theorem update_parts {tokens : TokenStream} {table : String} {assignments : List Assignment} {key : Int64}
    (read : ofTokens tokens = .ok (.update table assignments key)) : ∃ parts, Updates tokens table parts assignments := by
  obtain ⟨column, text, keyed, _⟩ := update_keyed read
  generalize same : Statement.update table assignments = build at keyed
  obtain ⟨form, ended⟩ := keyed
  cases form with
  | @update verb word set list condition name _ _ others leads named sets listed filtered =>
    obtain ⟨rfl, rfl⟩ : table = name ∧ assignments = others := by simpa using congrFun same key
    obtain ⟨parts, separated, read⟩ := listed
    exact ⟨parts, .mk leads named sets separated read filtered ended⟩

theorem related_at {α β : Type} {related : α → β → Prop} {items : List α} {others : List β}
    (all : List.Forall₂ related items others) {index : Nat} {item : α} {other : β} (listed : items[index]? = some item)
    (held : others[index]? = some other) : related item other := by
  obtain ⟨inside, rfl⟩ := List.getElem?_eq_some_iff.mp listed
  obtain ⟨insideOther, rfl⟩ := List.getElem?_eq_some_iff.mp held
  exact all.get inside insideOther

theorem insertion_taken {found : List Lexeme} (spelled : Spelled found) {table : String} {literals : List TokenStream}
    {values : List String} {ending : TokenStream} (insertion : Insertion (spacedTokens "" found) table literals values ending)
    {index : Nat} {phrase : TokenStream} {value : String} (listed : literals[index]? = some phrase)
    (held : values[index]? = some value) (unquoted : Unquoted phrase) :
    Taken found (5 + tokensBefore literals index) phrase value := by
  generalize whole : spacedTokens "" found = tokens at insertion
  cases insertion with
  | @mk verb into name list opening closed ending _ _ _ leads targets named lists opens closes ended =>
    cases closes with
    | empty => simp at listed
    | @filled closing _ body _ separated read closes =>
      obtain ⟨front, back, rfl, long⟩ := separated_placed separated listed
      have split : spacedTokens "" found =
          (verb :: into :: name :: list :: opening :: front) ++ phrase ++ (back ++ closing :: ending) := by
        rw [whole]
        simp
      have taken := literal_taken spelled split (related_at read listed held) unquoted
      rwa [show (verb :: into :: name :: list :: opening :: front).length = 5 + tokensBefore literals index by
        simp only [List.length_cons, long]
        omega] at taken

theorem updates_taken {found : List Lexeme} (spelled : Spelled found) {table : String} {parts : List TokenStream}
    {assignments : List Assignment} (updates : Updates (spacedTokens "" found) table parts assignments)
    {index : Nat} {part : TokenStream} {assignment : Assignment} (listed : parts[index]? = some part)
    (held : assignments[index]? = some assignment) (unquoted : Unquoted (part.drop 2)) :
    Taken found (5 + tokensBefore parts index) (part.drop 2) assignment.value := by
  generalize whole : spacedTokens "" found = tokens at updates
  cases updates with
  | @mk verb word set list condition ending _ _ _ _ _ leads named sets separated read filtered ended =>
    obtain ⟨front, back, rfl, long⟩ := separated_placed separated listed
    have assigned := related_at read listed held
    cases assigned with
    | @mk name equal phrase column value named sign literal =>
      have split : spacedTokens "" found =
          (verb :: word :: set :: (front ++ [name, equal])) ++ phrase ++ (back ++ condition ++ ending) := by
        rw [whole]
        simp
      have taken := literal_taken spelled split literal unquoted
      rwa [show (verb :: word :: set :: (front ++ [name, equal])).length = 5 + tokensBefore parts index by
        simp only [List.length_cons, List.length_append, List.length_nil, long]
        omega] at taken

theorem unquoted_values_as_shown (sql : String) :
    (∀ table values, parse sql = .ok (.insert table values) → ∃ found literals ending,
      lexemes (Text.trim sql).toList = .ok found ∧ written found = (Text.trim sql).toList ∧
      written found <:+: sql.toList ∧ Insertion (spacedTokens "" found) table literals values ending ∧
      ∀ index phrase value, literals[index]? = some phrase → values[index]? = some value → Unquoted phrase →
        Taken found (5 + tokensBefore literals index) phrase value) ∧
    (∀ table assignments key, parse sql = .ok (.update table assignments key) → ∃ found parts,
      lexemes (Text.trim sql).toList = .ok found ∧ written found = (Text.trim sql).toList ∧
      written found <:+: sql.toList ∧ Updates (spacedTokens "" found) table parts assignments ∧
      ∀ index part assignment, parts[index]? = some part → assignments[index]? = some assignment →
        Unquoted (part.drop 2) → Taken found (5 + tokensBefore parts index) (part.drop 2) assignment.value) := by
  have inside : (Text.trim sql).toList <:+: sql.toList := by
    rw [Text.trim, String.toList_ofList]
    exact Text.strip_infix _ _
  constructor
  · intro table values read
    obtain ⟨found, lexed, tokens⟩ := parse_lexemes read rfl
    have whole : written found = (Text.trim sql).toList := lexemes_sources _ lexed
    have within : written found <:+: sql.toList := by
      rw [whole]
      exact inside
    obtain ⟨first, rest, begins, leads⟩ := of_tokens_ok_led tokens rfl
    rw [begins] at tokens
    obtain ⟨_, literals, _, ending, insertion, same⟩ := (of_tokens_insert_iff leads rest _).mp tokens
    cases same
    rw [← begins] at insertion
    exact ⟨found, literals, ending, lexed, whole, within, insertion, fun _ _ _ listed held unquoted =>
      insertion_taken (lexemes_spelled _ lexed) insertion listed held unquoted⟩
  · intro table assignments key read
    obtain ⟨found, lexed, tokens⟩ := parse_lexemes read rfl
    have whole : written found = (Text.trim sql).toList := lexemes_sources _ lexed
    have within : written found <:+: sql.toList := by
      rw [whole]
      exact inside
    obtain ⟨parts, updates⟩ := update_parts tokens
    exact ⟨found, parts, lexed, whole, within, updates, fun _ _ _ listed held unquoted =>
      updates_taken (lexemes_spelled _ lexed) updates listed held unquoted⟩

def memo : String := "INSERT INTO memos VALUES (7, John  Doe /* x, y */ a@b.c)"

def memoPhrase : TokenStream :=
  [⟨" ", .word "John" none⟩, ⟨"  ", .word "Doe" none⟩, ⟨" /* x, y */ ", .word "a@b" none⟩, ⟨"", .symbol .period⟩,
    ⟨"", .word "c" none⟩]

def memoTokens : TokenStream :=
  [⟨"", .word "INSERT" none⟩, ⟨" ", .word "INTO" none⟩, ⟨" ", .word "memos" none⟩, ⟨" ", .word "VALUES" none⟩,
    ⟨" ", .symbol .leftParen⟩, ⟨"", .number "7" false⟩, ⟨"", .symbol .comma⟩] ++ memoPhrase ++
    [⟨"", .symbol .rightParen⟩]

theorem memo_insertion : Insertion memoTokens "memos" [[⟨"", .number "7" false⟩], memoPhrase]
    ["7", "John  Doe /* x, y */ a@b.c"] [] := by
  have number : Literal [⟨"", .number "7" false⟩] "7" := by
    refine .unquoted (by rintro _ ⟨⟩) ?_
    simp only [← Parser.ends_literal_iff]
    decide
  have words : Literal memoPhrase "John  Doe /* x, y */ a@b.c" := by
    refine .unquoted (by rintro _ ⟨⟩) ?_
    simp only [← Parser.ends_literal_iff]
    decide
  have comma : IsSign .comma ⟨"", .symbol .comma⟩ := by decide
  have close : IsSign .rightParen ⟨"", .symbol .rightParen⟩ := by decide
  have closes := Closed.filled (.more _ comma (.last _)) (.cons number (.cons words .nil)) close
  exact .mk (by decide) (by decide) ⟨none, rfl⟩ (by decide) (by decide) closes .absent

theorem memo_is_taken_whole :
    parse memo = .ok (.insert "memos" ["7", "John  Doe /* x, y */ a@b.c"]) ∧
      ∃ found run, lexemes memo.toList = .ok found ∧ Excerpt found 7 memoPhrase run ∧
        "John  Doe /* x, y */ a@b.c".toList = written run := by
  have parsed : parse memo = .ok (.insert "memos" ["7", "John  Doe /* x, y */ a@b.c"]) := by decide +kernel
  have trimmed : Text.trim memo = memo := by decide +kernel
  have read : tokenize memo = .ok memoTokens := by decide +kernel
  have shown : ((lexemes memo.toList).map (·.all fun lexeme => lexeme.piece.shown.toList == lexeme.source.toList)) =
      .ok true := by
    decide +kernel
  obtain ⟨found, literals, ending, lexed, _, _, insertion, taken⟩ := (unquoted_values_as_shown memo).1 _ _ parsed
  rw [trimmed] at lexed
  rw [tokenize, lexed] at read
  rw [Except.ok.inj read] at insertion
  obtain ⟨-, rfl, -, -⟩ := insertion_unique insertion memo_insertion
  have unquoted : Unquoted memoPhrase := by
    rintro first rest content ⟨⟩ ⟨⟩
  obtain ⟨run, excerpt, _, whole⟩ := taken 1 memoPhrase _ rfl rfl unquoted
  refine ⟨parsed, found, run, lexed, excerpt, whole.mpr ?_⟩
  obtain ⟨before, after, split, _⟩ := excerpt.placed
  rw [lexed, split] at shown
  intro lexeme listed
  have spelled := lexemes_spelled _ lexed lexeme (by simp [split, listed])
  apply spelled.shown_iff.mp
  have each := List.all_eq_true.mp (Except.ok.inj shown) lexeme (by simp [listed])
  exact eq_of_beq each

-- A value that stands nowhere in the text.
theorem inequality_is_respelled :
    parse "INSERT INTO t VALUES (1, a != b)" = .ok (.insert "t" ["1", "a <> b"]) ∧
      ¬ "a <> b".toList <:+: "INSERT INTO t VALUES (1, a != b)".toList := by
  decide +kernel

end Statement

end TableStore
