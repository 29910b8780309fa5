import Mathlib.Data.List.Forall2
import TableStore.Proofs.Rendering

set_option autoImplicit false

/- A parser succeeds on just the phrases of its grammar, whatever the gaps are, and leaves what is behind them. -/
namespace TableStore

namespace Grammar

def IsKeyword (word : Keyword) (spaced : SpacedToken) : Prop := spaced.token.isKeyword word.text = true

instance (word : Keyword) (spaced : SpacedToken) : Decidable (IsKeyword word spaced) :=
  inferInstanceAs (Decidable (_ = true))

def IsSign (sign : Symbol) (spaced : SpacedToken) : Prop := spaced.token = .symbol sign

instance (sign : Symbol) (spaced : SpacedToken) : Decidable (IsSign sign spaced) :=
  inferInstanceAs (Decidable (_ = _))

theorem keyword_word {word : Keyword} {spaced : SpacedToken} (same : IsKeyword word spaced) :
    ∃ text, spaced.token = .word text none ∧ Text.sameIgnoringCase text word.text = true := by
  unfold IsKeyword Token.isKeyword at same
  split at same
  · rename_i text shown
    exact ⟨text, shown, same⟩
  · cases same

-- Any word is a name, quoted or not, keywords among them.
def IsName (text : String) (spaced : SpacedToken) : Prop := ∃ quote, spaced.token = .word text quote

inductive Quoted : Token → String → Prop
  | single (content : String) : Quoted (.literal .single content) content
  | double (content : String) : Quoted (.literal .double content) content
  | word (text : String) (mark : WordQuote) : Quoted (.word text (some mark)) text

inductive Delimits : Token → Prop
  | comma : Delimits (.symbol .comma)
  | close : Delimits (.symbol .rightParen)
  | semicolon : Delimits (.symbol .semicolon)
  | filter {token : Token} (word : token.isKeyword Keyword.whereClause.text = true) : Delimits token

-- A value is one quoted token, or tokens that do not begin with one, as they are written.
inductive Literal : TokenStream → String → Prop
  | quoted {spaced : SpacedToken} {content : String} (closed : Quoted spaced.token content) : Literal [spaced] content
  | unquoted {first : SpacedToken} {rest : TokenStream} (bare : ∀ content, ¬ Quoted first.token content)
      (inside : ∀ spaced ∈ first :: rest, ¬ Delimits spaced.token) :
      Literal (first :: rest) (writtenText (first :: rest))

inductive Separated : List TokenStream → TokenStream → Prop
  | last (part : TokenStream) : Separated [part] part
  | more (part : TokenStream) {comma : SpacedToken} (sign : IsSign .comma comma) {parts : List TokenStream}
      {whole : TokenStream} (behind : Separated parts whole) : Separated (part :: parts) (part ++ comma :: whole)

def Listed {α : Type} (item : TokenStream → α → Prop) (phrase : TokenStream) (values : List α) : Prop :=
  ∃ parts, Separated parts phrase ∧ List.Forall₂ item parts values

inductive Ending : TokenStream → Prop
  | absent : Ending []
  | semicolon {spaced : SpacedToken} (sign : IsSign .semicolon spaced) : Ending [spaced]

end Grammar

namespace Parser

open Grammar

-- On the rests that stop it, the parser reads the phrases of the grammar and no others.
def Reads {α : Type} (parser : Parser α) (grammar : TokenStream → α → Prop) (stops : TokenStream → Prop) : Prop :=
  ∀ tokens value rest, stops rest →
    (parser tokens = .ok (value, rest) ↔ ∃ phrase, tokens = phrase ++ rest ∧ grammar phrase value)

def ReadsToken {α : Type} (parser : Parser α) (grammar : SpacedToken → α → Prop) : Prop :=
  ∀ tokens value rest,
    parser tokens = .ok (value, rest) ↔ ∃ spaced, tokens = spaced :: rest ∧ grammar spaced value

def Joined {α β : Type} (first : TokenStream → α → Prop) (second : α → TokenStream → β → Prop) (phrase : TokenStream)
    (result : β) : Prop :=
  ∃ front value back, phrase = front ++ back ∧ first front value ∧ second value back result

def Led {α β : Type} (first : SpacedToken → α → Prop) (second : α → TokenStream → β → Prop) (phrase : TokenStream)
    (result : β) : Prop :=
  ∃ spaced value back, phrase = spaced :: back ∧ first spaced value ∧ second value back result

def anywhere : TokenStream → Prop := fun _ => True

section
variable {α β : Type} {first : Parser α} {second : α → Parser β}

theorem bind_ok_iff (tokens rest : TokenStream) (result : β) :
    (first >>= second) tokens = .ok (result, rest) ↔
      ∃ value behind, first tokens = .ok (value, behind) ∧ second value behind = .ok (result, rest) := by
  constructor
  · exact bind_ok
  · rintro ⟨value, behind, read, continued⟩
    simp only [bind, StateT.bind, read]
    exact continued

variable {grammar : TokenStream → α → Prop} {stops : TokenStream → Prop}

theorem Reads.bind (reads : Reads first grammar stops) {others : α → TokenStream → β → Prop} {after : TokenStream → Prop}
    (continued : ∀ value, Reads (second value) (others value) after)
    (follows : ∀ value phrase result rest, others value phrase result → after rest → stops (phrase ++ rest)) :
    Reads (first >>= second) (Joined grammar others) after := by
  intro tokens result rest stopped
  rw [bind_ok_iff]
  constructor
  · rintro ⟨value, behind, read, readBehind⟩
    obtain ⟨back, rfl, inBack⟩ := (continued value behind result rest stopped).mp readBehind
    obtain ⟨front, rfl, inFront⟩ := (reads tokens value _ (follows value back result rest inBack stopped)).mp read
    exact ⟨front ++ back, (List.append_assoc ..).symm, front, value, back, rfl, inFront, inBack⟩
  · rintro ⟨_, rfl, front, value, back, rfl, inFront, inBack⟩
    refine ⟨value, back ++ rest, ?_, ?_⟩
    · exact (reads _ value _ (follows value back result rest inBack stopped)).mpr ⟨front, List.append_assoc .., inFront⟩
    · exact (continued value _ result rest stopped).mpr ⟨back, rfl, inBack⟩

theorem ReadsToken.bind {leads : SpacedToken → α → Prop} (reads : ReadsToken first leads)
    {others : α → TokenStream → β → Prop} {after : TokenStream → Prop}
    (continued : ∀ value, Reads (second value) (others value) after) :
    Reads (first >>= second) (Led leads others) after := by
  intro tokens result rest stopped
  rw [bind_ok_iff]
  constructor
  · rintro ⟨value, behind, read, readBehind⟩
    obtain ⟨spaced, rfl, led⟩ := (reads tokens value behind).mp read
    obtain ⟨back, rfl, inBack⟩ := (continued value behind result rest stopped).mp readBehind
    exact ⟨spaced :: back, rfl, spaced, value, back, rfl, led, inBack⟩
  · rintro ⟨_, rfl, spaced, value, back, rfl, led, inBack⟩
    refine ⟨value, back ++ rest, ?_, ?_⟩
    · exact (reads _ value _).mpr ⟨spaced, rfl, led⟩
    · exact (continued value _ result rest stopped).mpr ⟨back, rfl, inBack⟩

theorem Reads.map (reads : Reads first grammar stops) (change : α → β) :
    Reads (first >>= fun value => pure (change value))
      (fun phrase result => ∃ value, grammar phrase value ∧ result = change value) stops := by
  intro tokens result rest stopped
  rw [bind_ok_iff]
  constructor
  · rintro ⟨value, behind, read, given⟩
    cases given
    obtain ⟨phrase, rfl, inPhrase⟩ := (reads tokens value _ stopped).mp read
    exact ⟨phrase, rfl, value, inPhrase, rfl⟩
  · rintro ⟨phrase, rfl, value, inPhrase, rfl⟩
    exact ⟨value, rest, (reads _ value _ stopped).mpr ⟨phrase, rfl, inPhrase⟩, rfl⟩

theorem Reads.of_iff (reads : Reads first grammar stops) {other : TokenStream → α → Prop}
    (same : ∀ phrase value, grammar phrase value ↔ other phrase value) : Reads first other stops := by
  intro tokens value rest stopped
  simp only [← same]
  exact reads tokens value rest stopped

theorem Reads.weaken (reads : Reads first grammar stops) {fewer : TokenStream → Prop}
    (narrower : ∀ rest, fewer rest → stops rest) : Reads first grammar fewer :=
  fun tokens value rest stopped => reads tokens value rest (narrower rest stopped)

theorem bind_read {tokens rest : TokenStream} {value : α} (read : first tokens = .ok (value, rest)) :
    (first >>= second) tokens = second value rest := by
  change (first tokens).bind (fun pair => second pair.1 pair.2) = _
  rw [read]
  rfl

theorem Reads.bind_append (reads : Reads first grammar stops) {phrase rest : TokenStream} {value : α}
    (inPhrase : grammar phrase value) (stopped : stops rest) : (first >>= second) (phrase ++ rest) = second value rest :=
  bind_read ((reads _ value rest stopped).mpr ⟨phrase, rfl, inPhrase⟩)

theorem Reads.unique (reads : Reads first grammar stops) {phrase other rest behind : TokenStream} {value found : α}
    (inPhrase : grammar phrase value) (inOther : grammar other found) (stopped : stops rest) (stoppedBehind : stops behind)
    (same : phrase ++ rest = other ++ behind) : phrase = other ∧ value = found ∧ rest = behind := by
  have read := (reads _ value rest stopped).mpr ⟨phrase, rfl, inPhrase⟩
  rw [same, (reads _ found behind stoppedBehind).mpr ⟨other, rfl, inOther⟩] at read
  cases read
  exact ⟨List.append_cancel_right same, rfl, rfl⟩

theorem ReadsToken.bind_cons {leads : SpacedToken → α → Prop} (reads : ReadsToken first leads) {spaced : SpacedToken}
    (value : α) (led : leads spaced value) (rest : TokenStream) :
    (first >>= second) (spaced :: rest) = second value rest :=
  bind_read ((reads (spaced :: rest) value rest).mpr ⟨spaced, rfl, led⟩)

end

theorem pure_reads {α : Type} (value : α) (stops : TokenStream → Prop) :
    Reads (pure value) (fun phrase result => phrase = [] ∧ result = value) stops := by
  intro tokens result rest _
  constructor
  · intro given
    cases given
    exact ⟨[], rfl, rfl, rfl⟩
  · rintro ⟨_, rfl, rfl, rfl⟩
    rfl

theorem token_reads {α : Type} {parser : Parser α} {grammar : SpacedToken → α → Prop}
    (atEnd : ∀ value rest, parser [] ≠ .ok (value, rest))
    (step : ∀ spaced behind value rest,
      parser (spaced :: behind) = .ok (value, rest) ↔ behind = rest ∧ grammar spaced value) :
    ReadsToken parser grammar := by
  intro tokens value rest
  cases tokens with
  | nil => simp [atEnd value rest]
  | cons spaced behind => simp [step spaced behind value rest, and_assoc]

theorem keyword_reads (expected : Keyword) : ReadsToken (keyword expected) fun spaced _ => IsKeyword expected spaced := by
  apply token_reads (by simp [keyword, malformed])
  intro spaced behind _ rest
  rw [keyword]
  split
  · rename_i same
    simp [IsKeyword, same]
  · rename_i different
    simp [IsKeyword, malformed, different]

theorem sign_reads (expected : Symbol) : ReadsToken (sign expected) fun spaced _ => IsSign expected spaced := by
  apply token_reads (by simp [sign, malformed])
  intro spaced behind _ rest
  rw [sign]
  split
  · rename_i same
    simp [IsSign, same]
  · rename_i different
    simp [IsSign, malformed, different]

theorem close_reads (unclosed : SyntaxError) : ReadsToken (close unclosed) fun spaced _ => IsSign .rightParen spaced := by
  apply token_reads (by simp [close, malformed])
  intro spaced behind _ rest
  rw [close]
  split
  · rename_i same
    simp [IsSign, same]
  · rename_i different
    simp [IsSign, malformed, different]

theorem name_reads (role : NameRole) : ReadsToken (name role) fun spaced text => IsName text spaced := by
  apply token_reads (by simp [name, malformed])
  intro spaced behind text rest
  rw [name]
  split
  · rename_i found quote word
    simp [IsName, word, and_comm]
  · rename_i unnamed
    have unlike : ¬ IsName text spaced := by
      rintro ⟨quote, word⟩
      exact unnamed text quote word
    simp [malformed, unlike]

theorem ends_literal_iff (token : Token) : endsLiteral token = true ↔ Delimits token := by
  simp only [endsLiteral, Bool.or_eq_true, beq_iff_eq]
  constructor
  · rintro (((rfl | rfl) | rfl) | word)
    · exact .comma
    · exact .close
    · exact .semicolon
    · exact .filter word
  · rintro (_ | _ | _ | word)
    · exact .inl (.inl (.inl rfl))
    · exact .inl (.inl (.inr rfl))
    · exact .inl (.inr rfl)
    · exact .inr word

theorem quoted_content_iff (token : Token) (content : String) :
    quotedContent? token = some content ↔ Quoted token content := by
  constructor
  · intro found
    unfold quotedContent? at found
    split at found
    · cases found
      exact .single _
    · cases found
      exact .double _
    · cases found
      exact .word _ _
    · cases found
  · rintro (_ | _ | _)
    · rfl
    · rfl
    · rfl

theorem text_from_spaced (before : TokenStream) (nonempty : before ≠ []) (front rest : TokenStream) :
    textFrom (before ++ (front ++ rest)) before.length front.length = .ok (spacedText front) := by
  induction front generalizing before with
  | nil => rfl
  | cons spaced others ih =>
    have here : (before ++ (spaced :: others ++ rest))[before.length]? = some spaced := by
      rw [List.getElem?_append_right (Nat.le_refl _), Nat.sub_self]
      rfl
    have later : before.length ≠ 0 := by simpa using nonempty
    have behind := ih (before ++ [spaced]) (by simp)
    rw [List.length_append, List.length_singleton, List.append_assoc] at behind
    simp only [List.length_cons, textFrom, gapAt, tokenAt, here, if_neg later]
    change (textFrom (before ++ ([spaced] ++ (others ++ rest))) (before.length + 1) others.length).bind _ = _
    rw [behind]
    rfl

theorem text_from_written (front rest : TokenStream) :
    textFrom (front ++ rest) 0 front.length = .ok (writtenText front) := by
  cases front with
  | nil => rfl
  | cons spaced others =>
    have behind := text_from_spaced [spaced] (List.cons_ne_nil _ _) others rest
    simp only [List.length_cons, textFrom, tokenAt]
    change (textFrom ([spaced] ++ (others ++ rest)) 1 others.length).bind _ = _
    rw [List.length_singleton] at behind
    rw [behind]
    simp [Except.bind, pure, Except.pure, writtenText]

theorem unquoted_literal_found {tokens rest : TokenStream} {content : String}
    (read : unquotedLiteral tokens = .ok (content, rest)) :
    ∃ front, tokens = front ++ rest ∧ front ≠ [] ∧ content = writtenText front ∧
      ∀ spaced ∈ front, ¬ Delimits spaced.token := by
  have whole : tokens.takeWhile (!endsLiteral ·.token) ++ tokens.dropWhile (!endsLiteral ·.token) = tokens :=
    List.takeWhile_append_dropWhile
  have passed : ∀ spaced ∈ tokens.takeWhile (!endsLiteral ·.token), ¬ Delimits spaced.token := by
    intro spaced listed
    have inside := List.mem_takeWhile_imp listed
    rw [← ends_literal_iff]
    simpa using inside
  simp only [unquotedLiteral] at read
  generalize tokens.takeWhile (!endsLiteral ·.token) = front at read whole passed
  generalize tokens.dropWhile (!endsLiteral ·.token) = behind at whole
  subst whole
  split at read
  · cases read
  · rename_i nonempty
    rw [text_from_written, List.drop_left] at read
    cases read
    exact ⟨front, rfl, by simpa using nonempty, rfl, passed⟩

abbrev Delimited : TokenStream → Prop := Before endsLiteral

theorem literal_reads : Reads Parser.literal Literal Delimited := by
  intro tokens content rest stopped
  constructor
  · intro read
    cases tokens with
    | nil => cases read
    | cons spaced behind =>
      rw [literal] at read
      split at read
      · rename_i shown closed
        cases read
        exact ⟨[spaced], rfl, .quoted ((quoted_content_iff _ _).mp closed)⟩
      · rename_i unquoted
        obtain ⟨front, whole, nonempty, rfl, inside⟩ := unquoted_literal_found read
        cases front with
        | nil => exact absurd rfl nonempty
        | cons first others =>
          rw [List.cons_append] at whole
          obtain ⟨rfl, rfl⟩ := List.cons.inj whole
          refine ⟨spaced :: others, rfl, .unquoted ?_ inside⟩
          intro shown closed
          rw [(quoted_content_iff _ _).mpr closed] at unquoted
          cases unquoted
  · rintro ⟨phrase, rfl, literal⟩
    cases literal with
    | @quoted spaced _ closed =>
      rw [List.singleton_append, Parser.literal, (quoted_content_iff _ _).mpr closed]
    | @unquoted first others bare inside =>
      have unquoted : quotedContent? first.token = none := by
        cases shown : quotedContent? first.token with
        | none => rfl
        | some content => exact absurd ((quoted_content_iff _ _).mp shown) (bare content)
      have passed : ∀ next ∈ first :: others, endsLiteral next.token = false := by
        intro next listed
        rw [Bool.eq_false_iff, ne_eq, ends_literal_iff]
        exact inside next listed
      have read := unquoted_literal_front (List.cons_ne_nil first others) passed stopped
      rw [text_from_written] at read
      rw [List.cons_append, Parser.literal, unquoted]
      exact read

theorem before_sign {sign : Symbol} {spaced : SpacedToken} (same : IsSign sign spaced) {test : Token → Bool}
    (passes : test (.symbol sign) = true) (rest : TokenStream) : Before test (spaced :: rest) := by
  rintro next others ⟨⟩
  rw [same, passes]

section
variable {α : Type} {item : Parser α} {grammar : TokenStream → α → Prop} {stops : TokenStream → Prop}
  (shortens : ∀ tokens value rest, item tokens = .ok (value, rest) → rest.length < tokens.length)

theorem listed_last {phrase : TokenStream} {value : α} (first : grammar phrase value) : Listed grammar phrase [value] :=
  ⟨[phrase], .last phrase, .cons first .nil⟩

theorem listed_more {phrase behind : TokenStream} {value : α} {values : List α} {comma : SpacedToken}
    (first : grammar phrase value) (sign : IsSign .comma comma) (others : Listed grammar behind values) :
    Listed grammar (phrase ++ comma :: behind) (value :: values) := by
  obtain ⟨parts, separated, read⟩ := others
  exact ⟨phrase :: parts, .more phrase sign separated, .cons first read⟩

-- Along the list in both directions: a comma stops each item but the last.
theorem comma_separated_reads (reads : Reads item grammar stops)
    (commas : ∀ comma rest, IsSign .comma comma → stops (comma :: rest)) :
    Reads (commaSeparated item shortens) (Listed grammar) fun rest => stops rest ∧ Before endsList rest := by
  rintro tokens values rest ⟨stopped, ends⟩
  constructor
  · intro read
    fun_induction commaSeparated item shortens tokens generalizing values with
    | case1 => cases read
    | case2 tokens value found =>
      cases read
      obtain ⟨phrase, whole, first⟩ := (reads _ _ _ stopped).mp found
      exact ⟨phrase, whole, listed_last first⟩
    | case3 tokens value comma behind found sign ih =>
      cases others : commaSeparated item shortens behind with
      | error error =>
        rw [others] at read
        cases read
      | ok pair =>
        rw [others] at read
        cases read
        obtain ⟨phrase, rfl, first⟩ := (reads _ _ _ (commas comma behind sign)).mp found
        obtain ⟨back, rfl, listed⟩ := ih pair.1 others
        refine ⟨phrase ++ comma :: back, ?_, listed_more first sign listed⟩
        rw [List.append_assoc, List.cons_append]
    | case4 tokens value next behind found other =>
      cases read
      obtain ⟨phrase, whole, first⟩ := (reads _ _ _ stopped).mp found
      exact ⟨phrase, whole, listed_last first⟩
  · rintro ⟨phrase, rfl, parts, separated, read⟩
    induction separated generalizing values with
    | last part =>
      obtain ⟨value, _, first, others, rfl⟩ := List.forall₂_cons_left_iff.mp read
      cases others
      exact comma_separated_last shortens ((reads _ value rest stopped).mpr ⟨part, rfl, first⟩) ends
    | @more part comma sign parts whole separated ih =>
      obtain ⟨value, values, first, others, rfl⟩ := List.forall₂_cons_left_iff.mp read
      have front := (reads (part ++ comma :: (whole ++ rest)) value _ (commas _ _ sign)).mpr ⟨part, rfl, first⟩
      rw [List.append_assoc, List.cons_append]
      obtain ⟨gap, token⟩ := comma
      obtain rfl : token = .symbol .comma := sign
      exact comma_separated_more shortens front (ih values others)

theorem closed_list_reads {β : Type} (reads : Reads item grammar stops)
    (commas : ∀ comma rest, IsSign .comma comma → stops (comma :: rest))
    (closings : ∀ closing rest, IsSign .rightParen closing → stops (closing :: rest)) (unclosed : SyntaxError)
    (build : List α → β) :
    Reads (commaSeparated item shortens >>= fun values => close unclosed >>= fun _ => pure (build values))
      (fun phrase result => ∃ body closing values, phrase = body ++ [closing] ∧ Listed grammar body values ∧
        IsSign .rightParen closing ∧ result = build values) anywhere := by
  have closed := fun values => (close_reads unclosed).bind fun _ => pure_reads (build values) anywhere
  have whole := (comma_separated_reads shortens reads commas).bind closed (by
    rintro values _ result rest ⟨closing, _, _, rfl, closes, -⟩ -
    exact ⟨closings closing _ closes, before_sign closes rfl _⟩)
  apply whole.of_iff
  intro phrase result
  constructor
  · rintro ⟨body, values, _, rfl, listed, closing, _, _, rfl, closes, rfl, rfl⟩
    exact ⟨body, closing, values, rfl, listed, closes, rfl⟩
  · rintro ⟨body, closing, values, rfl, listed, closes, rfl⟩
    exact ⟨body, values, _, rfl, listed, closing, (), [], rfl, closes, rfl, rfl⟩

theorem comma_separated_error {tokens : TokenStream} {error : StoreError} (failed : item tokens = .error error) :
    commaSeparated item shortens tokens = .error error := by
  rw [commaSeparated.eq_def]
  split
  · rename_i found
    rw [failed] at found
    cases found
    rfl
  · rename_i found
    rw [failed] at found
    cases found
  · rename_i found
    rw [failed] at found
    cases found

theorem comma_separated_congr {tokens others : TokenStream} (same : item tokens = item others) :
    commaSeparated item shortens tokens = commaSeparated item shortens others := by
  cases read : item others with
  | error error => rw [comma_separated_error shortens read, comma_separated_error shortens (same.trans read)]
  | ok pair =>
    obtain ⟨value, rest⟩ := pair
    by_cases ends : Before endsList rest
    · rw [comma_separated_last shortens read ends, comma_separated_last shortens (same.trans read) ends]
    · obtain ⟨comma, behind, rfl, sign⟩ : ∃ comma behind, rest = comma :: behind ∧ IsSign .comma comma := by
        simpa [Before, endsList, IsSign] using ends
      rw [comma_separated_comma shortens read sign, comma_separated_comma shortens (same.trans read) sign]

theorem separated_unique (reads : Reads item grammar stops) (commas : ∀ comma rest, IsSign .comma comma → stops (comma :: rest))
    {parts others : List TokenStream} {whole other rest behind : TokenStream} {values found : List α}
    (separated : Separated parts whole) (read : List.Forall₂ grammar parts values)
    (separatedOther : Separated others other) (readOther : List.Forall₂ grammar others found)
    (stopped : stops rest) (ends : Before endsList rest) (stoppedBehind : stops behind) (endsBehind : Before endsList behind)
    (same : whole ++ rest = other ++ behind) : parts = others ∧ values = found ∧ rest = behind := by
  induction separated generalizing others other values found with
  | last part =>
    obtain ⟨value, _, first, none, rfl⟩ := List.forall₂_cons_left_iff.mp read
    cases none
    cases separatedOther with
    | last =>
      obtain ⟨_, _, firstOther, none, rfl⟩ := List.forall₂_cons_left_iff.mp readOther
      cases none
      obtain ⟨rfl, rfl, rfl⟩ := reads.unique first firstOther stopped stoppedBehind same
      exact ⟨rfl, rfl, rfl⟩
    | @more _ comma sign =>
      obtain ⟨_, _, firstOther, -, rfl⟩ := List.forall₂_cons_left_iff.mp readOther
      rw [List.append_assoc] at same
      obtain ⟨-, -, rfl⟩ := reads.unique first firstOther stopped (commas comma _ sign) same
      have passes := ends comma _ rfl
      rw [show comma.token = _ from sign] at passes
      cases passes
  | @more part comma sign parts whole separated ih =>
    obtain ⟨value, values, first, more, rfl⟩ := List.forall₂_cons_left_iff.mp read
    rw [List.append_assoc] at same
    cases separatedOther with
    | last =>
      obtain ⟨_, _, firstOther, -, rfl⟩ := List.forall₂_cons_left_iff.mp readOther
      obtain ⟨-, -, rfl⟩ := reads.unique first firstOther (commas comma _ sign) stoppedBehind same
      have passes := endsBehind comma _ rfl
      rw [show comma.token = _ from sign] at passes
      cases passes
    | @more _ next signOther _ _ separatedOther =>
      obtain ⟨_, _, firstOther, moreOther, rfl⟩ := List.forall₂_cons_left_iff.mp readOther
      rw [List.append_assoc] at same
      obtain ⟨rfl, rfl, behindComma⟩ :=
        reads.unique first firstOther (commas comma _ sign) (commas next _ signOther) same
      obtain ⟨rfl, behindSame⟩ := List.cons.inj behindComma
      obtain ⟨rfl, rfl, rfl⟩ := ih more separatedOther moreOther behindSame
      exact ⟨rfl, rfl, rfl⟩

end

section
variable {α : Type} {test : Token → Bool} {next : Bool → Parser α}

theorem optional_present {spaced : SpacedToken} (passes : test spaced.token = true) (rest : TokenStream) :
    (optional test >>= next) (spaced :: rest) = next true rest :=
  bind_read (if_pos passes)

theorem optional_absent {tokens : TokenStream} (fails : startsWith test tokens = false) :
    (optional test >>= next) tokens = next false tokens :=
  bind_read (if_neg (by simp [fails]))

end

theorem discard_optional (test : Token → Bool) (tokens : TokenStream) :
    discard (optional test) tokens = .ok ((), if startsWith test tokens then tokens.tail else tokens) := by
  change (optional test tokens).bind (fun pair => .ok ((), pair.2)) = _
  rw [optional]
  split
  · rfl
  · rfl

theorem ending_iff (tokens rest : TokenStream) : ending tokens = .ok ((), rest) ↔ Ending tokens ∧ rest = [] := by
  constructor
  · intro read
    obtain ⟨_, behind, skipped, finished⟩ := bind_ok read
    cases behind with
    | cons next others => cases finished
    | nil =>
      cases finished
      refine ⟨?_, rfl⟩
      cases tokens with
      | nil => exact .absent
      | cons spaced others =>
        rw [discard_optional] at skipped
        split at skipped
        · rename_i semicolon
          cases skipped
          exact .semicolon (by simpa [startsWith, IsSign] using semicolon)
        · cases skipped
  · rintro ⟨ends, rfl⟩
    cases ends with
    | absent => rfl
    | @semicolon spaced sign =>
      obtain ⟨gap, token⟩ := spaced
      obtain rfl : token = .symbol .semicolon := sign
      rfl

theorem run_ok_iff {α : Type} (parser : Parser α) (tokens : TokenStream) (value : α) :
    parser.run' tokens = .ok value ↔ ∃ rest, parser tokens = .ok (value, rest) := by
  change (parser tokens).map (·.1) = .ok value ↔ _
  cases read : parser tokens with
  | error error => simp [Except.map]
  | ok pair =>
    obtain ⟨found, rest⟩ := pair
    simp [Except.map]

-- What the form leaves behind may decide how it reads its phrase.
theorem whole_ended_iff (verb : Command) (joins : Bool) {grammar : TokenStream → TokenStream → Statement → Prop}
    (reads : ∀ ending, Ending ending → Reads (form verb joins) (grammar ending) (· = ending)) (tokens : TokenStream)
    (statement : Statement) :
    (whole verb joins).run' tokens = .ok statement ↔
      ∃ phrase ending, tokens = phrase ++ ending ∧ grammar ending phrase statement ∧ Ending ending := by
  rw [run_ok_iff]
  constructor
  · rintro ⟨rest, read⟩
    obtain ⟨found, behind, formed, read⟩ := bind_ok read
    obtain ⟨_, last, ended, given⟩ := bind_ok read
    cases given
    obtain ⟨ending, rfl⟩ := (ending_iff behind rest).mp ended
    obtain ⟨phrase, whole, inPhrase⟩ := (reads behind ending tokens _ behind rfl).mp formed
    exact ⟨phrase, behind, whole, inPhrase, ending⟩
  · rintro ⟨phrase, ending, rfl, inPhrase, closed⟩
    refine ⟨[], (bind_ok_iff _ _ _).mpr ⟨statement, ending, ?_, (bind_ok_iff _ _ _).mpr ⟨(), [], ?_, rfl⟩⟩⟩
    · exact (reads ending closed _ statement ending rfl).mpr ⟨phrase, rfl, inPhrase⟩
    · exact (ending_iff ending []).mpr ⟨closed, rfl⟩

theorem whole_ok_iff (verb : Command) (joins : Bool) {grammar : TokenStream → Statement → Prop}
    {stops : TokenStream → Prop} (reads : Reads (form verb joins) grammar stops)
    (ends : ∀ ending, Ending ending → stops ending) (tokens : TokenStream) (statement : Statement) :
    (whole verb joins).run' tokens = .ok statement ↔
      ∃ phrase ending, tokens = phrase ++ ending ∧ grammar phrase statement ∧ Ending ending := by
  apply whole_ended_iff
  intro ending ended
  apply reads.weaken
  rintro rest rfl
  exact ends rest ended

def Gives {α : Type} (parser : Parser α) (holds : α → Prop) : Prop :=
  ∀ tokens value rest, parser tokens = .ok (value, rest) → holds value

theorem pure_gives {α : Type} {holds : α → Prop} {value : α} (given : holds value) : Gives (pure value) holds := by
  rintro tokens _ rest ⟨⟩
  exact given

theorem Gives.bind {α β : Type} {first : Parser α} {second : α → Parser β} {holds : β → Prop}
    (gives : ∀ value, Gives (second value) holds) : Gives (first >>= second) holds := by
  intro tokens result rest read
  obtain ⟨value, behind, _, continued⟩ := bind_ok read
  exact gives value behind result rest continued

end Parser

namespace Statement

open Grammar

def command? : Statement → Option Command
  | .createTable .. => some .create
  | .dropTable .. => some .drop
  | .insert .. => some .insert
  | .select .. | .join .. => some .select
  | .update .. => some .update
  | .delete .. => some .delete
  | .unknown .. => none

theorem command_capitals (verb : Command) : ∀ c ∈ verb.text.toList, 65 ≤ c.toNat ∧ c.toNat ≤ 90 := by
  have capitals : (verb.text.toList.all fun c => decide (65 ≤ c.toNat ∧ c.toNat ≤ 90)) = true := by
    cases verb <;> rfl
  intro c listed
  exact of_decide_eq_true (List.all_eq_true.mp capitals c listed)

theorem of_tokens_led {verb : Command} {first : SpacedToken} (leads : IsKeyword (.command verb) first)
    (rest : TokenStream) :
    ofTokens (first :: rest) = (Parser.whole verb (mentionsJoin (first :: rest))).run' (first :: rest) := by
  obtain ⟨text, shown, same⟩ := keyword_word leads
  have upper : Text.upper text = verb.text := Text.upper_of_same (command_capitals verb) same
  simp only [ofTokens, shown, upper, named_command]
  rfl

end Statement

namespace Parser

open Grammar

theorem form_gives (verb : Command) (joins : Bool) : Gives (form verb joins) (·.command? = some verb) := by
  cases verb with
  | create => exact .bind fun _ => .bind fun _ => .bind fun _ => .bind fun _ => .bind fun _ => .bind fun _ => pure_gives rfl
  | drop => exact .bind fun _ => .bind fun _ => .bind fun _ => pure_gives rfl
  | insert => exact .bind fun _ => .bind fun _ => .bind fun _ => .bind fun _ => .bind fun _ => .bind fun _ => pure_gives rfl
  | select =>
    cases joins with
    | false => exact .bind fun _ => .bind fun _ => .bind fun _ => .bind fun _ => .bind fun _ => pure_gives rfl
    | true =>
      exact .bind fun _ => .bind fun _ => .bind fun _ => .bind fun _ => .bind fun _ => .bind fun _ => .bind fun _ =>
        .bind fun _ => .bind fun _ => pure_gives rfl
  | update => exact .bind fun _ => .bind fun _ => .bind fun _ => .bind fun _ => .bind fun _ => pure_gives rfl
  | delete => exact .bind fun _ => .bind fun _ => .bind fun _ => .bind fun _ => pure_gives rfl

theorem form_begins (verb : Command) (joins : Bool) :
    ∃ body : Parser Statement, form verb joins = (keyword (.command verb) >>= fun _ => body) := by
  cases verb with
  | select =>
    cases joins with
    | false => exact ⟨_, rfl⟩
    | true => exact ⟨_, rfl⟩
  | _ => exact ⟨_, rfl⟩

theorem form_led {verb : Command} {joins : Bool} {tokens rest : TokenStream} {statement : Statement}
    (read : form verb joins tokens = .ok (statement, rest)) :
    ∃ first behind, tokens = first :: behind ∧ IsKeyword (.command verb) first := by
  obtain ⟨body, begins⟩ := form_begins verb joins
  rw [begins] at read
  obtain ⟨_, behind, led, -⟩ := bind_ok read
  obtain ⟨first, whole, leads⟩ := (keyword_reads _ _ _ _).mp led
  exact ⟨first, behind, whole, leads⟩

end Parser

namespace Statement

open Grammar

theorem of_tokens_ok_led {tokens : TokenStream} {statement : Statement} {verb : Command}
    (read : ofTokens tokens = .ok statement) (commands : statement.command? = some verb) :
    ∃ first rest, tokens = first :: rest ∧ IsKeyword (.command verb) first := by
  cases tokens with
  | nil =>
    cases read
    cases commands
  | cons first rest =>
    rw [ofTokens] at read
    split at read
    · split at read
      · cases read
        cases commands
      · rename_i found named
        obtain ⟨rest, whole⟩ := (Parser.run_ok_iff _ _ _).mp read
        obtain ⟨value, behind, formed, going⟩ := Parser.bind_ok whole
        obtain ⟨_, _, ended, given⟩ := Parser.bind_ok going
        cases given
        have same : statement.command? = some found := Parser.form_gives _ _ _ _ _ formed
        rw [commands] at same
        cases same
        exact Parser.form_led formed
    · cases read
      cases commands

end Statement

end TableStore
