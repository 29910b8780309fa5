import TableStore.Proofs.Layout

set_option autoImplicit false

/- The gaps between the tokens play no part but for the text of an unquoted literal. -/
namespace TableStore

namespace Parser

-- The next token, if there is one, passes the test.
def Before (test : Token → Bool) (tokens : TokenStream) : Prop :=
  ∀ next rest, tokens = next :: rest → test next.token = true

def anyToken : Token → Bool := fun _ => true

-- The parser takes the phrase behind this gap, gives the value and leaves the rest, if the rest begins with a token
-- that passes the test.
def Takes {α : Type} (parser : Parser α) (gap : String) (phrase : List Lexeme) (value : α) (test : Token → Bool) : Prop :=
  ∀ rest, Before test (spacedTokens "" rest) →
    parser (spacedTokens gap (phrase ++ rest)) = .ok (value, spacedTokens "" rest)

theorem before_token {test : Token → Bool} {gap source : String} {token : Token} (passes : test token = true)
    {rest : List Lexeme} : Before test (spacedTokens gap (⟨source, .token token⟩ :: rest)) := by
  intro next others same
  cases same
  exact passes

theorem any_before (tokens : TokenStream) : Before anyToken tokens := fun _ _ _ => rfl

theorem before_and_iff (test other : Token → Bool) (tokens : TokenStream) :
    Before (fun token => test token && other token) tokens ↔ Before test tokens ∧ Before other tokens := by
  cases tokens with
  | nil => simp [Before]
  | cons next rest => simp [Before]

section
variable {α β : Type} {first : Parser α} {gap : String} {phrase : List Lexeme} {value : α} {test : Token → Bool}

theorem Takes.weaken (taken : Takes first gap phrase value test) {narrow : Token → Bool}
    (narrower : ∀ token, narrow token = true → test token = true) : Takes first gap phrase value narrow := by
  intro rest before
  exact taken rest fun next others same => narrower next.token (before next others same)

theorem Takes.all (taken : Takes first gap phrase value test) : first (spacedTokens gap phrase) = .ok (value, []) := by
  have whole := taken [] fun _ _ same => nomatch same
  rwa [List.append_nil] at whole

theorem Takes.map (taken : Takes first gap phrase value test) (change : α → β) :
    Takes (first >>= fun found => pure (change found)) gap phrase (change value) test := by
  intro rest before
  simp only [bind, StateT.bind, taken rest before]
  rfl

variable {second : α → Parser β} {more : List Lexeme} {result : β} {after : Token → Bool}

theorem Takes.append_before (taken : Takes first gap phrase value test)
    (follows : ∀ rest, Before after (spacedTokens "" rest) → Before test (spacedTokens "" (more ++ rest)))
    (others : Takes (second value) "" more result after) : Takes (first >>= second) gap (phrase ++ more) result after := by
  intro rest before
  simp only [bind, StateT.bind, List.append_assoc, taken (more ++ rest) (follows rest before)]
  exact others rest before

theorem Takes.append (taken : Takes first gap phrase value anyToken) (others : Takes (second value) "" more result after) :
    Takes (first >>= second) gap (phrase ++ more) result after :=
  taken.append_before (fun _ _ => any_before _) others

variable {next : List Lexeme} {phrases : List (List Lexeme)}

theorem Takes.spaced_before (taken : Takes first gap phrase value test)
    (follows : ∀ rest, Before test (spacedTokens " " (next ++ rest)))
    (others : Takes (second value) " " (spaced (next :: phrases)) result after) :
    Takes (first >>= second) gap (spaced (phrase :: next :: phrases)) result after := by
  apply taken.append_before _ others
  intro rest _
  obtain ⟨behind, front⟩ := joined_front [.space] next phrases
  change Before test (spacedTokens " " (joined [.space] (next :: phrases) ++ rest))
  rw [front, List.append_assoc]
  exact follows _

theorem Takes.spaced (taken : Takes first gap phrase value anyToken)
    (others : Takes (second value) " " (spaced (next :: phrases)) result after) :
    Takes (first >>= second) gap (spaced (phrase :: next :: phrases)) result after :=
  taken.spaced_before (fun _ => any_before _) others

theorem Takes.alone (taken : Takes first gap phrase value test) (others : Takes (second value) "" [] result test) :
    Takes (first >>= second) gap phrase result test := by
  have both := taken.append_before (fun _ before => before) others
  rwa [List.append_nil] at both

theorem pure_takes (value : α) (test : Token → Bool) : Takes (pure value) "" [] value test := fun _ _ => rfl

-- A test that fails on what follows, so that nothing is taken for it.
theorem Takes.skip {wanted : Token → Bool} {skipped : Bool → Parser β}
    (follows : ∀ rest, Before test (spacedTokens "" rest) →
      Before (fun token => !wanted token) (spacedTokens gap (phrase ++ rest)))
    (others : Takes (skipped false) gap phrase result test) :
    Takes (optional wanted >>= skipped) gap phrase result test := by
  intro rest before
  have unlike : optional wanted (spacedTokens gap (phrase ++ rest)) =
      .ok (false, spacedTokens gap (phrase ++ rest)) := by
    have failing := follows rest before
    cases tokens : spacedTokens gap (phrase ++ rest) with
    | nil => rfl
    | cons next more =>
      have fails : wanted next.token = false := by simpa using failing next more tokens
      simp [optional, startsWith, fails]
  simp only [bind, StateT.bind, unlike]
  exact others rest before

end

theorem keyword_takes (gap : String) (expected : Keyword) : Takes (keyword expected) gap [.keyword expected] () anyToken := by
  intro rest _
  have same : Text.sameIgnoringCase expected.text expected.text = true := by simp [Text.sameIgnoringCase]
  simp [Lexeme.keyword, Lexeme.word, spacedTokens, keyword, Token.isKeyword, same]

theorem name_takes (gap : String) (role : NameRole) (content : String) :
    Takes (name role) gap [.name content] content anyToken := fun _ _ => rfl

theorem word_takes (gap : String) (role : NameRole) (text : String) :
    Takes (name role) gap [.word text] text anyToken := fun _ _ => rfl

theorem sign_takes (gap : String) (expected : Symbol) : Takes (sign expected) gap [.sign expected] () anyToken := by
  intro rest _
  simp [Lexeme.sign, spacedTokens, sign]

theorem text_takes (gap content : String) : Takes literal gap [.text content] content anyToken := fun _ _ => rfl

theorem type_name_takes (gap column type : String) : Takes (typeName column) gap [.name type] type anyToken :=
  fun _ _ => rfl

def endsColumn (token : Token) : Bool := token == .symbol .comma || token == .symbol .rightParen

theorem modifiers_take : Takes (modifiers 0) "" [] () endsColumn := by
  intro rest before
  rw [List.nil_append]
  cases tokens : spacedTokens "" rest with
  | nil => rfl
  | cons next others =>
    have ends := before next others tokens
    simp only [endsColumn, Bool.or_eq_true, beq_iff_eq] at ends
    rw [modifiers, if_pos ⟨ends, rfl⟩]

theorem column_def_takes (gap : String) (column : ColumnDef) :
    Takes columnDef gap column.layout column endsColumn := by
  apply (name_takes gap .column column.name).spaced
  exact ((type_name_takes " " column.name column.typeName).weaken fun _ _ => rfl).alone (modifiers_take.map _)

theorem assignment_takes (gap : String) (assignment : Assignment) :
    Takes Parser.assignment gap assignment.layout assignment anyToken := by
  apply (name_takes gap .column assignment.column).spaced
  apply (sign_takes " " .equal).spaced
  exact (text_takes " " assignment.value).map _

section
variable {α : Type} {item : Parser α}
  (shortens : ∀ tokens value rest, item tokens = .ok (value, rest) → rest.length < tokens.length)

def endsList (token : Token) : Bool := token != .symbol .comma

theorem comma_separated_last {tokens rest : TokenStream} {value : α} (read : item tokens = .ok (value, rest))
    (before : Before endsList rest) : commaSeparated item shortens tokens = .ok ([value], rest) := by
  rw [commaSeparated.eq_def]
  split
  · rename_i failed
    rw [read] at failed
    cases failed
  · rename_i found
    rw [read] at found
    cases found
    rfl
  · rename_i next others found
    rw [read] at found
    cases found
    have other := before next others rfl
    rw [if_neg (by simpa [endsList] using other)]

theorem comma_separated_comma {tokens rest : TokenStream} {value : α} {comma : SpacedToken}
    (read : item tokens = .ok (value, comma :: rest)) (sign : comma.token = .symbol .comma) :
    commaSeparated item shortens tokens =
      (commaSeparated item shortens rest).map fun pair => (value :: pair.1, pair.2) := by
  rw [commaSeparated.eq_def]
  split
  · rename_i failed
    rw [read] at failed
    cases failed
  · rename_i found
    rw [read] at found
    cases found
  · rename_i next others found
    rw [read] at found
    cases found
    rw [if_pos sign]

theorem comma_separated_more {tokens rest behind : TokenStream} {value : α} {values : List α} {gap : String}
    (read : item tokens = .ok (value, ⟨gap, .symbol .comma⟩ :: rest))
    (others : commaSeparated item shortens rest = .ok (values, behind)) :
    commaSeparated item shortens tokens = .ok (value :: values, behind) := by
  rw [comma_separated_comma shortens read rfl, others]
  rfl

-- Induction on the items; each of them is read before a comma or before what ends the list.
theorem comma_separated_takes {ι : Type} (phrase : ι → List Lexeme) (value : ι → α) {test : Token → Bool}
    (comma : test (.symbol .comma) = true) (items : List ι) (nonempty : items ≠ [])
    (taken : ∀ gap, ∀ i ∈ items, Takes item gap (phrase i) (value i) test) (gap : String) :
    Takes (commaSeparated item shortens) gap (listed (items.map phrase)) (items.map value)
      fun token => test token && endsList token := by
  intro rest before
  induction items generalizing gap with
  | nil => exact absurd rfl nonempty
  | cons i others ih =>
    have first := taken gap i (List.mem_cons_self ..)
    cases others with
    | nil =>
      obtain ⟨item, list⟩ := (before_and_iff test endsList _).mp before
      exact comma_separated_last shortens (first rest item) list
    | cons j more =>
      have behind := ih (List.cons_ne_nil j more) (fun gap k listed => taken gap k (List.mem_cons_of_mem _ listed)) " "
      have front := first (.sign .comma :: .space :: (listed ((j :: more).map phrase) ++ rest)) (before_token comma)
      rw [List.map_cons, List.map_cons, listed, joined, List.append_assoc]
      exact comma_separated_more shortens front behind

end

theorem optional_takes (gap : String) (wanted : Symbol) :
    Takes (optional (· == .symbol wanted)) gap [.sign wanted] true anyToken := by
  intro rest _
  simp [Lexeme.sign, spacedTokens, optional, startsWith]

theorem close_takes (gap : String) (unclosed : SyntaxError) :
    Takes (close unclosed) gap [.sign .rightParen] () anyToken := fun _ _ => rfl

section
variable {ι : Type} (phrase : ι → List Lexeme) (column : ι → ColumnDef) (items : List ι) (nonempty : items ≠ [])
  (taken : ∀ gap, ∀ i ∈ items, Takes columnDef gap (phrase i) (column i) endsColumn)
include nonempty taken

theorem creation_takes {spelled : List Lexeme} {table : String} (named : Takes (name .table) " " spelled table anyToken) :
    Takes createTable "" (spaced [[.keyword (.command .create)], [.keyword .table], spelled,
      enclosed (listed (items.map phrase))]) (.createTable table (items.map column)) anyToken := by
  have columns := comma_separated_takes column_def_shortens phrase column rfl items nonempty taken ""
  apply (keyword_takes _ _).spaced
  apply (keyword_takes _ _).spaced
  apply named.spaced
  apply (sign_takes _ .leftParen).append
  apply columns.append_before fun _ _ => before_token rfl
  exact (close_takes _ _).map _

end

theorem create_table_takes (name : String) {columns : List ColumnDef} (nonempty : columns ≠ []) :
    Takes createTable "" (spaced (Statement.createTable name columns).phrases) (.createTable name columns) anyToken := by
  have taken := creation_takes ColumnDef.layout id columns nonempty (fun gap column _ => column_def_takes gap column)
    (name_takes " " .table name)
  rwa [List.map_id] at taken

theorem drop_table_takes (name : String) :
    Takes dropTable "" (spaced (Statement.dropTable name).phrases) (.dropTable name) anyToken := by
  apply (keyword_takes _ _).spaced
  apply (keyword_takes _ _).spaced
  exact (name_takes _ _ name).map _

-- The phrase stands for the content as a value. It may not start with what closes a list, for an empty list is told
-- by that.
structure Spells (phrase : List Lexeme) (content : String) : Prop where
  detached : Detached phrase
  opens : ∀ gap rest, Before (fun token => !(token == .symbol .rightParen)) (spacedTokens gap (phrase ++ rest))
  taken : ∀ gap, Takes literal gap phrase content endsLiteral

theorem text_spells (content : String) : Spells [.text content] content where
  detached := text_detached content
  opens _ _ := before_token rfl
  taken gap := (text_takes gap content).weaken fun _ _ => rfl

section
variable {ι : Type} (phrase : ι → List Lexeme) (content : ι → String) (items : List ι)
  (spelled : ∀ i ∈ items, Spells (phrase i) (content i))
include spelled

theorem value_list_takes :
    Takes valueList "" (listed (items.map phrase) ++ [.sign .rightParen]) (items.map content) anyToken := by
  cases items with
  | nil => exact fun _ _ => rfl
  | cons i others =>
    have values := comma_separated_takes literal_shortens phrase content rfl (i :: others) (List.cons_ne_nil i others)
      (fun gap j listed => (spelled j listed).taken gap) ""
    apply Takes.skip
    · intro rest _
      obtain ⟨behind, front⟩ := joined_front [.sign .comma, .space] (phrase i) (others.map phrase)
      rw [List.map_cons, listed, front, List.append_assoc, List.append_assoc]
      exact (spelled i (List.mem_cons_self ..)).opens "" _
    · apply values.append_before fun _ _ => before_token rfl
      exact (close_takes _ _).map _

theorem insert_takes (table : String) :
    Takes insert "" (spaced (insertion table (items.map phrase))) (.insert table (items.map content)) anyToken := by
  apply (keyword_takes _ _).spaced
  apply (keyword_takes _ _).spaced
  apply (name_takes _ _ table).spaced
  apply (keyword_takes _ _).spaced
  apply (sign_takes _ .leftParen).append
  exact (value_list_takes phrase content items spelled).map _

end

theorem projection_takes (gap : String) (projection : Projection)
    (nonempty : ∀ names, projection = .columns names → names ≠ []) :
    Takes Parser.projection gap projection.layout projection endsList := by
  cases projection with
  | all => exact fun _ _ => rfl
  | columns names =>
    cases names with
    | nil => exact absurd rfl (nonempty [] rfl)
    | cons first others =>
      apply Takes.skip
      · intro rest _
        obtain ⟨behind, front⟩ :=
          joined_front [.sign .comma, .space] [.name first] (others.map fun name => [.name name])
        rw [Projection.layout, List.map_cons, listed, front]
        exact before_token rfl
      · cases others with
        | nil =>
          apply ((name_takes gap .columnOrStar first).weaken fun _ _ => rfl).alone
          exact Takes.skip (fun _ before => before) (pure_takes _ _)
        | cons second more =>
          have items := comma_separated_takes (name_shortens .column) (fun name => [.name name]) id rfl (second :: more)
            (List.cons_ne_nil second more) (fun gap content _ => name_takes gap .column content) " "
          rw [List.map_id] at items
          apply (name_takes gap .columnOrStar first).append
          apply (optional_takes "" .comma).append
          exact items.map _

theorem unquoted_literal_front {front rest : TokenStream} (nonempty : front ≠ [])
    (inside : ∀ next ∈ front, endsLiteral next.token = false) (before : Before endsLiteral rest) :
    unquotedLiteral (front ++ rest) = (textFrom (front ++ rest) 0 front.length).map fun text => (text, rest) := by
  have behind : rest.takeWhile (fun next => !endsLiteral next.token) = [] := by
    cases rest with
    | nil => rfl
    | cons next others => exact List.takeWhile_cons_of_neg (by simp [before next others rfl])
  have taken : (front ++ rest).takeWhile (fun next => !endsLiteral next.token) = front := by
    rw [List.takeWhile_append_of_pos (by simpa using inside), behind, List.append_nil]
  simp only [unquotedLiteral, taken, List.drop_left]
  rw [if_neg (by simpa using nonempty)]

theorem decimal_takes (gap : String) (n : Int) : Takes literal gap (decimal n) (toString n) endsLiteral := by
  intro rest before
  cases n with
  | ofNat m =>
    have inside : ∀ next ∈ [SpacedToken.mk gap (.number (toString m) false)], endsLiteral next.token = false := by
      simp [endsLiteral, Token.isKeyword]
    have shown : (m : Int).repr = m.repr := rfl
    refine (unquoted_literal_front (List.cons_ne_nil _ _) inside before).trans ?_
    simp [textFrom, tokenAt, Token.text, shown, bind, Except.bind, pure, Except.pure, Except.map]
  | negSucc m =>
    have inside : ∀ next ∈ [SpacedToken.mk gap (.symbol .minus), ⟨"", .number (toString (m + 1)) false⟩],
        endsLiteral next.token = false := by
      simp [endsLiteral, Token.isKeyword]
    have shown : toString (Int.negSucc m) = "-" ++ toString (m + 1) := rfl
    refine (unquoted_literal_front (List.cons_ne_nil _ _) inside before).trans ?_
    simp [textFrom, tokenAt, gapAt, Token.text, Symbol.text, shown, bind, Except.bind, pure, Except.pure, Except.map]

theorem decimal_spells (n : Int) : Spells (decimal n) (toString n) where
  detached := decimal_detached n
  opens gap rest := by
    cases n with
    | ofNat m => exact before_token rfl
    | negSucc m => exact before_token rfl
  taken gap := decimal_takes gap n

theorem key_filter_takes (gap : String) (key : Int64) :
    Takes keyFilter gap (spaced (keyCondition key)) key endsLiteral := by
  have cleaned : Decimal.read (Text.trim (Text.trimQuoteMarks (toString key.toInt))) = some key := by
    change Decimal.read (Text.trim (Text.trimQuoteMarks (Decimal.write key))) = some key
    rw [Decimal.trim_quote_marks_write, Decimal.trim_write, Decimal.read_write]
  apply (keyword_takes _ _).spaced
  apply (word_takes _ _ "id").spaced
  rw [if_neg (by decide)]
  apply (sign_takes _ .equal).spaced
  apply (decimal_takes _ key.toInt).alone
  simp only [cleaned]
  exact pure_takes _ _

theorem key_condition_starts (gap : String) (key : Int64) (rest : List Lexeme) :
    startsWith (·.isKeyword Keyword.whereClause.text) (spacedTokens gap (spaced (keyCondition key) ++ rest)) = true :=
  rfl

theorem required_filter_takes (gap : String) (missing : SyntaxError) (key : Int64) :
    Takes (requiredFilter missing) gap (spaced (keyCondition key)) key endsLiteral := by
  intro rest before
  rw [requiredFilter, if_pos (key_condition_starts gap key rest)]
  exact key_filter_takes gap key rest before

theorem optional_filter_takes (gap : String) (key : Int64) :
    Takes optionalFilter gap (spaced (keyCondition key)) (some key) endsLiteral := by
  intro rest before
  rw [optionalFilter, if_pos (key_condition_starts gap key rest)]
  exact ((key_filter_takes gap key).map some) rest before

def noFilter (token : Token) : Bool := !token.isKeyword Keyword.whereClause.text

theorem no_filter_takes : Takes optionalFilter "" [] none noFilter := by
  intro rest before
  rw [List.nil_append]
  have unlike : startsWith (·.isKeyword Keyword.whereClause.text) (spacedTokens "" rest) = false := by
    cases tokens : spacedTokens "" rest with
    | nil => rfl
    | cons next others => simpa [noFilter, startsWith] using before next others tokens
  simp [optionalFilter, unlike]

theorem select_takes (table : String) {shown : Projection} (nonempty : ∀ names, shown = .columns names → names ≠ [])
    (key : Option Int64) :
    Takes select "" (spaced (Statement.select table shown key).phrases) (.select table shown key)
      (fun token => endsLiteral token && noFilter token) := by
  cases key with
  | none =>
    apply (keyword_takes _ _).spaced
    apply (projection_takes _ _ nonempty).spaced_before fun _ => before_token rfl
    apply (keyword_takes _ _).spaced
    apply ((name_takes _ _ table).weaken fun _ _ => rfl).alone
    exact (no_filter_takes.weaken fun _ both => (Bool.and_eq_true _ _ ▸ both).2).map _
  | some key =>
    apply (keyword_takes _ _).spaced
    apply (projection_takes _ _ nonempty).spaced_before fun _ => before_token rfl
    apply (keyword_takes _ _).spaced
    apply (name_takes _ _ table).spaced
    exact ((optional_filter_takes _ key).weaken fun _ both => (Bool.and_eq_true _ _ ▸ both).1).map _

theorem update_takes (table : String) {assignments : List Assignment} (nonempty : assignments ≠ []) (key : Int64) :
    Takes update "" (spaced (Statement.update table assignments key).phrases) (.update table assignments key)
      endsLiteral := by
  have items := comma_separated_takes assignment_shortens Assignment.layout id rfl assignments nonempty
    (fun gap assigned _ => assignment_takes gap assigned) " "
  apply (keyword_takes _ _).spaced
  apply (name_takes _ _ table).spaced
  apply (keyword_takes _ _).spaced
  apply items.spaced_before fun _ => before_token rfl
  rw [List.map_id]
  exact (required_filter_takes _ _ key).map _

theorem delete_takes (table : String) (key : Int64) :
    Takes delete "" (spaced (Statement.delete table key).phrases) (.delete table key) endsLiteral := by
  apply (keyword_takes _ _).spaced
  apply (keyword_takes _ _).spaced
  apply (name_takes _ _ table).spaced
  exact (required_filter_takes _ _ key).map _

end Parser

end TableStore
