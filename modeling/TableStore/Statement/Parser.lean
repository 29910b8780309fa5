import TableStore.Error
import TableStore.Token.Stream
import TableStore.Text.Decimal

set_option autoImplicit false

/- The items of a list take at least one token each, so every list ends. -/
namespace TableStore

abbrev Parser := StateT TokenStream (Except StoreError)

namespace Parser

def malformed {α : Type} (cause : SyntaxError) : Except StoreError α := .error (.malformed cause)

def keyword (expected : Keyword) : Parser Unit
  | [] => malformed (.expectedKeyword expected none)
  | spaced :: rest =>
    if spaced.token.isKeyword expected.text then .ok ((), rest)
    else malformed (.expectedKeyword expected (some spaced.token))

def name (role : NameRole) : Parser String
  | [] => malformed (.expectedName role none)
  | spaced :: rest =>
    match spaced.token with
    | .word text _ => .ok (text, rest)
    | token => malformed (.expectedName role (some token))

def sign (expected : Symbol) : Parser Unit
  | [] => malformed (.expectedSymbol expected none)
  | spaced :: rest =>
    if spaced.token = .symbol expected then .ok ((), rest)
    else malformed (.expectedSymbol expected (some spaced.token))

def startsWith (test : Token → Bool) : TokenStream → Bool
  | [] => false
  | spaced :: _ => test spaced.token

def optional (test : Token → Bool) : Parser Bool := fun tokens =>
  if startsWith test tokens then .ok (true, tokens.tail) else .ok (false, tokens)

def endsLiteral (token : Token) : Bool :=
  token == .symbol .comma || token == .symbol .rightParen || token == .symbol .semicolon ||
    token.isKeyword Keyword.whereClause.text

def quotedContent? : Token → Option String
  | .literal .single content | .literal .double content => some content
  | .word text (some _) => some text
  | _ => none

def tokenAt (tokens : TokenStream) (index : Nat) : Except StoreError Token :=
  match tokens[index]? with
  | some spaced => .ok spaced.token
  | none => .error (.internal (.missingToken index))

def gapAt (tokens : TokenStream) (index : Nat) : Except StoreError String :=
  match tokens[index]? with
  | some spaced => .ok spaced.gap
  | none => .error (.internal (.missingGap index))

-- The gap before the first token of all is left out.
def textFrom (tokens : TokenStream) (index : Nat) : Nat → Except StoreError String
  | 0 => .ok ""
  | count + 1 => do
    let gap ← if index = 0 then pure "" else gapAt tokens index
    let token ← tokenAt tokens index
    return gap ++ token.text ++ (← textFrom tokens (index + 1) count)

-- Tokens up to a comma, a closing parenthesis, a semicolon or WHERE, as they were written.
def unquotedLiteral : Parser String := fun tokens =>
  let count := (tokens.takeWhile (!endsLiteral ·.token)).length
  if count = 0 then malformed .missingValue
  else (textFrom tokens 0 count).map fun text => (text, tokens.drop count)

def literal : Parser String := fun tokens =>
  match tokens with
  | [] => unquotedLiteral tokens
  | spaced :: rest =>
    match quotedContent? spaced.token with
    | some content => .ok (content, rest)
    | none => unquotedLiteral tokens

def commaSeparated {α : Type} (item : Parser α)
    (shortens : ∀ tokens value rest, item tokens = .ok (value, rest) → rest.length < tokens.length) :
    Parser (List α) := fun tokens =>
  match _ : item tokens with
  | .error error => .error error
  | .ok (value, []) => .ok ([value], [])
  | .ok (value, spaced :: rest) =>
    if spaced.token = .symbol .comma then
      (commaSeparated item shortens rest).map fun (values, behind) => (value :: values, behind)
    else .ok ([value], spaced :: rest)
termination_by tokens => tokens.length
decreasing_by
  have shorter := shortens _ _ _ ‹item _ = .ok (_, spaced :: rest)›
  simp only [List.length_cons] at shorter
  omega

-- The parenthesis that closes a list; its absence is reported as `unclosed` at the end of the tokens.
def close (unclosed : SyntaxError) : Parser Unit
  | [] => malformed unclosed
  | spaced :: rest =>
    if spaced.token = .symbol .rightParen then .ok ((), rest) else malformed (.expectedCommaOrClose spaced.token)

def typeName (column : String) : Parser String
  | [] => malformed (.missingType column)
  | spaced :: rest =>
    match spaced.token with
    | .word text _ => .ok (text, rest)
    | .symbol .comma | .symbol .rightParen => malformed (.missingType column)
    | token => .ok (token.text, rest)

-- Passes over what a type may carry behind its name, up to a comma or a closing parenthesis outside of `depth`
-- open ones.
def modifiers : Nat → Parser Unit
  | _, [] => .ok ((), [])
  | depth, spaced :: rest =>
    if (spaced.token = .symbol .comma ∨ spaced.token = .symbol .rightParen) ∧ depth = 0 then .ok ((), spaced :: rest)
    else if spaced.token = .symbol .leftParen then modifiers (depth + 1) rest
    else if spaced.token = .symbol .rightParen then
      match lessOne depth with
      | .error error => .error error
      | .ok outer => modifiers outer rest
    else modifiers depth rest

def columnDef : Parser ColumnDef := do
  let column ← name .column
  let typed ← typeName column
  modifiers 0
  return ⟨column, typed⟩

def assignment : Parser Assignment := do
  let column ← name .column
  sign .equal
  let value ← literal
  return ⟨column, value⟩

theorem name_shortens (role : NameRole) (tokens : TokenStream) (text : String) (rest : TokenStream)
    (read : name role tokens = .ok (text, rest)) : rest.length < tokens.length := by
  cases tokens with
  | nil => cases read
  | cons spaced behind =>
    simp only [name] at read
    split at read
    · cases read
      exact Nat.lt_succ_self _
    · cases read

theorem unquoted_literal_shortens (tokens : TokenStream) (text : String) (rest : TokenStream)
    (read : unquotedLiteral tokens = .ok (text, rest)) : rest.length < tokens.length := by
  simp only [unquotedLiteral] at read
  split at read
  · cases read
  · rename_i some
    have inside := (List.takeWhile_prefix (l := tokens) fun spaced => !endsLiteral spaced.token).length_le
    cases written : textFrom tokens 0 (tokens.takeWhile fun spaced => !endsLiteral spaced.token).length with
    | error error =>
      rw [written] at read
      cases read
    | ok shown =>
      rw [written] at read
      cases read
      rw [List.length_drop]
      omega

theorem literal_shortens (tokens : TokenStream) (text : String) (rest : TokenStream)
    (read : literal tokens = .ok (text, rest)) : rest.length < tokens.length := by
  cases tokens with
  | nil => exact unquoted_literal_shortens _ _ _ read
  | cons spaced behind =>
    simp only [literal] at read
    split at read
    · cases read
      exact Nat.lt_succ_self _
    · exact unquoted_literal_shortens _ _ _ read

theorem type_name_shortens (column : String) (tokens : TokenStream) (text : String) (rest : TokenStream)
    (read : typeName column tokens = .ok (text, rest)) : rest.length < tokens.length := by
  cases tokens with
  | nil => cases read
  | cons spaced behind =>
    simp only [typeName] at read
    split at read <;> first
      | (cases read; exact Nat.lt_succ_self _)
      | cases read

theorem sign_shortens (expected : Symbol) (tokens : TokenStream) (rest : TokenStream)
    (read : sign expected tokens = .ok ((), rest)) : rest.length < tokens.length := by
  cases tokens with
  | nil => cases read
  | cons spaced behind =>
    simp only [sign] at read
    split at read
    · cases read
      exact Nat.lt_succ_self _
    · cases read

theorem modifiers_length (depth : Nat) (tokens rest : TokenStream)
    (passed : modifiers depth tokens = .ok ((), rest)) : rest.length ≤ tokens.length := by
  fun_induction modifiers depth tokens with
  | case1 =>
    cases passed
    exact Nat.le_refl _
  | case2 depth spaced behind ends =>
    cases passed
    exact Nat.le_refl _
  | case3 depth spaced behind inside opens ih => exact Nat.le_succ_of_le (ih passed)
  | case4 => cases passed
  | case5 depth spaced behind inside notOpen closes outer lowered ih => exact Nat.le_succ_of_le (ih passed)
  | case6 depth spaced behind inside notOpen notClosed ih => exact Nat.le_succ_of_le (ih passed)

theorem bind_ok {α β : Type} {first : Parser α} {second : α → Parser β} {tokens rest : TokenStream} {value : β}
    (read : (first >>= second) tokens = .ok (value, rest)) :
    ∃ inner behind, first tokens = .ok (inner, behind) ∧ second inner behind = .ok (value, rest) := by
  simp only [bind, StateT.bind, Except.bind] at read
  split at read
  · cases read
  · rename_i pair found
    exact ⟨pair.1, pair.2, found, read⟩

theorem column_def_shortens (tokens : TokenStream) (column : ColumnDef) (rest : TokenStream)
    (read : columnDef tokens = .ok (column, rest)) : rest.length < tokens.length := by
  obtain ⟨text, afterName, named, read⟩ := bind_ok read
  obtain ⟨typed, afterType, typeRead, read⟩ := bind_ok read
  obtain ⟨_, behind, passed, read⟩ := bind_ok read
  have nameShorter := name_shortens _ _ _ _ named
  have typeShorter := type_name_shortens _ _ _ _ typeRead
  have notLonger := modifiers_length 0 afterType behind passed
  cases read
  omega

theorem assignment_shortens (tokens : TokenStream) (assigned : Assignment) (rest : TokenStream)
    (read : assignment tokens = .ok (assigned, rest)) : rest.length < tokens.length := by
  obtain ⟨text, afterName, named, read⟩ := bind_ok read
  obtain ⟨_, afterSign, signed, read⟩ := bind_ok read
  obtain ⟨value, afterValue, valued, read⟩ := bind_ok read
  have nameShorter := name_shortens _ _ _ _ named
  have signShorter := sign_shortens _ _ _ signed
  have valueShorter := literal_shortens _ _ _ valued
  cases read
  omega

-- CREATE TABLE name (column type, …)
def createTable : Parser Statement := do
  keyword (.command .create)
  keyword .table
  let table ← name .table
  sign .leftParen
  let columns ← commaSeparated columnDef column_def_shortens
  close .openColumnList
  return .createTable table columns

-- DROP TABLE name
def dropTable : Parser Statement := do
  keyword (.command .drop)
  keyword .table
  return .dropTable (← name .table)

def valueList : Parser (List String) := do
  if ← optional (· == .symbol .rightParen) then
    return []
  let values ← commaSeparated literal literal_shortens
  close .openValueList
  return values

-- INSERT INTO name VALUES (value, …), where the list may be empty
def insert : Parser Statement := do
  keyword (.command .insert)
  keyword .into
  let table ← name .table
  keyword .values
  sign .leftParen
  return .insert table (← valueList)

def projection : Parser Projection := do
  if ← optional (· == .symbol .star) then
    return .all
  let first ← name .columnOrStar
  if ← optional (· == .symbol .comma) then
    return .columns (first :: (← commaSeparated (name .column) (name_shortens .column)))
  return .columns [first]

-- WHERE id = key, with the name in any case
def keyFilter : Parser Int64 := do
  keyword .whereClause
  let column ← name .column
  if !Text.sameIgnoringCase column "id" then
    throw (.unsupportedPredicate column)
  sign .equal
  let written ← literal
  let cleaned := Text.trim (Text.trimQuoteMarks written)
  match Decimal.read cleaned with
  | some key => return key
  | none => throw (.typeCoercion "id" cleaned)

def requiredFilter (missing : SyntaxError) : Parser Int64 := fun tokens =>
  if startsWith (·.isKeyword Keyword.whereClause.text) tokens then keyFilter tokens else malformed missing

def optionalFilter : Parser (Option Int64) := fun tokens =>
  if startsWith (·.isKeyword Keyword.whereClause.text) tokens then (some <$> keyFilter) tokens else .ok (none, tokens)

-- SELECT * FROM name, or SELECT column, … FROM name, with or without a filter
def select : Parser Statement := do
  keyword (.command .select)
  let shown ← projection
  keyword .fromClause
  let table ← name .table
  return .select table shown (← optionalFilter)

def endsInSemicolon (tokens : TokenStream) : Bool := tokens.getLast?.any (·.token == .symbol .semicolon)

def predicate : Parser String := fun tokens => do
  let count ← if endsInSemicolon tokens then lessOne tokens.length else pure tokens.length
  if count = 0 then malformed .missingPredicate
  else return (← textFrom tokens 0 count, tokens.drop count)

-- SELECT … FROM left [INNER] JOIN right ON predicate; what is selected is passed over
def join : Parser Statement := do
  keyword (.command .select)
  modify (List.dropWhile fun spaced => !spaced.token.isKeyword Keyword.fromClause.text)
  keyword .fromClause
  let left ← name .leftTable
  discard (optional (·.isKeyword Keyword.inner.text))
  keyword .join
  let right ← name .rightTable
  keyword .onClause
  return .join left right (← predicate)

-- UPDATE name SET column = value, … WHERE id = key
def update : Parser Statement := do
  keyword (.command .update)
  let table ← name .table
  keyword .setClause
  let assignments ← commaSeparated assignment assignment_shortens
  return .update table assignments (← requiredFilter .missingUpdateFilter)

-- DELETE FROM name WHERE id = key
def delete : Parser Statement := do
  keyword (.command .delete)
  keyword .fromClause
  let table ← name .table
  return .delete table (← requiredFilter .missingDeleteFilter)

def form (verb : Command) (joins : Bool) : Parser Statement :=
  match verb with
  | .create => createTable
  | .drop => dropTable
  | .insert => insert
  | .select => if joins then join else select
  | .update => update
  | .delete => delete

def ending : Parser Unit := do
  discard (optional (· == .symbol .semicolon))
  match ← get with
  | [] => return
  | spaced :: _ => malformed (.afterEnd spaced.token)

def whole (verb : Command) (joins : Bool) : Parser Statement := do
  let statement ← form verb joins
  ending
  return statement

end Parser

namespace Statement

def ofTokens (tokens : TokenStream) : Except StoreError Statement :=
  match tokens with
  | [] => .ok (.unknown "")
  | spaced :: _ =>
    match spaced.token with
    | .word text none =>
      match Command.named? (Text.upper text) with
      | none => .ok (.unknown (Text.upper text))
      | some verb => (Parser.whole verb (tokens.any (·.token.isKeyword Keyword.join.text))).run' tokens
    | token => .ok (.unknown token.text)

def isNameChar (c : Char) : Bool := c.isAlphanum || c == '_'

def leadingName (text : String) : String := Text.upper (String.ofList (text.toList.takeWhile isNameChar))

-- A text that starts with no command is not even cut into tokens, so its rest never makes it fail.
def parse (sql : String) : Except StoreError Statement :=
  let text := Text.trim sql
  match Command.named? (leadingName text) with
  | none => .ok (.unknown (Text.upper (Text.firstWord text)))
  | some _ =>
    match tokenize text with
    | .error error => .error (.malformed (.misread error))
    | .ok tokens => ofTokens tokens

end Statement

end TableStore
