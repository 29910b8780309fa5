import TableStore.Token
import TableStore.Token.Escape
import TableStore.Unicode.Alphabetic
import TableStore.Unicode.Numeric

set_option autoImplicit false

/- Each step reads one piece and leaves the rest of the text as a suffix. -/
namespace TableStore

open Unicode

inductive Piece where
  | gap (shown : String)
  | token (token : Token)
deriving DecidableEq

abbrev Scan := Except ScanFault (Piece × List Char)

structure Lexeme where
  source : String
  piece : Piece
deriving DecidableEq

namespace Lexeme

def isWordStart (c : Char) : Bool := isAlphabetic c || c == '_'

def isWordPart (c : Char) : Bool := isAlphabetic c || c.isDigit || c == '@' || c == '$' || c == '#' || c == '_'

def isTagPart (c : Char) : Bool := isAlphabetic c || isNumeric c || c == '_'

def wordFrom (head rest : List Char) : Scan :=
  .ok (.token (.word (String.ofList (head ++ rest.takeWhile isWordPart)) none), rest.dropWhile isWordPart)

-- A literal whose body starts at `rest`; a missing end is reported at `unread`.
def literal (style : LiteralStyle) (mark : Char) (escapes : Bool) (unread rest : List Char) : Scan :=
  match Quoted.body mark escapes rest with
  | some (content, behind) => .ok (.token (.literal style (String.ofList content)), behind)
  | none => .error ⟨.openLiteral, unread⟩

def tripleLiteral (style : LiteralStyle) (mark : Char) (rest : List Char) : Scan :=
  match Quoted.tripleBody mark rest with
  | some (content, behind) => .ok (.token (.literal style (String.ofList content)), behind)
  | none => .error ⟨.openLiteral, rest⟩

-- One mark opens a raw literal, two are an empty one, three open a raw literal that three marks close.
def rawLiteral (short long : LiteralStyle) (mark : Char) (rest : List Char) : Scan :=
  match rest with
  | [] => literal short mark false rest rest
  | c :: more =>
    if c = mark then
      match more with
      | [] => .ok (.token (.literal short ""), more)
      | d :: inner =>
        if d = mark then tripleLiteral long mark inner else .ok (.token (.literal short ""), more)
    else literal short mark false rest rest

def byteOrWord (c : Char) : List Char → Scan
  | '\x27' :: rest => literal .byteSingle '\x27' false ('\x27' :: rest) rest
  | '\x22' :: rest => literal .byteDouble '\x22' false ('\x22' :: rest) rest
  | rest => wordFrom [c] rest

def rawOrWord (c : Char) : List Char → Scan
  | '\x27' :: rest => rawLiteral .rawSingle .rawTripleSingle '\x27' rest
  | '\x22' :: rest => rawLiteral .rawDouble .rawTripleDouble '\x22' rest
  | rest => wordFrom [c] rest

def letterLiteral (style : LiteralStyle) (c : Char) : List Char → Scan
  | '\x27' :: rest => literal style '\x27' true ('\x27' :: rest) rest
  | rest => wordFrom [c] rest

def escapedOrWord (c : Char) : List Char → Scan
  | '\x27' :: rest =>
    match Quoted.escapedBody rest with
    | some (content, behind) => .ok (.token (.literal .escaped (String.ofList content)), behind)
    | none => .error ⟨.openEscapedLiteral, c :: '\x27' :: rest⟩
  | rest => wordFrom [c] rest

def unicodeOrWord (c : Char) : List Char → Scan
  | '&' :: '\x27' :: rest =>
    match Quoted.unicodeBody rest with
    | .ok (content, behind) => .ok (.token (.literal .unicode (String.ofList content)), behind)
    | .error fault => .error fault
  | rest => wordFrom [c] rest

def quotedWord (quote : WordQuote) (rest : List Char) : Scan :=
  match Quoted.body quote.mark false rest with
  | some (content, behind) => .ok (.token (.word (String.ofList content) (some quote)), behind)
  | none => .error ⟨.openWord quote.mark, quote.mark :: rest⟩

-- An exponent counts only if a digit follows its sign.
def exponent (cs : List Char) : List Char × List Char :=
  match cs with
  | e :: sign :: rest =>
    if e = 'e' ∨ e = 'E' then
      if sign.isDigit then (e :: (sign :: rest).takeWhile Char.isDigit, (sign :: rest).dropWhile Char.isDigit)
      else if (sign = '+' ∨ sign = '-') ∧ rest.head?.any Char.isDigit then
        (e :: sign :: rest.takeWhile Char.isDigit, rest.dropWhile Char.isDigit)
      else ([], cs)
    else ([], cs)
  | _ => ([], cs)

def longMark : List Char → Bool × List Char
  | 'L' :: rest => (true, rest)
  | rest => (false, rest)

-- A numeral up to its point, if it has one, and what follows: digits, an exponent and an `L`, each of them
-- optional. A point alone is a sign.
def numeralFrom (head rest : List Char) : Scan :=
  let mantissa := head ++ rest.takeWhile Char.isDigit
  if mantissa = ['.'] then .ok (.token (.symbol .period), rest)
  else
    let power := exponent (rest.dropWhile Char.isDigit)
    let long := longMark power.2
    .ok (.token (.number (String.ofList (mantissa ++ power.1)) long.1), long.2)

def numeral (c : Char) (rest : List Char) : Scan :=
  if c = '.' then numeralFrom [c] rest
  else
    let whole := c :: rest.takeWhile Char.isDigit
    match rest.dropWhile Char.isDigit with
    | 'x' :: digits =>
      if whole = ['0'] then
        .ok (.token (.literal .hex (String.ofList (digits.takeWhile Quoted.isHexDigit))),
          digits.dropWhile Quoted.isHexDigit)
      else numeralFrom whole ('x' :: digits)
    | '.' :: digits => numeralFrom (whole ++ ['.']) digits
    | behind => numeralFrom whole behind

-- A line comment takes the line feed that ends it.
def lineComment (rest : List Char) : Scan :=
  let line := rest.takeWhile (· ≠ '\n')
  match rest.dropWhile (· ≠ '\n') with
  | [] => .ok (.gap (String.ofList ('-' :: '-' :: line)), [])
  | c :: behind => .ok (.gap (String.ofList ('-' :: '-' :: line ++ [c])), behind)

def blockComment (rest : List Char) : Scan :=
  match Quoted.commentBody 0 ' ' rest with
  | some (content, behind) => .ok (.gap (String.ofList ('/' :: '*' :: content)), behind)
  | none => .error ⟨.openComment, []⟩

-- The spellings of signs, longer ones before the shorter ones that begin them.
def spellings : List (List Char × Symbol) := [
  (['!', '~', '~', '*'], .bangDoubleTildeStar), (['!', '~', '~'], .bangDoubleTilde), (['!', '~', '*'], .bangTildeStar),
  (['~', '~', '*'], .doubleTildeStar), (['|', '|', '/'], .cubeRootBar), (['<', '=', '>'], .spaceship),
  (['-', '>', '>'], .longArrow), (['#', '>', '>'], .hashLongArrow),
  (['!', '~'], .bangTilde), (['!', '!'], .doubleBang), (['!', '='], .notEqual), (['~', '~'], .doubleTilde),
  (['~', '*'], .tildeStar), (['|', '|'], .concat), (['|', '/'], .rootBar), (['<', '='], .lessEqual),
  (['<', '>'], .notEqual), (['<', '<'], .shiftLeft), (['<', '@'], .containedIn), (['>', '='], .greaterEqual),
  (['>', '>'], .shiftRight), (['=', '>'], .fatArrow), (['=', '='], .doubleEqual), (['-', '>'], .arrow),
  (['#', '>'], .hashArrow), (['#', '-'], .hashMinus), (['@', '>'], .contains), (['@', '?'], .atQuestion),
  ([':', ':'], .doubleColon), ([':', '='], .assign), (['&', '&'], .overlap), (['^', '@'], .caretAt),
  (['/', '/'], .doubleSlash),
  (['('], .leftParen), ([')'], .rightParen), (['['], .leftBracket), ([']'], .rightBracket), (['\x7b'], .leftBrace),
  (['\x7d'], .rightBrace), ([','], .comma), ([';'], .semicolon), ([':'], .colon), (['+'], .plus), (['-'], .minus),
  (['*'], .star), (['/'], .slash), (['%'], .percent), (['\\'], .backslash), (['='], .equal), (['<'], .less),
  (['>'], .greater), (['|'], .pipe), (['&'], .ampersand), (['^'], .caret), (['~'], .tilde), (['!'], .bang)]

def symbolAt (cs : List Char) : Option (Symbol × List Char) :=
  spellings.findSome? fun spelling => (spelling.1.isPrefixOf? cs).map fun rest => (spelling.2, rest)

-- A lone sign before a space or the end, else the start of a word that takes the next character whatever it is.
def signOrWord (sign : Symbol) (head : List Char) : List Char → Scan
  | [] => .ok (.token (.symbol sign), [])
  | c :: rest => if c = ' ' then .ok (.token (.symbol sign), c :: rest) else wordFrom (head ++ [c]) rest

def placeholder (rest : List Char) : Scan :=
  .ok (.token (.placeholder (String.ofList ('?' :: rest.takeWhile isNumeric))), rest.dropWhile isNumeric)

-- A dollar opens a literal without a tag, a literal with a tag, or a placeholder.
def dollarOrPlaceholder (rest : List Char) : Scan :=
  match rest with
  | '$' :: more =>
    match Quoted.dollarBody more with
    | some (content, behind) => .ok (.token (.dollar none (String.ofList content)), behind)
    | none => .error ⟨.openDollarLiteral, []⟩
  | _ =>
    let tag := rest.takeWhile isTagPart
    match rest.dropWhile isTagPart with
    | '$' :: more =>
      match Quoted.taggedBody tag none more with
      | some (content, behind) => .ok (.token (.dollar (some (String.ofList tag)) (String.ofList content)), behind)
      | none => .error ⟨.openTaggedLiteral, []⟩
    | behind => .ok (.token (.placeholder (String.ofList ('$' :: tag))), behind)

def signOrOther (c : Char) (rest : List Char) : Scan :=
  match symbolAt (c :: rest) with
  | some (sign, behind) => .ok (.token (.symbol sign), behind)
  | none =>
    if c = '#' then signOrWord .hash [c] rest
    else if c = '@' then
      match rest with
      | '@' :: more => signOrWord .doubleAt [c, '@'] more
      | _ => signOrWord .atSign [c] rest
    else if c = '?' then placeholder rest
    else if isWordStart c then wordFrom [c] rest
    else if c = '$' then dollarOrPlaceholder rest
    else if isBlank c then .ok (.gap " ", rest)
    else .ok (.token (.stray c), rest)

-- A carriage return and the line feed behind it are one line feed.
def carriageReturn : List Char → Scan
  | '\n' :: rest => .ok (.gap "\n", rest)
  | rest => .ok (.gap "\n", rest)

def slashOrComment : List Char → Scan
  | '*' :: rest => blockComment rest
  | rest => signOrOther '/' rest

def minusOrComment : List Char → Scan
  | '-' :: rest => lineComment rest
  | rest => signOrOther '-' rest

def next (c : Char) (rest : List Char) : Scan :=
  if c = ' ' ∨ c = '\t' ∨ c = '\n' then .ok (.gap (String.singleton c), rest)
  else if c = '\r' then carriageReturn rest
  else if c = 'b' ∨ c = 'B' then byteOrWord c rest
  else if c = 'r' ∨ c = 'R' then rawOrWord c rest
  else if c = 'n' ∨ c = 'N' then letterLiteral .national c rest
  else if c = 'e' ∨ c = 'E' then escapedOrWord c rest
  else if c = 'u' ∨ c = 'U' then unicodeOrWord c rest
  else if c = 'x' ∨ c = 'X' then letterLiteral .hex c rest
  else if c = '\x27' then literal .single c false (c :: rest) rest
  else if c = '\x22' then quotedWord .double rest
  else if c = '\x60' then quotedWord .backtick rest
  else if c.isDigit ∨ c = '.' then numeral c rest
  else if c = '-' then minusOrComment rest
  else if c = '/' then slashOrComment rest
  else signOrOther c rest

end Lexeme

end TableStore
