import TableStore.Text

set_option autoImplicit false

namespace TableStore

inductive Symbol where
  | comma | period | semicolon | colon | doubleColon | assign
  | leftParen | rightParen | leftBracket | rightBracket | leftBrace | rightBrace
  | plus | minus | star | slash | doubleSlash | percent | backslash
  | equal | doubleEqual | notEqual | less | lessEqual | greater | greaterEqual | spaceship
  | shiftLeft | shiftRight | fatArrow | arrow | longArrow | hashArrow | hashLongArrow | hashMinus | hash
  | pipe | concat | rootBar | cubeRootBar | ampersand | overlap | caret | caretAt
  | tilde | tildeStar | doubleTilde | doubleTildeStar
  | bang | doubleBang | bangTilde | bangTildeStar | bangDoubleTilde | bangDoubleTildeStar
  | contains | containedIn | atQuestion | doubleAt | atSign
deriving DecidableEq

def Symbol.text : Symbol → String
  | .comma => ","
  | .period => "."
  | .semicolon => ";"
  | .colon => ":"
  | .doubleColon => "::"
  | .assign => ":="
  | .leftParen => "("
  | .rightParen => ")"
  | .leftBracket => "["
  | .rightBracket => "]"
  | .leftBrace => "\x7b"
  | .rightBrace => "\x7d"
  | .plus => "+"
  | .minus => "-"
  | .star => "*"
  | .slash => "/"
  | .doubleSlash => "//"
  | .percent => "%"
  | .backslash => "\\"
  | .equal => "="
  | .doubleEqual => "=="
  | .notEqual => "<>"
  | .less => "<"
  | .lessEqual => "<="
  | .greater => ">"
  | .greaterEqual => ">="
  | .spaceship => "<=>"
  | .shiftLeft => "<<"
  | .shiftRight => ">>"
  | .fatArrow => "=>"
  | .arrow => "->"
  | .longArrow => "->>"
  | .hashArrow => "#>"
  | .hashLongArrow => "#>>"
  | .hashMinus => "#-"
  | .hash => "#"
  | .pipe => "|"
  | .concat => "||"
  | .rootBar => "|/"
  | .cubeRootBar => "||/"
  | .ampersand => "&"
  | .overlap => "&&"
  | .caret => "^"
  | .caretAt => "^@"
  | .tilde => "~"
  | .tildeStar => "~*"
  | .doubleTilde => "~~"
  | .doubleTildeStar => "~~*"
  | .bang => "!"
  | .doubleBang => "!!"
  | .bangTilde => "!~"
  | .bangTildeStar => "!~*"
  | .bangDoubleTilde => "!~~"
  | .bangDoubleTildeStar => "!~~*"
  | .contains => "@>"
  | .containedIn => "<@"
  | .atQuestion => "@?"
  | .doubleAt => "@@"
  | .atSign => "@"

inductive WordQuote where
  | double
  | backtick
deriving DecidableEq

def WordQuote.mark : WordQuote → Char
  | .double => '\x22'
  | .backtick => '\x60'

inductive LiteralStyle where
  | single | double | national | escaped | unicode | hex
  | byteSingle | byteDouble | rawSingle | rawDouble | rawTripleSingle | rawTripleDouble
deriving DecidableEq

def LiteralStyle.opening : LiteralStyle → String
  | .single => "'"
  | .double => "\""
  | .national => "N'"
  | .escaped => "E'"
  | .unicode => "U&'"
  | .hex => "X'"
  | .byteSingle => "B'"
  | .byteDouble => "B\""
  | .rawSingle => "R'"
  | .rawDouble => "R\""
  | .rawTripleSingle => "R'''"
  | .rawTripleDouble => "R\"\"\""

def LiteralStyle.closing : LiteralStyle → String
  | .single | .national | .escaped | .unicode | .hex | .byteSingle | .rawSingle => "'"
  | .double | .byteDouble | .rawDouble => "\""
  | .rawTripleSingle => "'''"
  | .rawTripleDouble => "\"\"\""

inductive Token where
  | word (text : String) (quote : Option WordQuote)
  | number (digits : String) (long : Bool)
  | literal (style : LiteralStyle) (content : String)
  | dollar (tag : Option String) (content : String)
  | placeholder (text : String)
  | symbol (sign : Symbol)
  | stray (c : Char)
deriving DecidableEq

namespace Token

-- Contents are shown as they are: a delimiter inside of them is not doubled again.
def text : Token → String
  | .word text none => text
  | .word text (some quote) => String.singleton quote.mark ++ text ++ String.singleton quote.mark
  | .number digits long => if long then digits ++ "L" else digits
  | .literal style content => style.opening ++ content ++ style.closing
  | .dollar tag content => "$" ++ tag.getD "" ++ "$" ++ content ++ "$" ++ tag.getD "" ++ "$"
  | .placeholder text => text
  | .symbol sign => sign.text
  | .stray c => String.singleton c

-- An unquoted word is a keyword in any mixture of cases.
def isKeyword (token : Token) (keyword : String) : Bool :=
  match token with
  | .word text none => Text.sameIgnoringCase text keyword
  | _ => false

end Token

structure SpacedToken where
  gap : String
  token : Token
deriving DecidableEq

abbrev TokenStream := List SpacedToken

def spacedText : TokenStream → String
  | [] => ""
  | spaced :: rest => spaced.gap ++ spaced.token.text ++ spacedText rest

-- The tokens with the gaps between them; the gap before the first one is left out.
def writtenText : TokenStream → String
  | [] => ""
  | spaced :: rest => spaced.token.text ++ spacedText rest

end TableStore
