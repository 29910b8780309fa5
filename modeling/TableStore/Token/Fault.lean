set_option autoImplicit false

namespace TableStore

inductive TokenFault where
  | openLiteral
  | openEscapedLiteral
  | openUnicodeLiteral
  | openWord (quote : Char)
  | openDollarLiteral
  | openTaggedLiteral
  | openComment
  | missingHexDigit
  | badHexDigit (c : Char)
  | badCodePoint (code : Nat)
deriving DecidableEq

def TokenFault.message : TokenFault → String
  | .openLiteral => "Unterminated string literal"
  | .openEscapedLiteral => "Unterminated encoded string literal"
  | .openUnicodeLiteral => "Unterminated unicode encoded string literal"
  | .openWord quote => "Expected close delimiter '" ++ String.singleton quote ++ "' before EOF."
  | .openDollarLiteral => "Unterminated dollar-quoted string"
  | .openTaggedLiteral => "Unterminated dollar-quoted, expected $"
  | .openComment => "Unexpected EOF while in a multi-line comment"
  | .missingHexDigit => "Unexpected EOF while parsing hex digit in escaped unicode string."
  | .badHexDigit c => "Invalid hex digit in escaped unicode string: " ++ String.singleton c
  | .badCodePoint code => "Invalid unicode character: " ++ String.ofList (Nat.toDigits 16 code)

structure ScanFault where
  cause : TokenFault
  unread : List Char
deriving DecidableEq

-- Lines and columns are counted from one; a line feed ends a line.
structure Position where
  line : Nat
  column : Nat
deriving DecidableEq

def Position.start : Position := ⟨1, 1⟩

def Position.after (position : Position) (c : Char) : Position :=
  if c = '\n' then ⟨position.line + 1, 1⟩ else ⟨position.line, position.column + 1⟩

def Position.behind (read : List Char) : Position := read.foldl Position.after .start

structure TokenError where
  cause : TokenFault
  position : Position
deriving DecidableEq

def TokenError.message (error : TokenError) : String :=
  error.cause.message ++ " at Line: " ++ toString error.position.line ++ ", Column: " ++
    toString error.position.column

end TableStore
