import TableStore.Answer.RowSet

set_option autoImplicit false

/- Only quotes, backslashes and the characters below the space are escaped. -/
namespace TableStore.Json

def hexDigit (n : Nat) : Char := if n < 10 then Char.ofNat (0x30 + n) else Char.ofNat (0x61 + (n - 10))

def escaped (c : Char) : List Char :=
  if c = '\x22' ∨ c = '\\' then ['\\', c]
  else if c = '\x08' then ['\\', 'b']
  else if c = '\x0c' then ['\\', 'f']
  else if c = '\n' then ['\\', 'n']
  else if c = '\r' then ['\\', 'r']
  else if c = '\t' then ['\\', 't']
  else if c.toNat < 0x20 then ['\\', 'u', '0', '0', hexDigit (c.toNat / 16), hexDigit (c.toNat % 16)]
  else [c]

def quoted (text : String) : String := "\"" ++ String.ofList (text.toList.flatMap escaped) ++ "\""

def value : Value → String
  | .integer n => Decimal.write n
  | .text content => quoted content

def member (entry : String × Value) : String := quoted entry.1 ++ ":" ++ value entry.2

-- Members stand in the order of the columns, a repeated column more than once.
def object (record : Record) : String := "\x7b" ++ ",".intercalate (record.entries.map member) ++ "\x7d"

def lines (set : RowSet) : String := "\n".intercalate (set.records.map object)

end TableStore.Json
