import TableStore.Unicode.Blank
import TableStore.Unicode.Uppercase

set_option autoImplicit false

namespace TableStore.Text

open Unicode

def strip (drops : Char → Bool) (cs : List Char) : List Char :=
  ((cs.dropWhile drops).reverse.dropWhile drops).reverse

def trim (text : String) : String := String.ofList (strip isBlank text.toList)

def isQuoteMark (c : Char) : Bool := c == '\x22' || c == '\x27'

def trimQuoteMarks (text : String) : String := String.ofList (strip isQuoteMark text.toList)

def nextWord (cs : List Char) : List Char × List Char :=
  let word := cs.dropWhile isBlank
  (word.takeWhile (!isBlank ·), word.dropWhile (!isBlank ·))

def firstWord (text : String) : String := String.ofList (nextWord text.toList).1

def upper (text : String) : String := String.ofList (text.toList.flatMap upperCase)

def sameIgnoringCase (a b : String) : Bool := a.toList.map Char.toLower == b.toList.map Char.toLower

def consLine (c : Char) : List (List Char) → List (List Char)
  | [] => [[c]]
  | line :: rest => (c :: line) :: rest

-- Every line feed ends a line and stays at its end; what follows the last one is a line only if it is not empty.
def splitLines : List Char → List (List Char)
  | [] => []
  | c :: rest => if c = '\n' then [c] :: splitLines rest else consLine c (splitLines rest)

def withoutBreak (line : List Char) : List Char :=
  match line.reverse with
  | '\n' :: '\r' :: front => front.reverse
  | '\n' :: front => front.reverse
  | _ => line

def rawLines (text : String) : List String := (splitLines text.toList).map String.ofList

def unbroken (line : String) : String := String.ofList (withoutBreak line.toList)

def lines (text : String) : List String := (rawLines text).map unbroken

end TableStore.Text
