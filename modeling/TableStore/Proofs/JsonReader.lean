import TableStore.Text.Decimal
import TableStore.Token.Escape
import TableStore.Value

set_option autoImplicit false

/- A reader for JSON objects of texts and 64-bit integers that keeps members whose name is repeated. -/
namespace TableStore.Json

inductive Token where
  | opening
  | closing
  | colon
  | comma
  | scalar (value : Value)
deriving DecidableEq

def sign? : Char → Option Token
  | '\x7b' => some .opening
  | '\x7d' => some .closing
  | ':' => some .colon
  | ',' => some .comma
  | _ => none

def isSpace (c : Char) : Bool := c == ' ' || c == '\t' || c == '\n' || c == '\r'

def unescaped? : Char → Option Char
  | '\x22' => some '\x22'
  | '\\' => some '\\'
  | '/' => some '/'
  | 'b' => some '\x08'
  | 'f' => some '\x0c'
  | 'n' => some '\n'
  | 'r' => some '\r'
  | 't' => some '\t'
  | _ => none

def codeUnit (cs : List Char) : Option (Nat × List Char) := (Quoted.hexDigits 4 0 cs).toOption

def lowSurrogate (high : Nat) : List Char → Option (Char × List Char)
  | '\\' :: 'u' :: cs =>
    (codeUnit cs).bind fun (low, rest) =>
      if 0xdc00 ≤ low ∧ low < 0xe000 then
        (Quoted.scalar? (0x10000 + (high - 0xd800) * 0x400 + (low - 0xdc00))).map (·, rest)
      else none
  | _ => none

def numbered (cs : List Char) : Option (Char × List Char) :=
  (codeUnit cs).bind fun (unit, rest) =>
    if 0xd800 ≤ unit ∧ unit < 0xdc00 then lowSurrogate unit rest else (Quoted.scalar? unit).map (·, rest)

def escape : List Char → Option (Char × List Char)
  | [] => none
  | c :: rest => if c = 'u' then numbered rest else (unescaped? c).map (·, rest)

section
variable {α : Type} {c : Char} {cs rest : List Char}

theorem beside_rest {read : Option α} {value : α} (placed : read.map (·, cs) = some (value, rest)) : rest = cs := by
  obtain ⟨_, _, same⟩ := Option.map_eq_some_iff.mp placed
  exact (Prod.ext_iff.mp same).2.symm

theorem code_unit_suffix {unit : Nat} (read : codeUnit cs = some (unit, rest)) : rest <:+ cs := by
  rw [codeUnit] at read
  cases digits : Quoted.hexDigits 4 0 cs with
  | error fault =>
    rw [digits] at read
    cases read
  | ok pair =>
    rw [digits] at read
    cases read
    exact Quoted.hex_digits_suffix digits

theorem low_surrogate_suffix {high : Nat} (read : lowSurrogate high cs = some (c, rest)) : rest <:+ cs := by
  rw [lowSurrogate.eq_def] at read
  split at read
  · obtain ⟨⟨low, behind⟩, unit, found⟩ := Option.bind_eq_some_iff.mp read
    simp only at found
    split at found
    · rw [beside_rest found]
      exact (code_unit_suffix unit).trans ⟨['\\', 'u'], rfl⟩
    · cases found
  · cases read

theorem numbered_suffix (read : numbered cs = some (c, rest)) : rest <:+ cs := by
  obtain ⟨⟨unit, behind⟩, first, found⟩ := Option.bind_eq_some_iff.mp read
  simp only at found
  split at found
  · exact (low_surrogate_suffix found).trans (code_unit_suffix first)
  · rw [beside_rest found]
    exact code_unit_suffix first

theorem escape_suffix (read : escape cs = some (c, rest)) : rest <:+ cs := by
  cases cs with
  | nil => cases read
  | cons mark behind =>
    rw [escape] at read
    split at read
    · exact (numbered_suffix read).trans (List.suffix_cons mark behind)
    · rw [beside_rest read]
      exact List.suffix_cons mark behind

end

-- Characters below the space have to be escaped.
def content : List Char → Option (List Char × List Char)
  | [] => none
  | c :: rest =>
    if c = '\x22' then some ([], rest)
    else if c = '\\' then
      match _ : escape rest with
      | none => none
      | some (d, behind) => (content behind).map (Quoted.emit d)
    else if c.toNat < 0x20 then none
    else (content rest).map (Quoted.emit c)
termination_by cs => cs.length
decreasing_by
  · have shorter := (escape_suffix ‹escape rest = some (d, behind)›).length_le
    simp only [List.length_cons]
    omega
  · simp

theorem content_suffix (cs : List Char) {text rest : List Char} (read : content cs = some (text, rest)) :
    rest <:+ cs := by
  fun_induction content cs generalizing text with
  | case1 => cases read
  | case2 more =>
    cases read
    exact List.suffix_cons ..
  | case3 => cases read
  | case4 more d behind escaped other ih =>
    exact Quoted.emitted_suffix read fun inner found =>
      ((ih found).trans (escape_suffix escaped)).trans (List.suffix_cons ..)
  | case5 => cases read
  | case6 c more other plain visible ih =>
    exact Quoted.emitted_suffix read fun inner found => (ih found).trans (List.suffix_cons ..)

def isNumberPart (c : Char) : Bool := c.isDigit || c == '-' || c == '+' || c == '.' || c == 'e' || c == 'E'

def unpadded : List Char → Bool
  | '0' :: _ :: _ => false
  | _ => true

-- An integer has no plus sign and no zero before other digits.
def isPlain : List Char → Bool
  | '+' :: _ => false
  | '-' :: digits => unpadded digits
  | digits => unpadded digits

def number (c : Char) (cs : List Char) : Option (Int64 × List Char) :=
  let numeral := c :: cs.takeWhile isNumberPart
  if isPlain numeral then (Decimal.read (String.ofList numeral)).map (·, cs.dropWhile isNumberPart) else none

theorem number_suffix {c : Char} {cs rest : List Char} {n : Int64} (read : number c cs = some (n, rest)) : rest <:+ cs := by
  rw [number] at read
  split at read
  · rw [beside_rest read]
    exact List.dropWhile_suffix _
  · cases read

def next (c : Char) (cs : List Char) : Option (Token × List Char) :=
  if c = '\x22' then (content cs).map fun (text, rest) => (.scalar (.text (String.ofList text)), rest)
  else
    match sign? c with
    | some sign => some (sign, cs)
    | none => (number c cs).map fun (n, rest) => (.scalar (.integer n), rest)

theorem next_suffix {c : Char} {cs rest : List Char} {token : Token} (read : next c cs = some (token, rest)) :
    rest <:+ cs := by
  rw [next] at read
  split at read
  · obtain ⟨⟨text, behind⟩, found, same⟩ := Option.map_eq_some_iff.mp read
    cases same
    exact content_suffix cs found
  · split at read
    · cases read
      exact List.suffix_rfl
    · obtain ⟨⟨n, behind⟩, found, same⟩ := Option.map_eq_some_iff.mp read
      cases same
      exact number_suffix found

def tokens : List Char → Option (List Token)
  | [] => some []
  | c :: rest =>
    if isSpace c then tokens rest
    else
      match _ : next c rest with
      | none => none
      | some (token, behind) => (tokens behind).map (token :: ·)
termination_by cs => cs.length
decreasing_by
  · simp
  · have shorter := (next_suffix ‹next c rest = some (token, behind)›).length_le
    simp only [List.length_cons]
    omega

def members : List Token → Option (List (String × Value))
  | [.scalar (.text name), .colon, .scalar value, .closing] => some [(name, value)]
  | .scalar (.text name) :: .colon :: .scalar value :: .comma :: rest => (members rest).map ((name, value) :: ·)
  | _ => none

def entries : List Token → Option (List (String × Value))
  | .opening :: rest => if rest = [.closing] then some [] else members rest
  | _ => none

def decode (line : String) : Option (List (String × Value)) := (tokens line.toList).bind entries

end TableStore.Json
