import TableStore.Token.Quoted

set_option autoImplicit false

/- The two kinds of literal that write characters by their numbers: `E'…'` with C-like escapes and `U&'…'` with
   four or six hexadecimal digits behind a backslash. -/
namespace TableStore.Quoted

def isOctalDigit (c : Char) : Bool := '0' ≤ c && c ≤ '7'

def hexDigit? (c : Char) : Option Nat :=
  if c.isDigit then some (c.toNat - '0'.toNat)
  else if 'a' ≤ c && c ≤ 'f' then some (c.toNat - 'a'.toNat + 10)
  else if 'A' ≤ c && c ≤ 'F' then some (c.toNat - 'A'.toNat + 10)
  else none

def isHexDigit (c : Char) : Bool := (hexDigit? c).isSome

def digitsValue (base : Nat) (digits : List Char) : Nat :=
  digits.foldl (fun value c => value * base + (hexDigit? c).getD 0) 0

def scalar? (code : Nat) : Option Char := if code.isValidChar then some (Char.ofNat code) else none

def unsignedPart : List Char → List Char
  | '+' :: digits => digits
  | digits => digits

def hexNumber? (digits : List Char) : Option Nat :=
  if digits.isEmpty || !digits.all isHexDigit then none else some (digitsValue 16 digits)

-- Exactly `count` characters: hexadecimal digits, of which the first may be a plus sign instead.
def codeUnits (count : Nat) (cs : List Char) : Option (Char × List Char) :=
  if cs.length < count then none
  else ((hexNumber? (unsignedPart (cs.take count))).bind scalar?).map (·, cs.drop count)

-- A byte given by its digits; only ASCII bytes are characters.
def byteChar (base : Nat) (digits : List Char) : Option Char :=
  let byte := digitsValue base digits % 256
  if byte ≤ 127 then some (Char.ofNat byte) else none

def escapeChar : List Char → Option (Char × List Char)
  | [] => none
  | c :: rest =>
    if c = 'b' then some ('\x08', rest)
    else if c = 'f' then some ('\x0c', rest)
    else if c = 'n' then some ('\n', rest)
    else if c = 'r' then some ('\r', rest)
    else if c = 't' then some ('\t', rest)
    else if c = 'u' then codeUnits 4 rest
    else if c = 'U' then codeUnits 8 rest
    else if c = 'x' then
      let digits := (rest.take 2).takeWhile isHexDigit
      if digits.isEmpty then some ('x', rest) else (byteChar 16 digits).map (·, rest.drop digits.length)
    else if isOctalDigit c then
      let more := (rest.take 2).takeWhile isOctalDigit
      (byteChar 8 (c :: more)).map (·, rest.drop more.length)
    else some (c, rest)

theorem code_units_suffix {count : Nat} {cs rest : List Char} {c : Char}
    (read : codeUnits count cs = some (c, rest)) : rest <:+ cs := by
  simp only [codeUnits] at read
  split at read
  · cases read
  · obtain ⟨scalar, _, same⟩ := Option.map_eq_some_iff.mp read
    cases same
    exact List.drop_suffix ..

theorem escape_char_tail {head : Char} {tail rest : List Char} {c : Char}
    (read : escapeChar (head :: tail) = some (c, rest)) : rest <:+ tail := by
  simp only [escapeChar] at read
  repeat' split at read
  all_goals first
    | exact code_units_suffix read
    | (obtain ⟨value, _, same⟩ := Option.map_eq_some_iff.mp read
       cases same
       exact List.drop_suffix ..)
    | (cases read
       exact List.suffix_refl ..)

theorem escape_char_suffix {cs rest : List Char} {c : Char} (read : escapeChar cs = some (c, rest)) :
    rest <:+ cs := by
  cases cs with
  | nil => cases read
  | cons head tail => exact (escape_char_tail read).trans (List.suffix_cons ..)

-- The body of `E'…'`. The null character cannot be escaped.
def escapedBody (cs : List Char) : Option (List Char × List Char) :=
  match cs with
  | [] => none
  | c :: rest =>
    if c = '\x27' then
      match rest with
      | [] => some ([], [])
      | d :: more => if d = '\x27' then (escapedBody more).map (emit d) else some ([], d :: more)
    else if c = '\\' then
      match _ : escapeChar rest with
      | none => none
      | some (value, more) => if value = '\x00' then none else (escapedBody more).map (emit value)
    else (escapedBody rest).map (emit c)
termination_by cs.length
decreasing_by
  · simp only [List.length_cons]
    omega
  · have shorter := (escape_char_suffix ‹escapeChar rest = _›).length_le
    simp only [List.length_cons]
    omega
  · simp only [List.length_cons]
    omega

theorem escaped_body_suffix (cs : List Char) {content rest : List Char}
    (read : escapedBody cs = some (content, rest)) : rest <:+ cs := by
  fun_induction escapedBody cs generalizing content with
  | case1 => cases read
  | case2 => simp_all
  | case3 more ih => exact emitted_suffix read fun inner found => (ih found).trans ⟨['\x27', '\x27'], rfl⟩
  | case4 d more single =>
    simp only [Option.some.injEq, Prod.mk.injEq] at read
    exact ⟨['\x27'], by rw [← read.2]; rfl⟩
  | case5 => cases read
  | case6 => cases read
  | case7 behind value more escape written other ih =>
    exact emitted_suffix read fun inner found =>
      ((ih found).trans (escape_char_suffix escape)).trans ⟨['\\'], rfl⟩
  | case8 c more other plain ih =>
    exact emitted_suffix read fun inner found => (ih found).trans ⟨[c], rfl⟩

def hexDigits : Nat → Nat → List Char → Except ScanFault (Nat × List Char)
  | 0, value, cs => .ok (value, cs)
  | _ + 1, _, [] => .error ⟨.missingHexDigit, []⟩
  | count + 1, value, c :: rest =>
    match hexDigit? c with
    | some digit => hexDigits count (value * 16 + digit) rest
    | none => .error ⟨.badHexDigit c, rest⟩

def codePoint (count : Nat) (cs : List Char) : Except ScanFault (Char × List Char) :=
  match hexDigits count 0 cs with
  | .error fault => .error fault
  | .ok (value, rest) =>
    match scalar? value with
    | some c => .ok (c, rest)
    | none => .error ⟨.badCodePoint value, rest⟩

theorem hex_digits_suffix {count value number : Nat} {cs rest : List Char}
    (read : hexDigits count value cs = .ok (number, rest)) : rest <:+ cs := by
  fun_induction hexDigits count value cs with
  | case1 => cases read; exact List.suffix_refl ..
  | case2 => cases read
  | case3 value' count' c more digit found ih => exact (ih read).trans ⟨[c], rfl⟩
  | case4 => cases read

theorem code_point_suffix {count : Nat} {c : Char} {cs rest : List Char}
    (read : codePoint count cs = .ok (c, rest)) : rest <:+ cs := by
  simp only [codePoint] at read
  split at read
  · cases read
  · rename_i digits
    split at read
    · cases read
      exact hex_digits_suffix digits
    · cases read

def unicodeChar (cs : List Char) : Except ScanFault (Char × List Char) :=
  match cs with
  | [] => codePoint 4 []
  | c :: rest => if c = '\\' then .ok (c, rest) else if c = '+' then codePoint 6 rest else codePoint 4 cs

theorem unicode_char_suffix {c : Char} {cs rest : List Char} (read : unicodeChar cs = .ok (c, rest)) :
    rest <:+ cs := by
  cases cs with
  | nil =>
    simp only [unicodeChar] at read
    exact code_point_suffix read
  | cons head tail =>
    simp only [unicodeChar] at read
    split at read
    · cases read
      exact List.suffix_cons ..
    · split at read
      · exact (code_point_suffix read).trans ⟨[head], rfl⟩
      · exact code_point_suffix read

def unicodeBody (cs : List Char) : Except ScanFault (List Char × List Char) :=
  match cs with
  | [] => .error ⟨.openUnicodeLiteral, []⟩
  | c :: rest =>
    if c = '\x27' then
      match rest with
      | [] => .ok ([], [])
      | d :: more => if d = '\x27' then (unicodeBody more).map (emit d) else .ok ([], d :: more)
    else if c = '\\' then
      match _ : unicodeChar rest with
      | .error fault => .error fault
      | .ok (value, more) => (unicodeBody more).map (emit value)
    else (unicodeBody rest).map (emit c)
termination_by cs.length
decreasing_by
  · simp only [List.length_cons]
    omega
  · have shorter := (unicode_char_suffix ‹unicodeChar rest = _›).length_le
    simp only [List.length_cons]
    omega
  · simp only [List.length_cons]
    omega

theorem emitted_ok_suffix {c : Char} {body : Except ScanFault (List Char × List Char)} {content rest cs : List Char}
    (read : body.map (emit c) = .ok (content, rest))
    (kept : ∀ inner, body = .ok (inner, rest) → rest <:+ cs) : rest <:+ cs := by
  cases body with
  | error => cases read
  | ok pair =>
    obtain ⟨inner, behind⟩ := pair
    cases read
    exact kept inner rfl

theorem unicode_body_suffix (cs : List Char) {content rest : List Char}
    (read : unicodeBody cs = .ok (content, rest)) : rest <:+ cs := by
  fun_induction unicodeBody cs generalizing content with
  | case1 => cases read
  | case2 => cases read; exact ⟨['\x27'], rfl⟩
  | case3 more ih => exact emitted_ok_suffix read fun inner found => (ih found).trans ⟨['\x27', '\x27'], rfl⟩
  | case4 d more single => cases read; exact ⟨['\x27'], rfl⟩
  | case5 => cases read
  | case6 behind value more escape other ih =>
    exact emitted_ok_suffix read fun inner found =>
      ((ih found).trans (unicode_char_suffix escape)).trans ⟨['\\'], rfl⟩
  | case7 c more other plain ih =>
    exact emitted_ok_suffix read fun inner found => (ih found).trans ⟨[c], rfl⟩

end TableStore.Quoted
