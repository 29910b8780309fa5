import TableStore.Token.Fault

set_option autoImplicit false

/- Each reader takes the text behind the opening mark and gives the content and the text behind the closing mark. -/
namespace TableStore.Quoted

def emit (c : Char) (body : List Char × List Char) : List Char × List Char := (c :: body.1, body.2)

def emitAll (cs : List Char) (body : List Char × List Char) : List Char × List Char := (cs ++ body.1, body.2)

theorem emitted_suffix {c : Char} {body : Option (List Char × List Char)} {content rest cs : List Char}
    (read : body.map (emit c) = some (content, rest))
    (kept : ∀ inner, body = some (inner, rest) → rest <:+ cs) : rest <:+ cs := by
  cases body with
  | none => cases read
  | some pair =>
    obtain ⟨inner, behind⟩ := pair
    simp only [Option.map_some, emit, Option.some.injEq, Prod.mk.injEq] at read
    exact kept inner (by rw [read.2])

theorem all_emitted_suffix {head : List Char} {body : Option (List Char × List Char)} {content rest cs : List Char}
    (read : body.map (emitAll head) = some (content, rest))
    (kept : ∀ inner, body = some (inner, rest) → rest <:+ cs) : rest <:+ cs := by
  cases body with
  | none => cases read
  | some pair =>
    obtain ⟨inner, behind⟩ := pair
    simp only [Option.map_some, emitAll, Option.some.injEq, Prod.mk.injEq] at read
    exact kept inner (by rw [read.2])

def controlOf : Char → Char
  | '0' => '\x00'
  | 'a' => '\x07'
  | 'b' => '\x08'
  | 'f' => '\x0c'
  | 'n' => '\n'
  | 'r' => '\r'
  | 't' => '\t'
  | 'Z' => '\x1a'
  | c => c

-- Up to the mark; a doubled mark is one mark, and a backslash is an escape only where `escapes` says so.
def body (mark : Char) (escapes : Bool) : List Char → Option (List Char × List Char)
  | [] => none
  | c :: rest =>
    if c = mark then
      match rest with
      | [] => some ([], [])
      | d :: more => if d = mark then (body mark escapes more).map (emit mark) else some ([], d :: more)
    else if escapes && c == '\\' then
      match rest with
      | [] => none
      | d :: more => (body mark escapes more).map (emit (controlOf d))
    else (body mark escapes rest).map (emit c)

theorem body_suffix (mark : Char) (escapes : Bool) (cs : List Char) {content rest : List Char}
    (read : body mark escapes cs = some (content, rest)) : rest <:+ cs := by
  fun_induction body mark escapes cs generalizing content with
  | case1 => cases read
  | case2 => simp_all
  | case3 more ih =>
    exact emitted_suffix read fun inner found => (ih found).trans ⟨[mark, mark], rfl⟩
  | case4 d more single =>
    simp only [Option.some.injEq, Prod.mk.injEq] at read
    exact ⟨[mark], by rw [← read.2]; rfl⟩
  | case5 => cases read
  | case6 c other escape d more ih =>
    exact emitted_suffix read fun inner found => (ih found).trans ⟨[c, d], rfl⟩
  | case7 c rest' other plain ih =>
    exact emitted_suffix read fun inner found => (ih found).trans ⟨[c], rfl⟩

def tripleBody (mark : Char) : List Char → Option (List Char × List Char)
  | [] => none
  | c :: rest =>
    if c = mark && rest.head? == some mark && rest.tail.head? == some mark then some ([], rest.drop 2)
    else (tripleBody mark rest).map (emit c)

theorem triple_body_suffix (mark : Char) (cs : List Char) {content rest : List Char}
    (read : tripleBody mark cs = some (content, rest)) : rest <:+ cs := by
  fun_induction tripleBody mark cs generalizing content with
  | case1 => cases read
  | case2 c more closed =>
    simp only [Option.some.injEq, Prod.mk.injEq] at read
    exact read.2 ▸ (List.drop_suffix 2 more).trans ⟨[c], rfl⟩
  | case3 c more openMark ih =>
    exact emitted_suffix read fun inner found => (ih found).trans ⟨[c], rfl⟩

def dollarBody : List Char → Option (List Char × List Char)
  | [] => none
  | c :: rest =>
    if c = '$' && rest.head? == some '$' then some ([], rest.drop 1) else (dollarBody rest).map (emit c)

theorem dollar_body_suffix (cs : List Char) {content rest : List Char}
    (read : dollarBody cs = some (content, rest)) : rest <:+ cs := by
  fun_induction dollarBody cs generalizing content with
  | case1 => cases read
  | case2 c more closed =>
    simp only [Option.some.injEq, Prod.mk.injEq] at read
    exact read.2 ▸ (List.drop_suffix 1 more).trans ⟨[c], rfl⟩
  | case3 c more openMark ih =>
    exact emitted_suffix read fun inner found => (ih found).trans ⟨[c], rfl⟩

-- Up to the tag between two dollars. Behind a dollar, `left` is the part of the tag that has yet to match; the
-- character that breaks the match belongs to the body even if it is a dollar itself.
def taggedBody (tag : List Char) : Option (List Char) → List Char → Option (List Char × List Char)
  | _, [] => none
  | none, c :: rest =>
    if c = '$' then taggedBody tag (some tag) rest else (taggedBody tag none rest).map (emit c)
  | some [], c :: rest =>
    if c = '$' then some ([], rest) else (taggedBody tag none rest).map (emitAll ('$' :: tag ++ [c]))
  | some (t :: left), c :: rest =>
    if c = t then taggedBody tag (some left) rest
    else (taggedBody tag none rest).map (emitAll ('$' :: tag.take (tag.length - left.length - 1) ++ [c]))

theorem tagged_body_suffix (tag : List Char) (left : Option (List Char)) (cs : List Char) {content rest : List Char}
    (read : taggedBody tag left cs = some (content, rest)) : rest <:+ cs := by
  fun_induction taggedBody tag left cs generalizing content with
  | case1 => cases read
  | case2 more ih => exact (ih read).trans ⟨['$'], rfl⟩
  | case3 c more other ih =>
    exact emitted_suffix read fun inner found => (ih found).trans ⟨[c], rfl⟩
  | case4 more =>
    simp only [Option.some.injEq, Prod.mk.injEq] at read
    exact ⟨['$'], by rw [← read.2]; rfl⟩
  | case5 c more other ih =>
    exact all_emitted_suffix read fun inner found => (ih found).trans ⟨[c], rfl⟩
  | case6 left' c more ih => exact (ih read).trans ⟨[c], rfl⟩
  | case7 t left' c more other ih =>
    exact all_emitted_suffix read fun inner found => (ih found).trans ⟨[c], rfl⟩

-- Up to the end of the outermost level of a block comment, its closing mark included. A character may take part
-- in an opening and in a closing mark.
def commentBody : Nat → Char → List Char → Option (List Char × List Char)
  | _, _, [] => none
  | depth, last, c :: rest =>
    if last = '/' ∧ c = '*' then (commentBody (depth + 1) c rest).map (emit c)
    else if last = '*' ∧ c = '/' then
      match depth with
      | 0 => some ([c], rest)
      | outer + 1 => (commentBody outer c rest).map (emit c)
    else (commentBody depth c rest).map (emit c)

theorem comment_body_suffix (depth : Nat) (last : Char) (cs : List Char) {content rest : List Char}
    (read : commentBody depth last cs = some (content, rest)) : rest <:+ cs := by
  fun_induction commentBody depth last cs generalizing content with
  | case1 => cases read
  | case2 depth' last' c more opens ih =>
    exact emitted_suffix read fun inner found => (ih found).trans ⟨[c], rfl⟩
  | case3 last' c more other closes =>
    simp only [Option.some.injEq, Prod.mk.injEq] at read
    exact ⟨[c], by rw [← read.2]; rfl⟩
  | case4 last' c more other closes outer ih =>
    exact emitted_suffix read fun inner found => (ih found).trans ⟨[c], rfl⟩
  | case5 depth' last' c more other inside ih =>
    exact emitted_suffix read fun inner found => (ih found).trans ⟨[c], rfl⟩

end TableStore.Quoted
