import TableStore.Token.Rest

set_option autoImplicit false

/- Cutting a text into lexemes loses nothing: their sources, one after the other, are the text. -/
namespace TableStore

def lexemes (cs : List Char) : Except ScanFault (List Lexeme) :=
  match cs with
  | [] => .ok []
  | c :: rest =>
    match _ : Lexeme.next c rest with
    | .error fault => .error fault
    | .ok (piece, behind) =>
      (lexemes behind).map (⟨String.ofList ((c :: rest).take (rest.length + 1 - behind.length)), piece⟩ :: ·)
termination_by cs.length
decreasing_by
  have shorter := (Lexeme.next_suffix ‹Lexeme.next c rest = _›).length_le
  simp only [List.length_cons]
  omega

theorem lexemes_sources (cs : List Char) {found : List Lexeme} (read : lexemes cs = .ok found) :
    found.flatMap (·.source.toList) = cs := by
  fun_induction lexemes cs generalizing found with
  | case1 =>
    cases read
    rfl
  | case2 => cases read
  | case3 c rest piece behind step ih =>
    cases tail : lexemes behind with
    | error fault =>
      rw [tail] at read
      cases read
    | ok others =>
      rw [tail] at read
      cases read
      obtain ⟨head, whole⟩ := Lexeme.next_suffix step
      have front : (c :: rest).take (rest.length + 1 - behind.length) = c :: head := by
        rw [← whole, List.length_append, ← List.cons_append]
        exact List.take_left' (by simp; omega)
      simp only [List.flatMap_cons, String.toList_ofList, ih tail, front, List.cons_append, whole]

-- Gaps in a row are joined; those behind the last token are left out.
def spacedTokens (gap : String) : List Lexeme → TokenStream
  | [] => []
  | lexeme :: rest =>
    match lexeme.piece with
    | .gap shown => spacedTokens (gap ++ shown) rest
    | .token token => ⟨gap, token⟩ :: spacedTokens "" rest

def ScanFault.located (fault : ScanFault) (cs : List Char) : TokenError :=
  ⟨fault.cause, Position.behind (cs.take (cs.length - fault.unread.length))⟩

def tokenize (text : String) : Except TokenError TokenStream :=
  match lexemes text.toList with
  | .error fault => .error (fault.located text.toList)
  | .ok lexemes => .ok (spacedTokens "" lexemes)

end TableStore
