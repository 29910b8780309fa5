import TableStore.Proofs.Takes

set_option autoImplicit false

namespace TableStore

def Lexeme.shows (test : Token → Bool) (lexeme : Lexeme) : Bool :=
  match lexeme.piece with
  | .gap _ => false
  | .token token => test token

theorem spaced_tokens_any (test : Token → Bool) (gap : String) (found : List Lexeme) :
    (spacedTokens gap found).any (test ·.token) = found.any (·.shows test) := by
  induction found generalizing gap with
  | nil => rfl
  | cons lexeme rest ih =>
    obtain ⟨source, piece⟩ := lexeme
    cases piece with
    | gap shown => simpa [spacedTokens, Lexeme.shows] using ih _
    | token token => simp [spacedTokens, Lexeme.shows, ih]

theorem joined_any {test : Lexeme → Bool} {glue : List Lexeme} (silent : glue.any test = false)
    (phrases : List (List Lexeme)) : (joined glue phrases).any test = phrases.any (·.any test) := by
  fun_induction joined glue phrases with
  | case1 => rfl
  | case2 phrase => simp
  | case3 phrase next rest ih => simp only [List.any_append, List.any_cons, silent, ih, Bool.false_or]

namespace Statement

theorem named_command (verb : Command) : Command.named? verb.text = some verb := by
  cases verb <;> rfl

theorem upper_command (verb : Command) : Text.upper verb.text = verb.text := by
  cases verb <;> rfl

theorem command_starts (verb : Command) :
    ∃ c rest, verb.text.toList = c :: rest ∧ Unicode.isBlank c = false := by
  cases verb <;> exact ⟨_, _, rfl, by decide⟩

theorem leading_name_command (verb : Command) (rest : List Char) :
    leadingName (String.ofList (verb.text.toList ++ ' ' :: rest)) = verb.text := by
  have letters : verb.text.toList.all isNameChar = true := by
    cases verb <;> rfl
  rw [leadingName, String.toList_ofList, List.takeWhile_append_of_pos (List.all_eq_true.mp letters),
    List.takeWhile_cons_of_neg (by decide), List.append_nil, String.ofList_toList, upper_command]

theorem of_tokens_command (verb : Command) (rest : TokenStream) :
    ofTokens (⟨"", .word verb.text none⟩ :: rest) =
      (Parser.whole verb ((⟨"", .word verb.text none⟩ :: rest : TokenStream).any
        (·.token.isKeyword Keyword.join.text))).run' (⟨"", .word verb.text none⟩ :: rest) := by
  simp only [ofTokens, upper_command, named_command]

theorem parse_tokens {sql : String} {verb : Command} {tokens : TokenStream}
    (named : Command.named? (leadingName (Text.trim sql)) = some verb) (read : tokenize (Text.trim sql) = .ok tokens) :
    parse sql = ofTokens tokens := by
  unfold parse
  simp only [named, read]

theorem parse_command {sql : String} {verb : Command} {tokens : TokenStream} (trimmed : Text.trim sql = sql)
    (leads : leadingName sql = verb.text) (read : tokenize sql = .ok tokens) : parse sql = ofTokens tokens := by
  have named : Command.named? (leadingName (Text.trim sql)) = some verb := by rw [trimmed, leads, named_command]
  exact parse_tokens named (trimmed.symm ▸ read)

theorem whole_of_form {verb : Command} {joins : Bool} {tokens : TokenStream} {statement : Statement}
    (read : Parser.form verb joins tokens = .ok (statement, [])) :
    (Parser.whole verb joins).run' tokens = .ok statement := by
  have both : Parser.whole verb joins tokens = .ok (statement, []) := by
    simp only [Parser.whole, bind, StateT.bind, read]
    rfl
  simp only [StateT.run', both]
  rfl

def mentionsJoin (tokens : TokenStream) : Bool := tokens.any (·.token.isKeyword Keyword.join.text)

-- The first phrase is the command, and the last one ends in no blank, so that trimming takes nothing away.
theorem parse_spaced {phrases : List (List Lexeme)} {statement : Statement} (verb : Command)
    (middle : List (List Lexeme)) (last : List Lexeme)
    (shape : phrases = [.keyword (.command verb)] :: (middle ++ [last]))
    (detached : ∀ phrase ∈ phrases, Detached phrase) (solid : Solid last)
    (read : Parser.form verb (mentionsJoin (spacedTokens "" (spaced phrases))) (spacedTokens "" (spaced phrases)) =
      .ok (statement, [])) :
    parse (String.ofList (written (spaced phrases))) = .ok statement := by
  have tokens := tokenize_written (spaced_detached detached).legible
  have ends := spaced_solid ([.keyword (.command verb)] :: middle) solid
  rw [List.cons_append, ← shape] at ends
  obtain ⟨rest, front⟩ : ∃ rest, spaced phrases = .keyword (.command verb) :: .space :: rest := by
    rw [shape]
    cases middle with
    | nil => exact ⟨_, rfl⟩
    | cons => exact ⟨_, rfl⟩
  rw [front] at ends read tokens ⊢
  have text : written (.keyword (.command verb) :: .space :: rest) = verb.text.toList ++ ' ' :: written rest := rfl
  have firm : Text.Firm Unicode.isBlank (written (.keyword (.command verb) :: .space :: rest)) := by
    constructor
    · obtain ⟨c, letters, same, shown⟩ := command_starts verb
      rw [text, same]
      simpa using shown
    · obtain ⟨before, c, same, shown⟩ := ends
      rw [same]
      simpa using shown
  have trimmed : Text.trim (String.ofList (written (.keyword (.command verb) :: .space :: rest))) =
      String.ofList (written (.keyword (.command verb) :: .space :: rest)) :=
    (Text.trim_kept_iff _).mpr (by rwa [String.toList_ofList])
  calc
    parse (String.ofList (written (.keyword (.command verb) :: .space :: rest)))
    _ = ofTokens (spacedTokens "" (.keyword (.command verb) :: .space :: rest)) :=
      parse_command trimmed (text ▸ leading_name_command verb (written rest)) tokens
    _ = (Parser.whole verb (mentionsJoin (spacedTokens "" (.keyword (.command verb) :: .space :: rest)))).run'
        (spacedTokens "" (.keyword (.command verb) :: .space :: rest)) := of_tokens_command verb _
    _ = .ok statement := whole_of_form read

theorem decimal_silent (n : Int) : (decimal n).any (·.shows (·.isKeyword Keyword.join.text)) = false := by
  cases n <;> rfl

theorem projection_silent (shown : Projection) :
    shown.layout.any (·.shows (·.isKeyword Keyword.join.text)) = false := by
  cases shown with
  | all => rfl
  | columns names =>
    rw [Projection.layout, listed, joined_any rfl]
    simp [Lexeme.shows, Lexeme.name, Token.isKeyword]

-- Quoted names are no keywords, so a selection that is written out mentions none but its own.
theorem selection_mentions_no_join (table : String) (shown : Projection) (key : Option Int64) :
    mentionsJoin (spacedTokens "" (spaced (Statement.select table shown key).phrases)) = false := by
  rw [mentionsJoin, spaced_tokens_any (·.isKeyword Keyword.join.text), spaced, joined_any rfl]
  cases key with
  | none =>
    simp only [phrases, selection, List.any_cons, projection_silent]
    rfl
  | some key =>
    simp only [phrases, selection, keyCondition, List.cons_append, List.nil_append, List.any_cons, projection_silent,
      decimal_silent]
    rfl

theorem select_form (table : String) {shown : Projection} (nonempty : ∀ names, shown = .columns names → names ≠ [])
    (key : Option Int64) :
    Parser.form .select (mentionsJoin (spacedTokens "" (spaced (Statement.select table shown key).phrases)))
      (spacedTokens "" (spaced (Statement.select table shown key).phrases)) = .ok (.select table shown key, []) := by
  rw [selection_mentions_no_join]
  exact (Parser.select_takes table nonempty key).all

theorem parse_selection (table : String) {shown : Projection} (nonempty : ∀ names, shown = .columns names → names ≠ [])
    (key : Option Int64) : parse (select table shown key).render = .ok (.select table shown key) := by
  have detached := phrases_detached (.select table shown key)
  have read := select_form table nonempty key
  cases key with
  | none => exact parse_spaced .select [shown.layout, [.keyword .fromClause]] _ rfl detached (name_solid table) read
  | some key =>
    exact parse_spaced .select [shown.layout, [.keyword .fromClause], [.name table], [.keyword .whereClause],
      [.word "id"], [.sign .equal]] _ rfl detached (decimal_solid key.toInt) read

theorem parse_insertion (table : String) {ι : Type} (phrase : ι → List Lexeme) (content : ι → String) (items : List ι)
    (spelled : ∀ i ∈ items, Parser.Spells (phrase i) (content i)) :
    parse (String.ofList (written (spaced (insertion table (items.map phrase))))) =
      .ok (.insert table (items.map content)) := by
  have detached : ∀ value ∈ items.map phrase, Detached value := by
    simpa using fun i listed => (spelled i listed).detached
  exact parse_spaced .insert [[.keyword .into], [.name table], [.keyword .values]] _ rfl
    (insertion_detached table detached) (enclosed_solid _) (Parser.insert_takes phrase content items spelled table).all

theorem parse_render {statement : Statement} (renderable : statement.Renderable) :
    parse statement.render = .ok statement := by
  have detached := phrases_detached statement
  cases statement with
  | createTable name columns =>
    exact parse_spaced .create [[.keyword .table], [.name name]] _ rfl detached (enclosed_solid _)
      (Parser.create_table_takes name renderable).all
  | dropTable name =>
    exact parse_spaced .drop [[.keyword .table]] _ rfl detached (name_solid name) (Parser.drop_table_takes name).all
  | insert table values =>
    have read := parse_insertion table (fun value => [.text value]) id values fun value _ => Parser.text_spells value
    rwa [List.map_id] at read
  | select table shown key =>
    apply parse_selection
    rintro names rfl
    exact renderable
  | update table assignments key =>
    exact parse_spaced .update [[.name table], [.keyword .setClause], listed (assignments.map (·.layout)),
      [.keyword .whereClause], [.word "id"], [.sign .equal]] _ rfl detached (decimal_solid key.toInt)
      (Parser.update_takes table renderable key).all
  | delete table key =>
    exact parse_spaced .delete [[.keyword .fromClause], [.name table], [.keyword .whereClause], [.word "id"],
      [.sign .equal]] _ rfl detached (decimal_solid key.toInt) (Parser.delete_takes table key).all
  | join | unknown => exact renderable.elim

-- Marks, keywords, a comment and the end of a statement inside of names and values, and an empty name.
def hostileUpdate : Statement :=
  .update "a \"b\", JOIN" [⟨"WHERE", "it's -- )\n; FROM"⟩, ⟨"", ""⟩] Int64.minValue

theorem parse_hostile_update :
    hostileUpdate.render =
        "UPDATE \"a \"\"b\"\", JOIN\" SET \"WHERE\" = 'it''s -- )\n; FROM', \"\" = '' WHERE id = -9223372036854775808" ∧
      parse hostileUpdate.render = .ok hostileUpdate := by
  have renderable : hostileUpdate.Renderable := by simp [hostileUpdate, Renderable]
  exact ⟨by decide +kernel, parse_render renderable⟩

end Statement

end TableStore
