import TableStore.Proofs.Grammar

set_option autoImplicit false

/- What a type carries behind its name is any run with balanced parentheses and no comma outside of them. -/
namespace TableStore

namespace Grammar

def opened (run : TokenStream) : Nat := run.countP (·.token == .symbol .leftParen)

def closed (run : TokenStream) : Nat := run.countP (·.token == .symbol .rightParen)

structure Nested (depth level : Nat) (run : TokenStream) : Prop where
  covered : ∀ i ≤ run.length, closed (run.take i) ≤ depth + opened (run.take i)
  commas : ∀ i, ∀ inside : i < run.length,
    IsSign .comma (run.get ⟨i, inside⟩) → closed (run.take i) < depth + opened (run.take i)
  reaches : level + closed run = depth + opened run

instance (depth level : Nat) (run : TokenStream) : Decidable (Nested depth level run) :=
  decidable_of_iff
    ((∀ i ≤ run.length, closed (run.take i) ≤ depth + opened (run.take i)) ∧
      (∀ i, ∀ inside : i < run.length,
        IsSign .comma (run.get ⟨i, inside⟩) → closed (run.take i) < depth + opened (run.take i)) ∧
      level + closed run = depth + opened run)
    ⟨fun all => ⟨all.1, all.2.1, all.2.2⟩, fun nested => ⟨nested.covered, nested.commas, nested.reaches⟩⟩

def Modifiers (run : TokenStream) : Prop := Nested 0 0 run

instance (run : TokenStream) : Decidable (Modifiers run) := inferInstanceAs (Decidable (Nested 0 0 run))

inductive IsType : Token → String → Prop
  | word (text : String) (quote : Option WordQuote) : IsType (.word text quote) text
  | other {token : Token} (unnamed : ∀ text quote, token ≠ .word text quote) (comma : token ≠ .symbol .comma)
      (close : token ≠ .symbol .rightParen) : IsType token token.text

inductive Column : TokenStream → ColumnDef → Prop
  | mk {name type : SpacedToken} {run : TokenStream} {column typed : String} (named : IsName column name)
      (shown : IsType type.token typed) (modified : Modifiers run) : Column (name :: type :: run) ⟨column, typed⟩

-- CREATE TABLE name (column type …, …
inductive Opening : TokenStream → String → List ColumnDef → Prop
  | mk {verb table word opening : SpacedToken} {body : TokenStream} {name : String} {columns : List ColumnDef}
      (leads : IsKeyword (.command .create) verb) (makes : IsKeyword .table table) (named : IsName name word)
      (opens : IsSign .leftParen opening) (listed : Listed Column body columns) :
      Opening (verb :: table :: word :: opening :: body) name columns

inductive Creation : TokenStream → String → List ColumnDef → Prop
  | mk {front ending : TokenStream} {closing : SpacedToken} {name : String} {columns : List ColumnDef}
      (opening : Opening front name columns) (closes : IsSign .rightParen closing) (ended : Ending ending) :
      Creation (front ++ closing :: ending) name columns

theorem is_type_word_iff (text : String) (quote : Option WordQuote) (typed : String) :
    IsType (.word text quote) typed ↔ text = typed := by
  constructor
  · rintro (_ | ⟨unnamed, -, -⟩)
    · rfl
    · exact absurd rfl (unnamed text quote)
  · rintro rfl
    exact .word text quote

theorem is_type_other_iff {token : Token} (unnamed : ∀ text quote, token ≠ .word text quote)
    (comma : token ≠ .symbol .comma) (close : token ≠ .symbol .rightParen) (typed : String) :
    IsType token typed ↔ token.text = typed := by
  constructor
  · rintro (⟨text, quote⟩ | _)
    · exact absurd rfl (unnamed _ _)
    · rfl
  · rintro rfl
    exact .other unnamed comma close

theorem comma_no_type (typed : String) : ¬ IsType (.symbol .comma) typed := by
  rintro (_ | ⟨-, comma, -⟩)
  exact comma rfl

theorem close_no_type (typed : String) : ¬ IsType (.symbol .rightParen) typed := by
  rintro (_ | ⟨-, -, close⟩)
  exact close rfl

theorem opened_cons (spaced : SpacedToken) (run : TokenStream) :
    opened (spaced :: run) = opened [spaced] + opened run := by
  change ([spaced] ++ run).countP _ = _
  exact List.countP_append

theorem closed_cons (spaced : SpacedToken) (run : TokenStream) :
    closed (spaced :: run) = closed [spaced] + closed run := by
  change ([spaced] ++ run).countP _ = _
  exact List.countP_append

theorem nested_cons_iff {depth next level : Nat} {spaced : SpacedToken} {run : TokenStream}
    (moves : next + closed [spaced] = depth + opened [spaced]) (inside : IsSign .comma spaced → 0 < depth) :
    Nested depth level (spaced :: run) ↔ Nested next level run := by
  have opens := opened_cons spaced
  have closes := closed_cons spaced
  constructor
  · rintro ⟨covered, commas, reaches⟩
    refine ⟨?_, ?_, ?_⟩
    · intro i within
      have front := covered (i + 1) (Nat.succ_le_succ within)
      rw [List.take_succ_cons, opens, closes] at front
      omega
    · intro i within comma
      have front := commas (i + 1) (Nat.succ_lt_succ within) comma
      rw [List.take_succ_cons, opens, closes] at front
      omega
    · rw [opens, closes] at reaches
      omega
  · rintro ⟨covered, commas, reaches⟩
    refine ⟨?_, ?_, ?_⟩
    · intro i within
      cases i with
      | zero => exact Nat.zero_le _
      | succ i =>
        have front := covered i (Nat.le_of_succ_le_succ within)
        rw [List.take_succ_cons, opens, closes]
        omega
    · intro i within comma
      cases i with
      | zero => exact Nat.lt_of_lt_of_le (inside comma) (Nat.le_add_right _ _)
      | succ i =>
        have front := commas i (Nat.lt_of_succ_lt_succ within) comma
        rw [List.take_succ_cons, opens, closes]
        omega
    · rw [opens, closes]
      omega

theorem nested_opens_iff {depth level : Nat} {spaced : SpacedToken} {run : TokenStream}
    (opens : IsSign .leftParen spaced) : Nested depth level (spaced :: run) ↔ Nested (depth + 1) level run := by
  obtain ⟨gap, token⟩ := spaced
  obtain rfl : token = .symbol .leftParen := opens
  exact nested_cons_iff rfl fun comma => nomatch comma

theorem nested_closes_iff {depth level : Nat} {spaced : SpacedToken} {run : TokenStream}
    (closes : IsSign .rightParen spaced) : Nested (depth + 1) level (spaced :: run) ↔ Nested depth level run := by
  obtain ⟨gap, token⟩ := spaced
  obtain rfl : token = .symbol .rightParen := closes
  exact nested_cons_iff rfl fun comma => nomatch comma

theorem nested_passes_iff {depth level : Nat} {spaced : SpacedToken} {run : TokenStream}
    (opens : ¬ IsSign .leftParen spaced) (closes : ¬ IsSign .rightParen spaced)
    (inside : IsSign .comma spaced → 0 < depth) : Nested depth level (spaced :: run) ↔ Nested depth level run := by
  have noneOpened : opened [spaced] = 0 := by simpa [opened, IsSign] using opens
  have noneClosed : closed [spaced] = 0 := by simpa [closed, IsSign] using closes
  exact nested_cons_iff (by rw [noneOpened, noneClosed]) inside

theorem Nested.closes_some {depth level : Nat} {spaced : SpacedToken} {run : TokenStream}
    (nested : Nested depth level (spaced :: run)) (closes : IsSign .rightParen spaced) : 0 < depth := by
  obtain ⟨gap, token⟩ := spaced
  obtain rfl : token = .symbol .rightParen := closes
  exact nested.covered 1 (Nat.succ_le_succ (Nat.zero_le _))

theorem Nested.comma_inside {depth level : Nat} {spaced : SpacedToken} {run : TokenStream}
    (nested : Nested depth level (spaced :: run)) (comma : IsSign .comma spaced) : 0 < depth :=
  nested.commas 0 (Nat.zero_lt_succ _) comma

theorem nested_nil_iff (depth level : Nat) : Nested depth level [] ↔ level = depth := by
  constructor
  · intro nested
    exact nested.reaches
  · rintro rfl
    refine ⟨?_, ?_, rfl⟩
    · intro i within
      rw [List.take_nil]
      exact Nat.zero_le _
    · intro i inside
      cases inside

theorem Nested.deeper {depth level : Nat} {run : TokenStream} (nested : Nested depth level run) (more : Nat) :
    Nested (depth + more) (level + more) run := by
  obtain ⟨covered, commas, reaches⟩ := nested
  refine ⟨?_, ?_, by omega⟩
  · intro i within
    have front := covered i within
    omega
  · intro i within comma
    have front := commas i within comma
    omega

end Grammar

namespace Parser

open Grammar

section
variable {depth level : Nat} {spaced : SpacedToken}

theorem modifiers_opens (depth : Nat) (opens : IsSign .leftParen spaced) (rest : TokenStream) :
    modifiers depth (spaced :: rest) = modifiers (depth + 1) rest := by
  obtain ⟨gap, token⟩ := spaced
  obtain rfl : token = .symbol .leftParen := opens
  rw [modifiers, if_neg (by simp), if_pos rfl]

theorem modifiers_closes (depth : Nat) (closes : IsSign .rightParen spaced) (rest : TokenStream) :
    modifiers (depth + 1) (spaced :: rest) = modifiers depth rest := by
  obtain ⟨gap, token⟩ := spaced
  obtain rfl : token = .symbol .rightParen := closes
  rw [modifiers, if_neg (by simp), if_neg (by simp), if_pos rfl]
  rfl

theorem modifiers_passes (opens : ¬ IsSign .leftParen spaced) (closes : ¬ IsSign .rightParen spaced)
    (inside : IsSign .comma spaced → 0 < depth) (rest : TokenStream) :
    modifiers depth (spaced :: rest) = modifiers depth rest := by
  have going : ¬ ((spaced.token = .symbol .comma ∨ spaced.token = .symbol .rightParen) ∧ depth = 0) := by
    rintro ⟨comma | close, rfl⟩
    · exact Nat.lt_irrefl 0 (inside comma)
    · exact closes close
  have notOpened : spaced.token ≠ .symbol .leftParen := opens
  have notClosed : spaced.token ≠ .symbol .rightParen := closes
  rw [modifiers, if_neg going, if_neg notOpened, if_neg notClosed]

end

-- The scanner counts just the parentheses that lead the run from its depth to its level.
theorem modifiers_nested {depth level : Nat} {run : TokenStream} (nested : Nested depth level run) (rest : TokenStream) :
    modifiers depth (run ++ rest) = modifiers level rest := by
  induction run generalizing depth with
  | nil =>
    obtain rfl := (nested_nil_iff depth level).mp nested
    rfl
  | cons spaced run ih =>
    rw [List.cons_append]
    by_cases opens : IsSign .leftParen spaced
    · rw [modifiers_opens depth opens]
      exact ih ((nested_opens_iff opens).mp nested)
    · by_cases closes : IsSign .rightParen spaced
      · obtain ⟨outer, rfl⟩ := Nat.exists_eq_succ_of_ne_zero (nested.closes_some closes).ne'
        rw [modifiers_closes outer closes]
        exact ih ((nested_closes_iff closes).mp nested)
      · rw [modifiers_passes opens closes nested.comma_inside]
        exact ih ((nested_passes_iff opens closes nested.comma_inside).mp nested)

theorem modifiers_found {depth : Nat} {tokens rest : TokenStream} (passed : modifiers depth tokens = .ok ((), rest))
    (some : rest ≠ []) : ∃ run, tokens = run ++ rest ∧ Nested depth 0 run := by
  fun_induction modifiers depth tokens with
  | case1 =>
    cases passed
    exact absurd rfl some
  | case2 depth spaced behind ends =>
    cases passed
    exact ⟨[], rfl, (nested_nil_iff _ _).mpr ends.2.symm⟩
  | case3 depth spaced behind going opens ih =>
    obtain ⟨run, rfl, nested⟩ := ih passed
    exact ⟨spaced :: run, rfl, (nested_opens_iff opens).mpr nested⟩
  | case4 => cases passed
  | case5 depth spaced behind going unopened closes outer lowered ih =>
    obtain ⟨run, rfl, nested⟩ := ih passed
    obtain rfl : depth = outer + 1 := by
      cases depth with
      | zero => cases lowered
      | succ depth =>
        cases lowered
        rfl
    exact ⟨spaced :: run, rfl, (nested_closes_iff closes).mpr nested⟩
  | case6 depth spaced behind going opens closes ih =>
    obtain ⟨run, rfl, nested⟩ := ih passed
    have inside : IsSign .comma spaced → 0 < depth := by
      intro comma
      exact Nat.pos_of_ne_zero fun outside => going ⟨.inl comma, outside⟩
    exact ⟨spaced :: run, rfl, (nested_passes_iff opens closes inside).mpr nested⟩

-- A column ends at a comma or a parenthesis, not at the end of the tokens.
def StopsColumn (rest : TokenStream) : Prop := rest ≠ [] ∧ Before endsColumn rest

theorem modifiers_end {rest : TokenStream} (ends : StopsColumn rest) : modifiers 0 rest = .ok ((), rest) := by
  obtain ⟨some, before⟩ := ends
  cases rest with
  | nil => exact absurd rfl some
  | cons next others =>
    have stops := before next others rfl
    rw [modifiers, if_pos ⟨by simpa [endsColumn] using stops, rfl⟩]

theorem modifiers_read : Reads (modifiers 0) (fun run _ => Modifiers run) StopsColumn := by
  intro tokens _ rest ends
  constructor
  · intro passed
    exact modifiers_found passed ends.1
  · rintro ⟨run, rfl, balanced⟩
    rw [modifiers_nested balanced, modifiers_end ends]

theorem type_name_reads (column : String) : ReadsToken (typeName column) fun spaced typed => IsType spaced.token typed := by
  apply token_reads (by simp [typeName, malformed])
  intro spaced behind typed rest
  rw [typeName]
  split
  · rename_i text quote word
    rw [word, is_type_word_iff]
    simp [and_comm]
  · rename_i comma
    simp [comma, comma_no_type, malformed]
  · rename_i close
    simp [close, close_no_type, malformed]
  · rename_i unnamed comma close
    rw [is_type_other_iff unnamed comma close]
    simp [and_comm]

theorem column_def_reads : Reads columnDef Column StopsColumn := by
  have reads := (name_reads .column).bind fun column =>
    (type_name_reads column).bind fun typed => modifiers_read.map fun _ => ColumnDef.mk column typed
  apply reads.of_iff
  intro phrase column
  constructor
  · rintro ⟨name, text, _, rfl, named, type, typed, run, rfl, shown, _, modified, rfl⟩
    exact .mk named shown modified
  · rintro ⟨named, shown, modified⟩
    exact ⟨_, _, _, rfl, named, _, _, _, rfl, shown, (), modified, rfl⟩

theorem create_table_reads :
    Reads createTable (fun phrase statement => ∃ front closing name columns, phrase = front ++ [closing] ∧
      Opening front name columns ∧ IsSign .rightParen closing ∧ statement = .createTable name columns) anywhere := by
  have columns := fun table => closed_list_reads column_def_shortens column_def_reads
    (fun _ rest comma => ⟨List.cons_ne_nil _ _, before_sign comma rfl rest⟩)
    (fun _ rest close => ⟨List.cons_ne_nil _ _, before_sign close rfl rest⟩) .openColumnList (Statement.createTable table)
  have reads := (keyword_reads (.command .create)).bind fun _ => (keyword_reads .table).bind fun _ =>
    (name_reads .table).bind fun table => (sign_reads .leftParen).bind fun _ => columns table
  apply reads.of_iff
  intro phrase statement
  constructor
  · rintro ⟨verb, _, _, rfl, leads, table, _, _, rfl, makes, word, name, _, rfl, named, opening, _, _, rfl, opens,
      body, closing, columns, rfl, listed, closes, rfl⟩
    exact ⟨_, closing, name, columns, rfl, .mk leads makes named opens listed, closes, rfl⟩
  · rintro ⟨front, closing, name, columns, rfl, opening, closes, rfl⟩
    cases opening with
    | @mk verb table word opening body _ _ leads makes named opens listed =>
      exact ⟨verb, (), _, rfl, leads, table, (), _, rfl, makes, word, name, _, rfl, named, opening, (), _, rfl, opens,
        body, closing, columns, rfl, listed, closes, rfl⟩

theorem column_def_modified {part : TokenStream} {column : ColumnDef} (inPart : Column part column)
    {level : Nat} {before run : TokenStream} (within : Nested 0 level before) (balanced : Modifiers run)
    (back : TokenStream) :
    columnDef (part ++ (before ++ (run ++ back))) = columnDef (part ++ (before ++ back)) := by
  cases inPart with
  | @mk name type own column typed named shown modified =>
    have same : modifiers 0 (own ++ (before ++ (run ++ back))) = modifiers 0 (own ++ (before ++ back)) := by
      have inner : Nested level level run := by simpa using balanced.deeper level
      rw [modifiers_nested modified, modifiers_nested modified, modifiers_nested within, modifiers_nested within,
        modifiers_nested inner]
    simp only [List.cons_append, columnDef, (name_reads _).bind_cons _ named, (type_name_reads _).bind_cons _ shown]
    change (modifiers 0 _).bind _ = (modifiers 0 _).bind _
    rw [same]

-- Along the columns: those before the last are read up to their comma, whatever stands behind it.
theorem columns_modified {body : TokenStream} {columns : List ColumnDef} (listed : Listed Column body columns)
    {level : Nat} {before run : TokenStream} (within : Nested 0 level before) (balanced : Modifiers run)
    (back : TokenStream) :
    commaSeparated columnDef column_def_shortens (body ++ (before ++ (run ++ back))) =
      commaSeparated columnDef column_def_shortens (body ++ (before ++ back)) := by
  obtain ⟨parts, separated, read⟩ := listed
  induction separated generalizing columns with
  | last part =>
    obtain ⟨column, _, inPart, -, -⟩ := List.forall₂_cons_left_iff.mp read
    exact comma_separated_congr _ (column_def_modified inPart within balanced back)
  | @more part comma sign parts whole separated ih =>
    obtain ⟨column, others, inPart, inOthers, -⟩ := List.forall₂_cons_left_iff.mp read
    have first : ∀ rest, columnDef (part ++ comma :: rest) = .ok (column, comma :: rest) := by
      intro rest
      exact (column_def_reads _ column _ ⟨List.cons_ne_nil _ _, before_sign sign rfl rest⟩).mpr ⟨part, rfl, inPart⟩
    simp only [List.append_assoc, List.cons_append]
    rw [comma_separated_comma _ (first _) sign, comma_separated_comma _ (first _) sign, ih inOthers]

theorem create_table_modified {front : TokenStream} {name : String} {columns : List ColumnDef}
    (opening : Opening front name columns) {level : Nat} {before run : TokenStream} (within : Nested 0 level before)
    (balanced : Modifiers run) (back : TokenStream) :
    createTable (front ++ (before ++ (run ++ back))) = createTable (front ++ (before ++ back)) := by
  cases opening with
  | @mk verb table word opening body name columns leads makes named opens listed =>
    simp only [List.cons_append, createTable, (keyword_reads _).bind_cons () leads,
      (keyword_reads _).bind_cons () makes, (name_reads _).bind_cons _ named,
      (sign_reads _).bind_cons () opens]
    change (commaSeparated columnDef column_def_shortens _).bind _ =
      (commaSeparated columnDef column_def_shortens _).bind _
    rw [columns_modified listed within balanced]

end Parser

namespace Statement

open Grammar

theorem of_tokens_create {front : TokenStream} {name : String} {columns : List ColumnDef}
    (opening : Opening front name columns) (back : TokenStream) :
    ofTokens (front ++ back) = ((Parser.createTable >>= fun statement => do
      Parser.ending
      return statement).run' (front ++ back)) := by
  cases opening with
  | mk leads => exact of_tokens_led leads _

theorem of_tokens_modified {front : TokenStream} {name : String} {columns : List ColumnDef}
    (opening : Opening front name columns) {level : Nat} {before run : TokenStream} (within : Nested 0 level before)
    (balanced : Modifiers run) (back : TokenStream) :
    ofTokens (front ++ (before ++ (run ++ back))) = ofTokens (front ++ (before ++ back)) := by
  rw [of_tokens_create opening, of_tokens_create opening]
  change ((Parser.createTable _).bind _).map _ = ((Parser.createTable _).bind _).map _
  rw [Parser.create_table_modified opening within balanced]

theorem create_table_grammar {first : SpacedToken} (leads : IsKeyword (.command .create) first) (rest : TokenStream) :
    (∀ statement, ofTokens (first :: rest) = .ok statement ↔
      ∃ name columns, Creation (first :: rest) name columns ∧ statement = .createTable name columns) ∧
    (∀ front name columns level before run back, Opening front name columns → Nested 0 level before → Modifiers run →
      ofTokens (front ++ (before ++ (run ++ back))) = ofTokens (front ++ (before ++ back))) := by
  constructor
  · intro statement
    rw [of_tokens_led leads, Parser.whole_ok_iff .create _ Parser.create_table_reads fun _ _ => trivial]
    constructor
    · rintro ⟨_, ending, whole, ⟨front, closing, name, columns, rfl, opening, closes, rfl⟩, ended⟩
      rw [List.append_assoc] at whole
      exact ⟨name, columns, whole ▸ .mk opening closes ended, rfl⟩
    · rintro ⟨name, columns, creation, rfl⟩
      generalize whole : first :: rest = tokens at creation
      cases creation with
      | @mk front ending closing _ _ opening closes ended =>
        refine ⟨front ++ [closing], ending, ?_, ⟨front, closing, name, columns, rfl, opening, closes, rfl⟩, ended⟩
        rw [List.append_assoc]
        rfl
  · intro front name columns level before run back opening within balanced
    exact of_tokens_modified opening within balanced back

-- create TABLE pets (id int, price decimal
def priceFront : TokenStream :=
  [⟨"", .word "create" none⟩, ⟨" ", .word "TABLE" none⟩, ⟨" ", .word "pets" none⟩, ⟨" ", .symbol .leftParen⟩,
    ⟨"", .word "id" none⟩, ⟨" ", .word "int" none⟩, ⟨"", .symbol .comma⟩, ⟨" ", .word "price" none⟩,
    ⟨" ", .word "decimal" none⟩]

def priceModifiers : TokenStream :=
  [⟨"", .symbol .leftParen⟩, ⟨"", .number "10" false⟩, ⟨"", .symbol .comma⟩, ⟨" ", .symbol .leftParen⟩,
    ⟨"", .number "2" false⟩, ⟨"", .symbol .rightParen⟩, ⟨"", .symbol .rightParen⟩, ⟨" ", .word "not" none⟩,
    ⟨" ", .word "null" none⟩]

-- One parenthesis closes the list; a second one would close what is not open.
theorem price_modifiers_are_passed :
    ofTokens (priceFront ++ (priceModifiers ++ [⟨"", .symbol .rightParen⟩])) =
        .ok (.createTable "pets" [⟨"id", "int"⟩, ⟨"price", "decimal"⟩]) ∧
      Modifiers priceModifiers ∧
      ∀ name columns, ¬ Creation (priceFront ++ [⟨"", .symbol .rightParen⟩, ⟨"", .symbol .rightParen⟩]) name columns := by
  have balanced : Modifiers priceModifiers := by decide
  have leads : IsKeyword (.command .create) ⟨"", .word "create" none⟩ := by decide
  have id : Column [⟨"", .word "id" none⟩, ⟨" ", .word "int" none⟩] ⟨"id", "int"⟩ :=
    .mk ⟨none, rfl⟩ (.word _ _) (by decide)
  have price : Column [⟨" ", .word "price" none⟩, ⟨" ", .word "decimal" none⟩] ⟨"price", "decimal"⟩ :=
    .mk ⟨none, rfl⟩ (.word _ _) (by decide)
  have comma : IsSign .comma ⟨"", .symbol .comma⟩ := by decide
  have opening : Opening priceFront "pets" [⟨"id", "int"⟩, ⟨"price", "decimal"⟩] :=
    .mk leads (by decide) ⟨none, rfl⟩ (by decide) (Parser.listed_more id comma (Parser.listed_last price))
  have plain : ofTokens (priceFront ++ [⟨"", .symbol .rightParen⟩]) =
      .ok (.createTable "pets" [⟨"id", "int"⟩, ⟨"price", "decimal"⟩]) :=
    ((create_table_grammar leads _).1 _).mpr ⟨_, _, .mk opening (by decide) .absent, rfl⟩
  have refused : (ofTokens (priceFront ++ [⟨"", .symbol .rightParen⟩, ⟨"", .symbol .rightParen⟩])).toOption = none := by
    decide +kernel
  refine ⟨?_, balanced, ?_⟩
  · exact ((create_table_grammar leads []).2 _ _ _ 0 [] _ _ opening (by decide) balanced).trans plain
  · intro name columns creation
    have read : ofTokens (priceFront ++ _) = _ := ((create_table_grammar leads _).1 _).mpr ⟨name, columns, creation, rfl⟩
    rw [read] at refused
    cases refused

end Statement

end TableStore
