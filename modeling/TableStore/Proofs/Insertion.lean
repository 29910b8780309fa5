import TableStore.Proofs.Grammar

set_option autoImplicit false

namespace TableStore

namespace Grammar

-- The values and the parenthesis that closes their list, which may be empty.
inductive Closed : TokenStream → List TokenStream → List String → Prop
  | empty {closing : SpacedToken} (closes : IsSign .rightParen closing) : Closed [closing] [] []
  | filled {closing : SpacedToken} {literals : List TokenStream} {body : TokenStream} {values : List String}
      (separated : Separated literals body) (read : List.Forall₂ Literal literals values)
      (closes : IsSign .rightParen closing) : Closed (body ++ [closing]) literals values

-- INSERT INTO name VALUES (literal, …), with or without a semicolon
inductive Insertion : TokenStream → String → List TokenStream → List String → TokenStream → Prop
  | mk {verb into name list opening : SpacedToken} {closed ending : TokenStream} {table : String}
      {literals : List TokenStream} {values : List String}
      (leads : IsKeyword (.command .insert) verb) (targets : IsKeyword .into into) (named : IsName table name)
      (lists : IsKeyword .values list) (opens : IsSign .leftParen opening) (closes : Closed closed literals values)
      (ended : Ending ending) :
      Insertion (verb :: into :: name :: list :: opening :: (closed ++ ending)) table literals values ending

theorem literal_begins {phrase : TokenStream} {content : String} (literal : Literal phrase content) :
    ∃ first rest, phrase = first :: rest ∧ ¬ IsSign .rightParen first := by
  cases literal with
  | @quoted spaced _ closed =>
    refine ⟨spaced, [], rfl, ?_⟩
    intro sign
    rw [show spaced.token = _ from sign] at closed
    cases closed
  | @unquoted first rest bare inside =>
    refine ⟨first, rest, rfl, ?_⟩
    intro sign
    have free := inside first List.mem_cons_self
    rw [show first.token = _ from sign] at free
    exact free .close

-- So an empty list is told from a filled one by its first token.
theorem separated_begins {literals : List TokenStream} {body : TokenStream} {values : List String}
    (separated : Separated literals body) (read : List.Forall₂ Literal literals values) :
    ∃ first rest, body = first :: rest ∧ ¬ IsSign .rightParen first := by
  cases separated with
  | last part =>
    obtain ⟨_, _, literal, _⟩ := List.forall₂_cons_left_iff.mp read
    exact literal_begins literal
  | @more part comma sign parts whole behind =>
    obtain ⟨_, _, literal, _⟩ := List.forall₂_cons_left_iff.mp read
    obtain ⟨first, rest, rfl, free⟩ := literal_begins literal
    exact ⟨first, rest ++ comma :: whole, rfl, free⟩

end Grammar

namespace Parser

open Grammar

def filledList : Parser (List String) := do
  let values ← commaSeparated literal literal_shortens
  close .openValueList
  return values

theorem value_list_empty {closing : SpacedToken} (closes : IsSign .rightParen closing) (rest : TokenStream) :
    valueList (closing :: rest) = .ok ([], rest) := by
  obtain ⟨gap, token⟩ := closing
  obtain rfl : token = .symbol .rightParen := closes
  rfl

theorem value_list_filled {tokens : TokenStream} (filled : startsWith (· == .symbol .rightParen) tokens = false) :
    valueList tokens = filledList tokens := by
  rw [valueList, optional_absent filled]
  rfl

theorem filled_list_reads :
    Reads filledList (fun phrase values => ∃ body closing found, phrase = body ++ [closing] ∧ Listed Literal body found ∧
      IsSign .rightParen closing ∧ values = found) anywhere :=
  closed_list_reads literal_shortens literal_reads (fun _ rest comma => before_sign comma rfl rest)
    (fun _ rest close => before_sign close rfl rest) .openValueList id

theorem value_list_reads : Reads valueList (fun phrase values => ∃ literals, Closed phrase literals values) anywhere := by
  intro tokens values rest _
  constructor
  · intro read
    by_cases empty : startsWith (· == .symbol .rightParen) tokens = true
    · cases tokens with
      | nil => cases empty
      | cons closing behind =>
        have closes : IsSign .rightParen closing := by simpa [startsWith, IsSign] using empty
        rw [value_list_empty closes] at read
        cases read
        exact ⟨[closing], rfl, [], .empty closes⟩
    · rw [value_list_filled (by simpa using empty)] at read
      obtain ⟨_, rfl, body, closing, _, rfl, ⟨literals, separated, listed⟩, closes, rfl⟩ :=
        (filled_list_reads tokens values rest trivial).mp read
      exact ⟨body ++ [closing], rfl, literals, .filled separated listed closes⟩
  · rintro ⟨_, rfl, literals, closed⟩
    cases closed with
    | empty closes => exact value_list_empty closes rest
    | @filled closing _ body _ separated listed closes =>
      obtain ⟨first, others, begins, free⟩ := separated_begins separated listed
      have filled : startsWith (· == .symbol .rightParen) (body ++ [closing] ++ rest) = false := by
        subst begins
        simpa [startsWith, IsSign] using free
      rw [value_list_filled filled]
      exact (filled_list_reads _ values rest trivial).mpr
        ⟨_, rfl, body, closing, values, rfl, ⟨literals, separated, listed⟩, closes, rfl⟩

theorem insert_reads :
    Reads Parser.insert
      (Led (fun spaced (_ : Unit) => IsKeyword (.command .insert) spaced) fun _ =>
        Led (fun spaced (_ : Unit) => IsKeyword .into spaced) fun _ =>
        Led (fun spaced table => IsName table spaced) fun table =>
        Led (fun spaced (_ : Unit) => IsKeyword .values spaced) fun _ =>
        Led (fun spaced (_ : Unit) => IsSign .leftParen spaced) fun _ phrase statement =>
          ∃ values, (∃ literals, Closed phrase literals values) ∧ statement = .insert table values) anywhere :=
  (keyword_reads _).bind fun _ => (keyword_reads _).bind fun _ => (name_reads _).bind fun table =>
    (keyword_reads _).bind fun _ => (sign_reads _).bind fun _ => value_list_reads.map (Statement.insert table)

-- An empty list is no filled one, since no literal begins with the parenthesis; of filled ones the items are the same.
theorem closed_unique {closed other rest behind : TokenStream} {literals found : List TokenStream}
    {values texts : List String} (inClosed : Closed closed literals values) (inOther : Closed other found texts)
    (same : closed ++ rest = other ++ behind) : literals = found ∧ values = texts ∧ rest = behind := by
  cases inClosed with
  | empty closes =>
    cases inOther with
    | empty => exact ⟨rfl, rfl, (List.cons.inj same).2⟩
    | filled separated read _ =>
      obtain ⟨first, others, rfl, free⟩ := separated_begins separated read
      obtain ⟨rfl, -⟩ := List.cons.inj same
      exact absurd closes free
  | @filled closing _ body _ separated read closes =>
    cases inOther with
    | empty closesOther =>
      obtain ⟨first, others, rfl, free⟩ := separated_begins separated read
      obtain ⟨rfl, -⟩ := List.cons.inj same
      exact absurd closesOther free
    | @filled next _ other _ separatedOther readOther closesOther =>
      rw [List.append_assoc, List.append_assoc] at same
      obtain ⟨rfl, rfl, behindSame⟩ :=
        separated_unique literal_reads (fun _ rest sign => before_sign sign rfl rest) separated read separatedOther
          readOther (before_sign closes rfl _) (before_sign closes rfl _) (before_sign closesOther rfl _)
          (before_sign closesOther rfl _) same
      exact ⟨rfl, rfl, (List.cons.inj behindSame).2⟩

end Parser

namespace Statement

open Grammar

theorem insertion_unique {tokens ending back : TokenStream} {table name : String} {literals found : List TokenStream}
    {values texts : List String} (insertion : Insertion tokens table literals values ending)
    (other : Insertion tokens name found texts back) :
    table = name ∧ literals = found ∧ values = texts ∧ ending = back := by
  cases insertion with
  | @mk verb into word list opening closed ending table literals values leads targets named lists opens closes ended =>
    generalize same : verb :: into :: word :: list :: opening :: (closed ++ ending) = tokens at other
    cases other with
    | @mk _ _ _ _ _ _ _ _ _ _ _ _ namedOther _ _ closesOther _ =>
      simp only [List.cons.injEq] at same
      obtain ⟨-, -, rfl, -, -, behind⟩ := same
      obtain ⟨quote, shown⟩ := named
      obtain ⟨mark, shownOther⟩ := namedOther
      rw [shown] at shownOther
      cases shownOther
      obtain ⟨rfl, rfl, rfl⟩ := Parser.closed_unique closes closesOther behind
      exact ⟨rfl, rfl, rfl, rfl⟩

theorem of_tokens_insert_iff {first : SpacedToken} (leads : IsKeyword (.command .insert) first) (rest : TokenStream)
    (statement : Statement) :
    ofTokens (first :: rest) = .ok statement ↔
      ∃ table literals values ending, Insertion (first :: rest) table literals values ending ∧
        statement = .insert table values := by
  rw [of_tokens_led leads, Parser.whole_ok_iff .insert _ Parser.insert_reads fun _ _ => trivial]
  constructor
  · rintro ⟨_, ending, whole, ⟨verb, _, _, rfl, leadsVerb, into, _, _, rfl, targets, word, table, _, rfl, named, list, _, _,
      rfl, lists, opening, _, closed, rfl, opens, values, ⟨literals, closes⟩, rfl⟩, ended⟩
    rw [whole]
    exact ⟨table, literals, values, ending, .mk leadsVerb targets named lists opens closes ended, rfl⟩
  · rintro ⟨table, literals, values, ending, insertion, rfl⟩
    generalize whole : first :: rest = tokens at insertion
    cases insertion with
    | @mk verb into word list opening closed _ _ _ _ leadsVerb targets named lists opens closes ended =>
      exact ⟨verb :: into :: word :: list :: opening :: closed, ending, rfl,
        ⟨verb, (), _, rfl, leadsVerb, into, (), _, rfl, targets, word, table, _, rfl, named, list, (), _, rfl, lists,
          opening, (), _, rfl, opens, values, ⟨literals, closes⟩, rfl⟩, ended⟩

theorem of_tokens_insertion {tokens ending : TokenStream} {table : String} {literals : List TokenStream}
    {values : List String} (insertion : Insertion tokens table literals values ending) :
    ofTokens tokens = .ok (.insert table values) := by
  obtain ⟨first, rest, whole, leads⟩ : ∃ first rest, tokens = first :: rest ∧ IsKeyword (.command .insert) first := by
    cases insertion with
    | mk leads => exact ⟨_, _, rfl, leads⟩
  subst whole
  exact (of_tokens_insert_iff leads rest _).mpr ⟨table, literals, values, ending, insertion, rfl⟩

theorem insert_grammar {first : SpacedToken} (leads : IsKeyword (.command .insert) first) (rest : TokenStream) :
    (∀ statement, ofTokens (first :: rest) = .ok statement ↔
      ∃ table literals values ending, Insertion (first :: rest) table literals values ending ∧
        statement = .insert table values) ∧
    (∀ table name literals found values texts ending back,
      Insertion (first :: rest) table literals values ending → Insertion (first :: rest) name found texts back →
        table = name ∧ literals = found ∧ values = texts ∧ ending = back) :=
  ⟨of_tokens_insert_iff leads rest, fun _ _ _ _ _ _ _ _ => insertion_unique⟩

-- insert INTO notes values ('a', b 'c');
def noteTokens : TokenStream :=
  [⟨"", .word "insert" none⟩, ⟨" ", .word "INTO" none⟩, ⟨" ", .word "notes" none⟩, ⟨" ", .word "values" none⟩,
    ⟨" ", .symbol .leftParen⟩, ⟨"", .literal .single "a"⟩, ⟨"", .symbol .comma⟩, ⟨" ", .word "b" none⟩,
    ⟨" ", .literal .single "c"⟩, ⟨"", .symbol .rightParen⟩, ⟨"", .symbol .semicolon⟩]

theorem note_is_inserted :
    ofTokens noteTokens = .ok (.insert "notes" ["a", "b 'c'"]) ∧
      ∀ table literals values ending, Insertion noteTokens table literals values ending →
        table = "notes" ∧ values = ["a", "b 'c'"] ∧ ending = [⟨"", .symbol .semicolon⟩] ∧
          literals = [[⟨"", .literal .single "a"⟩], [⟨" ", .word "b" none⟩, ⟨" ", .literal .single "c"⟩]] := by
  have quoted : Literal [⟨"", .literal .single "a"⟩] "a" := .quoted (.single _)
  have unquoted : Literal [⟨" ", .word "b" none⟩, ⟨" ", .literal .single "c"⟩] "b 'c'" := by
    refine .unquoted (by rintro _ ⟨⟩) ?_
    simp only [← Parser.ends_literal_iff]
    decide
  have comma : IsSign .comma ⟨"", .symbol .comma⟩ := by decide
  have close : IsSign .rightParen ⟨"", .symbol .rightParen⟩ := by decide
  have closes := Closed.filled (.more _ comma (.last _)) (.cons quoted (.cons unquoted .nil)) close
  have insertion : Insertion noteTokens "notes" _ ["a", "b 'c'"] [⟨"", .symbol .semicolon⟩] :=
    .mk (by decide) (by decide) ⟨none, rfl⟩ (by decide) (by decide) closes (.semicolon rfl)
  have leads : IsKeyword (.command .insert) ⟨"", .word "insert" none⟩ := by decide
  obtain ⟨read, unique⟩ := insert_grammar leads noteTokens.tail
  refine ⟨(read _).mpr ⟨_, _, _, _, insertion, rfl⟩, ?_⟩
  intro table literals values ending other
  obtain ⟨rfl, rfl, rfl, rfl⟩ := unique _ _ _ _ _ _ _ _ other insertion
  exact ⟨rfl, rfl, rfl, rfl⟩

end Statement

end TableStore
