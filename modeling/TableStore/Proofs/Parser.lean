import TableStore.Proofs.Faultless
import TableStore.Statement.Parser

set_option autoImplicit false

/- A text is asked of tokens that are there, and a depth or a length is lowered where it is above zero. -/
namespace TableStore

namespace Parser

def Safe {α : Type} (parser : Parser α) : Prop := ∀ tokens, Faultless (fun _ => True) (parser tokens)

section
variable {α β : Type}

theorem pure_safe (value : α) : Safe (pure value) := fun _ => trivial

theorem Safe.bind {first : Parser α} (safe : Safe first) {next : α → Parser β} (step : ∀ value, Safe (next value)) :
    Safe (first >>= next) := by
  intro tokens
  exact (safe tokens).bind fun found _ => step found.1 found.2

theorem Safe.map {first : Parser α} (safe : Safe first) (change : α → β) : Safe (change <$> first) := by
  intro tokens
  exact (safe tokens).bind fun _ _ => trivial

theorem throw_safe {error : StoreError} (family : error.family ≠ .internal) : Safe (throw error : Parser α) := by
  intro tokens
  exact family

theorem malformed_faultless {holds : α → Prop} (cause : SyntaxError) : Faultless holds (malformed cause) := by
  simp [malformed, Faultless, StoreError.family]

theorem head_safe {parser : Parser α} (atEnd : Faultless (fun _ => True) (parser []))
    (step : ∀ spaced rest, Faultless (fun _ => True) (parser (spaced :: rest))) : Safe parser := by
  intro tokens
  cases tokens with
  | nil => exact atEnd
  | cons spaced rest => exact step spaced rest

-- Induction along the list, as it is read: what each item leaves is shorter.
theorem comma_separated_safe {item : Parser α} (safe : Safe item)
    (shortens : ∀ tokens value rest, item tokens = .ok (value, rest) → rest.length < tokens.length) :
    Safe (commaSeparated item shortens) := by
  intro tokens
  fun_induction commaSeparated item shortens tokens with
  | case1 tokens error failed => exact (safe tokens).error failed
  | case2 => trivial
  | case3 tokens value spaced rest read comma ih => exact ih.map fun _ _ => trivial
  | case4 => trivial

end

theorem keyword_safe (expected : Keyword) : Safe (keyword expected) := by
  refine head_safe (malformed_faultless _) fun spaced rest => ?_
  rw [keyword]
  split
  · trivial
  · exact malformed_faultless _

theorem name_safe (role : NameRole) : Safe (name role) := by
  refine head_safe (malformed_faultless _) fun spaced rest => ?_
  rw [name]
  split
  · trivial
  · exact malformed_faultless _

theorem sign_safe (expected : Symbol) : Safe (sign expected) := by
  refine head_safe (malformed_faultless _) fun spaced rest => ?_
  rw [sign]
  split
  · trivial
  · exact malformed_faultless _

theorem optional_safe (test : Token → Bool) : Safe (optional test) := by
  intro tokens
  rw [optional]
  split
  · trivial
  · trivial

theorem modify_safe (change : TokenStream → TokenStream) : Safe (modify change) := fun _ => trivial

theorem close_safe (unclosed : SyntaxError) : Safe (close unclosed) := by
  refine head_safe (malformed_faultless _) fun spaced rest => ?_
  rw [close]
  split
  · trivial
  · exact malformed_faultless _

theorem type_name_safe (column : String) : Safe (typeName column) := by
  refine head_safe (malformed_faultless _) fun spaced rest => ?_
  rw [typeName]
  split
  · trivial
  · exact malformed_faultless _
  · exact malformed_faultless _
  · trivial

theorem less_one_ok {n : Nat} (positive : n ≠ 0) : lessOne n = .ok (n - 1) := by
  cases n with
  | zero => exact absurd rfl positive
  | succ n => rfl

theorem modifiers_safe (depth : Nat) : Safe (modifiers depth) := by
  intro tokens
  fun_induction modifiers depth tokens with
  | case1 => trivial
  | case2 => trivial
  | case3 depth spaced rest inside opens ih => exact ih
  | case4 depth spaced rest inside notOpen closes error failed =>
    -- A closing parenthesis at depth zero ends the type, so none is passed there.
    have positive : depth ≠ 0 := fun outside => inside ⟨.inr closes, outside⟩
    rw [less_one_ok positive] at failed
    cases failed
  | case5 depth spaced rest inside notOpen closes outer lowered ih => exact ih
  | case6 depth spaced rest inside notOpen notClosed ih => exact ih

theorem text_from_inside (tokens : TokenStream) (index count : Nat) (inside : index + count ≤ tokens.length) :
    ∃ text, textFrom tokens index count = .ok text := by
  induction count generalizing index with
  | zero => exact ⟨"", rfl⟩
  | succ count ih =>
    have here : index < tokens.length := by omega
    have token : tokenAt tokens index = .ok tokens[index].token := by rw [tokenAt, List.getElem?_eq_getElem here]
    have gap : gapAt tokens index = .ok tokens[index].gap := by rw [gapAt, List.getElem?_eq_getElem here]
    obtain ⟨behind, read⟩ := ih (index + 1) (by omega)
    rw [textFrom, token, gap, read]
    split
    · exact ⟨_, rfl⟩
    · exact ⟨_, rfl⟩

theorem front_text (tokens : TokenStream) (count : Nat) (inside : count ≤ tokens.length) :
    ∃ text, textFrom tokens 0 count = .ok text := by
  apply text_from_inside
  omega

theorem unquoted_literal_safe : Safe unquotedLiteral := by
  intro tokens
  simp only [unquotedLiteral]
  split
  · exact malformed_faultless _
  · have inside := (List.takeWhile_prefix (l := tokens) fun spaced => !endsLiteral spaced.token).length_le
    obtain ⟨text, read⟩ := front_text tokens _ inside
    rw [read]
    trivial

theorem literal_safe : Safe literal := by
  refine head_safe (unquoted_literal_safe []) fun spaced rest => ?_
  rw [literal]
  split
  · trivial
  · exact unquoted_literal_safe _

theorem predicate_safe : Safe predicate := by
  intro tokens
  have upTo : ∀ count, count ≤ tokens.length → Faultless (fun _ => True)
      (if count = 0 then malformed .missingPredicate
        else (textFrom tokens 0 count).bind fun text => .ok (text, tokens.drop count)) := by
    intro count inside
    split
    · exact malformed_faultless _
    · obtain ⟨text, read⟩ := front_text tokens count inside
      rw [read]
      trivial
  rw [predicate]
  split
  · rename_i semicolon
    -- The semicolon itself is a token that the length counts.
    have nonempty : tokens.length ≠ 0 := by
      intro empty
      rw [List.length_eq_zero_iff.mp empty] at semicolon
      cases semicolon
    rw [less_one_ok nonempty]
    exact upTo _ (Nat.sub_le ..)
  · exact upTo _ (Nat.le_refl _)

theorem column_def_safe : Safe columnDef := by
  refine (name_safe _).bind fun column => ?_
  refine (type_name_safe column).bind fun typed => ?_
  refine (modifiers_safe 0).bind fun _ => ?_
  exact pure_safe _

theorem assignment_safe : Safe assignment := by
  refine (name_safe _).bind fun column => ?_
  refine (sign_safe _).bind fun _ => ?_
  refine literal_safe.bind fun value => ?_
  exact pure_safe _

theorem create_table_safe : Safe createTable := by
  refine (keyword_safe _).bind fun _ => ?_
  refine (keyword_safe _).bind fun _ => ?_
  refine (name_safe _).bind fun table => ?_
  refine (sign_safe _).bind fun _ => ?_
  refine (comma_separated_safe column_def_safe _).bind fun columns => ?_
  refine (close_safe _).bind fun _ => ?_
  exact pure_safe _

theorem drop_table_safe : Safe dropTable := by
  refine (keyword_safe _).bind fun _ => ?_
  refine (keyword_safe _).bind fun _ => ?_
  refine (name_safe _).bind fun table => ?_
  exact pure_safe _

theorem value_list_safe : Safe valueList := by
  refine (optional_safe _).bind fun empty => ?_
  cases empty with
  | true => exact pure_safe _
  | false =>
    refine (comma_separated_safe literal_safe _).bind fun values => ?_
    refine (close_safe _).bind fun _ => ?_
    exact pure_safe _

theorem insert_safe : Safe insert := by
  refine (keyword_safe _).bind fun _ => ?_
  refine (keyword_safe _).bind fun _ => ?_
  refine (name_safe _).bind fun table => ?_
  refine (keyword_safe _).bind fun _ => ?_
  refine (sign_safe _).bind fun _ => ?_
  refine value_list_safe.bind fun values => ?_
  exact pure_safe _

theorem projection_safe : Safe projection := by
  refine (optional_safe _).bind fun star => ?_
  cases star with
  | true => exact pure_safe _
  | false =>
    refine (name_safe _).bind fun first => ?_
    refine (optional_safe _).bind fun comma => ?_
    cases comma with
    | true =>
      refine (comma_separated_safe (name_safe _) _).bind fun others => ?_
      exact pure_safe _
    | false => exact pure_safe _

theorem key_filter_safe : Safe keyFilter := by
  refine (keyword_safe _).bind fun _ => ?_
  refine (name_safe _).bind fun column => ?_
  split
  · exact throw_safe (by simp [StoreError.family])
  · refine (sign_safe _).bind fun _ => ?_
    refine literal_safe.bind fun written => ?_
    simp only
    split
    · exact pure_safe _
    · exact throw_safe (by simp [StoreError.family])

theorem required_filter_safe (missing : SyntaxError) : Safe (requiredFilter missing) := by
  intro tokens
  rw [requiredFilter]
  split
  · exact key_filter_safe tokens
  · exact malformed_faultless _

theorem optional_filter_safe : Safe optionalFilter := by
  intro tokens
  rw [optionalFilter]
  split
  · exact key_filter_safe.map some tokens
  · trivial

theorem select_safe : Safe select := by
  refine (keyword_safe _).bind fun _ => ?_
  refine projection_safe.bind fun shown => ?_
  refine (keyword_safe _).bind fun _ => ?_
  refine (name_safe _).bind fun table => ?_
  refine optional_filter_safe.bind fun key => ?_
  exact pure_safe _

theorem join_safe : Safe join := by
  refine (keyword_safe _).bind fun _ => ?_
  refine (modify_safe _).bind fun _ => ?_
  refine (keyword_safe _).bind fun _ => ?_
  refine (name_safe _).bind fun left => ?_
  refine ((optional_safe _).map _).bind fun _ => ?_
  refine (keyword_safe _).bind fun _ => ?_
  refine (name_safe _).bind fun right => ?_
  refine (keyword_safe _).bind fun _ => ?_
  refine predicate_safe.bind fun predicate => ?_
  exact pure_safe _

theorem update_safe : Safe update := by
  refine (keyword_safe _).bind fun _ => ?_
  refine (name_safe _).bind fun table => ?_
  refine (keyword_safe _).bind fun _ => ?_
  refine (comma_separated_safe assignment_safe _).bind fun assignments => ?_
  refine (required_filter_safe _).bind fun key => ?_
  exact pure_safe _

theorem delete_safe : Safe delete := by
  refine (keyword_safe _).bind fun _ => ?_
  refine (keyword_safe _).bind fun _ => ?_
  refine (name_safe _).bind fun table => ?_
  refine (required_filter_safe _).bind fun key => ?_
  exact pure_safe _

theorem form_safe (verb : Command) (joins : Bool) : Safe (form verb joins) := by
  cases verb with
  | create => exact create_table_safe
  | drop => exact drop_table_safe
  | insert => exact insert_safe
  | select =>
    cases joins with
    | true => exact join_safe
    | false => exact select_safe
  | update => exact update_safe
  | delete => exact delete_safe

theorem ending_safe : Safe ending := by
  refine ((optional_safe _).map _).bind fun _ => ?_
  exact head_safe trivial fun spaced rest => malformed_faultless _

theorem whole_safe (verb : Command) (joins : Bool) : Safe (whole verb joins) := by
  refine (form_safe verb joins).bind fun statement => ?_
  refine ending_safe.bind fun _ => ?_
  exact pure_safe _

end Parser

namespace Statement

theorem of_tokens_faultless (tokens : TokenStream) : Faultless (fun _ => True) (ofTokens tokens) := by
  cases tokens with
  | nil => trivial
  | cons spaced rest =>
    rw [ofTokens]
    split
    · split
      · trivial
      · rename_i verb _
        exact (Parser.whole_safe verb _ _).map fun _ _ => trivial
    · trivial

theorem parse_error {sql : String} {error : StoreError} (unread : parse sql = .error error) :
    error.family ≠ .internal := by
  unfold parse at unread
  simp only at unread
  split at unread
  · cases unread
  · split at unread
    · cases unread
      simp [StoreError.family]
    · rename_i tokens _
      exact (of_tokens_faultless tokens).error unread

end Statement

end TableStore
