import TableStore.Proofs.Legible
import TableStore.Proofs.Text

set_option autoImplicit false

/- Names between double quotes, values between single ones, keys in decimal, one blank between the parts. -/
namespace TableStore

def joined (glue : List Lexeme) : List (List Lexeme) → List Lexeme
  | [] => []
  | [phrase] => phrase
  | phrase :: next :: rest => phrase ++ (glue ++ joined glue (next :: rest))

def spaced : List (List Lexeme) → List Lexeme := joined [.space]

def listed : List (List Lexeme) → List Lexeme := joined [.sign .comma, .space]

def enclosed (inner : List Lexeme) : List Lexeme := [.sign .leftParen] ++ (inner ++ [.sign .rightParen])

def Lexeme.keyword (expected : Keyword) : Lexeme := .word expected.text

def decimal : Int → List Lexeme
  | .ofNat n => [.digits (toString n)]
  | .negSucc n => [.sign .minus, .digits (toString (n + 1))]

def keyCondition (key : Int64) : List (List Lexeme) :=
  [[.keyword .whereClause], [.word "id"], [.sign .equal], decimal key.toInt]

def Projection.layout : Projection → List Lexeme
  | .all => [.sign .star]
  | .columns names => listed (names.map fun name => [.name name])

def ColumnDef.layout (column : ColumnDef) : List Lexeme := spaced [[.name column.name], [.name column.typeName]]

def Assignment.layout (assignment : Assignment) : List Lexeme :=
  spaced [[.name assignment.column], [.sign .equal], [.text assignment.value]]

def insertion (table : String) (values : List (List Lexeme)) : List (List Lexeme) :=
  [[.keyword (.command .insert)], [.keyword .into], [.name table], [.keyword .values], enclosed (listed values)]

def selection (table : String) (projection : Projection) : List (List Lexeme) :=
  [[.keyword (.command .select)], projection.layout, [.keyword .fromClause], [.name table]]

namespace Statement

-- A join keeps its predicate as it stood and an unknown statement only its first word, so they are not laid out.
def phrases : Statement → List (List Lexeme)
  | .createTable name columns =>
    [[.keyword (.command .create)], [.keyword .table], [.name name], enclosed (listed (columns.map (·.layout)))]
  | .dropTable name => [[.keyword (.command .drop)], [.keyword .table], [.name name]]
  | .insert table values => insertion table (values.map fun value => [.text value])
  | .select table projection none => selection table projection
  | .select table projection (some key) => selection table projection ++ keyCondition key
  | .update table assignments key =>
    [[.keyword (.command .update)], [.name table], [.keyword .setClause], listed (assignments.map (·.layout))] ++
      keyCondition key
  | .delete table key => [[.keyword (.command .delete)], [.keyword .fromClause], [.name table]] ++ keyCondition key
  | .join .. | .unknown .. => []

def render (statement : Statement) : String := String.ofList (written (spaced statement.phrases))

def Renderable : Statement → Prop
  | .createTable _ columns => columns ≠ []
  | .select _ (.columns names) _ => names ≠ []
  | .update _ assignments _ => assignments ≠ []
  | .dropTable _ | .insert .. | .select _ .all _ | .delete .. => True
  | .join .. | .unknown .. => False

end Statement

theorem joined_front (glue next : List Lexeme) (phrases : List (List Lexeme)) :
    ∃ behind, joined glue (next :: phrases) = next ++ behind := by
  cases phrases with
  | nil => exact ⟨[], (List.append_nil next).symm⟩
  | cons other rest => exact ⟨_, rfl⟩

theorem joined_detached {glue : List Lexeme} (glued : ∀ rest, Ends (written (glue ++ rest)))
    (legible : ∀ rest, Legible rest → Legible (glue ++ rest)) {phrases : List (List Lexeme)}
    (detached : ∀ phrase ∈ phrases, Detached phrase) : Detached (joined glue phrases) := by
  fun_induction joined glue phrases with
  | case1 => exact fun _ _ behind => behind
  | case2 phrase => exact detached phrase (List.mem_cons_self ..)
  | case3 phrase next others ih =>
    obtain ⟨first, more⟩ := List.forall_mem_cons.mp detached
    intro rest ends behind
    rw [List.append_assoc, List.append_assoc]
    exact first _ (glued _) (legible _ (ih more rest ends behind))

theorem spaced_detached {phrases : List (List Lexeme)} (detached : ∀ phrase ∈ phrases, Detached phrase) :
    Detached (spaced phrases) := by
  apply joined_detached _ _ detached
  · intro rest
    exact ends_at (c := ' ') (by decide) _
  · intro rest behind
    exact ⟨Lexeme.space_reads _, behind⟩

theorem listed_detached {phrases : List (List Lexeme)} (detached : ∀ phrase ∈ phrases, Detached phrase) :
    Detached (listed phrases) := by
  apply joined_detached _ _ detached
  · intro rest
    exact ends_at (c := ',') (by decide) _
  · intro rest behind
    exact ⟨Lexeme.sign_reads (by decide) _, Lexeme.space_reads _, behind⟩

theorem name_detached (content : String) : Detached [.name content] :=
  detached_of_reads fun _ ends => Lexeme.name_reads content ends

theorem text_detached (content : String) : Detached [.text content] :=
  detached_of_reads fun _ ends => Lexeme.text_reads content ends

theorem word_detached {text : String} (bare : Lexeme.isBare text.toList = true) : Detached [.word text] :=
  detached_of_reads fun _ ends => Lexeme.word_reads bare ends

theorem keyword_bare (expected : Keyword) : Lexeme.isBare expected.text.toList = true := by
  cases expected with
  | command verb => cases verb <;> rfl
  | _ => rfl

theorem keyword_detached (expected : Keyword) : Detached [.keyword expected] := word_detached (keyword_bare expected)

theorem natural_digits (n : Nat) :
    (toString n).toList ≠ [] ∧ ∀ c ∈ (toString n).toList, c.isDigit = true := by
  have shown : (toString n).toList = Nat.toDigits 10 n := Decimal.to_string_of_nat n
  rw [shown]
  exact ⟨by simp, fun c listed => Nat.isDigit_of_mem_toDigits (by decide) (by decide) listed⟩

theorem natural_reads (n : Nat) {rest : List Char} (ends : Ends rest) : (Lexeme.digits (toString n)).Reads rest :=
  Lexeme.digits_reads (natural_digits n).1 (natural_digits n).2 ends

theorem decimal_detached (n : Int) : Detached (decimal n) := by
  cases n with
  | ofNat m => exact detached_of_reads fun _ ends => natural_reads m ends
  | negSucc m =>
    intro rest ends behind
    obtain ⟨c, cs, split⟩ := List.exists_cons_of_ne_nil (natural_digits (m + 1)).1
    have digit : c.isDigit = true := (natural_digits (m + 1)).2 c (split ▸ List.mem_cons_self ..)
    have front : written ([.digits (toString (m + 1))] ++ rest) = c :: (cs ++ written rest) := by
      rw [written_append, written, List.flatMap_singleton, Lexeme.digits, split]
      rfl
    have minus := Lexeme.minus_reads digit (cs ++ written rest)
    rw [← front] at minus
    exact ⟨minus, natural_reads (m + 1) ends, behind⟩

theorem enclosed_detached {inner : List Lexeme} (detached : Detached inner) : Detached (enclosed inner) := by
  intro rest _ behind
  rw [enclosed, List.append_assoc, List.append_assoc]
  exact ⟨Lexeme.sign_reads (by decide) _, detached _ (ends_at (by decide) _) ⟨Lexeme.sign_reads (by decide) _, behind⟩⟩

theorem projection_detached (projection : Projection) : Detached projection.layout := by
  cases projection with
  | all => exact detached_of_reads fun _ _ => Lexeme.sign_reads (by decide) _
  | columns names =>
    apply listed_detached
    simp [name_detached]

theorem equal_detached : Detached [.sign .equal] := detached_of_reads fun _ ends => Lexeme.equal_reads ends

theorem column_def_detached (column : ColumnDef) : Detached column.layout := by
  apply spaced_detached
  simp [name_detached]

theorem assignment_detached (assignment : Assignment) : Detached assignment.layout := by
  apply spaced_detached
  simp [name_detached, text_detached, equal_detached]

theorem key_condition_detached (key : Int64) : ∀ phrase ∈ keyCondition key, Detached phrase := by
  have id : Detached [.word "id"] := word_detached rfl
  simp [keyCondition, keyword_detached, id, equal_detached, decimal_detached]

theorem insertion_detached (table : String) {values : List (List Lexeme)} (detached : ∀ value ∈ values, Detached value) :
    ∀ phrase ∈ insertion table values, Detached phrase := by
  simp [insertion, keyword_detached, name_detached, enclosed_detached (listed_detached detached)]

theorem selection_detached (table : String) (projection : Projection) :
    ∀ phrase ∈ selection table projection, Detached phrase := by
  simp [selection, keyword_detached, name_detached, projection_detached]

theorem phrases_detached (statement : Statement) : ∀ phrase ∈ statement.phrases, Detached phrase := by
  cases statement with
  | createTable name columns =>
    have items : ∀ phrase ∈ columns.map (·.layout), Detached phrase := by simp [column_def_detached]
    simp [Statement.phrases, keyword_detached, name_detached, enclosed_detached (listed_detached items)]
  | dropTable name => simp [Statement.phrases, keyword_detached, name_detached]
  | insert table values => exact insertion_detached table (by simp [text_detached])
  | select table projection key =>
    cases key with
    | none => exact selection_detached table projection
    | some key =>
      exact List.forall_mem_append.mpr ⟨selection_detached table projection, key_condition_detached key⟩
  | update table assignments key =>
    have items : ∀ phrase ∈ assignments.map (·.layout), Detached phrase := by simp [assignment_detached]
    refine List.forall_mem_append.mpr ⟨?_, key_condition_detached key⟩
    simp [keyword_detached, name_detached, listed_detached items]
  | delete table key =>
    refine List.forall_mem_append.mpr ⟨?_, key_condition_detached key⟩
    simp [keyword_detached, name_detached]
  | join | unknown => simp [Statement.phrases]

def Solid (phrase : List Lexeme) : Prop := ∃ front last, written phrase = front ++ [last] ∧ Unicode.isBlank last = false

theorem solid_append (front : List Lexeme) {phrase : List Lexeme} (solid : Solid phrase) : Solid (front ++ phrase) := by
  obtain ⟨before, last, same, shown⟩ := solid
  exact ⟨written front ++ before, last, by rw [written_append, same, List.append_assoc], shown⟩

theorem name_solid (content : String) : Solid [.name content] :=
  ⟨'\x22' :: Lexeme.doubled '\x22' content.toList, '\x22', by simp [written, Lexeme.name, Lexeme.quoted], by decide⟩

theorem enclosed_solid (inner : List Lexeme) : Solid (enclosed inner) :=
  solid_append _ (solid_append _ ⟨[], ')', rfl, by decide⟩)

theorem natural_solid (n : Nat) : Solid [.digits (toString n)] := by
  obtain ⟨nonempty, digits⟩ := natural_digits n
  refine ⟨(toString n).toList.dropLast, _, ?_, Text.digit_not_blank (digits _ (List.getLast_mem nonempty))⟩
  rw [written, List.flatMap_singleton, List.dropLast_append_getLast nonempty, Lexeme.digits]

theorem decimal_solid (n : Int) : Solid (decimal n) := by
  cases n with
  | ofNat m => exact natural_solid m
  | negSucc m => exact solid_append [.sign .minus] (natural_solid (m + 1))

theorem spaced_solid (phrases : List (List Lexeme)) {last : List Lexeme} (solid : Solid last) :
    Solid (spaced (phrases ++ [last])) := by
  induction phrases with
  | nil => exact solid
  | cons phrase rest ih =>
    have nonempty : rest ++ [last] ≠ [] := by simp
    obtain ⟨next, others, split⟩ := List.exists_cons_of_ne_nil nonempty
    rw [List.cons_append, split]
    rw [split] at ih
    exact solid_append _ (solid_append _ ih)

end TableStore
