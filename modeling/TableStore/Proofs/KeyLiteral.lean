import TableStore.Proofs.Insertion
import TableStore.Proofs.Pointed

set_option autoImplicit false

/- A condition looks for quote marks before it takes blanks away, and an insertion afterwards. -/
namespace TableStore

namespace Text

open Unicode

def hidesMark (cs : List Char) : Bool := cs.head?.any isBlank && (cs.dropWhile isBlank).head?.any isQuoteMark

def HidesMark (text : String) : Prop := hidesMark text.toList = true ∨ hidesMark text.toList.reverse = true

instance (text : String) : Decidable (HidesMark text) := inferInstanceAs (Decidable (_ ∨ _))

theorem blank_no_quote_mark {c : Char} (blank : isBlank c = true) : isQuoteMark c = false := by
  simp only [isQuoteMark, Bool.or_eq_false_iff, beq_eq_false_iff_ne]
  constructor
  · intro same
    subst same
    cases blank
  · intro same
    subst same
    cases blank

theorem front_gone_iff (front : List Char) :
    (front.dropWhile isQuoteMark).dropWhile isBlank = [] ↔
      ((front.dropWhile isBlank).dropWhile isQuoteMark).dropWhile isBlank = [] ∧ hidesMark front = false := by
  cases front with
  | nil => decide
  | cons c rest =>
    by_cases blank : isBlank c = true
    · have marks : (c :: rest).dropWhile isQuoteMark = c :: rest :=
        List.dropWhile_cons_of_neg (by simp [blank_no_quote_mark blank])
      have hides : hidesMark (c :: rest) = ((c :: rest).dropWhile isBlank).head?.any isQuoteMark := by
        simp [hidesMark, blank]
      have kept := List.head?_dropWhile_not isBlank (c :: rest)
      rw [marks, hides]
      generalize (c :: rest).dropWhile isBlank = behind at kept
      cases behind with
      | nil => decide
      | cons d more =>
        have solid : isBlank d = false := by simpa using kept
        cases mark : isQuoteMark d with
        | true => simp [mark]
        | false => simp [List.dropWhile_cons_of_neg, mark, solid]
    · have blanks : (c :: rest).dropWhile isBlank = c :: rest := List.dropWhile_cons_of_neg (by simpa using blank)
      rw [blanks]
      simp [hidesMark, blank]

theorem hides_mark_before (front : List Char) {rest : List Char}
    (solid : ∀ c ∈ rest.head?, isBlank c = false ∧ isQuoteMark c = false) :
    hidesMark (front ++ rest) = hidesMark front := by
  have blanks : ∀ c ∈ rest.head?, isBlank c = false := fun c first => (solid c first).1
  rw [hidesMark, hidesMark, drop_while_before front blanks]
  cases front with
  | nil =>
    cases rest with
    | nil => rfl
    | cons c more => simp [blanks c rfl]
  | cons c others =>
    cases (c :: others).dropWhile isBlank with
    | nil =>
      cases rest with
      | nil => rfl
      | cons d more => simp [(solid d rfl).2]
    | cons d more => rfl

theorem around_eq_iff {core : List Char} (front back : List Char) :
    front ++ core ++ back.reverse = core ↔ front = [] ∧ back = [] := by
  constructor
  · intro same
    have lengths := congrArg List.length same
    simp only [List.length_append, List.length_reverse] at lengths
    exact ⟨List.eq_nil_of_length_eq_zero (by omega), List.eq_nil_of_length_eq_zero (by omega)⟩
  · intro ⟨first, last⟩
    subst first last
    simp

section
variable {core : List Char} (nonempty : core ≠ []) (blanks : Firm isBlank core) (marks : Firm isQuoteMark core)
include nonempty blanks marks

theorem strip_marks_around (front back : List Char) :
    strip isBlank (strip isQuoteMark (front ++ core ++ back)) =
      (front.dropWhile isQuoteMark).dropWhile isBlank ++ core ++
        ((back.reverse.dropWhile isQuoteMark).dropWhile isBlank).reverse := by
  rw [strip_around nonempty marks, strip_around nonempty blanks, List.reverse_reverse]

theorem hides_mark_around (front back : List Char) : hidesMark (front ++ core ++ back) = hidesMark front := by
  rw [List.append_assoc]
  apply hides_mark_before
  rw [List.head?_append_of_ne_nil core nonempty]
  exact fun c first => ⟨blanks.1 c first, marks.1 c first⟩

-- Stripping in the shorter way finds the core just if stripping in the longer way does and no mark is hidden.
theorem strip_marks_iff (cs : List Char) :
    strip isBlank (strip isQuoteMark cs) = core ↔
      strip isBlank (strip isQuoteMark (strip isBlank cs)) = core ∧
        ¬ (hidesMark cs = true ∨ hidesMark cs.reverse = true) := by
  by_cases inside : core <:+: cs
  · obtain ⟨front, back, whole⟩ := inside
    subst whole
    have reversed : (front ++ core ++ back).reverse = back.reverse ++ core.reverse ++ front.reverse := by simp
    have hidesBack : hidesMark (front ++ core ++ back).reverse = hidesMark back.reverse := by
      rw [reversed]
      exact hides_mark_around (by simpa using nonempty) ⟨by simpa using blanks.2, by simpa using blanks.1⟩
        ⟨by simpa using marks.2, by simpa using marks.1⟩ back.reverse front.reverse
    rw [hidesBack, hides_mark_around nonempty blanks marks, strip_marks_around nonempty blanks marks,
      strip_around nonempty blanks, strip_marks_around nonempty blanks marks, around_eq_iff, around_eq_iff,
      List.reverse_reverse, front_gone_iff front, front_gone_iff back.reverse]
    simp only [not_or, Bool.not_eq_true]
    exact and_and_and_comm
  · -- What is stripped, in either way, stands inside of the whole.
    have unmarked := strip_infix isQuoteMark cs
    have short := strip_infix isBlank (strip isQuoteMark cs)
    have unblanked := strip_infix isBlank cs
    have between := strip_infix isQuoteMark (strip isBlank cs)
    have long := strip_infix isBlank (strip isQuoteMark (strip isBlank cs))
    constructor
    · intro same
      exact absurd (same ▸ short.trans unmarked) inside
    · intro ⟨same, _⟩
      exact absurd (same ▸ long.trans (between.trans unblanked)) inside

end

end Text

namespace Decimal

theorem natural_digits {cs : List Char} {n : Nat} (read : natural cs = some n) :
    cs ≠ [] ∧ ∀ c ∈ cs, c.isDigit = true := by
  rw [natural] at read
  split at read
  · cases read
  · rename_i nonempty
    split at read
    · rename_i digits
      exact ⟨by simpa using nonempty, List.all_eq_true.mp digits⟩
    · cases read

theorem integer_characters {cs : List Char} {n : Int} (read : integer cs = some n) :
    cs ≠ [] ∧ ∀ c ∈ cs, c = '-' ∨ c = '+' ∨ c.isDigit = true := by
  unfold integer at read
  split at read
  · rename_i digits
    cases found : natural digits with
    | none =>
      rw [found] at read
      cases read
    | some m =>
      have digits := (natural_digits found).2
      exact ⟨List.cons_ne_nil _ _, List.forall_mem_cons.mpr ⟨.inl rfl, fun c listed => .inr (.inr (digits c listed))⟩⟩
  · obtain ⟨m, found, _⟩ := Option.map_eq_some_iff.mp read
    have digits := (natural_digits found).2
    exact ⟨List.cons_ne_nil _ _, List.forall_mem_cons.mpr ⟨.inr (.inl rfl), fun c listed => .inr (.inr (digits c listed))⟩⟩
  · obtain ⟨m, found, _⟩ := Option.map_eq_some_iff.mp read
    obtain ⟨nonempty, digits⟩ := natural_digits found
    exact ⟨nonempty, fun c listed => .inr (.inr (digits c listed))⟩

theorem read_firm {drops : Char → Bool} (minus : drops '-' = false) (plus : drops '+' = false)
    (digits : ∀ c, c.isDigit = true → drops c = false) {text : String} {n : Int64} (read : read text = some n) :
    text.toList ≠ [] ∧ Text.Firm drops text.toList := by
  obtain ⟨m, found, _⟩ := Option.bind_eq_some_iff.mp read
  obtain ⟨nonempty, characters⟩ := integer_characters found
  refine ⟨nonempty, Text.firm_of_all ?_⟩
  intro c listed
  obtain same | same | digit := characters c listed
  · rwa [same]
  · rwa [same]
  · exact digits c digit

end Decimal

namespace Text

theorem trim_marks_iff (written text : String) {n : Int64} (read : Decimal.read text = some n) :
    trim (trimQuoteMarks written) = text ↔ Value.bare written = text ∧ ¬ HidesMark written := by
  obtain ⟨nonempty, blanks⟩ := Decimal.read_firm (by decide) (by decide) (fun _ => digit_not_blank) read
  have marks := (Decimal.read_firm (by decide) (by decide) (fun _ => digit_no_quote_mark) read).2
  have stripped := strip_marks_iff nonempty blanks marks written.toList
  rw [Value.bare, trim, trim, trim, trimQuoteMarks, trimQuoteMarks, HidesMark]
  simp only [String.toList_ofList, String.ofList_eq]
  exact stripped

end Text

theorem key_read_iff (written column : String) (key : Int64) :
    Decimal.read (Text.trim (Text.trimQuoteMarks written)) = some key ↔
      Value.coerce written .integer column = .ok (.integer key) ∧ ¬ Text.HidesMark written := by
  rw [coerce_integer_iff]
  constructor
  · intro read
    obtain ⟨same, shown⟩ := (Text.trim_marks_iff written _ read).mp rfl
    rw [same]
    exact ⟨read, shown⟩
  · intro ⟨read, shown⟩
    rw [(Text.trim_marks_iff written _ read).mpr ⟨rfl, shown⟩]
    exact read

section
variable {column written : String} (named : Text.sameIgnoringCase column keyName = true)
include named

theorem condition_key_coerced_iff (key : Int64) :
    conditionKey column written = .ok key ↔
      Value.coerce written .integer keyName = .ok (.integer key) ∧ ¬ Text.HidesMark written := by
  rw [condition_key_iff, ← key_read_iff]
  exact ⟨fun right => right.read, fun read => ⟨named, read⟩⟩

theorem condition_key_hidden (hides : Text.HidesMark written) :
    conditionKey column written = .error (.typeCoercion keyName (Text.trim (Text.trimQuoteMarks written))) := by
  cases read : Decimal.read (Text.trim (Text.trimQuoteMarks written)) with
  | none => exact condition_key_unread named read
  | some key => exact absurd hides ((key_read_iff written keyName key).mp read).2

theorem key_filter_coerced_iff {filter rest : TokenStream} (condition : Grammar.Condition filter column written)
    (stopped : Parser.Delimited rest) (key : Int64) :
    Parser.keyFilter (filter ++ rest) = .ok (key, rest) ↔
      Value.coerce written .integer keyName = .ok (.integer key) ∧ ¬ Text.HidesMark written := by
  rw [Parser.key_filter_condition condition stopped, ← condition_key_coerced_iff named]
  cases conditionKey column written with
  | error error => simp [Except.map]
  | ok found => simp [Except.map]

end

namespace Database

open Grammar

theorem insert_key {db after : Database} (consistent : db.Consistent) {name : String} {table : Table}
    (present : db.table? name = some table) {values : List String} {answer : Answer}
    (done : db.execute (.insert name values) = (.ok answer, after)) :
    ∃ row, answer = .inserted name row.id (table.rows.contains row.id) ∧ after = db.put name (table.put row.id row) ∧
      row.Fits table.schema ∧ ∀ written, values[table.schema.keyIndex]? = some written →
        Value.coerce written .integer keyName = .ok (.integer row.id) := by
  cases execute_ok consistent done with
  | @inserted _ _ _ row found bound =>
    cases present.symm.trans found
    have sound := (consistent.tables name table present).schema
    obtain ⟨fits, _, coerced⟩ := (Row.of_literals_faultless sound values).ok bound
    refine ⟨row, rfl, rfl, fits, ?_⟩
    intro written given
    obtain ⟨value, atKey, read⟩ := Row.coerce_all_at coerced sound.key given
    cases fits.key.symm.trans atKey
    exact read
  | answered reads shown => cases reads

structure Addresses (db : Database) (name : String) (table : Table) (key : Int64) (row : Row) : Prop where
  shows : ∀ shown indexes, projected table shown = .ok indexes → ∃ columns cells,
    pick table.schema.columnNames indexes = .ok columns ∧ pick row.values indexes = .ok cells ∧
      db.execute (.select name shown (some key)) = (.ok (.rows ⟨columns, [cells]⟩), db)
  updates : ∀ assignments cells, changes table assignments = .ok cells →
    db.execute (.update name assignments key) = (.ok (.updated name key),
      db.put name (table.put key { row with values := Table.written table.schema.keyIndex row.values cells }))
  removes : db.execute (.delete name key) = (.ok (.deleted name key true), db.put name (table.without key))

theorem row_addressed {db : Database} (consistent : db.Consistent) {name : String} {table : Table}
    (present : db.table? name = some table) {key : Int64} {row : Row} (stored : table.row? key = some row) :
    db.Addresses name table key row := by
  have tableConsistent := consistent.tables name table present
  have width := (tableConsistent.rows key row stored).2.width
  refine ⟨?_, ?_, ?_⟩
  · intro shown indexes asked
    have inside := (projected_faultless table shown).ok asked
    obtain ⟨columns, header, _⟩ := pick_inside table.schema.columnNames
      (by simpa [Schema.columnNames, Schema.width] using inside)
    obtain ⟨cells, picked, _⟩ := pick_inside row.values (width ▸ inside)
    refine ⟨columns, cells, header, picked, Prod.ext ?_ rfl⟩
    change db.select name shown (some key) = _
    rw [select_picked present asked header, selected, stored]
    simp [pickRows, picked, Except.map]
  · intro assignments cells resolved
    rw [execute, on_table_present present, update_in_resolved tableConsistent name stored resolved]
  · have contained := (table.contains_row_iff key).mpr ⟨row, stored⟩
    rw [execute, on_table_present present, deleteFrom, Table.delete, contained]
    rfl

theorem pointed_text {db : Database} {query : String} {tokens : TokenStream} (lexed : Statement.Lexed query tokens)
    {build : Int64 → Statement} {column written : String} (pointed : Pointed tokens build column written)
    (named : Text.sameIgnoringCase column keyName = true) {key : Int64}
    (read : Value.coerce written .integer keyName = .ok (.integer key)) :
    db.executeText query =
      if Text.HidesMark written then
        (.error (.typeCoercion keyName (Text.trim (Text.trimQuoteMarks written))), db)
      else db.execute (build key) := by
  have parsed := lexed.parse.trans (Statement.of_tokens_pointed pointed)
  by_cases hides : Text.HidesMark written
  · rw [condition_key_hidden named hides] at parsed
    rw [if_pos hides, execute_text_unread parsed]
  · rw [(condition_key_coerced_iff named key).mpr ⟨read, hides⟩] at parsed
    rw [if_neg hides, execute_text_read parsed]

theorem key_literals_agree (events : List Event) {name : String} {table : Table}
    (present : (reached events).table? name = some table) :
    (∀ filter rest column written key, Condition filter column written →
      Text.sameIgnoringCase column keyName = true → Parser.Delimited rest →
        (Parser.keyFilter (filter ++ rest) = .ok (key, rest) ↔
          Value.coerce written .integer keyName = .ok (.integer key) ∧ ¬ Text.HidesMark written)) ∧
    ∀ sql tokens literals values ending written key replaced after, tokenize (Text.trim sql) = .ok tokens →
      Insertion tokens name literals values ending → values[table.schema.keyIndex]? = some written →
      (reached events).executeText sql = (.ok (.inserted name key replaced), after) →
        (∀ query others build column, Statement.Lexed query others → Pointed others build column written →
          Text.sameIgnoringCase column keyName = true →
            after.executeText query =
              if Text.HidesMark written then
                (.error (.typeCoercion keyName (Text.trim (Text.trimQuoteMarks written))), after)
              else after.execute (build key)) ∧
        ∃ row, row.values[table.schema.keyIndex]? = some (.integer key) ∧
          after = (reached events).put name (table.put key row) ∧ after.Addresses name (table.put key row) key row := by
  refine ⟨fun _ _ _ _ key condition named stopped => key_filter_coerced_iff named condition stopped key, ?_⟩
  intro sql tokens literals values ending written key replaced after read insertion atKey inserted
  have consistent := reached_consistent events
  obtain ⟨statement, found, executed⟩ := answered_statement read inserted (by simp)
  rw [Statement.of_tokens_insertion insertion] at found
  cases found
  obtain ⟨row, same, changed, fits, coerced⟩ := insert_key consistent present executed
  cases same
  refine ⟨?_, row, fits.key, changed, ?_⟩
  · intro query others build column lexed pointed named
    exact pointed_text lexed pointed named (coerced written atKey)
  · have kept := (execute_ok consistent executed).consistent consistent
    subst changed
    apply row_addressed kept
    · rw [table_put, if_pos rfl]
    · rw [Table.row_put, if_pos rfl]

def nestEvents : List Event := [.statement (.createTable "nests" [⟨"bird", "text"⟩, ⟨"id", "int"⟩])]

def nestTable : Table := .empty "nests" ⟨[⟨"bird", .text⟩, ⟨"id", .integer⟩], 1⟩

def nestInsertion (key : String) : TokenStream :=
  [⟨"", .word "INSERT" none⟩, ⟨" ", .word "INTO" none⟩, ⟨" ", .word "nests" none⟩, ⟨" ", .word "VALUES" none⟩,
    ⟨" ", .symbol .leftParen⟩, ⟨"", .literal .single "wren"⟩, ⟨"", .symbol .comma⟩, ⟨" ", .literal .single key⟩,
    ⟨"", .symbol .rightParen⟩]

def nestFilter (key : String) : TokenStream :=
  [⟨" ", .word "WHERE" none⟩, ⟨" ", .word "id" none⟩, ⟨" ", .symbol .equal⟩, ⟨" ", .literal .single key⟩]

def nestRemoval (key : String) : TokenStream :=
  ⟨"", .word "DELETE" none⟩ :: ⟨" ", .word "FROM" none⟩ :: ⟨" ", .word "nests" none⟩ :: nestFilter key

theorem nest_insertion (key : String) :
    Insertion (nestInsertion key) "nests" [[⟨"", .literal .single "wren"⟩], [⟨" ", .literal .single key⟩]]
      ["wren", key] [] := by
  have bird : Literal [⟨"", .literal .single "wren"⟩] "wren" := .quoted (.single _)
  have id : Literal [⟨" ", .literal .single key⟩] key := .quoted (.single _)
  have comma : IsSign .comma ⟨"", .symbol .comma⟩ := by decide
  have close : IsSign .rightParen ⟨"", .symbol .rightParen⟩ := by decide
  have closes := Closed.filled (.more _ comma (.last _)) (.cons bird (.cons id .nil)) close
  exact .mk (by decide) (by decide) ⟨none, rfl⟩ (by decide) (by decide) closes .absent

theorem nest_filter_condition (key : String) : Condition (nestFilter key) "id" key :=
  .mk (by decide) ⟨none, rfl⟩ (by decide) (.quoted (.single key))

theorem nest_removal_keyed (key : String) : Keyed .delete (nestRemoval key) (.delete "nests") "id" key := by
  have keyed : Keyed .delete (nestRemoval key ++ []) (.delete "nests") "id" key :=
    .mk (.delete (by decide) (by decide) ⟨none, rfl⟩ (nest_filter_condition key)) .absent
  rwa [List.append_nil] at keyed

theorem nest_is_removed_by_its_literal :
    (((reached nestEvents).executeText "INSERT INTO nests VALUES ('wren', ' 7 ')").2.executeText
      "DELETE FROM nests WHERE id = ' 7 '").1 = .ok (.deleted "nests" 7 true) := by
  have present : (reached nestEvents).table? "nests" = some nestTable := by decide +kernel
  have read : tokenize (Text.trim "INSERT INTO nests VALUES ('wren', ' 7 ')") = .ok (nestInsertion " 7 ") := by
    decide +kernel
  have inserted : ((reached nestEvents).executeText "INSERT INTO nests VALUES ('wren', ' 7 ')").1 =
      .ok (.inserted "nests" 7 false) := by
    decide +kernel
  have lexed : Statement.Lexed "DELETE FROM nests WHERE id = ' 7 '" (nestRemoval " 7 ") :=
    ⟨⟨.delete, by decide +kernel⟩, by decide +kernel⟩
  obtain ⟨texts, row, _, _, addressed⟩ := (key_literals_agree nestEvents present).2 _ _ _ _ _ _ _ _ _ read
    (nest_insertion " 7 ") rfl (Prod.ext inserted rfl)
  rw [texts _ _ _ _ lexed (.keyed (nest_removal_keyed " 7 ")) (by decide), if_neg (by decide), addressed.removes]

-- A quote mark behind a blank, inside of the quotes.
theorem hidden_nest_is_not_removed :
    ((reached nestEvents).executeText "INSERT INTO nests VALUES ('wren', ' ''7'' ')").1 =
        .ok (.inserted "nests" 7 false) ∧
      (((reached nestEvents).executeText "INSERT INTO nests VALUES ('wren', ' ''7'' ')").2.executeText
        "DELETE FROM nests WHERE id = ' ''7'' '").1 = .error (.typeCoercion "id" "'7'") ∧
      ¬ ∀ filter rest column written key, Condition filter column written →
        Text.sameIgnoringCase column keyName = true → Parser.Delimited rest →
          (Parser.keyFilter (filter ++ rest) = .ok (key, rest) ↔
            Value.coerce written .integer keyName = .ok (.integer key)) := by
  refine ⟨by decide +kernel, by decide +kernel, ?_⟩
  intro same
  have coerced : Value.coerce " '7' " .integer keyName = .ok (.integer 7) := by decide +kernel
  have read := (same (nestFilter " '7' ") [] "id" " '7' " 7 (nest_filter_condition _) (by decide)
    (fun _ _ absent => nomatch absent)).mpr coerced
  have refused : (Parser.keyFilter (nestFilter " '7' " ++ [])).toOption = none := by decide +kernel
  rw [read] at refused
  cases refused

end Database

end TableStore
