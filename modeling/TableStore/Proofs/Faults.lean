import TableStore.Proofs.Grid
import TableStore.Proofs.Parser
import TableStore.Proofs.RoundTrip

set_option autoImplicit false

/- No text leads to a fault in execution, and only a column that is too wide to one in showing the answer. -/
namespace TableStore.Database

variable {db after : Database} {statement : Statement} {answer : Answer}

theorem Effect.rectangular (effect : Effect db statement answer after) (consistent : db.Consistent) :
    answer.Rectangular := by
  cases effect with
  | answered reads shown => exact (query_faultless consistent reads).ok shown
  | created | dropped | inserted | updated | deleted => trivial

-- The two outcomes of a text are stated apart: a statement about the whole result would be unfolded into its parser.

theorem execute_text_rectangular (consistent : db.Consistent) {sql : String}
    (done : (db.executeText sql).1 = .ok answer) : answer.Rectangular := by
  cases read : Statement.parse sql with
  | error error =>
    rw [execute_text_unread read] at done
    cases done
  | ok statement =>
    rw [execute_text_read read] at done
    exact (execute_ok consistent (Prod.ext done rfl)).rectangular consistent

theorem execute_text_error (consistent : db.Consistent) {sql : String} {error : StoreError}
    (failed : (db.executeText sql).1 = .error error) : error.family ≠ .internal := by
  cases read : Statement.parse sql with
  | error cause =>
    rw [execute_text_unread read] at failed
    cases failed
    exact Statement.parse_error read
  | ok statement =>
    rw [execute_text_read read] at failed
    exact (execute_error consistent (Prod.ext failed rfl)).2

theorem reached_texts_never_fault (events : List Event) (sql : String) (layout : Layout) :
    (∀ fault, ((reached events).executeText sql).1 ≠ .error (.internal fault)) ∧
      ∀ answer, ((reached events).executeText sql).1 = .ok answer →
        (layout.overwide? answer = none → ∃ text, layout.render answer = .ok text) ∧
        ∀ width, layout.overwide? answer = some width →
          layout.render answer = .error (.internal (.wideColumn width)) := by
  have consistent := reached_consistent events
  refine ⟨?_, ?_⟩
  · intro fault failed
    exact execute_text_error consistent failed rfl
  · intro answer done
    exact layout.rectangular_rendered (execute_text_rectangular consistent done)

theorem reached_pets_are_drawn :
    ∃ text, Layout.table.render (.rows ⟨["id", "name", "id"], [[.integer 7, .text "Max", .integer 7]]⟩) = .ok text := by
  have done : ((reached petEvents).executeText "SELECT id, name, id FROM pets").1 =
      .ok (.rows ⟨["id", "name", "id"], [[.integer 7, .text "Max", .integer 7]]⟩) := by
    decide +kernel
  exact ((reached_texts_never_fault petEvents _ .table).2 _ done).1 (by decide)

def scrollTable : Table := .empty "scrolls" ⟨[⟨"id", .integer⟩, ⟨"body", .text⟩], 0⟩

def scrollCreation : String := "CREATE TABLE scrolls (id int, body text)"

def scrollFront : String := "INSERT INTO \"scrolls\" VALUES (1, "

def scrollInsertion (n : Nat) : String := scrollFront ++ ("'" ++ scroll n ++ "')")

def scrollQuery : String := "SELECT * FROM \"scrolls\" WHERE id = 1"

theorem scroll_firm {drops : Char → Bool} (kept : drops 'x' = false) (n : Nat) : Text.Firm drops (scroll n).toList := by
  apply Text.firm_of_all
  intro c listed
  rw [scroll, String.toList_ofList] at listed
  rwa [List.eq_of_mem_replicate listed]

theorem doubled_scroll (n : Nat) : Lexeme.doubled '\x27' (scroll n).toList = (scroll n).toList := by
  rw [scroll, String.toList_ofList]
  induction n with
  | zero => rfl
  | succ n ih =>
    rw [Lexeme.doubled] at ih
    rw [List.replicate_succ, Lexeme.doubled, List.flatMap_cons, ih]
    rfl

def scrollLexemes : List Lexeme :=
  [.keyword (.command .insert), .space, .keyword .into, .space, .name "scrolls", .space, .keyword .values, .space,
    .sign .leftParen, .digits "1", .sign .comma, .space]

theorem scroll_phrases (n : Nat) : spaced (insertion "scrolls" [Value.layout (.integer 1), Value.layout (.text (scroll n))]) =
    scrollLexemes ++ [.text (scroll n), .sign .rightParen] := by
  have one : Value.layout (.integer 1) = [.digits "1"] := by decide +kernel
  rw [one]
  rfl

theorem scroll_insertion_text (n : Nat) :
    insertionText "scrolls" [.integer 1, .text (scroll n)] = scrollInsertion n := by
  have front : written scrollLexemes = scrollFront.toList := by decide +kernel
  have text : written [.text (scroll n), .sign .rightParen] = ("'" ++ scroll n ++ "')").toList := by
    rw [written_cons, Lexeme.text, Lexeme.quoted, String.toList_ofList, doubled_scroll]
    simp
    rfl
  have whole :
      written (spaced (insertion "scrolls" [Value.layout (.integer 1), Value.layout (.text (scroll n))])) =
        (scrollInsertion n).toList := by
    calc
      _ = written scrollLexemes ++ written [.text (scroll n), .sign .rightParen] := by
        rw [scroll_phrases, written_append]
      _ = scrollFront.toList ++ ("'" ++ scroll n ++ "')").toList := by
        rw [front, text]
      _ = (scrollInsertion n).toList := String.toList_append.symm
  exact (congrArg String.ofList whole).trans String.ofList_toList

def scrollCreated : Database := (empty.executeText scrollCreation).2

def scrollStored (n : Nat) : Database :=
  scrollCreated.put "scrolls" (scrollTable.put 1 ⟨1, [.integer 1, .text (scroll n)]⟩)

theorem scroll_created : (empty.executeText scrollCreation).1 = .ok (.created "scrolls") := by decide +kernel

theorem scroll_inserted (n : Nat) :
    scrollCreated.executeText (scrollInsertion n) = (.ok (.inserted "scrolls" 1 false), scrollStored n) := by
  have present : scrollCreated.table? "scrolls" = some scrollTable := by decide +kernel
  have sound : scrollTable.schema.Sound := ⟨by decide, rfl⟩
  obtain ⟨id, atKey, inserted⟩ := execute_insertion_text present sound
    (rfl : [Value.integer 1, .text (scroll n)].map (·.columnType) = scrollTable.schema.columns.map (·.type))
  cases atKey
  have kept : Value.kept (.text (scroll n)) = .text (scroll n) := by
    rw [Value.kept_text, (Value.bare_kept_iff _).mpr ⟨scroll_firm (by decide) n, scroll_firm (by decide) n⟩]
  rw [scroll_insertion_text, List.map_cons, List.map_cons, kept] at inserted
  exact inserted

theorem scroll_selected (n : Nat) : (scrollStored n).executeText scrollQuery = (.ok (.rows (scrollSet n)), scrollStored n) := by
  have asked : (Statement.select "scrolls" .all (some 1)).render = scrollQuery := by decide +kernel
  have read : Statement.parse scrollQuery = .ok (.select "scrolls" .all (some 1)) := by
    rw [← asked]
    exact Statement.parse_selection "scrolls" (by simp) (some 1)
  rw [execute_text_read read]
  exact congrArg (·, _) (select_put scrollCreated "scrolls" 1 rfl)

-- For any length: a text that is written out is not to be evaluated.
theorem scroll_reached (n : Nat) : reached [.text scrollCreation, .text (scrollInsertion n)] = scrollStored n :=
  congrArg Prod.snd (scroll_inserted n)

theorem scroll_is_not_drawn :
    ((reached [.text scrollCreation, .text (scrollInsertion 65536)]).executeText scrollQuery).1 =
        .ok (.rows (scrollSet 65536)) ∧
      Layout.table.render (.rows (scrollSet 65536)) = .error (.internal (.wideColumn 65536)) := by
  refine ⟨?_, Grid.render_beyond (scroll_rectangular 65536) (scroll_overwide (by decide))⟩
  rw [scroll_reached, scroll_selected]

end TableStore.Database
