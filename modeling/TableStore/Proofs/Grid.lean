import TableStore.Answer.Layout
import TableStore.Proofs.Reading

set_option autoImplicit false

/- Rows as wide as their columns never run past the widths of a grid. -/
namespace TableStore

namespace RowSet

def columnTexts (set : RowSet) (j : Nat) : List String :=
  (set.columns[j]?).toList ++ (set.rows.filterMap (·[j]?)).map (·.shown)

def columnWidth (set : RowSet) (j : Nat) : Nat := ((set.columnTexts j).map String.length).foldr max 0

def columnWidths (set : RowSet) : List Nat := (List.range set.columns.length).map set.columnWidth

theorem column_widths_length (set : RowSet) : set.columnWidths.length = set.columns.length := by
  simp [columnWidths]

theorem column_widths_at {set : RowSet} {j : Nat} (inside : j < set.columns.length) :
    set.columnWidths[j]? = some (set.columnWidth j) := by
  simp [columnWidths, inside]

theorem length_le_greatest {texts : List String} {text : String} (listed : text ∈ texts) :
    text.length ≤ (texts.map String.length).foldr max 0 := by
  induction texts with
  | nil => cases listed
  | cons first rest ih =>
    rw [List.map_cons, List.foldr_cons]
    rcases List.mem_cons.mp listed with rfl | behind
    · exact Nat.le_max_left _ _
    · exact Nat.le_trans (ih behind) (Nat.le_max_right _ _)

theorem length_le_width {set : RowSet} {j : Nat} {text : String} (listed : text ∈ set.columnTexts j) :
    text.length ≤ set.columnWidth j :=
  length_le_greatest listed

theorem name_in_column {set : RowSet} {j : Nat} {name : String} (named : set.columns[j]? = some name) :
    name ∈ set.columnTexts j := by
  simp [columnTexts, named]

theorem cell_in_column {set : RowSet} {row : List Value} {j : Nat} {cell : Value} (stored : row ∈ set.rows)
    (filled : row[j]? = some cell) : cell.shown ∈ set.columnTexts j :=
  List.mem_append_right _ (List.mem_map_of_mem (List.mem_filterMap.mpr ⟨row, stored, filled⟩))

def overwide? (set : RowSet) : Option Nat := set.columnWidths.find? (Grid.widthLimit < ·)

end RowSet

def Layout.overwide? (layout : Layout) : Answer → Option Nat
  | .rows set =>
    if set.isEmpty then none
    else
      match layout with
      | .json => none
      | .table => set.overwide?
  | _ => none

namespace Grid

theorem widen_even {widths : List Nat} {values : List Value} (even : values.length = widths.length) :
    widen widths values = .ok (List.zipWith (fun width value => max width value.shown.length) widths values) := by
  induction widths generalizing values with
  | nil =>
    rw [List.length_eq_zero_iff.mp even]
    rfl
  | cons width widths ih =>
    cases values with
    | nil => cases even
    | cons value values =>
      rw [widen, ih (Nat.succ.inj even)]
      rfl

-- Each width is carried along on its own: it ends as the greatest length of its column.
theorem widths_at {rows : List (List Value)} {start : List Nat} (even : ∀ row ∈ rows, row.length = start.length) :
    ∃ found, rows.foldlM widen start = .ok found ∧ found.length = start.length ∧
      ∀ (j width : Nat), start[j]? = some width →
        found[j]? = some (max width (((rows.filterMap (·[j]?)).map fun cell => cell.shown.length).foldr max 0)) := by
  induction rows generalizing start with
  | nil => exact ⟨start, rfl, rfl, fun j width here => by simpa using here⟩
  | cons row rows ih =>
    obtain ⟨rowEven, restEven⟩ := List.forall_mem_cons.mp even
    have sameLength : (List.zipWith (fun width (value : Value) => max width value.shown.length) start row).length =
        start.length := by simp [rowEven]
    obtain ⟨found, measured, length, behind⟩ := ih (by rwa [sameLength])
    refine ⟨found, ?_, length.trans sameLength, ?_⟩
    · rw [List.foldlM_cons, widen_even rowEven]
      exact measured
    · intro j width here
      have inside : j < start.length := (List.getElem?_eq_some_iff.mp here).1
      have cell : row[j]? = some row[j] := List.getElem?_eq_getElem (rowEven ▸ inside)
      rw [behind j (max width row[j].shown.length) (by simp [List.getElem?_zipWith, here, cell])]
      simp [cell, Nat.max_assoc]

theorem widths_are_column_widths {set : RowSet} (rectangular : set.Rectangular) :
    widths set = .ok set.columnWidths := by
  have even : ∀ row ∈ set.rows, row.length = (set.columns.map String.length).length := by
    rw [List.length_map]
    exact rectangular
  obtain ⟨found, measured, length, columns⟩ := widths_at even
  rw [widths, measured, Except.ok.injEq]
  apply List.ext_getElem?
  intro j
  by_cases inside : j < set.columns.length
  · rw [columns j set.columns[j].length (by simp [inside]), RowSet.column_widths_at inside]
    simp [RowSet.columnWidth, RowSet.columnTexts, inside, Function.comp_def]
  · rw [List.getElem?_eq_none (by simpa [length] using inside),
      List.getElem?_eq_none (by simpa [RowSet.column_widths_length] using inside)]

-- There is a last index as soon as there is an index.
theorem bars_inside (middle : String) (widths : List Nat) (index : Nat) (rest : List Nat)
    (inside : rest.length ≤ widths.length) : ∃ bars, barsFrom middle widths index rest = .ok bars := by
  induction rest generalizing index with
  | nil => exact ⟨"", rfl⟩
  | cons width rest ih =>
    obtain ⟨bars, behind⟩ := ih (index + 1) (Nat.le_of_succ_le inside)
    have last : lessOne widths.length = .ok (widths.length - 1) := by
      cases widths with
      | nil => cases inside
      | cons => rfl
    refine ⟨bar width ++ (if index < widths.length - 1 then middle else "") ++ bars, ?_⟩
    rw [barsFrom, last, behind]
    rfl

theorem border_drawn (left middle right : String) (widths : List Nat) :
    ∃ drawn, border left middle right widths = .ok drawn := by
  obtain ⟨bars, found⟩ := bars_inside middle widths 0 widths (Nat.le_refl _)
  refine ⟨left ++ bars ++ right ++ "\n", ?_⟩
  rw [border, found]
  rfl

def Within (widths : List Nat) : Prop := ∀ width ∈ widths, width ≤ widthLimit

theorem within_of_find {widths : List Nat} (none : widths.find? (widthLimit < ·) = none) : Within widths := by
  intro width listed
  simpa using List.find?_eq_none.mp none width listed

def filled (text : String) (width : Nat) : String := text ++ String.ofList (List.replicate (width - text.length) ' ')

def filledLine (cells : List String) (widths : List Nat) : String :=
  "│" ++ String.join ((cells.zip widths).map fun cell => " " ++ filled cell.1 cell.2 ++ " │") ++ "\n"

theorem padded_within (text : String) {width : Nat} (within : width ≤ widthLimit) :
    padded text width = .ok (filled text width) := if_pos within

theorem padded_beyond (text : String) {width : Nat} (beyond : widthLimit < width) :
    padded text width = .error (.internal (.wideColumn width)) := if_neg (Nat.not_le.mpr beyond)

theorem fields_within (cells : List String) {widths : List Nat} (within : Within widths) :
    fields cells widths =
      .ok (String.join ((cells.zip widths).map fun cell => " " ++ filled cell.1 cell.2 ++ " │")) := by
  induction widths generalizing cells with
  | nil =>
    cases cells with
    | nil => rfl
    | cons => rfl
  | cons width widths ih =>
    obtain ⟨first, others⟩ := List.forall_mem_cons.mp within
    cases cells with
    | nil => rfl
    | cons cell cells =>
      rw [fields, padded_within cell first, ih cells others, List.zip_cons_cons, List.map_cons, String.join_cons]
      rfl

-- The columns before the first that is too wide are drawn, and then the fault comes.
theorem fields_beyond {cells : List String} {widths : List Nat} (covered : widths.length ≤ cells.length) {width : Nat}
    (wide : widths.find? (widthLimit < ·) = some width) :
    fields cells widths = .error (.internal (.wideColumn width)) := by
  induction widths generalizing cells with
  | nil => cases wide
  | cons first widths ih =>
    cases cells with
    | nil => cases covered
    | cons cell cells =>
      by_cases beyond : widthLimit < first
      · rw [List.find?_cons_of_pos (by simpa using beyond)] at wide
        cases wide
        rw [fields, padded_beyond cell beyond]
        rfl
      · rw [List.find?_cons_of_neg (by simpa using beyond)] at wide
        rw [fields, padded_within cell (Nat.not_lt.mp beyond), ih (Nat.le_of_succ_le_succ covered) wide]
        rfl

theorem line_within (cells : List String) {widths : List Nat} (within : Within widths) :
    line cells widths = .ok (filledLine cells widths) := by
  rw [line, fields_within cells within]
  rfl

theorem line_beyond {cells : List String} {widths : List Nat} (covered : widths.length ≤ cells.length) {width : Nat}
    (wide : widths.find? (widthLimit < ·) = some width) : line cells widths = .error (.internal (.wideColumn width)) := by
  rw [line, fields_beyond covered wide]
  rfl

theorem body_within {widths : List Nat} (within : Within widths) (rows : List (List Value)) :
    body widths rows = .ok (String.join (rows.map fun row => filledLine (row.map (·.shown)) widths)) := by
  induction rows with
  | nil => rfl
  | cons row rows ih =>
    rw [body, line_within _ within, ih, List.map_cons, String.join_cons]
    rfl

theorem render_within {set : RowSet} (rectangular : set.Rectangular) (within : set.overwide? = none) :
    ∃ text, render set = .ok text := by
  obtain ⟨top, topDrawn⟩ := border_drawn "┌" "┬" "┐" set.columnWidths
  obtain ⟨rule, ruleDrawn⟩ := border_drawn "├" "┼" "┤" set.columnWidths
  obtain ⟨bottom, bottomDrawn⟩ := border_drawn "└" "┴" "┘" set.columnWidths
  have fits := within_of_find within
  simp only [render, widths_are_column_widths rectangular, topDrawn, line_within _ fits, ruleDrawn,
    body_within fits, bottomDrawn, bind, Except.bind]
  exact ⟨_, rfl⟩

-- The names of the columns are the first line that is filled.
theorem render_beyond {set : RowSet} (rectangular : set.Rectangular) {width : Nat} (wide : set.overwide? = some width) :
    render set = .error (.internal (.wideColumn width)) := by
  obtain ⟨top, topDrawn⟩ := border_drawn "┌" "┬" "┐" set.columnWidths
  have names := line_beyond (Nat.le_of_eq set.column_widths_length) wide
  simp only [render, widths_are_column_widths rectangular, topDrawn, names, bind, Except.bind]

end Grid

theorem Layout.rectangular_rendered (layout : Layout) {answer : Answer} (rectangular : answer.Rectangular) :
    (layout.overwide? answer = none → ∃ text, layout.render answer = .ok text) ∧
      ∀ width, layout.overwide? answer = some width →
        layout.render answer = .error (.internal (.wideColumn width)) := by
  cases answer with
  | rows set =>
    by_cases empty : set.isEmpty
    · simp [overwide?, render, empty]
    · simp only [overwide?, render, if_neg empty]
      cases layout with
      | json => exact ⟨fun _ => ⟨_, rfl⟩, fun _ wide => by cases wide⟩
      | table => exact ⟨Grid.render_within rectangular, fun _ => Grid.render_beyond rectangular⟩
  | created | dropped | inserted | joined | updated | deleted | unknown =>
    exact ⟨fun _ => ⟨_, rfl⟩, fun _ wide => by cases wide⟩

def scroll (n : Nat) : String := String.ofList (List.replicate n 'x')

def scrollSet (n : Nat) : RowSet := ⟨["id", "body"], [[.integer 1, .text (scroll n)]]⟩

theorem scroll_unbroken (n : Nat) : '\n' ∉ (Value.text (scroll n)).shown.toList := by
  rw [Value.shown, scroll, String.toList_ofList]
  intro listed
  cases List.eq_of_mem_replicate listed

theorem scroll_rectangular (n : Nat) : (scrollSet n).Rectangular := by
  intro row stored
  obtain rfl := List.mem_singleton.mp stored
  rfl

theorem scroll_overwide {n : Nat} (wide : Grid.widthLimit < n) : (scrollSet n).overwide? = some n := by
  have widths : (scrollSet n).columnWidths = [2, max 4 n] := by
    have length : (scroll n).length = n := by rw [scroll, String.length_ofList, List.length_replicate]
    change [max 2 (max 1 0), max 4 (max (scroll n).length 0)] = _
    rw [length, Nat.max_zero n]
    rfl
  have larger : max 4 n = n := Nat.max_eq_right (Nat.le_trans (by decide) (Nat.le_of_lt wide))
  rw [RowSet.overwide?, widths, larger, List.find?_cons_of_neg (by decide),
    List.find?_cons_of_pos (by simpa using wide)]

end TableStore
