import Mathlib.Algebra.Ring.Nat
import Mathlib.Data.List.Forall2
import TableStore.Proofs.Grid
import TableStore.Proofs.Lines

set_option autoImplicit false

/- Lengths are counted in characters. -/
namespace TableStore

namespace Grid

def ruled (start : Char) (fields : List (List Char × Char)) : List Char :=
  start :: fields.flatMap fun field => field.1 ++ [field.2]

def Fitted : List Nat → List (List Char × Char) → Prop :=
  List.Forall₂ fun width field => field.1.length = width + 2

-- How far from the start of a line the mark behind this many columns stands.
def offset (widths : List Nat) (k : Nat) : Nat := ((widths.take k).map (· + 3)).sum

theorem ruled_cons (start : Char) (field : List Char × Char) (fields : List (List Char × Char)) :
    ruled start (field :: fields) = start :: (field.1 ++ ruled field.2 fields) := by
  simp [ruled]

theorem ruled_length {widths : List Nat} {fields : List (List Char × Char)} (fitted : Fitted widths fields)
    (start : Char) : (ruled start fields).length = 1 + (widths.map (· + 3)).sum := by
  induction fitted generalizing start with
  | nil => rfl
  | @cons width field widths fields first _ ih =>
    rw [ruled_cons, List.length_cons, List.length_append, ih field.2, first, List.map_cons, List.sum_cons]
    omega

theorem ruled_mark {widths : List Nat} {fields : List (List Char × Char)} (fitted : Fitted widths fields)
    (start : Char) {k : Nat} (inside : k ≤ widths.length) :
    (ruled start fields)[offset widths k]? = (start :: fields.map (·.2))[k]? := by
  induction fitted generalizing start k with
  | nil =>
    obtain rfl : k = 0 := Nat.le_zero.mp inside
    rfl
  | @cons width field widths fields first _ ih =>
    cases k with
    | zero => rfl
    | succ k =>
      have further : offset (width :: widths) (k + 1) = field.1.length + offset widths k + 1 := by
        rw [offset, List.take_succ_cons, List.map_cons, List.sum_cons, first, offset]
        omega
      rw [ruled_cons, further, List.getElem?_cons_succ, List.getElem?_append_right (Nat.le_add_right _ _),
        Nat.add_sub_cancel_left, ih field.2 (Nat.le_of_succ_le_succ inside)]
      rfl

theorem ruled_unbroken {start : Char} {fields : List (List Char × Char)} (first : start ≠ '\n' ∧ start ≠ '\r')
    (unbroken : ∀ field ∈ fields, '\n' ∉ field.1 ∧ field.2 ≠ '\n' ∧ field.2 ≠ '\r') :
    '\n' ∉ ruled start fields ∧ (ruled start fields).getLast? ≠ some '\r' := by
  induction fields generalizing start with
  | nil => simpa [ruled, eq_comm] using first
  | cons field fields ih =>
    obtain ⟨⟨body, mark⟩, behind⟩ := List.forall_mem_cons.mp unbroken
    obtain ⟨plain, kept⟩ := ih mark behind
    have filled : field.1 ++ ruled field.2 fields ≠ [] := by simp [ruled]
    rw [ruled_cons]
    refine ⟨by simp [first.1.symm, body, plain], ?_⟩
    rw [List.getLast?_cons_of_ne_nil filled, List.getLast?_append_of_ne_nil _ (by simp [ruled])]
    exact kept

def boxed (text : String) (width : Nat) : List Char :=
  ' ' :: text.toList ++ List.replicate (width - text.length) ' ' ++ [' ']

def cellLine (texts : List String) (widths : List Nat) : List Char :=
  ruled '│' ((texts.zip widths).map fun cell => (boxed cell.1 cell.2, '│'))

def borderLine (left middle right : Char) (widths : List Nat) : List Char :=
  ruled left ((widths.map fun width => List.replicate (width + 2) '─').zip
    (List.replicate (widths.length - 1) middle ++ [right]))

theorem filled_line_is_cell_line (texts : List String) (widths : List Nat) :
    filledLine texts widths = String.ofList (cellLine texts widths ++ ['\n']) := by
  apply String.toList_injective
  simp [filledLine, cellLine, ruled, boxed, filled, String.toList_join, List.flatMap_map]

theorem bars_are_fields (middle right : Char) {widths rest : List Nat} {index : Nat} (nonempty : rest ≠ [])
    (here : index + rest.length = widths.length) :
    ∃ bars, barsFrom (String.ofList [middle]) widths index rest = .ok bars ∧
      bars.toList ++ [right] = ((rest.map fun width => List.replicate (width + 2) '─').zip
        (List.replicate (rest.length - 1) middle ++ [right])).flatMap fun field => field.1 ++ [field.2] := by
  induction rest generalizing index with
  | nil => exact absurd rfl nonempty
  | cons width rest ih =>
    have last : lessOne widths.length = .ok (index + rest.length) := by
      rw [← here]
      rfl
    cases rest with
    | nil =>
      refine ⟨bar width, ?_, by simp [bar]⟩
      simp [barsFrom, last, bind, Except.bind, pure, Except.pure]
    | cons next rest =>
      have further : index + 1 + (next :: rest).length = widths.length := by
        have counted : index + ((next :: rest).length + 1) = widths.length := here
        omega
      obtain ⟨bars, found, drawn⟩ := ih (List.cons_ne_nil next rest) further
      refine ⟨bar width ++ String.ofList [middle] ++ bars, ?_, ?_⟩
      · rw [barsFrom, last, found]
        simp [bind, Except.bind, pure, Except.pure]
      · have marks : List.replicate ((width :: next :: rest).length - 1) middle ++ [right] =
            middle :: (List.replicate ((next :: rest).length - 1) middle ++ [right]) := rfl
        rw [marks, List.map_cons, List.zip_cons_cons, List.flatMap_cons, ← drawn]
        simp [bar]

theorem border_is_border_line (left middle right : Char) {widths : List Nat} (nonempty : widths ≠ []) :
    border (String.ofList [left]) (String.ofList [middle]) (String.ofList [right]) widths =
      .ok (String.ofList (borderLine left middle right widths ++ ['\n'])) := by
  obtain ⟨bars, found, drawn⟩ := bars_are_fields middle right nonempty (Nat.zero_add widths.length)
  rw [border, found, borderLine, ruled, ← drawn]
  refine congrArg Except.ok (String.toList_injective ?_)
  simp

def ruledLines (set : RowSet) : List (List Char) :=
  [borderLine '┌' '┬' '┐' set.columnWidths, cellLine set.columns set.columnWidths,
    borderLine '├' '┼' '┤' set.columnWidths] ++
  set.rows.map (fun row => cellLine (row.map (·.shown)) set.columnWidths) ++
  [borderLine '└' '┴' '┘' set.columnWidths]

def count (set : RowSet) : String := toString set.size ++ " row(s) returned"

theorem column_widths_nonempty {set : RowSet} (headed : set.columns ≠ []) : set.columnWidths ≠ [] := by
  rwa [← List.length_pos_iff, RowSet.column_widths_length, List.length_pos_iff]

theorem render_is_ruled {set : RowSet} (headed : set.columns ≠ []) (rectangular : set.Rectangular)
    (within : set.overwide? = none) :
    render set = .ok (String.ofList ((ruledLines set).flatMap (· ++ ['\n']) ++ (count set).toList)) := by
  have nonempty := column_widths_nonempty headed
  have fits := within_of_find within
  have top : border "┌" "┬" "┐" set.columnWidths = _ := border_is_border_line '┌' '┬' '┐' nonempty
  have rule : border "├" "┼" "┤" set.columnWidths = _ := border_is_border_line '├' '┼' '┤' nonempty
  have bottom : border "└" "┴" "┘" set.columnWidths = _ := border_is_border_line '└' '┴' '┘' nonempty
  simp only [render, widths_are_column_widths rectangular, top, line_within _ fits, rule, body_within fits, bottom,
    bind, Except.bind]
  refine congrArg Except.ok (String.toList_injective ?_)
  simp [ruledLines, count, filled_line_is_cell_line, String.toList_join, List.flatMap_map]

def Room : List String → List Nat → Prop :=
  List.Forall₂ fun text width => text.length ≤ width

theorem boxed_length {text : String} {width : Nat} (fits : text.length ≤ width) :
    (boxed text width).length = width + 2 := by
  simp only [boxed, List.cons_append, List.length_cons, List.length_append, String.length_toList,
    List.length_replicate, List.length_nil]
  omega

theorem cells_fitted {texts : List String} {widths : List Nat} (room : Room texts widths) :
    Fitted widths ((texts.zip widths).map fun cell => (boxed cell.1 cell.2, '│')) := by
  induction room with
  | nil => exact .nil
  | cons first _ ih => exact .cons (boxed_length first) ih

theorem dashes_fitted {widths : List Nat} {marks : List Char} (even : marks.length = widths.length) :
    Fitted widths ((widths.map fun width => List.replicate (width + 2) '─').zip marks) := by
  induction widths generalizing marks with
  | nil => exact .nil
  | cons width widths ih =>
    cases marks with
    | nil => cases even
    | cons mark marks => exact .cons (List.length_replicate ..) (ih (Nat.succ.inj even))

def junction (left middle right : Char) (columns k : Nat) : Char :=
  if k = 0 then left else if k = columns then right else middle

theorem junction_at (left middle right : Char) {columns k : Nat} (inside : k ≤ columns) :
    (left :: (List.replicate (columns - 1) middle ++ [right]))[k]? = some (junction left middle right columns k) := by
  cases k with
  | zero => rfl
  | succ k =>
    rw [List.getElem?_cons_succ, junction, if_neg (Nat.succ_ne_zero k)]
    by_cases last : k + 1 = columns
    · rw [if_pos last, List.getElem?_append_right (by simp; omega)]
      simp [← last]
    · have before : k < columns - 1 := by omega
      rw [if_neg last, List.getElem?_append_left (by simpa using before), List.getElem?_replicate_of_lt before]

theorem border_fitted (middle right : Char) {widths : List Nat} (nonempty : widths ≠ []) :
    Fitted widths ((widths.map fun width => List.replicate (width + 2) '─').zip
      (List.replicate (widths.length - 1) middle ++ [right])) := by
  have positive := List.length_pos_iff.mpr nonempty
  apply dashes_fitted
  rw [List.length_append, List.length_replicate, List.length_singleton]
  omega

theorem border_length (left middle right : Char) {widths : List Nat} (nonempty : widths ≠ []) :
    (borderLine left middle right widths).length = 1 + (widths.map (· + 3)).sum :=
  ruled_length (border_fitted middle right nonempty) left

theorem border_junction (left middle right : Char) {widths : List Nat} (nonempty : widths ≠ []) {k : Nat}
    (inside : k ≤ widths.length) :
    (borderLine left middle right widths)[offset widths k]? = some (junction left middle right widths.length k) := by
  have positive := List.length_pos_iff.mpr nonempty
  rw [borderLine, ruled_mark (border_fitted middle right nonempty) left inside, List.map_snd_zip (by simp; omega)]
  exact junction_at left middle right inside

theorem cell_line_length {texts : List String} {widths : List Nat} (room : Room texts widths) :
    (cellLine texts widths).length = 1 + (widths.map (· + 3)).sum :=
  ruled_length (cells_fitted room) '│'

theorem cell_line_bar {texts : List String} {widths : List Nat} (room : Room texts widths) {k : Nat}
    (inside : k ≤ widths.length) : (cellLine texts widths)[offset widths k]? = some '│' := by
  rw [cellLine, ruled_mark (cells_fitted room) '│' inside, List.map_map]
  cases k with
  | zero => rfl
  | succ k =>
    have paired : k < (texts.zip widths).length := by
      rw [List.length_zip, room.length_eq]
      omega
    rw [List.getElem?_cons_succ, List.getElem?_map, List.getElem?_eq_getElem paired]
    rfl

theorem room_for_texts {set : RowSet} {texts : List String} (even : texts.length = set.columns.length)
    (listed : ∀ j text, texts[j]? = some text → text ∈ set.columnTexts j) : Room texts set.columnWidths := by
  rw [Room, List.forall₂_iff_get]
  refine ⟨even.trans set.column_widths_length.symm, ?_⟩
  intro j inside _
  have found := RowSet.length_le_width (listed j texts[j] (List.getElem?_eq_getElem inside))
  simpa [RowSet.columnWidths] using found

theorem room_for_names (set : RowSet) : Room set.columns set.columnWidths :=
  room_for_texts rfl fun _ _ => RowSet.name_in_column

theorem room_for_row {set : RowSet} (rectangular : set.Rectangular) {row : List Value} (stored : row ∈ set.rows) :
    Room (row.map (·.shown)) set.columnWidths := by
  apply room_for_texts (by rw [List.length_map, rectangular row stored])
  intro j text shown
  rw [List.getElem?_map, Option.map_eq_some_iff] at shown
  obtain ⟨cell, here, rfl⟩ := shown
  exact RowSet.cell_in_column stored here

theorem cell_line_unbroken {texts : List String} (unbroken : ∀ text ∈ texts, '\n' ∉ text.toList) (widths : List Nat) :
    '\n' ∉ cellLine texts widths ∧ (cellLine texts widths).getLast? ≠ some '\r' := by
  apply ruled_unbroken (by decide)
  intro field listed
  obtain ⟨⟨text, width⟩, paired, rfl⟩ := List.mem_map.mp listed
  have plain := unbroken text (List.of_mem_zip paired).1
  exact ⟨by simp [boxed, plain], by simp⟩

theorem border_unbroken {left middle right : Char} (signs : ∀ c ∈ [left, middle, right], c ≠ '\n' ∧ c ≠ '\r')
    (widths : List Nat) :
    '\n' ∉ borderLine left middle right widths ∧ (borderLine left middle right widths).getLast? ≠ some '\r' := by
  apply ruled_unbroken (signs left (by simp))
  intro ⟨dashes, mark⟩ listed
  obtain ⟨body, marked⟩ := List.of_mem_zip listed
  obtain ⟨width, -, rfl⟩ := List.mem_map.mp body
  refine ⟨by simp, signs mark ?_⟩
  rcases List.mem_append.mp marked with inner | last
  · simp [List.eq_of_mem_replicate inner]
  · simp [List.mem_singleton.mp last]

theorem ruled_line_cases {set : RowSet} {line : List Char} (listed : line ∈ ruledLines set) :
    (∃ left middle right, (∀ c ∈ [left, middle, right], c ≠ '\n' ∧ c ≠ '\r') ∧
      line = borderLine left middle right set.columnWidths) ∨
    line = cellLine set.columns set.columnWidths ∨
    ∃ row ∈ set.rows, line = cellLine (row.map (·.shown)) set.columnWidths := by
  simp only [ruledLines, List.mem_append, List.mem_cons, List.mem_map, List.not_mem_nil, or_false] at listed
  rcases listed with ((top | names | rule) | ⟨row, stored, drawn⟩) | bottom
  · exact .inl ⟨'┌', '┬', '┐', by simp, top⟩
  · exact .inr (.inl names)
  · exact .inl ⟨'├', '┼', '┤', by simp, rule⟩
  · exact .inr (.inr ⟨row, stored, drawn.symm⟩)
  · exact .inl ⟨'└', '┴', '┘', by simp, bottom⟩

theorem ruled_lines_unbroken {set : RowSet} (names : ∀ name ∈ set.columns, '\n' ∉ name.toList)
    (cells : ∀ row ∈ set.rows, ∀ cell ∈ row, '\n' ∉ cell.shown.toList) :
    ∀ line ∈ ruledLines set, '\n' ∉ line ∧ line.getLast? ≠ some '\r' := by
  intro line listed
  obtain ⟨left, middle, right, signs, rfl⟩ | rfl | ⟨row, stored, rfl⟩ := ruled_line_cases listed
  · exact border_unbroken signs _
  · exact cell_line_unbroken names _
  · apply cell_line_unbroken
    intro text shown
    obtain ⟨cell, here, rfl⟩ := List.mem_map.mp shown
    exact cells row stored cell here

theorem ruled_lines_length {set : RowSet} (headed : set.columns ≠ []) (rectangular : set.Rectangular) :
    ∀ line ∈ ruledLines set, line.length = 1 + (set.columnWidths.map (· + 3)).sum := by
  intro line listed
  obtain ⟨left, middle, right, -, rfl⟩ | rfl | ⟨row, stored, rfl⟩ := ruled_line_cases listed
  · exact border_length left middle right (column_widths_nonempty headed)
  · exact cell_line_length (room_for_names set)
  · exact cell_line_length (room_for_row rectangular stored)

theorem count_unbroken (set : RowSet) : '\n' ∉ (count set).toList := by
  intro listed
  rw [count, String.toList_append, List.mem_append] at listed
  rcases listed with digit | word
  · have digits : (toString set.size).toList = Nat.toDigits 10 set.size := Decimal.to_string_of_nat set.size
    rw [digits] at digit
    cases Nat.isDigit_of_mem_toDigits (by decide) (by decide) digit
  · revert word
    decide

theorem count_nonempty (set : RowSet) : (count set).toList ≠ [] := by
  rw [count, String.toList_append]
  exact List.append_ne_nil_of_right_ne_nil _ (by decide)

theorem render_lines {set : RowSet} (headed : set.columns ≠ []) (rectangular : set.Rectangular)
    (names : ∀ name ∈ set.columns, '\n' ∉ name.toList)
    (cells : ∀ row ∈ set.rows, ∀ cell ∈ row, '\n' ∉ cell.shown.toList) (within : set.overwide? = none) :
    ∃ text, render set = .ok text ∧ Text.lines text = (ruledLines set).map String.ofList ++ [count set] := by
  refine ⟨_, render_is_ruled headed rectangular within, ?_⟩
  rw [Text.lines_joined (count_unbroken set) (count_nonempty set) (ruled_lines_unbroken names cells), List.map_append,
    List.map_singleton, String.ofList_toList]

structure Rectangle (set : RowSet) (lines : List String) : Prop where
  amount : lines.length = set.size + 5
  even : ∀ line ∈ lines.take (set.size + 4), line.length = 1 + (set.columnWidths.map (· + 3)).sum
  names : lines[1]? = some (String.ofList (cellLine set.columns set.columnWidths))
  row : ∀ (i : Nat) row, set.rows[i]? = some row →
    lines[i + 3]? = some (String.ofList (cellLine (row.map (·.shown)) set.columnWidths))
  whole : ∀ row ∈ set.rows, ∀ (j : Nat) cell, row[j]? = some cell → cell.shown.length ≤ set.columnWidth j
  bars : ∀ (i : Nat) line, lines[i]? = some line → i = 1 ∨ 3 ≤ i ∧ i < set.size + 3 →
    ∀ k ≤ set.columns.length, line.toList[offset set.columnWidths k]? = some '│'
  junctions : ∃ top rule bottom,
    lines[0]? = some top ∧ lines[2]? = some rule ∧ lines[set.size + 3]? = some bottom ∧
      ∀ k ≤ set.columns.length,
        top.toList[offset set.columnWidths k]? = some (junction '┌' '┬' '┐' set.columns.length k) ∧
        rule.toList[offset set.columnWidths k]? = some (junction '├' '┼' '┤' set.columns.length k) ∧
        bottom.toList[offset set.columnWidths k]? = some (junction '└' '┴' '┘' set.columns.length k)
  last : lines.getLast? = some (toString set.size ++ " row(s) returned")

theorem ruled_lines_amount (set : RowSet) : (ruledLines set).length = set.size + 4 := by
  simp [ruledLines, RowSet.size]

theorem ruled_lines_row {set : RowSet} {i : Nat} {row : List Value} (stored : set.rows[i]? = some row) :
    (ruledLines set)[i + 3]? = some (cellLine (row.map (·.shown)) set.columnWidths) := by
  have inside := (List.getElem?_eq_some_iff.mp stored).1
  rw [ruledLines, List.append_assoc, List.getElem?_append_right (by simp),
    List.getElem?_append_left (by simpa using inside)]
  simp [stored]

theorem ruled_lines_bottom (set : RowSet) :
    (ruledLines set)[set.size + 3]? = some (borderLine '└' '┴' '┘' set.columnWidths) := by
  rw [ruledLines, List.getElem?_append_right (by simp [RowSet.size])]
  simp [RowSet.size]

theorem drawn_line {set : RowSet} {i : Nat} {line : List Char} (here : (ruledLines set)[i]? = some line) :
    ((ruledLines set).map String.ofList ++ [count set])[i]? = some (String.ofList line) := by
  have inside := (List.getElem?_eq_some_iff.mp here).1
  rw [List.getElem?_append_left (by simpa using inside), List.getElem?_map, here]
  rfl

theorem drawn_lines_even {set : RowSet} (headed : set.columns ≠ []) (rectangular : set.Rectangular) :
    ∀ line ∈ ((ruledLines set).map String.ofList ++ [count set]).take (set.size + 4),
      line.length = 1 + (set.columnWidths.map (· + 3)).sum := by
  rw [List.take_left' (by rw [List.length_map, ruled_lines_amount])]
  intro line listed
  obtain ⟨characters, drawn, rfl⟩ := List.mem_map.mp listed
  rw [String.length_ofList]
  exact ruled_lines_length headed rectangular characters drawn

theorem drawn_bar {set : RowSet} {texts : List String} (room : Room texts set.columnWidths) {k : Nat}
    (inside : k ≤ set.columns.length) :
    (String.ofList (cellLine texts set.columnWidths)).toList[offset set.columnWidths k]? = some '│' := by
  rw [String.toList_ofList]
  exact cell_line_bar room (by rwa [RowSet.column_widths_length])

theorem drawn_junction {set : RowSet} (headed : set.columns ≠ []) (left middle right : Char) {k : Nat}
    (inside : k ≤ set.columns.length) :
    (String.ofList (borderLine left middle right set.columnWidths)).toList[offset set.columnWidths k]? =
      some (junction left middle right set.columns.length k) := by
  rw [String.toList_ofList, ← set.column_widths_length]
  exact border_junction left middle right (column_widths_nonempty headed) (by rwa [RowSet.column_widths_length])

theorem drawn_bars {set : RowSet} (rectangular : set.Rectangular) {i : Nat} {line : String}
    (here : ((ruledLines set).map String.ofList ++ [count set])[i]? = some line)
    (cells : i = 1 ∨ 3 ≤ i ∧ i < set.size + 3) {k : Nat} (inside : k ≤ set.columns.length) :
    line.toList[offset set.columnWidths k]? = some '│' := by
  obtain rfl | ⟨first, last⟩ := cells
  · rw [drawn_line rfl] at here
    obtain rfl := Option.some.inj here
    exact drawn_bar (room_for_names set) inside
  · obtain ⟨row, rfl⟩ := Nat.exists_eq_add_of_le' first
    have stored : row < set.rows.length := Nat.lt_of_add_lt_add_right last
    rw [drawn_line (ruled_lines_row (List.getElem?_eq_getElem stored))] at here
    obtain rfl := Option.some.inj here
    exact drawn_bar (room_for_row rectangular (List.getElem_mem stored)) inside

theorem ruled_lines_are_rectangle {set : RowSet} (headed : set.columns ≠ []) (rectangular : set.Rectangular) :
    Rectangle set ((ruledLines set).map String.ofList ++ [count set]) where
  amount := by simp [ruled_lines_amount]
  even := drawn_lines_even headed rectangular
  names := drawn_line rfl
  row := fun _ _ stored => drawn_line (ruled_lines_row stored)
  whole := fun _ stored _ _ filled => RowSet.length_le_width (RowSet.cell_in_column stored filled)
  bars := fun _ _ here cells _ inside => drawn_bars rectangular here cells inside
  junctions := by
    refine ⟨_, _, _, drawn_line rfl, drawn_line rfl, drawn_line (ruled_lines_bottom set), ?_⟩
    intro k inside
    exact ⟨drawn_junction headed '┌' '┬' '┐' inside, drawn_junction headed '├' '┼' '┤' inside,
      drawn_junction headed '└' '┴' '┘' inside⟩
  last := by
    rw [List.getLast?_concat]
    rfl

end Grid

theorem Layout.grid_is_rectangle {set : RowSet} (headed : set.columns ≠ []) (filled : set.rows ≠ [])
    (rectangular : set.Rectangular) (names : ∀ name ∈ set.columns, '\n' ∉ name.toList)
    (cells : ∀ row ∈ set.rows, ∀ cell ∈ row, '\n' ∉ cell.shown.toList) :
    (set.overwide? = none →
      ∃ text, Layout.table.render (.rows set) = .ok text ∧ Grid.Rectangle set (Text.lines text)) ∧
    ∀ width, set.overwide? = some width → Layout.table.render (.rows set) = .error (.internal (.wideColumn width)) := by
  have shown : Layout.table.render (.rows set) = Grid.render set := if_neg (by simpa [RowSet.isEmpty] using filled)
  rw [shown]
  refine ⟨?_, fun width => Grid.render_beyond rectangular⟩
  intro within
  obtain ⟨text, drawn, lines⟩ := Grid.render_lines headed rectangular names cells within
  refine ⟨text, drawn, ?_⟩
  rw [lines]
  exact Grid.ruled_lines_are_rectangle headed rectangular

def breedSet : RowSet :=
  ⟨["id", "größe", "naam"], [[.integer 7, .text "42", .text "Žofie│"], [.integer (-120), .text "", .text "犬"]]⟩

theorem Layout.breeds_are_rectangle :
    breedSet.columns ≠ [] ∧ breedSet.rows ≠ [] ∧ breedSet.Rectangular ∧
      breedSet.columnWidths = [4, 5, 6] ∧
      ∃ text, Layout.table.render (.rows breedSet) = .ok text ∧ Grid.Rectangle breedSet (Text.lines text) := by
  have rectangular : breedSet.Rectangular := by
    rw [RowSet.Rectangular]
    decide
  refine ⟨by decide, by decide, rectangular, by decide, ?_⟩
  exact (Layout.grid_is_rectangle (by decide) (by decide) rectangular (by decide) (by decide)).1 (by decide)

theorem Layout.scroll_is_no_rectangle :
    (scrollSet 65536).columns ≠ [] ∧ (scrollSet 65536).rows ≠ [] ∧ (scrollSet 65536).Rectangular ∧
      (∀ name ∈ (scrollSet 65536).columns, '\n' ∉ name.toList) ∧
      (∀ row ∈ (scrollSet 65536).rows, ∀ cell ∈ row, '\n' ∉ cell.shown.toList) ∧
      Layout.table.render (.rows (scrollSet 65536)) = .error (.internal (.wideColumn 65536)) := by
  have wide : (scrollSet 65536).overwide? = some 65536 := scroll_overwide (by decide)
  have rectangular := scroll_rectangular 65536
  refine ⟨List.cons_ne_nil _ _, List.cons_ne_nil _ _, rectangular, by decide, ?_, Grid.render_beyond rectangular wide⟩
  intro row stored cell listed
  obtain rfl := List.mem_singleton.mp stored
  simp only [List.mem_cons, List.not_mem_nil, or_false] at listed
  obtain rfl | rfl := listed
  · decide
  · exact scroll_unbroken 65536

end TableStore
