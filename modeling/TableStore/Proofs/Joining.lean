import Mathlib.Data.List.Sort
import TableStore.Proofs.Scan

set_option autoImplicit false

/- The nested loops pair what lookups in the left table and a stable sort by the key would pair. -/
namespace TableStore

section grouping
variable {α : Type} {key : α → Int64}

theorem ordered_insert_behind {front rest : List α} {item : α} (below : ∀ other ∈ front, key other < key item) :
    (front ++ rest).orderedInsert (fun a b => key a ≤ key b) item =
      front ++ rest.orderedInsert (fun a b => key a ≤ key b) item := by
  induction front with
  | nil => rfl
  | cons head others ih =>
    obtain ⟨atHead, behind⟩ := List.forall_mem_cons.mp below
    rw [List.cons_append, List.orderedInsert_cons, if_neg (Int64.not_le.mpr atHead), ih behind, List.cons_append]

theorem ordered_insert_front {rest : List α} {item : α} (above : ∀ other ∈ rest, key item ≤ key other) :
    rest.orderedInsert (fun a b => key a ≤ key b) item = item :: rest := by
  cases rest with
  | nil => rfl
  | cons head others => rw [List.orderedInsert_cons, if_pos (above head List.mem_cons_self)]

-- The item goes in front of the group of its key, behind the groups of the keys below.
theorem ordered_insert_grouped {keys : List Int64} (ascending : keys.Pairwise (· < ·)) {item : α} (known : key item ∈ keys)
    (items : List α) :
    (keys.flatMap fun k => items.filter (key · = k)).orderedInsert (fun a b => key a ≤ key b) item =
      keys.flatMap fun k => (item :: items).filter (key · = k) := by
  induction keys with
  | nil => cases known
  | cons k rest ih =>
    obtain ⟨above, tail⟩ := List.pairwise_cons.mp ascending
    rw [List.flatMap_cons, List.flatMap_cons]
    by_cases here : key item = k
    · have others : (rest.flatMap fun k => (item :: items).filter (key · = k)) =
          rest.flatMap fun k => items.filter (key · = k) := by
        apply List.flatMap_congr
        intro later listed
        rw [List.filter_cons_of_neg]
        have less := above later listed
        grind
      rw [others, List.filter_cons_of_pos (by simpa using here), List.cons_append]
      apply ordered_insert_front
      intro other listed
      rcases List.mem_append.mp listed with grouped | behind
      · grind
      · obtain ⟨later, among, grouped⟩ := List.mem_flatMap.mp behind
        have less := above later among
        grind
    · have later : key item ∈ rest := (List.mem_cons.mp known).resolve_left here
      rw [ordered_insert_behind, ih tail later, List.filter_cons_of_neg (by simpa using here)]
      intro other grouped
      have less := above _ later
      grind

theorem insertion_sort_grouped {keys : List Int64} (ascending : keys.Pairwise (· < ·)) {items : List α}
    (known : ∀ item ∈ items, key item ∈ keys) :
    items.insertionSort (fun a b => key a ≤ key b) = keys.flatMap fun k => items.filter (key · = k) := by
  induction items with
  | nil => simp
  | cons item rest ih =>
    obtain ⟨here, behind⟩ := List.forall_mem_cons.mp known
    rw [List.insertionSort_cons, ih behind, ordered_insert_grouped ascending here]

end grouping

def Table.buyer? (left right : Table) (order : Row) : Option Row :=
  ((right.schema.cell? order "user_id").bind (·.integer?)).bind left.row?

def Table.referring (left right : Table) : List (Row × Row) :=
  right.allRows.filterMap fun order => (left.buyer? right order).map (·, order)

def Table.purchases (left right : Table) : List (Row × Row) :=
  (left.referring right).insertionSort fun first second => first.1.id ≤ second.1.id

def Table.Bought (left right : Table) (pair : Row × Row) (line : String) : Prop :=
  ∃ username item, left.schema.cell? pair.1 "username" = some username ∧ right.schema.cell? pair.2 "item" = some item ∧
    line = username.shown ++ " bought " ++ item.shown

namespace Table

variable {left right : Table}

theorem buyer_iff (consistent : left.Consistent) (buyer order : Row) :
    left.buyer? right order = some buyer ↔
      buyer ∈ left.allRows ∧ right.schema.cell? order "user_id" = some (.integer buyer.id) := by
  rw [buyer?, Option.bind_eq_some_iff]
  constructor
  · rintro ⟨key, referred, found⟩
    obtain ⟨stored, rfl⟩ := (consistent.row_iff key buyer).mp found
    obtain ⟨cell, here, integer⟩ := Option.bind_eq_some_iff.mp referred
    cases cell with
    | integer n =>
      cases integer
      exact ⟨stored, here⟩
    | text content => cases integer
  · rintro ⟨stored, here⟩
    exact ⟨buyer.id, by rw [here]; rfl, (consistent.row_iff buyer.id buyer).mpr ⟨stored, rfl⟩⟩

theorem referring_orders (left right : Table) :
    (left.referring right).map (·.2) = right.allRows.filter fun order => (left.buyer? right order).isSome := by
  rw [referring]
  induction right.allRows with
  | nil => rfl
  | cons order rest ih =>
    cases found : left.buyer? right order with
    | none => simpa [found] using ih
    | some buyer => simpa [found] using ih

theorem referring_to (consistent : left.Consistent) {buyer : Row} (stored : buyer ∈ left.allRows) :
    (left.referring right).filter (·.1.id = buyer.id) =
      (right.allRows.filter fun order => right.schema.cell? order "user_id" = some (.integer buyer.id)).map (buyer, ·) := by
  rw [referring]
  induction right.allRows with
  | nil => rfl
  | cons order rest ih =>
    cases found : left.buyer? right order with
    | none =>
      have elsewhere : ¬ right.schema.cell? order "user_id" = some (.integer buyer.id) := by
        intro here
        rw [(buyer_iff consistent buyer order).mpr ⟨stored, here⟩] at found
        cases found
      rw [List.filterMap_cons_none (by rw [found]; rfl), List.filter_cons_of_neg (by simpa using elsewhere), ih]
    | some other =>
      obtain ⟨_, here⟩ := (buyer_iff consistent other order).mp found
      rw [List.filterMap_cons_some (by rw [found]; rfl)]
      by_cases same : other.id = buyer.id
      · rw [same] at here
        cases found.symm.trans ((buyer_iff consistent buyer order).mpr ⟨stored, here⟩)
        rw [List.filter_cons_of_pos (by simp), List.filter_cons_of_pos (by simpa using here), ih, List.map_cons]
      · rw [List.filter_cons_of_neg (by simpa using same), List.filter_cons_of_neg (by simpa [here] using same), ih]

-- The sort by key goes through the left table, as its rows stand in the order of their keys.
theorem purchases_nested (consistent : left.Consistent) :
    left.purchases right = left.allRows.flatMap fun buyer =>
      (right.allRows.filter fun order => right.schema.cell? order "user_id" = some (.integer buyer.id)).map (buyer, ·) := by
  have known : ∀ pair ∈ left.referring right, pair.1.id ∈ left.allRows.map (·.id) := by
    intro pair listed
    obtain ⟨order, _, paired⟩ := List.mem_filterMap.mp listed
    obtain ⟨buyer, found, rfl⟩ := Option.map_eq_some_iff.mp paired
    exact List.mem_map_of_mem ((buyer_iff consistent buyer order).mp found).1
  rw [purchases, insertion_sort_grouped consistent.ids_ascend known, List.flatMap_map]
  exact List.flatMap_congr fun buyer stored => referring_to consistent stored

theorem purchases_ordered (leftConsistent : left.Consistent) (rightConsistent : right.Consistent) :
    (left.purchases right).Pairwise fun first second =>
      first.1.id < second.1.id ∨ first.1.id = second.1.id ∧ first.2.id < second.2.id := by
  rw [purchases_nested leftConsistent, List.pairwise_flatMap]
  constructor
  · intro buyer _
    rw [List.pairwise_map]
    refine ((List.pairwise_map.mp rightConsistent.ids_ascend).filter _).imp ?_
    intro first second less
    exact .inr ⟨rfl, less⟩
  · apply (List.pairwise_map.mp leftConsistent.ids_ascend).imp
    intro first second less pair listed other among
    obtain ⟨_, _, rfl⟩ := List.mem_map.mp listed
    obtain ⟨_, _, rfl⟩ := List.mem_map.mp among
    exact .inl less

theorem purchases_iff (consistent : left.Consistent) (buyer order : Row) :
    (buyer, order) ∈ left.purchases right ↔ buyer ∈ left.allRows ∧ order ∈ right.allRows ∧
      right.schema.cell? order "user_id" = some (.integer buyer.id) := by
  rw [purchases_nested consistent, List.mem_flatMap]
  simp only [List.mem_map, List.mem_filter, decide_eq_true_eq, Prod.mk.injEq]
  constructor
  · rintro ⟨_, stored, _, referring, rfl, rfl⟩
    exact ⟨stored, referring⟩
  · rintro ⟨stored, referring⟩
    exact ⟨buyer, stored, order, referring, rfl, rfl⟩

theorem purchases_orders (left right : Table) :
    ((left.purchases right).map (·.2)).Perm (right.allRows.filter fun order => (left.buyer? right order).isSome) := by
  rw [← referring_orders]
  exact (List.perm_insertionSort _ _).map _

end Table

namespace Database

theorem cell_found {row : Row} {index : Nat} {value : Value} (found : cell row index = .ok value) :
    row.values[index]? = some value := by
  rw [cell] at found
  split at found
  · rename_i held here
    cases found
    exact here
  · cases found

theorem join_row_pairs {left : Row} {nameIndex keyIndex itemIndex : Nat} {rights : List Row} {lines : List String}
    (joined : joinRow left nameIndex keyIndex itemIndex rights = .ok lines) :
    List.Forall₂ (fun right line => ∃ username item, left.values[nameIndex]? = some username ∧
        right.values[itemIndex]? = some item ∧ line = username.shown ++ " bought " ++ item.shown)
      (rights.filter fun right => right.values[keyIndex]? = some (.integer left.id)) lines := by
  induction rights generalizing lines with
  | nil =>
    cases joined
    exact .nil
  | cons right rest ih =>
    obtain ⟨key, keyFound, joined⟩ := bind_ok joined
    have held := cell_found keyFound
    split at joined
    · rename_i refers
      obtain ⟨username, nameFound, joined⟩ := bind_ok joined
      obtain ⟨item, itemFound, joined⟩ := bind_ok joined
      obtain ⟨others, behind, joined⟩ := bind_ok joined
      cases joined
      have integer : key = .integer left.id := by
        cases key with
        | integer n => rw [Option.some.inj refers]
        | text content => cases refers
      rw [List.filter_cons_of_pos (by simp [held, integer])]
      exact .cons ⟨username, item, cell_found nameFound, cell_found itemFound, rfl⟩ (ih behind)
    · rename_i passes
      have other : ¬ key = .integer left.id := by
        rintro rfl
        exact passes rfl
      rw [List.filter_cons_of_neg (by simpa [held] using other)]
      exact ih joined

theorem join_rows_pairs {nameIndex keyIndex itemIndex : Nat} {lefts rights : List Row} {lines : List String}
    (joined : joinRows nameIndex keyIndex itemIndex rights lefts = .ok lines) :
    List.Forall₂ (fun pair line => ∃ username item, pair.1.values[nameIndex]? = some username ∧
        pair.2.values[itemIndex]? = some item ∧ line = username.shown ++ " bought " ++ item.shown)
      (lefts.flatMap fun left => (rights.filter fun right => right.values[keyIndex]? = some (.integer left.id)).map (left, ·))
      lines := by
  induction lefts generalizing lines with
  | nil =>
    cases joined
    exact .nil
  | cons left rest ih =>
    obtain ⟨first, here, joined⟩ := bind_ok joined
    obtain ⟨others, behind, joined⟩ := bind_ok joined
    cases joined
    rw [List.flatMap_cons]
    exact List.rel_append (List.forall₂_map_left_iff.mpr (join_row_pairs here)) (ih behind)

theorem join_tells {db : Database} (consistent : db.Consistent) {leftName rightName : String} {left right : Table}
    (leftPresent : db.table? leftName = some left) (rightPresent : db.table? rightName = some right)
    (username : "username" ∈ left.schema.columnNames) (userId : "user_id" ∈ right.schema.columnNames)
    (item : "item" ∈ right.schema.columnNames) :
    ∃ lines, db.join leftName rightName = .ok (.joined lines) ∧
      List.Forall₂ (left.Bought right) (left.purchases right) lines := by
  obtain ⟨nameIndex, nameFound, nameAt⟩ := column_index_found username
  obtain ⟨keyIndex, keyFound, keyAt⟩ := column_index_found userId
  obtain ⟨itemIndex, itemFound, itemAt⟩ := column_index_found item
  obtain ⟨lines, answered⟩ := join_indexed consistent leftPresent rightPresent nameFound keyFound itemFound
  refine ⟨lines, answered, ?_⟩
  rw [join, table_present leftPresent, table_present rightPresent] at answered
  simp only [nameFound, keyFound, itemFound, bind, Except.bind] at answered
  obtain ⟨others, joined, same⟩ := bind_ok answered
  cases same
  rw [Table.purchases_nested (consistent.tables leftName left leftPresent)]
  simp only [Schema.cell?, keyAt, Option.bind_some]
  refine (join_rows_pairs joined).imp ?_
  rintro pair line ⟨buyer, bought, atName, atItem, told⟩
  refine ⟨buyer, bought, ?_, ?_, told⟩
  · rw [Schema.cell?, nameAt]
    exact atName
  · rw [Schema.cell?, itemAt]
    exact atItem

theorem join_is_indexed (events : List Event) {leftName rightName : String} {left right : Table}
    (leftPresent : (reached events).table? leftName = some left)
    (rightPresent : (reached events).table? rightName = some right) (predicate : String)
    (username : "username" ∈ left.schema.columnNames) (userId : "user_id" ∈ right.schema.columnNames)
    (item : "item" ∈ right.schema.columnNames) :
    ∃ lines, (reached events).execute (.join leftName rightName predicate) = (.ok (.joined lines), reached events) ∧
      List.Forall₂ (left.Bought right) (left.purchases right) lines ∧
      -- the pairs
      (∀ buyer order, (buyer, order) ∈ left.purchases right ↔ order ∈ right.allRows ∧
        right.schema.cell? order "user_id" = some (.integer buyer.id) ∧ left.row? buyer.id = some buyer) ∧
      (left.purchases right).Pairwise (fun first second =>
        first.1.id < second.1.id ∨ first.1.id = second.1.id ∧ first.2.id < second.2.id) ∧
      -- the right rows behind them
      ((left.purchases right).map (·.2)).Perm (right.allRows.filter fun order => (left.buyer? right order).isSome) ∧
      (right.allRows.map (·.id)).Pairwise (· < ·) ∧
      lines.length = right.allRows.countP fun order => (left.buyer? right order).isSome := by
  have consistent := reached_consistent events
  have leftConsistent := consistent.tables leftName left leftPresent
  have rightConsistent := consistent.tables rightName right rightPresent
  obtain ⟨lines, answered, told⟩ := join_tells consistent leftPresent rightPresent username userId item
  have orders := Table.purchases_orders left right
  refine ⟨lines, congrArg (·, reached events) answered, told, ?_, Table.purchases_ordered leftConsistent rightConsistent,
    orders, rightConsistent.ids_ascend, ?_⟩
  · intro buyer order
    rw [Table.purchases_iff leftConsistent, leftConsistent.row_iff, and_iff_left rfl]
    exact and_rotate
  · rw [← told.length_eq, ← List.length_map (·.2), orders.length_eq, List.countP_eq_length_filter]

def shopEvents : List Event :=
  [.statement (.createTable "users" [⟨"id", "int"⟩, ⟨"username", "text"⟩]),
    .statement (.createTable "orders" [⟨"id", "int"⟩, ⟨"user_id", "int"⟩, ⟨"item", "text"⟩]),
    .statement (.insert "users" ["2", "Ann"]), .statement (.insert "users" ["-1", "Bob"]),
    .statement (.insert "orders" ["1", "2", "Pen"]), .statement (.insert "orders" ["2", "-1", "Cup"]),
    .statement (.insert "orders" ["3", "9", "Ink"]), .statement (.insert "orders" ["4", "2", "Pad"])]

def ann : Row := ⟨2, [.integer 2, .text "Ann"]⟩

def bob : Row := ⟨-1, [.integer (-1), .text "Bob"]⟩

def shopUsers : Table := ((Table.empty "users" ⟨[⟨"id", .integer⟩, ⟨"username", .text⟩], 0⟩).put 2 ann).put (-1) bob

def order (id user : Int64) (item : String) : Row := ⟨id, [.integer id, .integer user, .text item]⟩

def shopOrders : Table :=
  [order 1 2 "Pen", order 2 (-1) "Cup", order 3 9 "Ink", order 4 2 "Pad"].foldl (fun table row => table.put row.id row)
    (.empty "orders" ⟨[⟨"id", .integer⟩, ⟨"user_id", .integer⟩, ⟨"item", .text⟩], 0⟩)

-- The key -1 comes before the key 2, no user has the key 9, and the two orders of one user keep their order.
theorem shop_is_joined :
    (reached shopEvents).table? "users" = some shopUsers ∧ (reached shopEvents).table? "orders" = some shopOrders ∧
      shopUsers.purchases shopOrders = [(bob, order 2 (-1) "Cup"), (ann, order 1 2 "Pen"), (ann, order 4 2 "Pad")] ∧
      List.Forall₂ (shopUsers.Bought shopOrders) (shopUsers.purchases shopOrders)
        ["Bob bought Cup", "Ann bought Pen", "Ann bought Pad"] ∧
      (reached shopEvents).execute (.join "users" "orders" "users.id = orders.id") =
        (.ok (.joined ["Bob bought Cup", "Ann bought Pen", "Ann bought Pad"]), reached shopEvents) := by
  have users : (reached shopEvents).table? "users" = some shopUsers := by decide +kernel
  have orders : (reached shopEvents).table? "orders" = some shopOrders := by decide +kernel
  have answered : ((reached shopEvents).execute (.join "users" "orders" "users.id = orders.id")).1 =
      .ok (.joined ["Bob bought Cup", "Ann bought Pen", "Ann bought Pad"]) := by
    decide +kernel
  obtain ⟨lines, joined, told, _⟩ := join_is_indexed shopEvents users orders "users.id = orders.id" (by decide) (by decide)
    (by decide)
  rw [joined] at answered
  cases answered
  exact ⟨users, orders, by decide +kernel, told, joined⟩

end Database

end TableStore
