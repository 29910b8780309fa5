import Mathlib.Data.List.Forall2
import TableStore.Proofs.Interchange
import TableStore.Proofs.Refusal

set_option autoImplicit false

/- The rows of a built-in table are alike: a schema takes all of them, under different keys, or refuses the first. -/
namespace TableStore

-- A column takes both literals or neither, and as integers they differ.
inductive Parallel : String → String → Prop
  | numbers {a b : String} {m n : Int64} (first : Decimal.read (Value.bare a) = some m)
      (second : Decimal.read (Value.bare b) = some n) (apart : m ≠ n) : Parallel a b
  | words {a b : String} (first : Decimal.read (Value.bare a) = none) (second : Decimal.read (Value.bare b) = none) :
    Parallel a b

def Alike : List String → List String → Prop := List.Forall₂ Parallel

theorem coerce_parallel {a b : String} (parallel : Parallel a b) {type : ColumnType} {column : String} {value : Value}
    (coerced : Value.coerce a type column = .ok value) :
    ∃ other, Value.coerce b type column = .ok other ∧ ∀ m n, value = .integer m → other = .integer n → m ≠ n := by
  cases type with
  | text =>
    refine ⟨.text (Value.bare b), by rw [Value.coerce.eq_def], ?_⟩
    intro m n same
    rw [same] at coerced
    cases coerce_type coerced
  | integer =>
    cases parallel with
    | words first second =>
      rw [coerce_unread ⟨rfl, first⟩] at coerced
      cases coerced
    | @numbers m n first second apart =>
      rw [coerce_integer_iff.mpr first] at coerced
      cases coerced
      refine ⟨.integer n, coerce_integer_iff.mpr second, ?_⟩
      rintro _ _ ⟨⟩ ⟨⟩
      exact apart

namespace Row

-- Induction on the pairs of literals, over any columns.
theorem coerce_all_alike {a b : List String} (alike : Alike a b) {columns : List Column} {values : List Value}
    (coerced : coerceAll columns a = .ok values) :
    ∃ others, coerceAll columns b = .ok others ∧
      ∀ (index : Nat) (m n : Int64), values[index]? = some (.integer m) → others[index]? = some (.integer n) → m ≠ n := by
  induction alike generalizing columns values with
  | nil =>
    refine ⟨values, coerced, ?_⟩
    have unbound : values = [] := by cases columns <;> cases coerced <;> rfl
    simp [unbound]
  | cons parallel _ ih =>
    cases columns with
    | nil =>
      cases coerced
      exact ⟨[], rfl, by simp⟩
    | cons column rest =>
      obtain ⟨value, values, same, atHead, behind⟩ := coerce_all_cons coerced
      obtain ⟨other, otherAtHead, apart⟩ := coerce_parallel parallel atHead
      obtain ⟨others, othersBehind, apartBehind⟩ := ih behind
      subst same
      refine ⟨other :: others, by rw [coerceAll, otherAtHead, othersBehind]; rfl, ?_⟩
      intro index m n
      cases index with
      | zero => simpa using apart m n
      | succ index => simpa using apartBehind index m n

theorem of_literals_alike {schema : Schema} (sound : schema.Sound) {a b : List String} (alike : Alike a b) {row : Row}
    (bound : ofLiterals schema a = .ok row) : ∃ other, ofLiterals schema b = .ok other ∧ row.id ≠ other.id := by
  obtain ⟨fits, width, coerced⟩ := (of_literals_faultless sound a).ok bound
  obtain ⟨others, otherCoerced, apart⟩ := coerce_all_alike alike coerced
  have otherWidth : b.length = schema.width := (List.Forall₂.length_eq alike).symm.trans width
  obtain ⟨id, built, otherFits⟩ := of_values_typed sound (coerce_all_typed otherWidth otherCoerced)
  refine ⟨⟨id, others⟩, ?_, apart schema.keyIndex row.id id fits.key otherFits.key⟩
  simp only [ofLiterals, otherWidth, Nat.lt_irrefl, if_false, otherCoerced, built]

end Row

namespace Table

theorem is_empty_iff (table : Table) : table.isEmpty = true ↔ table.allRows = [] := by
  rw [isEmpty, OrdMap.isEmpty, List.isEmpty_iff, allRows, OrdMap.values, List.map_eq_nil_iff]

theorem row_vacant {table : Table} (vacant : table.isEmpty = true) (id : Int64) : table.row? id = none := by
  rw [row?, OrdMap.get?, List.isEmpty_iff.mp vacant]
  rfl

def Holds (table : Table) (literals : List (List String)) : Prop :=
  ∃ rows, List.Forall₂ (fun given row => Row.ofLiterals table.schema given = .ok row) literals rows ∧
    table.allRows.Perm rows

theorem Holds.filled {table : Table} {literals : List (List String)} (holds : table.Holds literals)
    (nonempty : literals ≠ []) : table.isEmpty = false := by
  obtain ⟨rows, bound, same⟩ := holds
  rw [Bool.eq_false_iff, Ne, is_empty_iff]
  intro vacant
  rw [vacant, List.nil_perm] at same
  rw [same, List.forall₂_nil_right_iff] at bound
  exact nonempty bound

def insertAll (name : String) : List (List String) → Table → Except StoreError Unit × Table
  | [], table => (.ok (), table)
  | literals :: rest, table =>
    match Database.insertInto name literals table with
    | (.error error, after) => (.error error, after)
    | (.ok _, after) => insertAll name rest after

-- Each row takes a free key, and since it is unlike those behind it leaves theirs free.
theorem insert_all_alike (name : String) {literals : List (List String)} (alike : literals.Pairwise Alike) {table : Table}
    (sound : table.schema.Sound)
    (fitting : ∀ given ∈ literals, ∃ row, Row.ofLiterals table.schema given = .ok row ∧ table.row? row.id = none) :
    ∃ next rows, insertAll name literals table = (.ok (), next) ∧ next.schema = table.schema ∧
      List.Forall₂ (fun given row => Row.ofLiterals table.schema given = .ok row) literals rows ∧
      next.allRows.Perm (rows ++ table.allRows) := by
  induction literals generalizing table with
  | nil => exact ⟨table, [], rfl, rfl, .nil, .refl _⟩
  | cons first rest ih =>
    obtain ⟨likeFirst, alike⟩ := List.pairwise_cons.mp alike
    obtain ⟨⟨row, bound, free⟩, fitting⟩ := List.forall_mem_cons.mp fitting
    have others : ∀ given ∈ rest, ∃ other, Row.ofLiterals table.schema given = .ok other ∧
        (table.put row.id row).row? other.id = none := by
      intro given listed
      obtain ⟨other, otherBound, apart⟩ := Row.of_literals_alike sound (likeFirst given listed) bound
      obtain ⟨same, sameBound, otherFree⟩ := fitting given listed
      rw [otherBound] at sameBound
      cases sameBound
      exact ⟨other, otherBound, by rw [row_put, if_neg (Ne.symm apart), otherFree]⟩
    have nextSound : (table.put row.id row).schema.Sound := sound
    obtain ⟨next, rows, done, schema, bounds, same⟩ := ih alike nextSound others
    refine ⟨next, row :: rows, ?_, schema, .cons bound bounds, ?_⟩
    · rw [insertAll, Database.insert_into_bound sound name bound]
      exact done
    · exact (same.trans ((all_rows_put free row).append_left rows)).trans List.perm_middle

end Table

namespace Database

theorem put_comm (db : Database) {a b : String} (apart : a ≠ b) (first second : Table) :
    (db.put a first).put b second = (db.put b second).put a first :=
  congrArg Database.mk (OrdMap.assign_comm db.tables (Ne.symm apart) (some second) (some first))

theorem execute_all_inserts {db : Database} {name : String} {table : Table} (present : db.table? name = some table)
    (literals : List (List String)) :
    db.executeAll (literals.map (.insert name)) =
      ((Table.insertAll name literals table).1, db.put name (Table.insertAll name literals table).2) := by
  induction literals generalizing db table with
  | nil => rw [List.map_nil, executeAll, Table.insertAll, put_present present]
  | cons first rest ih =>
    rw [List.map_cons, executeAll, execute, on_table_present present, Table.insertAll]
    cases done : insertInto name first table with
    | mk result after =>
      cases result with
      | error error => rfl
      | ok answer => simp only [ih (put_found ..), put_put]

namespace BuiltIn

def fresh (builtIn : BuiltIn) : Table := .empty builtIn.name ⟨builtIn.columns.map (·.column), 0⟩

structure Sound (builtIn : BuiltIn) : Prop where
  accepted : Schema.ofColumns (builtIn.columns.map (·.column)) = .ok builtIn.fresh.schema
  nonempty : builtIn.rows ≠ []
  alike : builtIn.rows.Pairwise Alike

def held (builtIn : BuiltIn) (db : Database) : Table := (db.table? builtIn.name).getD builtIn.fresh

def stock (builtIn : BuiltIn) (table : Table) : Except StoreError Unit × Table :=
  if table.isEmpty then Table.insertAll builtIn.name builtIn.rows table else (.ok (), table)

inductive Stocked (builtIn : BuiltIn) (table : Table) : Except StoreError Unit × Table → Prop
  | occupied (filled : table.isEmpty = false) : Stocked builtIn table (.ok (), table)
  | refused {error : StoreError} (vacant : table.isEmpty = true) : Stocked builtIn table (.error error, table)
  | stocked {next : Table} (vacant : table.isEmpty = true) (schema : next.schema = table.schema)
      (holds : next.Holds builtIn.rows) : Stocked builtIn table (.ok (), next)

variable {builtIn : BuiltIn} {table : Table}

theorem stock_filled (filled : table.isEmpty = false) : builtIn.stock table = (.ok (), table) := by
  rw [stock, filled, if_neg Bool.false_ne_true]

theorem stock_stocked (sound : builtIn.Sound) (tableSound : table.schema.Sound) :
    Stocked builtIn table (builtIn.stock table) := by
  cases vacant : table.isEmpty with
  | false =>
    rw [stock_filled vacant]
    exact .occupied vacant
  | true =>
    rw [stock, if_pos vacant]
    obtain ⟨first, rest, split⟩ := List.exists_cons_of_ne_nil sound.nonempty
    have alike := sound.alike
    rw [split] at alike ⊢
    cases bound : Row.ofLiterals table.schema first with
    | error error =>
      rw [Table.insertAll, insert_into_unbound builtIn.name bound]
      exact .refused vacant
    | ok row =>
      -- What the first row does, those behind it do too.
      have fitting : ∀ given ∈ first :: rest, ∃ other, Row.ofLiterals table.schema given = .ok other ∧
          table.row? other.id = none := by
        refine List.forall_mem_cons.mpr ⟨⟨row, bound, Table.row_vacant vacant _⟩, ?_⟩
        intro given listed
        obtain ⟨other, otherBound, _⟩ := Row.of_literals_alike tableSound ((List.pairwise_cons.mp alike).1 given listed) bound
        exact ⟨other, otherBound, Table.row_vacant vacant _⟩
      obtain ⟨next, rows, done, schema, bounds, same⟩ := Table.insert_all_alike builtIn.name alike tableSound fitting
      rw [(Table.is_empty_iff table).mp vacant, List.append_nil] at same
      rw [done]
      refine .stocked vacant schema ⟨rows, ?_, same⟩
      rw [split, schema]
      exact bounds

theorem stock_again (sound : builtIn.Sound) (tableSound : table.schema.Sound) :
    builtIn.stock (builtIn.stock table).2 = builtIn.stock table := by
  have outcome := stock_stocked sound tableSound
  generalize told : builtIn.stock table = result at outcome
  cases outcome with
  | occupied filled => exact stock_filled filled
  | refused vacant => exact told
  | stocked vacant schema holds => exact stock_filled (holds.filled sound.nonempty)

theorem fresh_sound (sound : builtIn.Sound) : builtIn.fresh.schema.Sound := Schema.of_columns_sound sound.accepted

theorem held_sound (sound : builtIn.Sound) {db : Database} (consistent : db.Consistent) :
    (builtIn.held db).schema.Sound := by
  rw [held]
  cases present : db.table? builtIn.name with
  | none => exact fresh_sound sound
  | some table => exact (consistent.tables builtIn.name table present).schema

theorem held_present {db : Database} (present : db.table? builtIn.name = some table) : builtIn.held db = table := by
  rw [held, present]
  rfl

theorem create_missing_held (sound : builtIn.Sound) (db : Database) :
    db.createMissing builtIn = (.ok (), db.put builtIn.name (builtIn.held db)) := by
  rw [createMissing, held]
  cases present : db.table? builtIn.name with
  | some table => exact congrArg (Prod.mk _) (put_present present).symm
  | none =>
    have free : db.contains builtIn.name = false := congrArg Option.isSome present
    simp only [executeAll, execute, createTable, free, Bool.false_eq_true, if_false, sound.accepted, create]
    rfl

theorem fill_empty_present {db : Database} (present : db.table? builtIn.name = some table) :
    db.fillEmpty builtIn = ((builtIn.stock table).1, db.put builtIn.name (builtIn.stock table).2) := by
  rw [fillEmpty, present, stock]
  by_cases vacant : table.isEmpty = true
  · simp only [if_pos vacant, execute_all_inserts present]
  · simp only [if_neg vacant, put_present present]

end BuiltIn

theorem users_sound : users.Sound where
  accepted := rfl
  nonempty := by decide
  alike := by
    have alike : Alike ["1", "John Doe", "30"] ["2", "Jane Smith", "25"] :=
      .cons (.numbers (m := 1) (n := 2) (by decide +kernel) (by decide +kernel) (by decide))
        (.cons (.words (by decide +kernel) (by decide +kernel))
          (.cons (.numbers (m := 30) (n := 25) (by decide +kernel) (by decide +kernel) (by decide)) .nil))
    simpa [users] using alike

theorem orders_sound : orders.Sound where
  accepted := rfl
  nonempty := by decide
  alike := List.pairwise_singleton ..

-- The built-in statements as texts.
example :
    ["CREATE TABLE users (id int, username text, age int)", "INSERT INTO users VALUES (1, 'John Doe', 30)",
      "INSERT INTO users VALUES (2, 'Jane Smith', 25)", "CREATE TABLE orders (id int, user_id int, item text)",
      "INSERT INTO orders VALUES (1, 1, 'Laptop')"].map Statement.parse =
    (.createTable users.name users.columns :: users.rows.map (Statement.insert users.name) ++
      .createTable orders.name orders.columns :: orders.rows.map (Statement.insert orders.name) :
        List Statement).map .ok := by
  decide +kernel

def keeping (db : Database) (tables : Table × Table) : Database := (db.put users.name tables.1).put orders.name tables.2

def stockBoth (tables : Table × Table) : Except StoreError Unit × Table × Table :=
  match users.stock tables.1 with
  | (.error error, next) => (.error error, next, tables.2)
  | (.ok (), next) => ((orders.stock tables.2).1, next, (orders.stock tables.2).2)

section
variable (db : Database) (tables next : Table × Table)

theorem keeping_other {name : String} (notUsers : name ≠ users.name) (notOrders : name ≠ orders.name) :
    (db.keeping tables).table? name = db.table? name := by
  rw [keeping, table_put, if_neg notOrders, table_put, if_neg notUsers]

theorem names_apart : users.name ≠ orders.name := by decide

theorem keeping_users : (db.keeping tables).table? users.name = some tables.1 := by
  rw [keeping, table_put, if_neg names_apart, put_found]

theorem keeping_orders : (db.keeping tables).table? orders.name = some tables.2 := put_found ..

theorem keeping_put_users (table : Table) : (db.keeping tables).put users.name table = db.keeping (table, tables.2) := by
  rw [keeping, put_comm _ (Ne.symm names_apart), put_put]
  rfl

theorem keeping_put_orders (table : Table) : (db.keeping tables).put orders.name table = db.keeping (tables.1, table) :=
  put_put ..

theorem keeping_again : (db.keeping tables).keeping next = db.keeping next := by
  rw [keeping, keeping_put_users, keeping_put_orders]

end

theorem seed_eq (db : Database) :
    db.seed = ((stockBoth (users.held db, orders.held db)).1,
      db.keeping (stockBoth (users.held db, orders.held db)).2) := by
  have created : andThen (db.createMissing users) (createMissing · orders) =
      (.ok (), db.keeping (users.held db, orders.held db)) := by
    have unmoved : orders.held (db.put users.name (users.held db)) = orders.held db := by
      rw [BuiltIn.held, table_put, if_neg (Ne.symm names_apart), BuiltIn.held]
    rw [BuiltIn.create_missing_held users_sound]
    change createMissing (db.put users.name (users.held db)) orders = _
    rw [BuiltIn.create_missing_held orders_sound, unmoved]
    rfl
  rw [seed, created]
  change andThen (fillEmpty _ users) (fillEmpty · orders) = _
  rw [BuiltIn.fill_empty_present (keeping_users ..), keeping_put_users, stockBoth]
  cases stocked : users.stock (users.held db) with
  | mk result next =>
    cases result with
    | error error => rfl
    | ok _ =>
      change fillEmpty (db.keeping (next, orders.held db)) orders = _
      rw [BuiltIn.fill_empty_present (keeping_orders ..), keeping_put_orders]

theorem stock_both_again (tables : Table × Table) (usersSchema : tables.1.schema.Sound)
    (ordersSchema : tables.2.schema.Sound) : stockBoth (stockBoth tables).2 = stockBoth tables := by
  have usersAgain := BuiltIn.stock_again users_sound usersSchema
  have ordersAgain := BuiltIn.stock_again orders_sound ordersSchema
  cases stocked : users.stock tables.1 with
  | mk result next =>
    rw [stocked] at usersAgain
    cases result with
    | error error => simp only [stockBoth, stocked, usersAgain]
    | ok _ => simp only [stockBoth, stocked, usersAgain, ordersAgain]

structure Seeded (builtIn : BuiltIn) (before : Table) (answer : Except StoreError Unit) (after : Table) : Prop where
  schema : after.schema = before.schema
  occupied : before.isEmpty = false → after = before
  vacant : before.isEmpty = true → after.Holds builtIn.rows ∨ after = before ∧ ∃ error, answer = .error error

theorem BuiltIn.Stocked.seeded {builtIn : BuiltIn} {table next : Table} {result answer : Except StoreError Unit}
    (stocked : builtIn.Stocked table (result, next)) (failed : ∀ error, result = .error error → answer = .error error) :
    Seeded builtIn table answer next := by
  cases stocked with
  | occupied filled => exact ⟨rfl, fun _ => rfl, fun vacant => absurd vacant (Bool.eq_false_iff.mp filled)⟩
  | refused vacant =>
    exact ⟨rfl, fun _ => rfl, fun _ => .inr ⟨rfl, _, failed _ rfl⟩⟩
  | stocked vacant schema holds =>
    exact ⟨schema, fun filled => absurd vacant (Bool.eq_false_iff.mp filled), fun _ => .inl holds⟩

theorem stock_both_seeded (tables : Table × Table) (usersSchema : tables.1.schema.Sound)
    (ordersSchema : tables.2.schema.Sound) :
    Seeded users tables.1 (stockBoth tables).1 (stockBoth tables).2.1 ∧
      Seeded orders tables.2 (stockBoth tables).1 (stockBoth tables).2.2 := by
  have usersStocked := BuiltIn.stock_stocked users_sound usersSchema
  have ordersStocked := BuiltIn.stock_stocked orders_sound ordersSchema
  rw [stockBoth]
  cases stocked : users.stock tables.1 with
  | mk result next =>
    rw [stocked] at usersStocked
    cases result with
    | error error =>
      exact ⟨usersStocked.seeded fun _ same => same, rfl, fun _ => rfl, fun _ => .inr ⟨rfl, error, rfl⟩⟩
    | ok _ =>
      refine ⟨usersStocked.seeded (by simp), ?_⟩
      exact ordersStocked.seeded fun _ same => same

theorem seeding_settles (events : List Event) :
    let db := reached events
    db.seed.2.seed = db.seed ∧
      (∀ name, name ∉ ["users", "orders"] → db.seed.2.table? name = db.table? name) ∧
      ∀ builtIn ∈ [users, orders], ∃ after, db.seed.2.table? builtIn.name = some after ∧
        Seeded builtIn (builtIn.held db) db.seed.1 after := by
  intro db
  have consistent : db.Consistent := reached_consistent events
  have usersSchema := BuiltIn.held_sound users_sound consistent
  have ordersSchema := BuiltIn.held_sound orders_sound consistent
  have again := stock_both_again (users.held db, orders.held db) usersSchema ordersSchema
  obtain ⟨usersSeeded, ordersSeeded⟩ := stock_both_seeded (users.held db, orders.held db) usersSchema ordersSchema
  rw [seed_eq db]
  refine ⟨?_, ?_, ?_⟩
  · rw [seed_eq, BuiltIn.held_present (keeping_users ..), BuiltIn.held_present (keeping_orders ..), keeping_again]
    exact congrArg (fun outcome => (outcome.1, db.keeping outcome.2)) again
  · intro name other
    simp only [List.mem_cons, not_or] at other
    exact keeping_other db _ other.1 other.2.1
  · intro builtIn listed
    simp only [List.mem_cons, List.not_mem_nil, or_false] at listed
    rcases listed with rfl | rfl
    · exact ⟨_, keeping_users .., usersSeeded⟩
    · exact ⟨_, keeping_orders .., ordersSeeded⟩

-- The users have their key in another place, and the built-in row of the orders is too wide.
def ownEvents : List Event :=
  [.statement (.createTable "users" [⟨"note", "text"⟩, ⟨"username", "text"⟩, ⟨"id", "int"⟩]),
    .statement (.createTable "orders" [⟨"id", "int"⟩, ⟨"total", "int"⟩]),
    .statement (.createTable "tags" [⟨"id", "int"⟩])]

def ownUsers : Table := .empty "users" ⟨[⟨"note", .text⟩, ⟨"username", .text⟩, ⟨"id", .integer⟩], 2⟩

def stockedUsers : Table :=
  (ownUsers.put 25 ⟨25, [.text "2", .text "Jane Smith", .integer 25]⟩).put 30
    ⟨30, [.text "1", .text "John Doe", .integer 30]⟩

def ownOrders : Table := .empty "orders" ⟨[⟨"id", .integer⟩, ⟨"total", .integer⟩], 0⟩

theorem own_tables_are_stocked_once :
    (reached ownEvents).seed.1 = .error (.malformed (.wrongValueCount 2 3)) ∧
      (reached ownEvents).seed.2.seed = (reached ownEvents).seed ∧
      (reached ownEvents).seed.2.table? "tags" = (reached ownEvents).table? "tags" ∧
      (reached ownEvents).seed.2.table? "users" = some stockedUsers ∧ stockedUsers.Holds users.rows ∧
      (reached ownEvents).seed.2.table? "orders" = some ownOrders ∧ ownOrders.isEmpty = true := by
  obtain ⟨again, others, seeded⟩ := seeding_settles ownEvents
  have failed : (reached ownEvents).seed.1 = .error (.malformed (.wrongValueCount 2 3)) := by decide +kernel
  have found : (reached ownEvents).seed.2.table? "users" = some stockedUsers := by decide +kernel
  refine ⟨failed, again, others "tags" (by decide), found, ?_, by decide +kernel, by decide⟩
  obtain ⟨after, present, outcome⟩ := seeded users (List.mem_cons_self ..)
  have same : after = stockedUsers := Option.some.inj (present.symm.trans found)
  subst same
  rcases outcome.vacant (by decide +kernel) with holds | ⟨unchanged, _⟩
  · exact holds
  · exact absurd unchanged (by decide +kernel)

end Database

end TableStore
