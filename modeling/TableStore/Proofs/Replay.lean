import TableStore.Proofs.Assignment
import TableStore.Proofs.Interchange

set_option autoImplicit false

/- Executed again at once, a statement finds its own effect and leaves it as it is. -/
namespace TableStore

namespace Table

theorem written_again (keyIndex : Nat) (values : List Value) (cells : List (Nat × Value)) :
    written keyIndex (written keyIndex values cells) cells = written keyIndex values cells := by
  apply List.ext_getElem?
  intro index
  rw [written_at, written_at, Option.map_map]
  congr 1
  funext old
  by_cases isKey : index = keyIndex
  · simp only [Function.comp_apply, if_pos isKey]
  · simp only [Function.comp_apply, if_neg isKey]
    cases lastTo index cells <;> rfl

variable (table : Table) (id : Int64) (row : Row)

theorem put_contains : (table.put id row).rows.contains id = true := congrArg Option.isSome (table.put_found id row)

theorem without_contains : (table.without id).rows.contains id = false := congrArg Option.isSome (table.without_found id)

theorem without_without : (table.without id).without id = table.without id := assign_row (table.without_found id)

end Table

namespace Database

inductive Replayed : Statement → Except StoreError Answer → Except StoreError Answer → Prop
  | failed {statement : Statement} {error : StoreError} : Replayed statement (.error error) (.error error)
  | created {name : String} {columns : List ColumnDef} :
    Replayed (.createTable name columns) (.ok (.created name)) (.error (.tableExists name))
  | dropped {name : String} : Replayed (.dropTable name) (.ok (.dropped name)) (.error (.tableNotFound name))
  | inserted {name : String} {literals : List String} {id : Int64} {replaced : Bool} :
    Replayed (.insert name literals) (.ok (.inserted name id replaced)) (.ok (.inserted name id true))
  | updated {name : String} {assignments : List Assignment} {key : Int64} :
    Replayed (.update name assignments key) (.ok (.updated name key)) (.ok (.updated name key))
  | deleted {name : String} {key : Int64} {removed : Bool} :
    Replayed (.delete name key) (.ok (.deleted name key removed)) (.ok (.deleted name key false))
  | answered {statement : Statement} {answer : Answer} (reads : statement.isReadOnly = true) :
    Replayed statement (.ok answer) (.ok answer)

variable {db : Database}

theorem create_again (name : String) (table : Table) (columns : List ColumnDef) :
    (db.put name table).execute (.createTable name columns) = (.error (.tableExists name), db.put name table) := by
  have present : (db.put name table).contains name = true := congrArg Option.isSome (db.put_found name table)
  rw [execute, createTable, if_pos present]

theorem drop_again (name : String) :
    (db.without name).execute (.dropTable name) = (.error (.tableNotFound name), db.without name) := by
  rw [execute, dropTable, drop, without_found]
  rfl

theorem insert_again (consistent : db.Consistent) {name : String} {literals : List String} {table : Table} {row : Row}
    (present : db.table? name = some table) (bound : Row.ofLiterals table.schema literals = .ok row) :
    (db.put name (table.put row.id row)).execute (.insert name literals) =
      (.ok (.inserted name row.id true), db.put name (table.put row.id row)) := by
  have sound : (table.put row.id row).schema.Sound := (consistent.tables name table present).schema
  have again := insert_into_bound sound name bound
  rw [Table.put_contains, Table.put_put] at again
  rw [execute, on_table_present (put_found ..), again, put_put]

theorem update_again (consistent : db.Consistent) {name : String} {assignments : List Assignment} {key : Int64}
    {table : Table} {row : Row} {cells : List (Nat × Value)} (present : db.table? name = some table)
    (stored : table.row? key = some row) (resolved : changes table assignments = .ok cells) {next : Table}
    (written : next = table.put key { row with values := Table.written table.schema.keyIndex row.values cells }) :
    (db.put name next).execute (.update name assignments key) = (.ok (.updated name key), db.put name next) := by
  have tableConsistent := consistent.tables name table present
  obtain ⟨underKey, fits⟩ := tableConsistent.rows key row stored
  have shaped : Table.Shaped table.name table.schema table := ⟨rfl, rfl, tableConsistent⟩
  have nextShaped : Table.Shaped table.name table.schema next := by
    have checked := (changes_faultless table assignments).ok resolved
    rw [written, ← underKey]
    exact shaped.put (Table.written_fits fits checked)
  -- The assignments stand for the same cells, which the row holds already.
  have again : changes next assignments = .ok cells := by
    rw [nextShaped.changes, ← shaped.changes, resolved]
  have nextStored : next.row? key = some { row with values := Table.written table.schema.keyIndex row.values cells } := by
    rw [written, Table.put_found]
  rw [execute, on_table_present (put_found ..), update_in_resolved nextShaped.consistent name nextStored again,
    nextShaped.schema, Table.written_again, Table.put_present nextStored, put_put]

theorem delete_again (name : String) (key : Int64) (table : Table) :
    (db.put name (table.without key)).execute (.delete name key) =
      (.ok (.deleted name key false), db.put name (table.without key)) := by
  have deletes : ∀ table, deleteFrom name key table =
      (.ok (.deleted name key (table.rows.contains key)), table.without key) := fun _ => rfl
  rw [execute, on_table_present (put_found ..), deletes, Table.without_contains, Table.without_without, put_put]

theorem Effect.again {statement : Statement} {answer : Answer} {after : Database}
    (effect : Effect db statement answer after) (consistent : db.Consistent) :
    Replayed statement (.ok answer) (after.execute statement).1 ∧ (after.execute statement).2 = after := by
  cases effect with
  | created absent accepted =>
    rw [create_again]
    exact ⟨.created, rfl⟩
  | dropped present =>
    rw [drop_again]
    exact ⟨.dropped, rfl⟩
  | inserted present bound =>
    rw [insert_again consistent present bound]
    exact ⟨.inserted, rfl⟩
  | updated present stored resolved =>
    rw [update_again consistent present stored resolved rfl]
    exact ⟨.updated, rfl⟩
  | deleted present =>
    rw [delete_again]
    exact ⟨.deleted, rfl⟩
  | answered reads shown =>
    rw [execute_read_only db reads, shown]
    exact ⟨.answered reads, rfl⟩

theorem replayed_statement_settles (events : List Event) (statement : Statement) :
    let first := (reached events).execute statement
    let second := first.2.execute statement
    Replayed statement first.1 second.1 ∧ second.2 = first.2 := by
  have consistent := reached_consistent events
  cases done : (reached events).execute statement with
  | mk result after =>
    cases result with
    | ok answer => exact (execute_ok consistent done).again consistent
    | error error =>
      have unchanged := (execute_error consistent done).1
      subst unchanged
      change Replayed statement (.error error) ((reached events).execute statement).1 ∧
        ((reached events).execute statement).2 = reached events
      rw [done]
      exact ⟨.failed, rfl⟩

example :
    let update := Statement.update "pets" [⟨"name", "Tom"⟩, ⟨"id", "x"⟩, ⟨"name", "Ann"⟩] 7
    let renamed := (empty.put "pets" petTable).execute update
    renamed.2 = empty.put "pets" (petTable.put 7 ⟨7, [.text "Ann", .integer 7, .integer 4]⟩) ∧
      renamed.2.execute update = renamed := by
  decide +kernel

end Database

end TableStore
