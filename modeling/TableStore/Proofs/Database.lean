import TableStore.Database
import TableStore.Proofs.Table

set_option autoImplicit false

namespace TableStore.Database

structure Consistent (db : Database) : Prop where
  named : ∀ name table, db.table? name = some table → table.name = name
  tables : ∀ name table, db.table? name = some table → table.Consistent

def without (db : Database) (name : String) : Database := ⟨db.tables.erase name⟩

theorem table_put (db : Database) (name query : String) (table : Table) :
    (db.put name table).table? query = if query = name then some table else db.table? query :=
  OrdMap.get_insert db.tables name table query

theorem put_found (db : Database) (name : String) (table : Table) : (db.put name table).table? name = some table := by
  rw [table_put, if_pos rfl]

theorem table_without (db : Database) (name query : String) :
    (db.without name).table? query = if query = name then none else db.table? query :=
  OrdMap.get_erase db.tables name query

theorem without_found (db : Database) (name : String) : (db.without name).table? name = none := by
  rw [table_without, if_pos rfl]

theorem put_present {db : Database} {name : String} {table : Table} (found : db.table? name = some table) :
    db.put name table = db := by
  rw [put, OrdMap.insert_present found]

theorem put_put (db : Database) (name : String) (first second : Table) :
    (db.put name first).put name second = db.put name second := by
  simp only [put, OrdMap.insert_insert]

theorem on_table_absent {α : Type} {db : Database} {name : String} (absent : db.table? name = none)
    (operation : Table → Except StoreError α × Table) :
    db.onTable name operation = (.error (.tableNotFound name), db) := by
  rw [onTable, absent]

theorem on_table_present {α : Type} {db : Database} {name : String} {table : Table}
    (found : db.table? name = some table) (operation : Table → Except StoreError α × Table) :
    db.onTable name operation = ((operation table).1, db.put name (operation table).2) := by
  rw [onTable, found]

theorem empty_consistent : empty.Consistent := by
  constructor
  · intro name table found
    cases found
  · intro name table found
    cases found

variable {db : Database}

theorem put_consistent (consistent : db.Consistent) {table : Table} (tableConsistent : table.Consistent) :
    (db.put table.name table).Consistent := by
  constructor
  · intro name other found
    rw [table_put] at found
    split at found
    · rename_i same
      cases found
      exact same.symm
    · exact consistent.named name other found
  · intro name other found
    rw [table_put] at found
    split at found
    · cases found
      exact tableConsistent
    · exact consistent.tables name other found

theorem replaced_consistent (consistent : db.Consistent) {name : String} {table next : Table}
    (present : db.table? name = some table) (nextConsistent : next.Consistent) (same : next.name = table.name) :
    (db.put name next).Consistent := by
  have named : next.name = name := same.trans (consistent.named name table present)
  subst named
  exact put_consistent consistent nextConsistent

theorem without_consistent (consistent : db.Consistent) (name : String) : (db.without name).Consistent := by
  constructor
  · intro query table found
    rw [table_without] at found
    split at found
    · cases found
    · exact consistent.named query table found
  · intro query table found
    rw [table_without] at found
    split at found
    · cases found
    · exact consistent.tables query table found

end TableStore.Database
