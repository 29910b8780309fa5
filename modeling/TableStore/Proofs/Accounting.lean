import TableStore.Proofs.Run

set_option autoImplicit false

/- The rows of a table, told by the answers since the table was created. -/
namespace TableStore.Database

def adds (name : String) : Except StoreError Answer → Bool
  | .ok (.inserted table _ replaced) => table == name && !replaced
  | _ => false

def removes (name : String) : Except StoreError Answer → Bool
  | .ok (.deleted table _ removed) => table == name && removed
  | _ => false

-- Removals stand on the side of the rows, so that no difference is cut off at zero.
def Accounted (name : String) (answers : List (Except StoreError Answer)) (table : Table) : Prop :=
  ∃ earlier later, answers = earlier ++ .ok (.created name) :: later ∧ .ok (.created name) ∉ later ∧
    table.rowCount + later.countP (removes name) = later.countP (adds name)

def Holds (db : Database) (name : String) (id : Int64) : Prop :=
  ∃ table row, db.table? name = some table ∧ table.row? id = some row

def rowCount? (db : Database) (name : String) : Option Nat := (db.table? name).map (·.rowCount)

variable {name : String} {answers : List (Except StoreError Answer)} {table : Table}

theorem created_accounted (name : String) (answers : List (Except StoreError Answer)) (schema : Schema) :
    Accounted name (answers ++ [.ok (.created name)]) (.empty name schema) :=
  ⟨answers, [], rfl, List.not_mem_nil, rfl⟩

theorem Accounted.next (accounted : Accounted name answers table) {answer : Except StoreError Answer}
    (other : answer ≠ .ok (.created name)) {next : Table}
    (counted : next.rowCount + (removes name answer).toNat = table.rowCount + (adds name answer).toNat) :
    Accounted name (answers ++ [answer]) next := by
  obtain ⟨earlier, later, split, last, balance⟩ := accounted
  refine ⟨earlier, later ++ [answer], by simp [split], by simp [last, Ne.symm other], ?_⟩
  simp only [List.countP_append, List.countP_singleton]
  have removed : (if removes name answer = true then 1 else 0) = (removes name answer).toNat := by
    cases removes name answer <;> rfl
  have added : (if adds name answer = true then 1 else 0) = (adds name answer).toNat := by
    cases adds name answer <;> rfl
  rw [removed, added]
  omega

theorem Accounted.passed (accounted : Accounted name answers table) {answer : Except StoreError Answer}
    (other : answer ≠ .ok (.created name)) (unmoved : removes name answer = false) (unadded : adds name answer = false) :
    Accounted name (answers ++ [answer]) table := by
  apply accounted.next other
  rw [unmoved, unadded]

def AllAccounted (answers : List (Except StoreError Answer)) (db : Database) : Prop :=
  ∀ name table, db.table? name = some table → Accounted name answers table

theorem empty_accounted : AllAccounted [] empty := by
  intro name table present
  cases present

variable {db after : Database} {statement : Statement} {answer : Answer}

theorem failed_accounted (accounted : AllAccounted answers db) (error : StoreError) :
    AllAccounted (answers ++ [.error error]) db := by
  intro name table present
  exact (accounted name table present).passed (by simp) rfl rfl

theorem written_accounted (accounted : AllAccounted answers db) {target : String} {old new : Table}
    (stored : db.table? target = some old) (created : ∀ name, answer ≠ .created name)
    (removesHere : ∀ name, target ≠ name → removes name (.ok answer) = false)
    (addsHere : ∀ name, target ≠ name → adds name (.ok answer) = false)
    (counted : new.rowCount + (removes target (.ok answer)).toNat = old.rowCount + (adds target (.ok answer)).toNat) :
    AllAccounted (answers ++ [.ok answer]) (db.put target new) := by
  intro name table present
  have other : (.ok answer : Except StoreError Answer) ≠ .ok (.created name) := by simp [created]
  rw [table_put] at present
  by_cases hit : name = target
  · subst hit
    rw [if_pos rfl] at present
    cases present
    exact (accounted name old stored).next other counted
  · rw [if_neg hit] at present
    exact (accounted name table present).passed other (removesHere name (Ne.symm hit)) (addsHere name (Ne.symm hit))

theorem Effect.accounted (effect : Effect db statement answer after) (accounted : AllAccounted answers db) :
    AllAccounted (answers ++ [.ok answer]) after := by
  cases effect with
  | @created target columns schema absent accepted =>
    intro name table present
    rw [table_put] at present
    by_cases hit : name = target
    · subst hit
      rw [if_pos rfl] at present
      cases present
      exact created_accounted name answers schema
    · rw [if_neg hit] at present
      exact (accounted name table present).passed (by simp [Ne.symm hit]) rfl rfl
  | @dropped target table present =>
    intro name table present
    rw [table_without] at present
    by_cases hit : name = target
    · rw [if_pos hit] at present
      cases present
    · rw [if_neg hit] at present
      exact (accounted name table present).passed (by simp) rfl rfl
  | @inserted target literals table row present bound =>
    apply written_accounted accounted present
    · simp
    · exact fun _ _ => rfl
    · intro name different
      simp [adds, different]
    · have counted := table.row_count_put row.id row
      cases held : table.rows.contains row.id with
      | true =>
        rw [held] at counted
        simpa [adds, removes] using counted
      | false =>
        rw [held] at counted
        simpa [adds, removes] using counted
  | @updated target assignments key table row cells present stored resolved =>
    apply written_accounted accounted present
    · simp
    · exact fun _ _ => rfl
    · exact fun _ _ => rfl
    · exact Table.row_count_replaced stored _
  | @deleted target key table present =>
    apply written_accounted accounted present
    · simp
    · intro name different
      simp [removes, different]
    · exact fun _ _ => rfl
    · have counted := table.row_count_without key
      simpa [adds, removes] using counted
  | answered reads shown =>
    have reading := query_reading shown
    intro name table present
    cases answer with
    | rows | joined | unknown => exact (accounted name table present).passed (by simp) rfl rfl
    | created | dropped | inserted | updated | deleted => cases reading

structure Balanced (answers : List (Except StoreError Answer)) (db : Database) : Prop where
  consistent : db.Consistent
  accounted : AllAccounted answers db

theorem execute_balanced (answers : List (Except StoreError Answer)) (db : Database) (statement : Statement)
    (balanced : Balanced answers db) : Balanced (answers ++ [(db.execute statement).1]) (db.execute statement).2 := by
  refine ⟨execute_consistent db statement balanced.consistent, ?_⟩
  cases done : db.execute statement with
  | mk result after =>
    cases result with
    | ok answer => exact (execute_ok balanced.consistent done).accounted balanced.accounted
    | error error =>
      have unchanged := (execute_error balanced.consistent done).1
      subst unchanged
      exact failed_accounted balanced.accounted error

theorem run_balanced (statements : List Statement) :
    Balanced (inOrder execute empty statements).1 (inOrder execute empty statements).2 := by
  have run : Balanced ([] ++ (inOrder execute empty statements).1) (inOrder execute empty statements).2 :=
    in_order_keeps execute_balanced statements ⟨empty_consistent, empty_accounted⟩
  rwa [List.nil_append] at run

theorem holds_iff {id : Int64} (present : db.table? name = some table) :
    table.rows.contains id = true ↔ db.Holds name id := by
  rw [table.contains_row_iff]
  constructor
  · rintro ⟨row, stored⟩
    exact ⟨table, row, present, stored⟩
  · rintro ⟨other, row, found, stored⟩
    rw [present] at found
    cases found
    exact ⟨row, stored⟩

theorem inserted_held (consistent : db.Consistent) {id : Int64} {replaced : Bool}
    (done : (db.execute statement).1 = .ok (.inserted name id replaced)) : replaced = true ↔ db.Holds name id := by
  obtain ⟨after, whole⟩ : ∃ after, db.execute statement = (_, after) := ⟨_, Prod.ext done rfl⟩
  cases execute_ok consistent whole with
  | inserted present bound => exact holds_iff present
  | answered reads shown => cases query_reading shown

theorem deleted_held (consistent : db.Consistent) {id : Int64} {removed : Bool}
    (done : (db.execute statement).1 = .ok (.deleted name id removed)) : removed = true ↔ db.Holds name id := by
  obtain ⟨after, whole⟩ : ∃ after, db.execute statement = (_, after) := ⟨_, Prod.ext done rfl⟩
  cases execute_ok consistent whole with
  | deleted present => exact holds_iff present
  | answered reads shown => cases query_reading shown

theorem updated_row_count (consistent : db.Consistent) (name query : String) (assignments : List Assignment)
    (key : Int64) : (db.execute (.update name assignments key)).2.rowCount? query = db.rowCount? query := by
  cases done : db.execute (.update name assignments key) with
  | mk result after =>
    cases result with
    | error error => rw [(execute_error consistent done).1]
    | ok answer =>
      cases execute_ok consistent done with
      | @updated _ _ _ table row cells present stored resolved =>
        rw [rowCount?, table_put, rowCount?]
        by_cases hit : query = name
        · rw [if_pos hit, hit, present]
          exact congrArg some (Table.row_count_replaced stored _)
        · rw [if_neg hit]
      | answered reads shown => cases reads

inductive Still (db : Database) : Statement → Prop
  | update (name : String) (assignments : List Assignment) (key : Int64) : Still db (.update name assignments key)
  | read {statement : Statement} (reads : statement.isReadOnly = true) : Still db statement
  | failed {statement : Statement} {error : StoreError} (failed : (db.execute statement).1 = .error error) :
    Still db statement

theorem still_row_count (consistent : db.Consistent) (still : db.Still statement) (name : String) :
    (db.execute statement).2.rowCount? name = db.rowCount? name := by
  cases still with
  | update target assignments key => exact updated_row_count consistent target name assignments key
  | read reads => rw [execute_read_only db reads]
  | failed failed =>
    have unchanged : (db.execute statement).2 = db := (execute_error consistent (Prod.ext failed rfl)).1
    rw [unchanged]

-- Each step of a run is the next one behind a shorter run, so what is said of the next statement holds at every step.
theorem rows_are_accounted_for {statements : List Statement} {answers : List (Except StoreError Answer)} {db : Database}
    (ran : inOrder execute empty statements = (answers, db)) :
    (∀ name table, db.table? name = some table →
        ∃ earlier later, answers = earlier ++ .ok (.created name) :: later ∧ .ok (.created name) ∉ later ∧
          table.rowCount + later.countP (removes name) = later.countP (adds name)) ∧
      (∀ next name id replaced, (db.execute next).1 = .ok (.inserted name id replaced) →
        (replaced = true ↔ db.Holds name id)) ∧
      (∀ next name id removed, (db.execute next).1 = .ok (.deleted name id removed) →
        (removed = true ↔ db.Holds name id)) ∧
      ∀ next, db.Still next → ∀ name, (db.execute next).2.rowCount? name = db.rowCount? name := by
  obtain ⟨consistent, accounted⟩ := run_balanced statements
  rw [ran] at consistent accounted
  refine ⟨accounted, ?_, ?_, ?_⟩
  · exact fun next name id replaced done => inserted_held consistent done
  · exact fun next name id removed done => deleted_held consistent done
  · exact fun next still name => still_row_count consistent still name

-- A table created anew, a row overwritten, and deletions of a row and of a missing key.
def restock : List Statement :=
  [.createTable "pets" [⟨"id", "int"⟩], .insert "pets" ["1"], .dropTable "pets",
    .createTable "pets" [⟨"name", "text"⟩, ⟨"id", "int"⟩], .insert "pets" ["Rex", "7"], .insert "pets" ["Max", "7"],
    .insert "pets" ["Ann", "8"], .delete "pets" 9, .delete "pets" 7]

def restocked : Table :=
  (Table.empty "pets" ⟨[⟨"name", .text⟩, ⟨"id", .integer⟩], 1⟩).put 8 ⟨8, [.text "Ann", .integer 8]⟩

theorem restocked_pets_are_accounted_for :
    (inOrder execute empty restock).2.table? "pets" = some restocked ∧
      (∃ earlier later, (inOrder execute empty restock).1 = earlier ++ .ok (.created "pets") :: later ∧
        .ok (.created "pets") ∉ later ∧
        restocked.rowCount + later.countP (removes "pets") = later.countP (adds "pets")) ∧
      ((inOrder execute empty restock).2.execute (.insert "pets" ["Tom", "8"])).1 = .ok (.inserted "pets" 8 true) ∧
      (inOrder execute empty restock).2.Holds "pets" 8 := by
  have ran : inOrder execute empty restock = ((inOrder execute empty restock).1, (inOrder execute empty restock).2) :=
    (Prod.eta _).symm
  obtain ⟨accounted, inserted, _, _⟩ := rows_are_accounted_for ran
  have present : (inOrder execute empty restock).2.table? "pets" = some restocked := by decide +kernel
  have replaced : ((inOrder execute empty restock).2.execute (.insert "pets" ["Tom", "8"])).1 =
      .ok (.inserted "pets" 8 true) := by
    decide +kernel
  exact ⟨present, accounted "pets" restocked present, replaced, (inserted _ "pets" 8 true replaced).mp rfl⟩

end TableStore.Database
