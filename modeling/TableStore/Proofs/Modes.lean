import TableStore.CommandLine
import TableStore.Proofs.Faults
import TableStore.Proofs.Lines

set_option autoImplicit false

/- A script and the shell execute the same statements, and stop at the same one if there is no reply to it. -/
namespace TableStore

structure Execution where
  sql : String
  db : Database

namespace Execution

section
variable (layout : Layout)

def reply (execution : Execution) : Option String := (TableStore.reply layout execution.db execution.sql).1

-- A blank line needs no reply.
def isAnswered (execution : Execution) : Bool := execution.sql = "" || (execution.reply layout).isSome

def output (execution : Execution) : String :=
  if execution.sql = "" then "" else (execution.reply layout).elim "" (· ++ "\n")

def response (execution : Execution) : Response :=
  if execution.isAnswered layout then ⟨execution.output layout, none⟩ else .stopped

def answered (executions : List Execution) : List Execution := executions.takeWhile (·.isAnswered layout)

-- The program stops in the first one without a reply.
def begun (executions : List Execution) : List Execution := executions.take ((answered layout executions).length + 1)

def code (executions : List Execution) : Nat := if executions.all (·.isAnswered layout) then 0 else 101

theorem output_blank {execution : Execution} (blank : execution.sql = "") : execution.output layout = "" := if_pos blank

theorem response_blank (db : Database) : (Execution.mk "" db).response layout = .silent := rfl

theorem response_statement {sql : String} (db : Database) (statement : sql ≠ "") :
    (Execution.mk sql db).response layout = ((Execution.mk sql db).reply layout).elim .stopped .printed := by
  rw [response, isAnswered, output, if_neg statement, decide_eq_false statement, Bool.false_or]
  cases (Execution.mk sql db).reply layout with
  | none => rfl
  | some text => rfl

end

section
variable {layout : Layout} {execution : Execution}

theorem answered_further (isAnswered : execution.isAnswered layout = true) (rest : List Execution) :
    answered layout (execution :: rest) = execution :: answered layout rest := List.takeWhile_cons_of_pos isAnswered

theorem answered_stops (isAnswered : ¬ execution.isAnswered layout = true) (rest : List Execution) :
    answered layout (execution :: rest) = [] := List.takeWhile_cons_of_neg isAnswered

theorem begun_further (isAnswered : execution.isAnswered layout = true) (rest : List Execution) :
    begun layout (execution :: rest) = execution :: begun layout rest := by
  rw [begun, answered_further isAnswered, List.length_cons, List.take_succ_cons, begun]

theorem begun_stops (isAnswered : ¬ execution.isAnswered layout = true) (rest : List Execution) :
    begun layout (execution :: rest) = [execution] := by
  rw [begun, answered_stops isAnswered, List.length_nil, List.take_succ_cons, List.take_zero]

theorem code_further (isAnswered : execution.isAnswered layout = true) (rest : List Execution) :
    code layout (execution :: rest) = code layout rest := by
  rw [code, List.all_cons, isAnswered, Bool.true_and, code]

theorem code_stops (isAnswered : ¬ execution.isAnswered layout = true) (rest : List Execution) :
    code layout (execution :: rest) = 101 := by
  rw [code, List.all_cons, Bool.eq_false_of_not_eq_true isAnswered, Bool.false_and]
  rfl

theorem response_further (isAnswered : execution.isAnswered layout = true) :
    execution.response layout = ⟨execution.output layout, none⟩ := if_pos isAnswered

theorem response_stops (isAnswered : ¬ execution.isAnswered layout = true) :
    execution.response layout = .stopped := if_neg isAnswered

theorem begun_cons (layout : Layout) (execution : Execution) (rest : List Execution) :
    begun layout (execution :: rest) =
      execution :: if (execution.response layout).exit.isSome then [] else begun layout rest := by
  by_cases isAnswered : execution.isAnswered layout = true
  · rw [begun_further isAnswered, response_further isAnswered]
    rfl
  · rw [begun_stops isAnswered, response_stops isAnswered]
    rfl

end

end Execution

def Script.transcript (layout : Layout) (executions : List Execution) : String :=
  String.join ((Execution.answered layout executions).map (·.output layout))

-- Nothing follows the prompt of a line that stops the program.
def Shell.ending (code : Nat) : String := if code = 0 then prompt ++ "\n" else prompt

def Shell.transcript (layout : Layout) (lines : List Execution) : String :=
  banner ++ (String.join ((Execution.answered layout lines).map (prompt ++ ·.output layout)) ++
    ending (Execution.code layout lines))

def Database.meet (db : Database) (sql : String) : Execution × Database :=
  (⟨sql, db⟩, if sql = "" then db else (db.run sql).2)

def Database.met (db : Database) (lines : List String) : List Execution := (inOrder meet db (lines.map Text.trim)).1

def Database.left (db : Database) (lines : List String) : Database := (inOrder meet db (lines.map Text.trim)).2

structure Plain (sql : String) : Prop where
  command : ¬ ['.'] <+: sql.toList
  comment : ¬ ['-', '-'] <+: sql.toList

instance (sql : String) : Decidable (Plain sql) :=
  decidable_of_iff (¬ ['.'] <+: sql.toList ∧ ¬ ['-', '-'] <+: sql.toList)
    ⟨fun both => ⟨both.1, both.2⟩, fun plain => ⟨plain.command, plain.comment⟩⟩

def Script.executions (layout : Layout) (db : Database) : List String → List Execution
  | [] => []
  | line :: rest =>
    let result := respond layout db line
    let others := if result.1.exit.isSome then [] else executions layout result.2 rest
    if isSkipped (Text.trim line) then others else ⟨Text.trim line, db⟩ :: others

def Shell.executions (layout : Layout) (db : Database) : List String → List Execution
  | [] => []
  | line :: rest =>
    let result := respond layout db line
    let others := if result.1.exit.isSome then [] else executions layout result.2 rest
    match (Text.trim line).toList with
    | [] | '.' :: _ => others
    | _ => ⟨Text.trim line, db⟩ :: others

theorem Script.skipped_plain {sql : String} (plain : Plain sql) : isSkipped sql = true ↔ sql = "" := by
  rw [← String.toList_eq_nil_iff, isSkipped]
  split
  · rename_i none
    simp [none]
  · rename_i rest comment
    exact absurd ⟨rest, comment.symm⟩ plain.comment
  · rename_i filled _
    simpa using filled

theorem Database.meet_blank (db : Database) : db.meet "" = (⟨"", db⟩, db) := rfl

theorem Database.meet_statement (db : Database) {sql : String} (statement : sql ≠ "") :
    db.meet sql = (⟨sql, db⟩, (db.run sql).2) := by
  rw [meet, if_neg statement]

theorem run_database (layout : Layout) (db : Database) (sql : String) :
    (db.run sql).2 = (reply layout db sql).2 := rfl

theorem answered_plain (layout : Layout) (db : Database) {sql : String} (statement : sql ≠ "") :
    answered layout db sql = ((Execution.mk sql db).response layout, (db.meet sql).2) := by
  rw [Execution.response_statement layout db statement, Database.meet_statement db statement, run_database layout]
  simp only [answered, Execution.reply]

theorem Script.respond_plain (layout : Layout) (db : Database) {line : String} (plain : Plain (Text.trim line)) :
    respond layout db line = ((Execution.mk (Text.trim line) db).response layout, (db.meet (Text.trim line)).2) := by
  by_cases blank : Text.trim line = ""
  · simp only [respond]
    rw [if_pos ((skipped_plain plain).mpr blank), blank, Database.meet_blank, Execution.response_blank]
  · simp only [respond, if_neg fun skipped => blank ((skipped_plain plain).mp skipped), answered_plain layout db blank]

theorem Shell.respond_plain (layout : Layout) (db : Database) {line : String} (plain : Plain (Text.trim line)) :
    respond layout db line = ((Execution.mk (Text.trim line) db).response layout, (db.meet (Text.trim line)).2) := by
  simp only [respond]
  split
  · rename_i none
    rw [String.toList_eq_nil_iff.mp none, Database.meet_blank, Execution.response_blank]
  · rename_i rest command
    exact absurd ⟨rest, command.symm⟩ plain.command
  · rename_i filled _
    exact answered_plain layout db fun blank => filled (String.toList_eq_nil_iff.mpr blank)

theorem Database.met_cons (db : Database) (line : String) (rest : List String) :
    db.met (line :: rest) = ⟨Text.trim line, db⟩ :: (db.meet (Text.trim line)).2.met rest := rfl

theorem Database.left_cons (db : Database) (line : String) (rest : List String) :
    db.left (line :: rest) = (db.meet (Text.trim line)).2.left rest := rfl

theorem Database.met_at (db : Database) (lines : List String) (index : Nat) {line : String}
    (listed : lines[index]? = some line) :
    (db.met lines)[index]? = some ⟨Text.trim line, db.left (lines.take index)⟩ := by
  induction lines generalizing db index with
  | nil => cases listed
  | cons first rest ih =>
    cases index with
    | zero =>
      cases listed
      rfl
    | succ index =>
      rw [met_cons, List.getElem?_cons_succ, List.take_succ_cons, left_cons]
      exact ih _ index (by simpa using listed)

section
variable (layout : Layout) (db : Database) (lines : List String) (plain : ∀ line ∈ lines, Plain (Text.trim line))
include plain

theorem Script.play_plain :
    play layout false db lines =
      (⟨String.join ((Execution.answered layout (db.met lines)).map (·.output layout)),
        Execution.code layout (db.met lines)⟩,
        db.left (lines.take (Execution.begun layout (db.met lines)).length)) := by
  induction lines generalizing db with
  | nil => rfl
  | cons line rest ih =>
    obtain ⟨first, others⟩ := List.forall_mem_cons.mp plain
    simp only [play, respond_plain layout db first, Database.met_cons]
    by_cases answered : (Execution.mk (Text.trim line) db).isAnswered layout = true
    · rw [Execution.response_further answered, Execution.answered_further answered, Execution.begun_further answered,
        Execution.code_further answered]
      simp only [ih _ others, Outcome.behind, List.map_cons, String.join_cons, List.length_cons, List.take_succ_cons,
        Database.left_cons]
    · rw [Execution.response_stops answered, Execution.answered_stops answered, Execution.begun_stops answered,
        Execution.code_stops answered]
      rfl

theorem Shell.session_plain :
    session layout false db lines =
      (⟨String.join ((Execution.answered layout (db.met lines)).map (prompt ++ ·.output layout)) ++
          ending (Execution.code layout (db.met lines)),
        Execution.code layout (db.met lines)⟩,
        db.left (lines.take (Execution.begun layout (db.met lines)).length)) := by
  induction lines generalizing db with
  | nil => rfl
  | cons line rest ih =>
    obtain ⟨first, others⟩ := List.forall_mem_cons.mp plain
    simp only [session, respond_plain layout db first, Database.met_cons]
    by_cases answered : (Execution.mk (Text.trim line) db).isAnswered layout = true
    · rw [Execution.response_further answered, Execution.answered_further answered, Execution.begun_further answered,
        Execution.code_further answered]
      simp only [ih _ others, Outcome.behind, List.map_cons, String.join_cons, List.length_cons, List.take_succ_cons,
        Database.left_cons, String.append_assoc]
    · rw [Execution.response_stops answered, Execution.answered_stops answered, Execution.begun_stops answered,
        Execution.code_stops answered]
      rfl

theorem Script.executions_plain :
    executions layout db lines = Execution.begun layout ((db.met lines).filter (·.sql ≠ "")) := by
  induction lines generalizing db with
  | nil => rfl
  | cons line rest ih =>
    obtain ⟨first, others⟩ := List.forall_mem_cons.mp plain
    simp only [executions, respond_plain layout db first, ih _ others, Database.met_cons]
    by_cases blank : Text.trim line = ""
    · rw [if_pos ((skipped_plain first).mpr blank), List.filter_cons_of_neg (by simpa using blank), blank,
        Execution.response_blank]
      rfl
    · rw [if_neg fun skipped => blank ((skipped_plain first).mp skipped),
        List.filter_cons_of_pos (by simpa using blank), Execution.begun_cons]

theorem Shell.executions_plain :
    executions layout db lines = Execution.begun layout ((db.met lines).filter (·.sql ≠ "")) := by
  induction lines generalizing db with
  | nil => rfl
  | cons line rest ih =>
    obtain ⟨first, others⟩ := List.forall_mem_cons.mp plain
    rw [executions, respond_plain layout db first, Database.met_cons]
    simp only [ih _ others]
    split
    · rename_i none
      rw [String.toList_eq_nil_iff.mp none, List.filter_cons_of_neg (by simp), Execution.response_blank]
      rfl
    · rename_i behind command
      exact absurd ⟨behind, command.symm⟩ first.command
    · rename_i filled _
      have statement : Text.trim line ≠ "" := fun blank => filled (String.toList_eq_nil_iff.mpr blank)
      rw [List.filter_cons_of_pos (by simpa using statement), Execution.begun_cons]

end

namespace Execution

-- Blank lines add nothing to what is printed, and the program does not stop at one.
theorem filter_blank (layout : Layout) (executions : List Execution) :
    String.join ((answered layout (executions.filter (·.sql ≠ ""))).map (·.output layout)) =
        String.join ((answered layout executions).map (·.output layout)) ∧
      code layout (executions.filter (·.sql ≠ "")) = code layout executions := by
  induction executions with
  | nil => exact ⟨rfl, rfl⟩
  | cons execution rest ih =>
    by_cases blank : execution.sql = ""
    · have isAnswered : execution.isAnswered layout = true := by simp [isAnswered, blank]
      rw [List.filter_cons_of_neg (by simpa using blank), answered_further isAnswered, code_further isAnswered,
        List.map_cons, String.join_cons, output_blank layout blank, String.empty_append]
      exact ih
    · rw [List.filter_cons_of_pos (by simpa using blank)]
      by_cases isAnswered : execution.isAnswered layout = true
      · rw [answered_further isAnswered, answered_further isAnswered, code_further isAnswered, code_further isAnswered,
          List.map_cons, List.map_cons, String.join_cons, String.join_cons, ih.1]
        exact ⟨rfl, ih.2⟩
      · rw [answered_stops isAnswered, answered_stops isAnswered, code_stops isAnswered, code_stops isAnswered]
        exact ⟨rfl, rfl⟩

theorem all_answered {layout : Layout} {executions : List Execution}
    (all : ∀ execution ∈ executions, execution.isAnswered layout = true) :
    answered layout executions = executions ∧ begun layout executions = executions ∧ code layout executions = 0 := by
  have whole : answered layout executions = executions := List.takeWhile_eq_self_iff.mpr all
  refine ⟨whole, ?_, if_pos (List.all_eq_true.mpr all)⟩
  rw [begun, whole, List.take_of_length_le (Nat.le_succ _)]

end Execution

theorem render_json (answer : Answer) : Layout.json.render answer = .ok answer.text := by
  cases answer with
  | rows set =>
    have shown : (Answer.rows set).text = if set.isEmpty then Answer.noResults else Json.lines set := rfl
    rw [shown, Layout.render]
    split
    · rfl
    · rfl
  | _ => rfl

namespace Database

variable {db : Database}

theorem meet_after (db : Database) {sql : String} (statement : sql ≠ "") :
    (db.meet sql).2 = (db.executeText sql).2 := by
  simp only [meet_statement db statement, run]

theorem meet_consistent (consistent : db.Consistent) (sql : String) : (db.meet sql).2.Consistent := by
  by_cases blank : sql = ""
  · rw [blank, meet_blank]
    exact consistent
  · rw [meet_after db blank]
    exact execute_text_keeps execute_consistent db sql consistent

theorem left_consistent (consistent : db.Consistent) (lines : List String) : (db.left lines).Consistent := by
  induction lines generalizing db with
  | nil => exact consistent
  | cons line rest ih =>
    rw [left_cons]
    exact ih (meet_consistent consistent _)

end Database

theorem stops_only_internal {error : StoreError} (family : error.family ≠ .internal) : error.stops = false := by
  cases error with
  | internal fault => exact absurd rfl family
  | _ => rfl

theorem reply_text_error {layout : Layout} {error : StoreError} (told : error.stops = false) :
    replyText layout (.error error) = some (Database.failureText error) := if_neg (Bool.eq_false_iff.mp told)

theorem reply_text_shown {layout : Layout} {answer : Answer} {text : String} (shown : layout.render answer = .ok text) :
    replyText layout (.ok answer) = some text := by
  simp only [replyText, Except.bind, shown]

theorem reply_text_stopped {layout : Layout} {answer : Answer} {error : StoreError}
    (failed : layout.render answer = .error error) (stops : error.stops = true) : replyText layout (.ok answer) = none := by
  simp only [replyText, Except.bind, failed, if_pos stops]

namespace Execution

variable {layout : Layout} {execution : Execution}

theorem reply_text (layout : Layout) (execution : Execution) :
    execution.reply layout = replyText layout (execution.db.executeText execution.sql).1 := by
  simp only [reply, TableStore.reply]

theorem reply_failed {error : StoreError} (consistent : execution.db.Consistent)
    (failed : (execution.db.executeText execution.sql).1 = .error error) :
    execution.reply layout = some (Database.failureText error) := by
  have told : error.stops = false := stops_only_internal (Database.execute_text_error consistent failed)
  rw [reply_text, failed, reply_text_error told]

theorem reply_shown {answer : Answer} {text : String}
    (done : (execution.db.executeText execution.sql).1 = .ok answer) (shown : layout.render answer = .ok text) :
    execution.reply layout = some text := by
  rw [reply_text, done, reply_text_shown shown]

theorem reply_overwide {answer : Answer} {width : Nat} (consistent : execution.db.Consistent)
    (done : (execution.db.executeText execution.sql).1 = .ok answer) (wide : layout.overwide? answer = some width) :
    execution.reply layout = none := by
  have rectangular := Database.execute_text_rectangular consistent done
  rw [reply_text, done, reply_text_stopped ((layout.rectangular_rendered rectangular).2 width wide) rfl]

theorem reply_none_iff (consistent : execution.db.Consistent) : execution.reply layout = none ↔
    ∃ answer width, (execution.db.executeText execution.sql).1 = .ok answer ∧ layout.overwide? answer = some width := by
  constructor
  · intro silent
    cases done : (execution.db.executeText execution.sql).1 with
    | error error =>
      rw [reply_failed consistent done] at silent
      cases silent
    | ok answer =>
      cases wide : layout.overwide? answer with
      | none =>
        obtain ⟨text, shown⟩ := (layout.rectangular_rendered (Database.execute_text_rectangular consistent done)).1 wide
        rw [reply_shown done shown] at silent
        cases silent
      | some width => exact ⟨answer, width, rfl, wide⟩
  · intro found
    obtain ⟨answer, width, done, wide⟩ := found
    exact reply_overwide consistent done wide

theorem reply_json (consistent : execution.db.Consistent) :
    execution.reply .json = some (execution.db.run execution.sql).1 := by
  rw [Database.run]
  cases done : (execution.db.executeText execution.sql).1 with
  | error error => exact reply_failed consistent done
  | ok answer => exact reply_shown done (render_json answer)

end Execution

namespace CommandLine

theorem seeded : Database.empty.seed.1 = .ok () := by decide +kernel

theorem database_made (options : Options) : ∃ db, options.database? = some db := by
  rw [Options.database?]
  split
  · exact ⟨_, rfl⟩
  · split
    · exact ⟨_, rfl⟩
    · rename_i failed
      have made := seeded
      rw [failed] at made
      cases made

theorem database_consistent {options : Options} {db : Database} (made : options.database? = some db) :
    db.Consistent := by
  rw [Options.database?] at made
  split at made
  · cases made
    exact Database.empty_consistent
  · split at made
    · rename_i seeding
      cases made
      have kept := Database.seed_keeps Database.execute_consistent Database.empty Database.empty_consistent
      rwa [seeding] at kept
    · cases made

theorem execute_absent {args : List String} {options : Options} {path : String}
    (read : parse args = some (.start options)) (scripted : options.file = some path) : options.execute = none := by
  rw [parse, Option.filter_eq_some_iff] at read
  simpa [Request.sound, scripted] using read.2

section
variable {args : List String} {options : Options} {db : Database} {text : String}

theorem run_script {path : String} {files : String → Option String} (input : String) (notices : Notice → String)
    (read : parse args = some (.start options)) (scripted : options.file = some path)
    (made : options.database? = some db) (stored : files path = some text) :
    run args input files notices = (Script.play options.layout false db (Text.lines text)).1 := by
  simp only [run, runOn, read, made, Options.run, execute_absent read scripted, scripted, stored, Option.map_some,
    Source.ofText, Text.lines]

theorem run_shell (files : String → Option String) (notices : Notice → String)
    (read : parse args = some (.start options)) (typed : options.execute = none) (unscripted : options.file = none)
    (made : options.database? = some db) :
    run args text files notices = (Shell.session options.layout false db (Text.rawLines text)).1.behind Shell.banner := by
  simp only [run, runOn, read, made, Options.run, typed, unscripted, Source.ofText]

end

theorem met_raw (db : Database) (text : String) : db.met (Text.rawLines text) = db.met (Text.lines text) := by
  rw [Database.met, Database.met, Text.trim_lines]

theorem left_raw (db : Database) (text : String) (count : Nat) :
    db.left ((Text.rawLines text).take count) = db.left ((Text.lines text).take count) := by
  rw [Database.left, Database.left, List.map_take, List.map_take, Text.trim_lines]

theorem raw_plain {text : String} (plain : ∀ line ∈ Text.lines text, Plain (Text.trim line)) :
    ∀ line ∈ Text.rawLines text, Plain (Text.trim line) := by
  rw [← List.forall_mem_map, ← Text.trim_lines, List.forall_mem_map]
  exact plain

section
variable {args : List String} {options : Options} {db : Database} {text : String}
  (plain : ∀ line ∈ Text.lines text, Plain (Text.trim line))
include plain

theorem script_outcome {path : String} {files : String → Option String} (input : String) (notices : Notice → String)
    (read : parse args = some (.start options)) (scripted : options.file = some path)
    (made : options.database? = some db) (stored : files path = some text) :
    run args input files notices =
      ⟨Script.transcript options.layout ((db.met (Text.lines text)).filter (·.sql ≠ "")),
        Execution.code options.layout (db.met (Text.lines text))⟩ := by
  rw [run_script input notices read scripted made stored, Script.play_plain _ db _ plain, Script.transcript,
    (Execution.filter_blank _ _).1]

theorem shell_outcome (files : String → Option String) (notices : Notice → String)
    (read : parse args = some (.start options)) (typed : options.execute = none) (unscripted : options.file = none)
    (made : options.database? = some db) :
    run args text files notices =
      ⟨Shell.transcript options.layout (db.met (Text.lines text)),
        Execution.code options.layout (db.met (Text.lines text))⟩ := by
  rw [run_shell files notices read typed unscripted made, Shell.session_plain _ db _ (raw_plain plain), met_raw,
    Outcome.behind, Shell.transcript]

end

theorem script_and_shell_agree {scriptArgs shellArgs : List String} {script shell : Options}
    (scriptRead : parse scriptArgs = some (.start script)) (shellRead : parse shellArgs = some (.start shell))
    {path text : String} (scripted : script.file = some path) (typed : shell.execute = none)
    (unscripted : shell.file = none) (sameSeed : script.noSeed = shell.noSeed) (sameLayout : script.layout = shell.layout)
    {files : String → Option String} (stored : files path = some text)
    (plain : ∀ line ∈ Text.lines text, Plain (Text.trim line)) :
    ∃ db, script.database? = some db ∧ shell.database? = some db ∧
      Shell.executions shell.layout db (Text.rawLines text) = Script.executions script.layout db (Text.lines text) ∧
      (Shell.session shell.layout false db (Text.rawLines text)).2 =
        (Script.play script.layout false db (Text.lines text)).2 ∧
      Script.executions script.layout db (Text.lines text) =
        Execution.begun script.layout ((db.met (Text.lines text)).filter (·.sql ≠ "")) ∧
      (∀ input notices, run scriptArgs input files notices =
        ⟨Script.transcript script.layout ((db.met (Text.lines text)).filter (·.sql ≠ "")),
          Execution.code script.layout (db.met (Text.lines text))⟩) ∧
      (∀ others notices, run shellArgs text others notices =
        ⟨Shell.transcript script.layout (db.met (Text.lines text)),
          Execution.code script.layout (db.met (Text.lines text))⟩) ∧
      (∀ index line, (Text.lines text)[index]? = some line →
        ∃ execution, (db.met (Text.lines text))[index]? = some execution ∧
          execution.sql = Text.trim line ∧ execution.db = db.left ((Text.lines text).take index) ∧
          (execution.reply script.layout = none ↔ ∃ answer width,
            (execution.db.executeText execution.sql).1 = .ok answer ∧ script.layout.overwide? answer = some width) ∧
          (script.layout = .json → execution.reply script.layout = some (execution.db.run execution.sql).1)) ∧
      ((∀ execution ∈ db.met (Text.lines text), execution.isAnswered script.layout = true) →
        Script.executions script.layout db (Text.lines text) = (db.met (Text.lines text)).filter (·.sql ≠ "") ∧
        (∀ input notices, run scriptArgs input files notices =
          ⟨String.join (((db.met (Text.lines text)).filter (·.sql ≠ "")).map (·.output script.layout)), 0⟩) ∧
        ∀ others notices, run shellArgs text others notices =
          ⟨Shell.banner ++ (String.join ((db.met (Text.lines text)).map (Shell.prompt ++ ·.output script.layout)) ++
            (Shell.prompt ++ "\n")), 0⟩) := by
  obtain ⟨db, made⟩ := database_made script
  have consistent := database_consistent made
  have shellMade : shell.database? = some db := by
    rw [← made, Options.database?, Options.database?, sameSeed]
  have executed := Script.executions_plain script.layout db _ plain
  have scriptRun := fun input notices => script_outcome plain input notices scriptRead scripted made stored
  have shellRun := fun others notices => shell_outcome plain others notices shellRead typed unscripted shellMade
  rw [← sameLayout] at shellRun ⊢
  refine ⟨db, made, shellMade, ?_, ?_, executed, scriptRun, shellRun, ?_, ?_⟩
  · rw [Shell.executions_plain _ db _ (raw_plain plain), executed, met_raw]
  · rw [Shell.session_plain _ db _ (raw_plain plain), Script.play_plain _ db _ plain, met_raw, left_raw]
  · intro index line listed
    have before := Database.left_consistent consistent ((Text.lines text).take index)
    refine ⟨_, db.met_at _ index listed, rfl, rfl, Execution.reply_none_iff before, ?_⟩
    intro json
    rw [json]
    exact Execution.reply_json before
  · intro all
    obtain ⟨answered, begun, code⟩ := Execution.all_answered all
    obtain ⟨filtered, filteredBegun, _⟩ := Execution.all_answered
      fun execution listed => all execution (List.mem_filter.mp listed).1
    refine ⟨executed.trans filteredBegun, ?_, ?_⟩
    · intro input notices
      rw [scriptRun, Script.transcript, filtered, code]
    · intro others notices
      rw [shellRun, Shell.transcript, answered, code]
      rfl

-- A blank line, blanks before a statement, carriage returns, and no line feed at the end.
def petScript : String :=
  "CREATE TABLE pets (id int)\r\n \r\n  INSERT INTO pets VALUES (7)\r\nSELECT * FROM pets"

def petFiles (path : String) : Option String := if path = "pets.sql" then some petScript else none

theorem pet_script_and_shell_agree :
    (∀ line ∈ Text.lines petScript, Plain (Text.trim line)) ∧
      (run ["--no-seed", "--file", "pets.sql"] "" petFiles).output =
        "Table 'pets' created successfully.\n1 row inserted into 'pets'.\n\x7b\"id\":7\x7d\n" ∧
      (run ["--format=json", "--no-seed"] petScript petFiles).output =
        Shell.transcript .json (Database.empty.met (Text.lines petScript)) ∧
      Shell.executions .json .empty (Text.rawLines petScript) =
        Script.executions .json .empty (Text.lines petScript) ∧
      (Script.executions .json .empty (Text.lines petScript)).map (·.sql) =
        ["CREATE TABLE pets (id int)", "INSERT INTO pets VALUES (7)", "SELECT * FROM pets"] := by
  have plain : ∀ line ∈ Text.lines petScript, Plain (Text.trim line) := by decide +kernel
  have scriptRead : parse ["--no-seed", "--file", "pets.sql"] =
      some (.start ⟨none, some "pets.sql", true, none, none⟩) := by
    decide +kernel
  have shellRead : parse ["--format=json", "--no-seed"] = some (.start ⟨none, none, true, some .json, none⟩) := by
    decide +kernel
  have stored : petFiles "pets.sql" = some petScript := rfl
  obtain ⟨db, made, -, sameExecutions, -, -, scripted, typed, -⟩ :=
    script_and_shell_agree scriptRead shellRead rfl rfl rfl rfl rfl stored plain
  cases made
  refine ⟨plain, ?_, ?_, sameExecutions, ?_⟩
  · rw [scripted ""]
    decide +kernel
  · rw [typed petFiles]
    rfl
  · decide +kernel

def scrollScript (n : Nat) : String :=
  Database.scrollCreation ++ "\n" ++ (Database.scrollInsertion n ++ "\n" ++ Database.scrollQuery)

def scrollFiles (n : Nat) (path : String) : Option String :=
  if path = "scrolls.sql" then some (scrollScript n) else none

theorem scroll_characters (n : Nat) : (Database.scrollInsertion n).toList =
    Database.scrollFront.toList ++ ("'".toList ++ List.replicate n 'x') ++ "')".toList := by
  have letters : (scroll n).toList = List.replicate n 'x' := String.toList_ofList
  rw [Database.scrollInsertion, String.toList_append, String.toList_append, String.toList_append, letters,
    ← List.append_assoc]

theorem scroll_last (n : Nat) : (Database.scrollInsertion n).toList.getLast? = some ')' := by
  have nonempty : "')".toList ≠ [] := by decide
  rw [scroll_characters, List.getLast?_append_of_ne_nil _ nonempty]
  rfl

theorem scroll_first (n : Nat) : (Database.scrollInsertion n).toList.head? = some 'I' := by
  rw [scroll_characters]
  rfl

theorem scroll_trimmed (n : Nat) : Text.trim Database.scrollCreation = Database.scrollCreation ∧
    Text.trim (Database.scrollInsertion n) = Database.scrollInsertion n ∧
    Text.trim Database.scrollQuery = Database.scrollQuery := by
  have creation : Database.scrollCreation.toList.head? = some 'C' := rfl
  have query : Database.scrollQuery.toList.head? = some 'S' := rfl
  exact ⟨Text.trim_of_ends creation rfl (by decide) (by decide),
    Text.trim_of_ends (scroll_first n) (scroll_last n) (by decide) (by decide),
    Text.trim_of_ends query rfl (by decide) (by decide)⟩

theorem scroll_no_break (n : Nat) : '\n' ∉ (Database.scrollInsertion n).toList := by
  rw [scroll_characters]
  intro listed
  rcases List.mem_append.mp listed with front | last
  · rcases List.mem_append.mp front with opening | text
    · revert opening
      decide
    · rcases List.mem_append.mp text with mark | letter
      · revert mark
        decide
      · cases List.eq_of_mem_replicate letter
  · revert last
    decide

theorem scroll_lines (n : Nat) : Text.lines (scrollScript n) =
    [Database.scrollCreation, Database.scrollInsertion n, Database.scrollQuery] := by
  have feed : "\n".toList = ['\n'] := rfl
  have joined : scrollScript n = String.ofList
      ([Database.scrollCreation.toList, (Database.scrollInsertion n).toList].flatMap (· ++ ['\n']) ++
        Database.scrollQuery.toList) := by
    apply String.toList_injective
    rw [String.toList_ofList]
    simp only [scrollScript, String.toList_append, feed, List.flatMap_cons, List.flatMap_nil, List.append_nil,
      List.append_assoc]
  rw [joined, Text.lines_joined (by decide) (by decide)]
  · simp only [List.cons_append, List.nil_append, List.map_cons, List.map_nil, String.ofList_toList]
  · rw [List.forall_mem_cons, List.forall_mem_singleton, scroll_last]
    exact ⟨by decide, scroll_no_break n, by decide⟩

theorem scroll_plain (n : Nat) : ∀ line ∈ Text.lines (scrollScript n), Plain (Text.trim line) := by
  have starts : ∀ c cs, (c :: cs) <+: (Database.scrollInsertion n).toList → c = 'I' := by
    intro c cs front
    obtain ⟨rest, whole⟩ := front
    have first := scroll_first n
    rw [← whole] at first
    exact Option.some.inj first
  obtain ⟨creation, insertion, query⟩ := scroll_trimmed n
  rw [scroll_lines, List.forall_mem_cons, List.forall_mem_cons, List.forall_mem_singleton, creation, insertion, query]
  refine ⟨by decide, ⟨?_, ?_⟩, by decide⟩
  · intro command
    cases starts _ _ command
  · intro comment
    cases starts _ _ comment

theorem scroll_statement (n : Nat) : Database.scrollInsertion n ≠ "" := by
  intro blank
  have first := scroll_first n
  rw [blank] at first
  cases first

theorem scroll_met (n : Nat) : Database.empty.met (Text.lines (scrollScript n)) =
    [⟨Database.scrollCreation, .empty⟩, ⟨Database.scrollInsertion n, Database.scrollCreated⟩,
      ⟨Database.scrollQuery, Database.scrollStored n⟩] := by
  obtain ⟨creation, insertion, query⟩ := scroll_trimmed n
  have created : (Database.empty.meet Database.scrollCreation).2 = Database.scrollCreated :=
    Database.meet_after _ (by decide)
  have stored : (Database.scrollCreated.meet (Database.scrollInsertion n)).2 = Database.scrollStored n := by
    rw [Database.meet_after _ (scroll_statement n), Database.scroll_inserted]
  rw [scroll_lines, Database.met_cons, Database.met_cons, Database.met_cons, creation, insertion, query, created, stored]
  rfl

theorem scroll_answered {n : Nat} (wide : Grid.widthLimit < n) :
    (Execution.answered .table (Database.empty.met (Text.lines (scrollScript n)))).map (·.output .table) =
        ["Table 'scrolls' created successfully.\n", "1 row inserted into 'scrolls'.\n"] ∧
      Execution.code .table (Database.empty.met (Text.lines (scrollScript n))) = 101 := by
  have created : (Execution.mk Database.scrollCreation .empty).reply .table =
      some "Table 'scrolls' created successfully." := Execution.reply_shown Database.scroll_created rfl
  have inserted : (Execution.mk (Database.scrollInsertion n) Database.scrollCreated).reply .table =
      some "1 row inserted into 'scrolls'." :=
    Execution.reply_shown (congrArg Prod.fst (Database.scroll_inserted n)) rfl
  have consistent : (Database.scrollStored n).Consistent := by
    rw [← Database.scroll_reached]
    exact Database.reached_consistent _
  have shown : (Execution.mk Database.scrollQuery (Database.scrollStored n)).reply .table = none :=
    Execution.reply_overwide consistent (congrArg Prod.fst (Database.scroll_selected n)) (scroll_overwide wide)
  have creation : Database.scrollCreation ≠ "" := by decide
  have query : Database.scrollQuery ≠ "" := by decide
  simp [scroll_met, Execution.answered, Execution.code, Execution.isAnswered, Execution.output, created, inserted, shown,
    creation, query, scroll_statement n]

theorem scroll_transcripts {n : Nat} (wide : Grid.widthLimit < n) :
    Script.transcript .table ((Database.empty.met (Text.lines (scrollScript n))).filter (·.sql ≠ "")) =
        "Table 'scrolls' created successfully.\n1 row inserted into 'scrolls'.\n" ∧
      Shell.transcript .table (Database.empty.met (Text.lines (scrollScript n))) =
        Shell.banner ++
          "minisql> Table 'scrolls' created successfully.\nminisql> 1 row inserted into 'scrolls'.\nminisql> " := by
  obtain ⟨outputs, code⟩ := scroll_answered wide
  refine ⟨?_, ?_⟩
  · rw [Script.transcript, (Execution.filter_blank _ _).1, outputs]
    decide +kernel
  · have prompted := congrArg (List.map (Shell.prompt ++ ·)) outputs
    rw [List.map_map] at prompted
    rw [Shell.transcript, code]
    exact congrArg (Shell.banner ++ ·) ((congrArg (String.join · ++ Shell.ending 101) prompted).trans (by decide +kernel))

theorem scroll_stops_both :
    (∀ line ∈ Text.lines (scrollScript 65536), Plain (Text.trim line)) ∧
      run ["--no-seed", "--format=table", "--file", "scrolls.sql"] "" (scrollFiles 65536) =
        ⟨"Table 'scrolls' created successfully.\n1 row inserted into 'scrolls'.\n", 101⟩ ∧
      run ["--no-seed", "--format=table"] (scrollScript 65536) (scrollFiles 65536) =
        ⟨Shell.banner ++
          "minisql> Table 'scrolls' created successfully.\nminisql> 1 row inserted into 'scrolls'.\nminisql> ", 101⟩ := by
  have plain := scroll_plain 65536
  have wide : Grid.widthLimit < 65536 := by decide
  have scriptRead : parse ["--no-seed", "--format=table", "--file", "scrolls.sql"] =
      some (.start ⟨none, some "scrolls.sql", true, some .table, none⟩) := by
    decide +kernel
  have shellRead : parse ["--no-seed", "--format=table"] = some (.start ⟨none, none, true, some .table, none⟩) := by
    decide +kernel
  have stored : scrollFiles 65536 "scrolls.sql" = some (scrollScript 65536) := if_pos rfl
  have script := script_outcome plain "" (fun _ => "") scriptRead rfl rfl stored
  have shell := shell_outcome plain (scrollFiles 65536) (fun _ => "") shellRead rfl rfl rfl
  obtain ⟨scriptText, shellText⟩ := scroll_transcripts wide
  have code := (scroll_answered wide).2
  exact ⟨plain, script.trans (congrArg₂ Outcome.mk scriptText code), shell.trans (congrArg₂ Outcome.mk shellText code)⟩

end CommandLine

end TableStore
