import TableStore.Answer.Layout
import TableStore.Database.Execute

set_option autoImplicit false

/- All output is computed here; who calls these functions only moves text. -/
namespace TableStore

-- The answer in the layout that was asked for, or the error; nothing where the program stops.
def replyText (layout : Layout) (result : Except StoreError Answer) : Option String :=
  match result.bind layout.render with
  | .ok text => some text
  | .error error => if error.stops then none else some (Database.failureText error)

def reply (layout : Layout) (db : Database) (sql : String) : Option String × Database :=
  let result := db.executeText sql
  (replyText layout result.1, result.2)

structure Response where
  output : String
  exit : Option Nat
deriving DecidableEq

namespace Response

def silent : Response := ⟨"", none⟩

def printed (text : String) : Response := ⟨text ++ "\n", none⟩

def stopped : Response := ⟨"", some 101⟩

end Response

def answered (layout : Layout) (db : Database) (sql : String) : Response × Database :=
  let result := reply layout db sql
  (result.1.elim .stopped .printed, result.2)

structure Outcome where
  output : String
  code : Nat
deriving DecidableEq

def Outcome.behind (output : String) (outcome : Outcome) : Outcome := ⟨output ++ outcome.output, outcome.code⟩

namespace Script

def isSkipped (line : String) : Bool :=
  match line.toList with
  | [] | '-' :: '-' :: _ => true
  | _ => false

def respond (layout : Layout) (db : Database) (line : String) : Response × Database :=
  let sql := Text.trim line
  if isSkipped sql then (.silent, db) else answered layout db sql

def play (layout : Layout) (torn : Bool) (db : Database) : List String → Outcome × Database
  | [] => (⟨"", if torn then 1 else 0⟩, db)
  | line :: rest =>
    let result := respond layout db line
    match result.1.exit with
    | some code => (⟨result.1.output, code⟩, result.2)
    | none =>
      let others := play layout torn result.2 rest
      (others.1.behind result.1.output, others.2)

end Script

namespace Shell

def banner : String := "minisql interactive shell\nType statements or '.help' for help, '.exit' to quit\n\n"

def prompt : String := "minisql> "

def help : String := "\n".intercalate [
  "Special Commands:",
  "  .help              Show this help message",
  "  .tables            List tables",
  "  .schema <table>    Show a table's columns",
  "  .exit, .quit       Exit the shell",
  "",
  "Supported Statements:",
  "  CREATE TABLE pets (id int, name text)",
  "  DROP TABLE pets",
  "  INSERT INTO pets VALUES (1, 'Rex')",
  "  SELECT * FROM pets",
  "  SELECT * FROM pets WHERE id=1",
  "  SELECT * FROM users JOIN orders ON users.id = orders.user_id",
  "  UPDATE pets SET name=Fido WHERE id=1",
  "  DELETE FROM pets WHERE id=1",
  "",
  "Notes:",
  "  - Every table needs an 'id int' column; it is the primary key",
  "  - Values bind to columns in declaration order",
  "  - WHERE only supports id=<value>",
  "  - JOIN always matches left.id with right.user_id",
  ""]

def schemaText (db : Database) (name : String) : String :=
  match db.table? name with
  | some table => table.name ++ " " ++ table.schema.declaration
  | none => (StoreError.tableNotFound name).message

def special (db : Database) (input : String) (behind : List Char) : Response :=
  let word := Text.nextWord behind
  let command := String.ofList word.1
  let argument := (Text.nextWord word.2).1
  if command = "exit" ∨ command = "quit" then ⟨"Goodbye!\n", some 0⟩
  else if command = "help" then ⟨help, none⟩
  else if command = "tables" then ⟨String.join (db.tableNames.map (· ++ "\n")), none⟩
  else if command = "schema" ∧ !argument.isEmpty then .printed (schemaText db (String.ofList argument))
  else .printed ("Unknown command: " ++ input ++ "\nType '.help' for help")

def respond (layout : Layout) (db : Database) (line : String) : Response × Database :=
  let input := Text.trim line
  match input.toList with
  | [] => (.silent, db)
  | '.' :: behind => (special db input behind, db)
  | _ => answered layout db input

-- The prompt stands before each line and before the end of the input.
def session (layout : Layout) (torn : Bool) (db : Database) : List String → Outcome × Database
  | [] => (if torn then ⟨prompt, 1⟩ else ⟨prompt ++ "\n", 0⟩, db)
  | line :: rest =>
    let result := respond layout db line
    match result.1.exit with
    | some code => (⟨prompt ++ result.1.output, code⟩, result.2)
    | none =>
      let others := session layout torn result.2 rest
      (others.1.behind (prompt ++ result.1.output), others.2)

end Shell

end TableStore
