import TableStore.CommandLine

set_option autoImplicit false

namespace TableStore.Program

def noticeText : CommandLine.Notice → String
  | .summary | .manual => "minisql - a minimal in-memory SQL table store\n\nUsage: minisql [OPTIONS]\n"
  | .version => "minisql 0.1.0\n"

partial def lineBytes (stream : IO.FS.Stream) (front : ByteArray) : IO ByteArray := do
  let next ← stream.read 1
  let bytes := front ++ next
  if next.isEmpty || next.toList == [10] then
    return bytes
  else
    lineBytes stream bytes

-- The next line, or nothing if it cannot be read as text. At the end the line is empty.
def readLine (stream : IO.FS.Stream) : IO (Option String) := do
  try
    return String.fromUTF8? (← lineBytes stream .empty)
  catch _ =>
    return none

-- Each line is answered before the next one is read.
partial def play (layout : Layout) (script : IO.FS.Stream) (db : Database) : IO UInt32 := do
  match ← readLine script with
  | none => return 1
  | some line =>
    if line.isEmpty then
      return 0
    let result := Script.respond layout db (Text.unbroken line)
    IO.print result.1.output
    match result.1.exit with
    | some code => return code.toUInt32
    | none => play layout script result.2

partial def interact (layout : Layout) (input : IO.FS.Stream) (db : Database) : IO UInt32 := do
  IO.print Shell.prompt
  (← IO.getStdout).flush
  match ← readLine input with
  | none => return 1
  | some line =>
    if line.isEmpty then
      IO.print "\n"
      return 0
    let result := Shell.respond layout db line
    IO.print result.1.output
    match result.1.exit with
    | some code => return code.toUInt32
    | none => interact layout input result.2

def start (options : CommandLine.Options) (db : Database) : IO UInt32 := do
  match options.execute, options.file with
  | some sql, _ =>
    let response := (answered options.layout db sql).1
    IO.print response.output
    return (response.exit.getD 0).toUInt32
  | none, some path =>
    try
      let script ← IO.FS.Handle.mk path .read
      play options.layout (.ofHandle script) db
    catch _ =>
      return 1
  | none, none =>
    IO.print Shell.banner
    interact options.layout (← IO.getStdin) db

end TableStore.Program

def main (args : List String) : IO UInt32 := do
  match TableStore.CommandLine.parse args with
  | none =>
    IO.eprintln "error: the arguments cannot be used"
    return 2
  | some (.notice notice) =>
    IO.print (TableStore.Program.noticeText notice)
    return 0
  | some (.start options) =>
    match options.database? with
    | none => return 1
    | some db => TableStore.Program.start options db
