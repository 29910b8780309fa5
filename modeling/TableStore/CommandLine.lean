import TableStore.Database.Seed
import TableStore.Shell

set_option autoImplicit false

namespace TableStore.CommandLine

structure Options where
  execute : Option String
  file : Option String
  noSeed : Bool
  format : Option Layout
  logLevel : Option String
deriving DecidableEq

def Options.unset : Options := ⟨none, none, false, none, none⟩

inductive OptionName where
  | execute | file | format | logLevel
deriving DecidableEq

def long? (name : String) : Option OptionName :=
  if name = "execute" then some .execute
  else if name = "file" then some .file
  else if name = "format" then some .format
  else if name = "log-level" then some .logLevel
  else none

def short? (letter : Char) : Option OptionName :=
  if letter = 'e' then some .execute else if letter = 'f' then some .file else none

def layout? (name : String) : Option Layout :=
  if name = "json" then some .json else if name = "table" then some .table else none

-- No option may be given twice, a path may not be empty, and a format must be one of the two.
def assign (options : Options) (name : OptionName) (value : String) : Option Options :=
  match name with
  | .execute => if options.execute.isSome then none else some { options with execute := value }
  | .file => if options.file.isSome || value.isEmpty then none else some { options with file := value }
  | .format =>
    if options.format.isSome then none else (layout? value).map fun layout => { options with format := some layout }
  | .logLevel => if options.logLevel.isSome then none else some { options with logLevel := value }

-- A value of its own may not look like an option; a lone dash does not.
def isValue (arg : String) : Bool :=
  match arg.toList with
  | '-' :: _ :: _ => false
  | _ => true

-- What is told about the program in place of a run. The reader of the arguments words it.
inductive Notice where
  | summary | manual | version
deriving DecidableEq

def longNotice? (name : String) : Option Notice :=
  if name = "help" then some .manual else if name = "version" then some .version else none

def shortNotice? (letter : Char) : Option Notice :=
  if letter = 'h' then some .summary else if letter = 'V' then some .version else none

inductive Argument where
  | noSeed
  | escape
  | notice (notice : Notice)
  | option (name : OptionName) (value : Option String)
deriving DecidableEq

def afterEquals : List Char → List Char
  | '=' :: rest => rest
  | rest => rest

def argument? (arg : String) : Option Argument :=
  match arg.toList with
  | ['-', '-'] => some .escape
  | '-' :: '-' :: rest =>
    let name := String.ofList (rest.takeWhile (· ≠ '='))
    match rest.dropWhile (· ≠ '=') with
    | [] =>
      if name = "no-seed" then some .noSeed
      else ((longNotice? name).map .notice).or ((long? name).map (.option · none))
    | _ :: value => (long? name).map (.option · (some (String.ofList value)))
  | '-' :: letter :: rest =>
    -- a notice is given at once, whatever letters stand behind its own
    ((shortNotice? letter).map .notice).or
      ((short? letter).map (.option · (if rest.isEmpty then none else some (String.ofList (afterEquals rest)))))
  | _ => none

inductive Request where
  | notice (notice : Notice)
  | start (options : Options)
deriving DecidableEq

-- The first of the arguments that cannot be used or asks for a notice settles it.
def parseFrom (options : Options) : List String → Option Request
  | [] => some (.start options)
  | arg :: rest =>
    match argument? arg with
    | none => none
    | some (.notice notice) => some (.notice notice)
    -- behind the escape everything would be positional, and nothing is
    | some .escape => if rest.isEmpty then some (.start options) else none
    | some .noSeed => if options.noSeed then none else parseFrom { options with noSeed := true } rest
    | some (.option name (some value)) => (assign options name value).bind (parseFrom · rest)
    | some (.option name none) =>
      match rest with
      | [] => none
      | value :: rest => if isValue value then (assign options name value).bind (parseFrom · rest) else none

-- Options that exclude each other are found when all arguments are read.
def Request.sound : Request → Bool
  | .notice _ => true
  | .start options => !(options.execute.isSome && options.file.isSome)

def parse (args : List String) : Option Request := (parseFrom .unset args).filter (·.sound)

def Options.layout (options : Options) : Layout := options.format.getD .json

def Options.database? (options : Options) : Option Database :=
  if options.noSeed then some .empty
  else
    match Database.empty.seed with
    | (.ok (), db) => some db
    | (.error _, _) => none

-- Lines with what ends them. Behind the last one something may stand that is no text.
structure Source where
  lines : List String
  torn : Bool

def Source.ofText (text : String) : Source := ⟨Text.rawLines text, false⟩

def Options.run (options : Options) (db : Database) (input : Source) (files : String → Option Source) : Outcome :=
  match options.execute, options.file with
  | some sql, _ =>
    let response := (answered options.layout db sql).1
    ⟨response.output, response.exit.getD 0⟩
  | none, some path =>
    match files path with
    | some source => (Script.play options.layout source.torn db (source.lines.map Text.unbroken)).1
    | none => ⟨"", 1⟩
  | none, none => (Shell.session options.layout input.torn db input.lines).1.behind Shell.banner

def runOn (notices : Notice → String) (args : List String) (input : Source) (files : String → Option Source) : Outcome :=
  match parse args with
  | none => ⟨"", 2⟩
  | some (.notice notice) => ⟨notices notice, 0⟩
  | some (.start options) =>
    match options.database? with
    | none => ⟨"", 1⟩
    | some db => options.run db input files

def run (args : List String) (input : String) (files : String → Option String) (notices : Notice → String := fun _ => "") :
    Outcome :=
  runOn notices args (.ofText input) fun path => (files path).map .ofText

end TableStore.CommandLine
