import SqlLexis.CommandLine.Reader
import SqlLexis.Config.Stored
import SqlLexis.Lexer.Run
import SqlLexis.Program.Environment

/-!
# The program

`run` does what a command line asks for, given the formats and the surroundings. It reads the
command line, settles the configuration and executes the command:

* `loadConfig`: the file, then the variables, then the log level of the command line, each over the
  ones before; the outcome has to be valid, whatever the command is;
* `execute`: a command at work. It prints step by step, and what was printed before a failure stays
  printed;
* `run`: how the program ends, with all that it prints.
-/

namespace SqlLexis.Program

open CommandLine (Command Invocation OutputFormat TokenizeRequest UsageError)

/-- The version of the program. -/
def version : String := "0.1.0"

/-! ## Failures -/

/-- Why a command line that was understood comes to nothing. -/
inductive Failure where
  | error (e : Error)
  /-- The configuration file is of no use. -/
  | config (path : String) (e : Error)
  /-- The file with the statement cannot be read. -/
  | file (path : String) (reason : String)
  /-- There is no statement. -/
  | noStatement
  /-- The tokens cannot be written down. -/
  | format (reason : String)
  deriving DecidableEq

namespace Failure

/-- An error with its causes. One that a cause led to shows it by itself and once more after. -/
def chain (e : Error) : String :=
  match e with
  | .io cause => e.message ++ ": " ++ cause
  | .serialization cause => e.message ++ ": " ++ cause
  | _ => e.message

/-- The wording of a failure. -/
def message : Failure → String
  | error e => chain e
  | config path e => "failed to load " ++ path ++ ": " ++ chain e
  | file path reason => "failed to read " ++ path ++ ": " ++ reason
  | noStatement => "either SQL or --file must be given"
  | format reason => reason

/-- The error behind a failure. -/
def error? : Failure → Option Error
  | error e => some e
  | config _ e => some e
  | file .. => none
  | noStatement => none
  | format _ => none

end Failure

/-! ## Settling the configuration -/

/-- The configuration that a command line and the surroundings lead to. -/
def loadConfig (formats : Formats) (env : Environment) (config? logLevel? : Option String) :
    Except Failure Config := do
  let stored ← match config? with
    | some path => (Config.load formats env.readFile path).mapError (.config path)
    | none => .ok default
  let overrides ← (Overrides.ofVars env.valueOf?).mapError .error
  let overrides := { overrides with logLevel? := logLevel?.or overrides.logLevel? }
  let config := stored.merge overrides
  config.validate.mapError .error
  return config

/-! ## Printing -/

/-- Work that prints and may fail. A failure takes nothing back that was printed before. -/
abbrev Printing := ExceptT Failure (StateM String)

/-- Prints a text. -/
def print (s : String) : Printing Unit := modify (· ++ s)

/-- What comes of some work, and all that is printed then, where `printed` was there before. -/
def Printing.outcome {α : Type} (work : Printing α) (printed : String) :
    Except Failure α × String :=
  (work.run.run printed).run

/-! ## Commands -/

/-- The statement of a request: the words of the command line, or the content of a file. -/
def statement (env : Environment) (request : TokenizeRequest) : Except Failure String :=
  match request.sql?, request.file? with
  | some sql, _ => .ok sql
  | none, some path =>
    match env.readFile path with
    | .error fault => .error (.file path fault.message)
    | .ok bytes =>
      match String.fromUTF8? bytes with
      | some sql => .ok sql
      | none => .error (.file path Error.notUtf8)
  | none, none => .error .noStatement

/-- The dialect of a request, or else that of the configuration. -/
def dialectOf (config : Config) (request : TokenizeRequest) : Except Failure Dialect :=
  match request.dialect? with
  | some n => (Dialect.parse n).mapError .error
  | none => .ok config.dialect

/-- A line with the place, the type and the value of a token. -/
def spanLine (s : Span) : String :=
  let t := s.token
  s!"{s.start}..{t.endOffset}\t{t.type}\t{t.value}\n"

/-- Prints tokens. -/
def printSpans (formats : Formats) (format : OutputFormat) (spans : List Span) : Printing Unit :=
  match format with
  | .text => spans.forM fun s => print (spanLine s)
  | .json => do
    let (written, ending) := formats.writeTokens (spans.map (·.token))
    print written
    ending.mapError Failure.format
    print "\n"

/-- Prints the tokens of a statement. -/
def tokenize (formats : Formats) (env : Environment) (config : Config)
    (request : TokenizeRequest) : Printing Unit := do
  let sql ← statement env request
  let dialect ← dialectOf config request
  let spans ← (Lexer.new sql dialect).spans.mapError fun e => Failure.error (.lexical e)
  printSpans formats request.format spans

/-- The rules of a dialect on a line. -/
def dialectLine (d : Dialect) : String :=
  let hint := match d.hintMarker? with
    | some marker => "/*" ++ marker.toString
    | none => "-"
  let count := d.keywords.length
  s!"{d}\thint={hint}\t#comment={d.hashComments}\tvariables={d.hasVariables}\t"
    ++ s!"nchars={d.nationalStrings}\tkeywords={count}\n"

/-- What the program knows about itself and its surroundings. -/
def infoLines (env : Environment) (config : Config) : List String := [
  s!"RustLex {version}\n",
  s!"Dialect: {config.dialect}\n",
  s!"Log level: {config.logLevel}\n",
  s!"OS: {env.operatingSystem}\n",
  s!"Arch: {env.architecture}\n"]

/-- Carries out a command. -/
def execute (formats : Formats) (env : Environment) (config : Config) : Command → Printing Unit
  | .tokenize request => tokenize formats env config request
  | .dialects => Dialect.all.forM fun d => print (dialectLine d)
  | .info => (infoLines env config).forM print

/-! ## The whole run -/

/-- Why a run prints nothing that was asked for. -/
inductive Stop where
  | usage (e : UsageError)
  | failure (f : Failure)
  deriving DecidableEq

/-- The command that a command line without the program's name asks for, and its configuration. -/
def prepare (formats : Formats) (env : Environment) (args : List String) :
    Except Stop (Config × Command) := do
  let invocation ← (CommandLine.read args).mapError .usage
  let config ← (loadConfig formats env invocation.config? invocation.logLevel?).mapError .failure
  return (config, invocation.command)

/-- What comes of a command line without the program's name, and what it prints. -/
def outcome (formats : Formats) (env : Environment) (args : List String) :
    Except Stop Unit × String :=
  match prepare formats env args with
  | .error stop => (.error stop, "")
  | .ok (config, command) =>
    let (result, output) := (execute formats env config command).outcome ""
    (result.mapError .failure, output)

/-- The output that a command line without the program's name asks for. -/
def perform (formats : Formats) (env : Environment) (args : List String) : Except Stop String :=
  let (result, output) := outcome formats env args
  result.map fun _ => output

/-- How the program ends: its exit code and what it printed. -/
structure Ending where
  code : Nat
  output : String
  complaint : String
  deriving DecidableEq

/-- What a usage error prints. -/
def usageText : UsageError → String
  | .helpWanted page => "\n".intercalate page.helpLines ++ "\n"
  | .versionWanted => s!"rustlex {version}\n"
  | .nothingGiven => "\n".intercalate (CommandLine.Page.helpLines .program) ++ "\n"
  | .unknownArgument => "error: unexpected argument\n"
  | .invalidValue => "error: invalid value\n"
  | .invalidSubcommand => "error: unrecognized subcommand\n"
  | .argumentConflict => "error: arguments cannot be used together\n"
  | .tooManyValues => "error: unexpected value\n"
  | .missingSubcommand => "error: a subcommand is required\n"

/-- Runs the program: zero for an output or for help, one for a failure, two for a command line
that was not understood. -/
def run (formats : Formats) (env : Environment) (args : List String) : Ending :=
  match outcome formats env args with
  | (.ok _, output) => ⟨0, output, ""⟩
  | (.error (.usage e), _) =>
    if e.isRequest then ⟨0, usageText e, ""⟩ else ⟨2, "", usageText e⟩
  | (.error (.failure f), output) => ⟨1, output, "Error: " ++ f.message ++ "\n"⟩

end SqlLexis.Program
