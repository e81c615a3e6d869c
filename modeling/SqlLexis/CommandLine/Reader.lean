import SqlLexis.CommandLine.Basic

/-!
# Reading a command line

`read` understands the words of a command line. Each word is an option, the value of the option
before it, a command, or the statement:

* options come as `--name value`, `--name=value`, `-n value`, `-nvalue` or `-n=value`;
* after `--` no word is an option or a command;
* a word that names a command begins it, unless an option waits for its value;
* an option is given once, and its value is looked at when the next option or the statement comes,
  or when the words end.

So of two mistakes the one that is met first in this order counts. What follows a command is
understood before the options in front of it are settled.
-/

namespace SqlLexis.CommandLine

/-- An option with a value. -/
inductive Opt where
  | config | logLevel | file | dialect | format
  deriving DecidableEq

/-- An option, with a value or without. -/
inductive Switch where
  | valued (o : Opt)
  | help
  | version
  deriving DecidableEq

/-- Whether an option takes a value. Files have names that are not empty. -/
def Opt.accepts (value : String) : Opt → Bool
  | .config => value ≠ ""
  | .file => value ≠ ""
  | .format => (OutputFormat.ofName? value).isSome
  | .logLevel => true
  | .dialect => true

namespace Page

/-- The options of a command by their long names. -/
def long? : Page → String → Option Switch
  | _, "help" => some .help
  | .program, "config" => some (.valued .config)
  | .program, "log-level" => some (.valued .logLevel)
  | .program, "version" => some .version
  | .tokenize, "file" => some (.valued .file)
  | .tokenize, "dialect" => some (.valued .dialect)
  | .tokenize, "format" => some (.valued .format)
  | _, _ => none

/-- The options of a command by their short names. -/
def short? : Page → Char → Option Switch
  | _, 'h' => some .help
  | .program, 'c' => some (.valued .config)
  | .program, 'V' => some .version
  | .tokenize, 'f' => some (.valued .file)
  | .tokenize, 'd' => some (.valued .dialect)
  | _, _ => none

/-- The command of a name. -/
def ofName? : String → Option Page
  | "tokenize" => some .tokenize
  | "dialects" => some .dialects
  | "info" => some .info
  | "help" => some .help
  | _ => none

/-- The command that a word begins. Only the program has commands. -/
def command? : Page → String → Option Page
  | .program, w => ofName? w
  | _, _ => none

end Page

/-! ## Words -/

/-- What a word looks like. -/
inductive Word where
  /-- Two dashes alone. -/
  | separator
  /-- Two dashes and a name, perhaps with a value. -/
  | long (name : String) (value? : Option String)
  /-- A dash and a letter, with what follows it. -/
  | short (letter : Char) (rest : List Char)
  | plain
  deriving DecidableEq

/-- The name of a long option and the value that an equals sign joins to it. -/
def splitValue (w : List Char) : Word :=
  let name := w.takeWhile (· ≠ '=')
  match w.drop name.length with
  | [] => .long (String.ofList name) none
  | _ :: value => .long (String.ofList name) (some (String.ofList value))

/-- What a word looks like. A dash alone is a word like any other. -/
def Word.of (w : String) : Word :=
  match w.toList with
  | ['-', '-'] => .separator
  | '-' :: '-' :: rest => splitValue rest
  | '-' :: letter :: rest => .short letter rest
  | _ => .plain

/-- The value that stands in one word with a short option. -/
def attached? : List Char → Option String
  | [] => none
  | '=' :: value => some (String.ofList value)
  | value => some (String.ofList value)

/-! ## What was read so far -/

/-- An option whose value has not been settled yet. -/
structure Pending where
  opt : Opt
  value? : Option String
  deriving DecidableEq

/-- What was read of one command's words. -/
structure Reading where
  /-- The options that are settled, with their values. -/
  given : List (Opt × String)
  sql? : Option String
  pending? : Option Pending
  /-- Whether the separator came. -/
  plainOnly : Bool
  deriving DecidableEq

namespace Reading

/-- Nothing read yet. -/
def empty : Reading := ⟨[], none, none, false⟩

/-- The settled value of an option. -/
def value? (r : Reading) (o : Opt) : Option String := r.given.lookup o

/-- Whether the next word is the value of an option. -/
def awaitsValue (r : Reading) : Bool :=
  match r.pending? with
  | some ⟨_, none⟩ => true
  | _ => false

/-- Settles an option. -/
def store (r : Reading) (o : Opt) (value : String) : Except UsageError Reading :=
  if (r.value? o).isSome then .error .argumentConflict
  else if o.accepts value then .ok { r with given := r.given ++ [(o, value)] }
  else .error .invalidValue

/-- Settles the option that is pending, if there is one. -/
def settle (r : Reading) : Except UsageError Reading :=
  match r.pending? with
  | none => .ok r
  | some ⟨_, none⟩ => .error .invalidValue
  | some ⟨o, some value⟩ => store { r with pending? := none } o value

/-- Reads an option: one with its value in the same word is settled at once. -/
def switch (page : Page) (r : Reading) (s : Switch) (attached : Option String) :
    Except UsageError Reading := do
  let r ← r.settle
  match s, attached with
  | .help, _ => throw (.helpWanted page)
  | .version, _ => throw .versionWanted
  | .valued o, some value => r.store o value
  | .valued o, none => return { r with pending? := some ⟨o, none⟩ }

/-- Reads a long option. -/
def long (page : Page) (r : Reading) (name : String) (value? : Option String) :
    Except UsageError Reading :=
  match page.long? name with
  | none => .error .unknownArgument
  | some (.valued o) => r.switch page (.valued o) value?
  | some s => if value?.isSome then .error .tooManyValues else r.switch page s none

/-- Reads a short option. -/
def short (page : Page) (r : Reading) (letter : Char) (rest : List Char) :
    Except UsageError Reading :=
  match page.short? letter with
  | none => .error .unknownArgument
  | some s => r.switch page s (attached? rest)

/-- Reads a word that is no option: the value that an option waits for, or else the statement. -/
def plain (page : Page) (r : Reading) (w : String) : Except UsageError Reading :=
  match page with
  | .tokenize =>
    if r.sql?.isSome then .error .unknownArgument
    else do return { (← r.settle) with sql? := some w }
  | .program =>
    if r.plainOnly && (page.command? w).isSome then .error .unknownArgument
    else .error .invalidSubcommand
  | _ => .error .unknownArgument

/-- Reads a word that begins no command. -/
def word (page : Page) (r : Reading) (w : String) : Except UsageError Reading :=
  if r.plainOnly then r.plain page w
  else match Word.of w, r.pending? with
    | .separator, _ => .ok { r with plainOnly := true }
    | .long name value?, _ => r.long page name value?
    | .short letter rest, _ => r.short page letter rest
    | .plain, some ⟨o, none⟩ => .ok { r with pending? := some ⟨o, some w⟩ }
    | .plain, _ => r.plain page w

/-- Reads words up to the one that begins a command, with what follows it. -/
def words (page : Page) (r : Reading) :
    List String → Except UsageError (Reading × Option (Page × List String))
  | [] => .ok (r, none)
  | w :: ws =>
    match page.command? w with
    | some command =>
      if r.plainOnly || r.awaitsValue then do words page (← r.word page w) ws
      else .ok (r, some (command, ws))
    | none => do words page (← r.word page w) ws

end Reading

/-! ## Commands -/

/-- The request that the words after `tokenize` make. -/
def tokenizeRequest (r : Reading) : Except UsageError TokenizeRequest :=
  if r.sql?.isSome && (r.value? .file).isSome then .error .argumentConflict
  else
    let format := ((r.value? .format).bind OutputFormat.ofName?).getD .text
    .ok ⟨r.sql?, r.value? .file, r.value? .dialect, format⟩

/-- What the words after `help` ask for: the help of the command that they name. -/
def helpRequest : List String → UsageError
  | [] => .helpWanted .program
  | [w] =>
    match Page.ofName? w with
    | some page => .helpWanted page
    | none => .invalidSubcommand
  | _ => .invalidSubcommand

/-- The command that some words complete. -/
def command (page : Page) (ws : List String) : Except UsageError Command :=
  match page with
  | .help => .error (helpRequest ws)
  | .program => .error .missingSubcommand
  | page => do
    let (r, _) ← Reading.empty.words page ws
    let r ← r.settle
    match page with
    | .dialects => return .dialects
    | .info => return .info
    | _ => return .tokenize (← tokenizeRequest r)

/-- What a command line without its first word, the program's name, asks for. -/
def read (ws : List String) : Except UsageError Invocation := do
  let (r, command?) ← Reading.empty.words .program ws
  match command? with
  | some (page, rest) =>
    let c ← command page rest
    let r ← r.settle
    return ⟨r.value? .config, r.value? .logLevel, c⟩
  | none =>
    let r ← r.settle
    throw (if r.given.isEmpty then .nothingGiven else .missingSubcommand)

end SqlLexis.CommandLine
