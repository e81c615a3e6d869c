import SqlLexis.Formats.Standard
import SqlLexis.Program.Basic

/-!
# The command

Gathers what the program asks its surroundings for, runs it, and prints what it answers.
-/

open SqlLexis SqlLexis.Program

/-- The fault that an error of the system stands for. -/
def faultOf : IO.Error → FileFault
  | .noFileOrDirectory .. => .notFound
  | .inappropriateType _ code _ => if code = 20 then .notDirectory else .isDirectory
  | .permissionDenied .. => .other "Permission denied (os error 13)"
  | e => .other (toString e)

/-- The content of a file, or why it cannot be read. -/
def contentOf (path : String) : IO (Except FileFault ByteArray) := do
  if path.contains '\x00' then return .error .nulInName
  try
    return .ok (← IO.FS.readBinFile path)
  catch e =>
    return .error (faultOf e)

/-- A word that the system tells about itself. -/
def systemWord (path : String) : IO String := do
  match ← contentOf path with
  | .ok bytes =>
    let word := ((String.fromUTF8? bytes).getD "").toList.takeWhile fun c => !isBlank c
    return String.ofList (word.map Char.toLower)
  | .error _ => return "unknown"

/-- The files that a command line names. -/
def filesOf (args : List String) : List String :=
  match CommandLine.read args with
  | .error _ => []
  | .ok invocation =>
    let statement := match invocation.command with
      | .tokenize request => request.file?.toList
      | _ => []
    invocation.config?.toList ++ statement

/-- Runs the program on the words after its name. -/
def main (args : List String) : IO UInt32 := do
  let files ← (filesOf args).mapM fun path => return (path, ← contentOf path)
  let dialect? ← IO.getEnv Config.dialectVariable
  let logLevel? ← IO.getEnv Config.logLevelVariable
  let vars := [(Config.dialectVariable, dialect?), (Config.logLevelVariable, logLevel?)]
  let env : Environment := {
    valueOf? := fun n => (vars.lookup n).join
    readFile := fun path => (files.lookup path).getD (.error .notFound)
    operatingSystem := ← systemWord "/proc/sys/kernel/ostype"
    architecture := ← systemWord "/proc/sys/kernel/arch" }
  let ending := run .standard env args
  (← IO.getStdout).putStr ending.output
  (← IO.getStderr).putStr ending.complaint
  return ending.code.toUInt32
