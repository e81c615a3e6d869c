import SqlLexis.Dialect

/-!
# Configurations

A configuration names a dialect and a log level. Both have a default; a file may set them, and
overrides, which come from variables or from the command line, replace them one by one.

* `Config.merge`: an override that is given replaces the value, also by an equal one;
* `Config.validate`: the log level has to be one of `Config.logLevels`, in any case;
* `Overrides.ofVars`: the overrides that variables ask for. A dialect is named as people write it,
  and an unknown name is an error; a log level is not looked at.
-/

namespace SqlLexis

/-- What the program is told before it starts. -/
structure Config where
  dialect : Dialect
  logLevel : String
  deriving DecidableEq

namespace Config

/-- The log level where none is asked for. -/
def defaultLogLevel : String := "info"

/-- The log levels, from nothing to everything. -/
def logLevels : List String := ["off", "error", "warn", "info", "debug", "trace"]

/-- The configuration where nothing is asked for. -/
instance : Inhabited Config := ⟨default, defaultLogLevel⟩

/-- The variable that names the dialect. -/
def dialectVariable : String := "RUSTLEX_DATABASE_TYPE"

/-- The variable that names the log level. -/
def logLevelVariable : String := "RUSTLEX_LOG_LEVEL"

/-- Whether a log level is known, in any case of its ASCII letters. -/
def isLogLevel (level : String) : Bool :=
  logLevels.contains (String.ofList (lower level.toList))

/-- Complains about a log level that is not known. -/
def validate (c : Config) : Except Error Unit :=
  if isLogLevel c.logLevel then .ok ()
  else
    let given := c.logLevel
    let known := ", ".intercalate logLevels
    .error (.configuration s!"Unknown log level '{given}', expected one of {known}")

end Config

/-- The values that replace those of a configuration. -/
structure Overrides where
  dialect? : Option Dialect
  logLevel? : Option String
  deriving DecidableEq

/-- The overrides that variables ask for. -/
def Overrides.ofVars (value? : String → Option String) : Except Error Overrides :=
  match value? Config.dialectVariable with
  | none => .ok ⟨none, value? Config.logLevelVariable⟩
  | some n =>
    match Dialect.parse n with
    | .ok d => .ok ⟨some d, value? Config.logLevelVariable⟩
    | .error e => .error e

/-- The configuration with the values that are given put in the place of its own. -/
def Config.merge (c : Config) (o : Overrides) : Config :=
  ⟨o.dialect?.getD c.dialect, o.logLevel?.getD c.logLevel⟩

end SqlLexis
