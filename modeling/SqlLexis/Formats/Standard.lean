import SqlLexis.Formats
import SqlLexis.Json
import SqlLexis.Toml.Reader

/-!
# TOML and JSON

`Formats.standard` keeps configurations as TOML and prints tokens as JSON. The program is run with
these two, but what it does is settled for any formats.

A configuration is a document with the key `database_type` and the table `logging`, which has the
key `level`. Other keys are passed over, as long as their values can be read.

* `Toml.settings?`: the values that a document gives;
* `Toml.document`: the document of a configuration;
* `Json.ofToken`: the object of a token.
-/

namespace SqlLexis

namespace Toml

open Entries (find?)

/-- The report on a text that gives no configuration. It does not say where the text goes wrong. -/
def report : String := "TOML parse error"

/-- The dialect of a value: its name, or a table whose only key is the name, with nothing in it. -/
def dialectOf? : Value → Option Dialect
  | .string n => Dialect.ofConfigName? n
  | .table _ [(n, .table _ [])] => Dialect.ofConfigName? n
  | .table _ [(n, .array [])] => Dialect.ofConfigName? n
  | _ => none

/-- The text of a value. -/
def textOf? : Value → Option String
  | .string s => some s
  | _ => none

/-- The log level that the value of `logging` gives: that of a table, or the first item of an array.
A date or a time gives none. -/
def levelOf? : Value → Option (Option String)
  | .table _ entries =>
    if Value.entriesReadable entries then (find? entries "level").mapM textOf? else none
  | .array [] => some none
  | .array (v :: _) => (textOf? v).map some
  | .dateTime _ => some none
  | _ => none

/-- The values that the entries of a document give. -/
def settings? (entries : Entries) : Option Overrides := do
  let dialect? ← (find? entries "database_type").mapM dialectOf?
  let level? ← (find? entries "logging").mapM levelOf?
  let others := entries.filter fun entry => entry.1 ∉ ["database_type", "logging"]
  if Value.entriesReadable others then some ⟨dialect?, level?.join⟩ else none

/-- The document of a configuration. -/
def document (c : Config) : Text :=
  "database_type = ".toList ++ written c.dialect.configName.toList
    ++ "\n\n[logging]\nlevel = ".toList ++ written c.logLevel.toList ++ ['\n']

end Toml

namespace Json

/-- The object of a token. -/
def ofToken (t : Token) : Value :=
  .object [
    ("token_type", .object [(t.type.groupName, .string t.type.name)]),
    ("value", .string t.value),
    ("end_offset", .number t.endOffset)]

end Json

/-- TOML for configurations and JSON for tokens. -/
def Formats.standard : Formats where
  readConfig document :=
    match Toml.read? document.toList >>= Toml.settings? with
    | some given => .ok given
    | none => .error Toml.report
  writeConfig c := .ok (String.ofList (Toml.document c))
  writeTokens ts := ((Json.Value.array (ts.map Json.ofToken)).pretty, .ok ())

end SqlLexis
