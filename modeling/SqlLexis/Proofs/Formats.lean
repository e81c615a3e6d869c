import SqlLexis.Formats
import SqlLexis.Proofs.Toml.Document

/-!
# What is expected of the formats

The libraries that read and write configurations and tokens are not part of the program. What they
are relied on for is stated here, for the documents and the tokens that the program has to do with.

* `Toml.Document.Gives`: the values that a document of strings gives;
* `Formats.UsesToml`: configurations are written as such documents, and these are understood;
* `tokensForm`: the array of tokens, over several lines;
* `Formats.UsesJson`: tokens are written so.
-/

namespace SqlLexis

open Toml (BareKey Document IsPlain PlainString)

/-! ## Configurations -/

namespace Config

/-- The key of the dialect. -/
def dialectKey : BareKey := ⟨"database_type", by decide, by decide⟩

/-- The name of the table with the log level. -/
def loggingKey : BareKey := ⟨"logging", by decide, by decide⟩

/-- The key of the log level. -/
def levelKey : BareKey := ⟨"level", by decide, by decide⟩

theorem isPlain_configName (d : Dialect) : IsPlain d.configName := by
  cases d <;> decide

/-- The document of a configuration whose log level is a plain string. -/
def document (c : Config) (h : IsPlain c.logLevel) : Document where
  strings := [(dialectKey, ⟨c.dialect.configName, isPlain_configName c.dialect⟩)]
  tables := [(loggingKey, [(levelKey, ⟨c.logLevel, h⟩)])]
  nodup_names := by
    show [dialectKey, loggingKey].Nodup
    decide
  nodup_keys table h := by
    rw [List.mem_singleton.1 h]
    show [levelKey].Nodup
    decide

/-- The dialect that a string stands for, if there is a string. -/
inductive Names : Option PlainString → Option Dialect → Prop where
  | absent : Names none none
  | named {value : PlainString} {d : Dialect}
    (h : value.text = d.configName ∨ value.text ∈ d.configAliases) : Names (some value) (some d)

end Config

/-- The values that a document of strings gives. What stands under other keys is passed over, but
the dialect has to be a string, and the log level is looked for in a table. -/
structure Toml.Document.Gives (d : Document) (given : Overrides) : Prop where
  dialect : Config.Names (d.strings.lookup Config.dialectKey) given.dialect?
  level : given.logLevel? =
    ((d.tables.lookup Config.loggingKey).bind (·.lookup Config.levelKey)).map (·.text)
  isString : Config.dialectKey ∉ d.tables.map Prod.fst
  isTable : Config.loggingKey ∉ d.strings.map Prod.fst

/-- Configurations are kept as TOML. -/
structure Formats.UsesToml (formats : Formats) : Prop where
  /-- A configuration is written as the document of its two values. -/
  writes (c : Config) (h : IsPlain c.logLevel) :
    ∃ s, formats.writeConfig c = .ok s ∧ (c.document h).Spells s
  /-- A document of strings is read, however it is written, as the values that it gives. -/
  reads {d : Document} {s : String} {given : Overrides} (hs : d.Spells s) (hd : d.Gives given) :
    formats.readConfig s = .ok given

/-! ## Tokens -/

namespace Json

/-- The characters that are written as a backslash and a letter, with the letter. -/
def letters : List (Char × Char) :=
  [('"', '"'), ('\\', '\\'), ('\x08', 'b'), ('\x0c', 'f'), ('\n', 'n'), ('\r', 'r'), ('\t', 't')]

/-- A character between quotes. A control character without a letter is written as its number. -/
def charForm (c : Char) : Text :=
  match letters.lookup c with
  | some letter => ['\\', letter]
  | none =>
    if c.toNat < 32 then
      "\\u00".toList ++ [Nat.digitChar (c.toNat / 16), Nat.digitChar (c.toNat % 16)]
    else [c]

/-- A string between quotes. -/
def stringForm (s : String) : String :=
  "\"" ++ String.ofList (s.toList.flatMap charForm) ++ "\""

end Json

open Json (stringForm)

/-- The object of a token, on lines of its own. -/
def tokenForm (t : Token) : String :=
  "\n  \x7b\n    \"token_type\": \x7b\n      "
    ++ stringForm t.type.groupName ++ ": " ++ stringForm t.type.name
    ++ "\n    \x7d,\n    \"value\": " ++ stringForm t.value
    ++ ",\n    \"end_offset\": " ++ toString t.endOffset ++ "\n  \x7d"

/-- The array of some tokens, in their order. -/
def tokensForm (ts : List Token) : String :=
  if ts.isEmpty then "[]" else "[" ++ ",".intercalate (ts.map tokenForm) ++ "\n]"

/-- Tokens are written as JSON. -/
def Formats.UsesJson (formats : Formats) : Prop :=
  ∀ ts, formats.writeTokens ts = (tokensForm ts, .ok ())

end SqlLexis
