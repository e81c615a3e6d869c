import SqlLexis.Config.Basic
import SqlLexis.Token

/-!
# Formats

How configurations and tokens are written down is left to the libraries of two formats, one for
each. The program knows only what it gives to them and what it takes from them.
-/

namespace SqlLexis

/-- The formats of configurations and of tokens. -/
structure Formats where
  /-- The values that a document gives, or the report on what is wrong with it. -/
  readConfig : String → Except String Overrides
  /-- The document of a configuration, or the report on why it has none. -/
  writeConfig : Config → Except String String
  /-- What is put out for some tokens, and the reason for which it breaks off there, if it does. -/
  writeTokens : List Token → String × Except String Unit

end SqlLexis
