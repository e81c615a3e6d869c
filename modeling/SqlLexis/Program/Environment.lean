import SqlLexis.Files

/-!
# The surroundings of the program

What the program asks its surroundings for: the value of a variable, the content of a file, and the
names of the system that it runs on.
-/

namespace SqlLexis.Program

/-- What the program can ask for. -/
structure Environment where
  valueOf? : String → Option String
  readFile : String → Except FileFault ByteArray
  operatingSystem : String
  architecture : String

end SqlLexis.Program
