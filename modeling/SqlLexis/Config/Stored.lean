import SqlLexis.Files
import SqlLexis.Formats

/-!
# Configurations in files

A configuration file is a text, and what the text says is for the format to tell. What the file does
not give keeps its default.

* `Config.load`: the configuration in a file, or why the file is of no use;
* `Config.save`: writes a configuration to a file.
-/

namespace SqlLexis.Config

variable {σ : Type}

/-- The configuration in the file at a path. -/
def load (formats : Formats) (read : String → Except FileFault ByteArray) (path : String) :
    Except Error Config :=
  match read path with
  | .error fault => .error (.io fault.message)
  | .ok bytes =>
    match String.fromUTF8? bytes with
    | none => .error (.io Error.notUtf8)
    | some document =>
      match formats.readConfig document with
      | .error report => .error (.configuration s!"Invalid config {path}: {report}")
      | .ok given => .ok ((default : Config).merge given)

/-- Writes a configuration to the file at a path: what comes of it, and the state afterwards. -/
def save (formats : Formats) (files : FileSystem σ) (path : String) (c : Config) (before : σ) :
    Except Error Unit × σ :=
  match formats.writeConfig c with
  | .error report => (.error (.configuration report), before)
  | .ok document =>
    match files.write before path document.toUTF8 with
    | (.error fault, after) => (.error (.io fault.message), after)
    | (.ok (), after) => (.ok (), after)

end SqlLexis.Config
