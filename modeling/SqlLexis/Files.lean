/-!
# Files

What the program asks for when it reads a file or writes one, and what it is told where it cannot.
`Folder` is a working directory with some files and nothing else in it, which answers as a file
system does.

* `FileFault`: why a file is out of reach;
* `FileSystem`: reading and writing, over whatever there is to change;
* `Folder.fileSystem`: reading and writing in a folder.
-/

namespace SqlLexis

/-- Why a file cannot be read or written. -/
inductive FileFault where
  | notFound
  | notDirectory
  | isDirectory
  | nameTooLong
  | nulInName
  /-- Some other reason, in the words of the system. -/
  | other (reason : String)
  deriving DecidableEq

namespace FileFault

/-- The wording of a fault. -/
def message : FileFault → String
  | notFound => "No such file or directory (os error 2)"
  | notDirectory => "Not a directory (os error 20)"
  | isDirectory => "Is a directory (os error 21)"
  | nameTooLong => "File name too long (os error 36)"
  | nulInName => "file name contained an unexpected NUL byte"
  | other reason => reason

end FileFault

/-- The files at paths, in a state of type `σ`. A write that fails may have changed something. -/
structure FileSystem (σ : Type) where
  read : σ → String → Except FileFault ByteArray
  write : σ → String → ByteArray → Except FileFault Unit × σ

/-- A working directory: the names of its files, with their content. -/
abbrev Folder := List (String × ByteArray)

namespace Folder

/-- The length of the longest name of a file, in bytes. -/
def nameLimit : Nat := 255

/-- The length of the longest path, in bytes. -/
def pathLimit : Nat := 4095

/-- Whether the rest of a path stays at the directory that was reached. -/
def staysPut (names : List String) : Bool := names.all fun n => n = "" || n = "." || n = ".."

/-- The name that a path leads to, name by name. Nothing is known of other directories than that
they are there. -/
def follow (folder : Folder) : List String → Except FileFault String
  | [] => .error .isDirectory
  | name :: names =>
    if name = "" || name = "." then follow folder names
    else if name = ".." then .error (if staysPut names then .isDirectory else .notFound)
    else if nameLimit < name.utf8ByteSize then .error .nameTooLong
    else if names.isEmpty then .ok name
    else .error (if (folder.lookup name).isSome then .notDirectory else .notFound)

/-- The name that a path leads to. There need not be a file of that name. -/
def locate (folder : Folder) (path : String) : Except FileFault String :=
  if path.contains '\x00' then .error .nulInName
  else if pathLimit < path.utf8ByteSize then .error .nameTooLong
  else match (path.toList.splitOn '/').map String.ofList with
    | [""] => .error .notFound
    | "" :: names => .error (if staysPut names then .isDirectory else .notFound)
    | names => follow folder names

/-- The content of the file at a path. -/
def read (folder : Folder) (path : String) : Except FileFault ByteArray := do
  match folder.lookup (← folder.locate path) with
  | some content => .ok content
  | none => .error .notFound

/-- Writes the file at a path, which may be a new one. -/
def write (folder : Folder) (path : String) (content : ByteArray) :
    Except FileFault Unit × Folder :=
  match folder.locate path with
  | .error fault => (.error fault, folder)
  | .ok name => (.ok (), (name, content) :: folder.filter (·.1 ≠ name))

/-- A folder as a file system. -/
def fileSystem : FileSystem Folder := ⟨read, write⟩

end Folder

end SqlLexis
