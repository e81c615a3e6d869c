import SqlLexis.Toml.Value

/-!
# Building the tables of a document

The lines of a document are statements: a header opens a table or adds one to an array of tables,
and an assignment puts a value into the table that was opened last. `Entries.ofStatements?` carries
them out and fails where the format forbids it:

* a key is given only one value;
* a header opens a table only once, and never one that a dotted key made;
* a dotted key leads only through tables without a header, which then cannot get one any more;
* nothing is added to a table in braces, or to an array of values.
-/

namespace SqlLexis.Toml

/-- A line of a document that says something. -/
inductive Statement where
  /-- The header of a table. -/
  | header (path : List String)
  /-- The header of a table that is added to an array. -/
  | item (path : List String)
  /-- A value for a key, which may be dotted. -/
  | assign (path : List String) (value : Value)

namespace Entries

/-- The value of a key. -/
def find? (entries : Entries) (key : String) : Option Value :=
  match entries with
  | [] => none
  | (k, v) :: rest => if k = key then some v else find? rest key

/-- The entries with a key's value put in the place of the one it has, or at the end. -/
def put (entries : Entries) (key : String) (value : Value) : Entries :=
  match entries with
  | [] => [(key, value)]
  | (k, v) :: rest => if k = key then (k, value) :: rest else (k, v) :: put rest key value

/-- A change of the entries of a table, given how the table was made. -/
abbrev Change := Origin → Entries → Option Entries

/-- Changes the table at the end of a path. Tables on the way are made if they are missing, and
`made` is how; those that are there have to be open for it. A dotted key takes over the tables that
it leads through: no header opens them afterwards. -/
def alter (made : Origin) (change : Change) : List String → Change
  | [], origin, entries => change origin entries
  | key :: path, _, entries =>
    match find? entries key with
    | none => do
      let inner ← alter made change path made []
      return put entries key (.table made inner)
    | some (.table origin inner) =>
      if origin = .inline || (made = .dotted && origin = .header) then none
      else do
        let inner ← alter made change path origin inner
        let origin := if made = .dotted then .dotted else origin
        return put entries key (.table origin inner)
    | some (.tables (.table origin inner :: others)) => do
      let inner ← alter made change path origin inner
      return put entries key (.tables (.table origin inner :: others))
    | some _ => none

/-- Opens the table of a header: a new one, or one that was only implied so far. -/
def openTable (key : String) : Change := fun _ entries =>
  match find? entries key with
  | none => some (put entries key (.table .header []))
  | some (.table .implied inner) => some (put entries key (.table .header inner))
  | some _ => none

/-- Adds a table to an array of tables, which may be a new one. -/
def addTable (key : String) : Change := fun _ entries =>
  match find? entries key with
  | none => some (put entries key (.tables [.table .header []]))
  | some (.tables items) => some (put entries key (.tables (.table .header [] :: items)))
  | some _ => none

/-- Gives a key its value. A dotted key has `dotted` set, and its value goes into no table that has
a header. -/
def assign (dotted : Bool) (key : String) (value : Value) : Change := fun origin entries =>
  if (dotted && origin = .header) || (find? entries key).isSome then none
  else some (put entries key value)

/-- The parts of a path before the last, and the last. -/
def splitLast? : List String → Option (List String × String)
  | [] => none
  | [key] => some ([], key)
  | part :: rest => (splitLast? rest).map fun (parts, key) => (part :: parts, key)

/-- Gives a key, dotted or not, its value. -/
def assignPath (path : List String) (value : Value) : Change := fun origin entries => do
  let (parts, key) ← splitLast? path
  alter .dotted (assign (!parts.isEmpty) key value) parts origin entries

/-- The document so far, and the path of the table that was opened last. -/
structure Building where
  entries : Entries
  opened : List String

/-- Carries out a statement. -/
def Building.step (b : Building) : Statement → Option Building
  | .header path => do
    let (parts, key) ← splitLast? path
    return ⟨← alter .implied (openTable key) parts .header b.entries, path⟩
  | .item path => do
    let (parts, key) ← splitLast? path
    return ⟨← alter .implied (addTable key) parts .header b.entries, path⟩
  | .assign path value =>
    return ⟨← alter .implied (assignPath path value) b.opened .header b.entries, b.opened⟩

/-- The document that some statements make, if they are allowed. -/
def ofStatements? (statements : List Statement) : Option Entries :=
  (statements.foldlM Building.step ⟨[], []⟩).map (·.entries)

/-- The table in braces that some assignments make, if they are allowed. -/
def ofAssignments? (assignments : List (List String × Value)) : Option Entries :=
  assignments.foldlM (fun entries (path, value) => assignPath path value .inline entries) []

end Entries

end SqlLexis.Toml
