import Mathlib.Data.List.Nodup
import SqlLexis.Proofs.Toml.Reading

/-!
# The tables of documents of strings

The statements of a document of strings are carried out one by one, and every one of them is
allowed, because no name is given twice. What comes of it are the strings at the top, then the
tables.

* `Entries.Opens`: where assignments go, seen from the whole document;
* `Entries.foldlM_assigns`: what the strings of a table come to;
* `Document.read?_of_spells`: what a document comes to, however it is written.
-/

namespace SqlLexis.Toml

/-! ## Putting and finding -/

namespace Entries

variable {entries rest inner : Entries} {key : String} {value : Value}

theorem find?_of_not_mem (h : key ∉ entries.map Prod.fst) : find? entries key = none := by
  induction entries with
  | nil => rfl
  | cons entry entries ih =>
    rw [List.map_cons, List.mem_cons, not_or] at h
    rw [find?, if_neg (Ne.symm h.1), ih h.2]

theorem find?_append (entries rest : Entries) (key : String) :
    find? (entries ++ rest) key = (find? entries key).or (find? rest key) := by
  induction entries with
  | nil => rfl
  | cons entry entries ih =>
    rw [List.cons_append, find?, find?]
    split
    · rfl
    · exact ih

theorem put_append (h : key ∉ entries.map Prod.fst) :
    put (entries ++ rest) key value = entries ++ put rest key value := by
  induction entries with
  | nil => rfl
  | cons entry entries ih =>
    rw [List.map_cons, List.mem_cons, not_or] at h
    rw [List.cons_append, put, if_neg (Ne.symm h.1), ih h.2, List.cons_append]

theorem put_of_not_mem (h : key ∉ entries.map Prod.fst) :
    put entries key value = entries ++ [(key, value)] := by
  rw [← List.append_nil entries, put_append h, List.append_nil, put]

/-! ## One statement -/

/-- The table with a path is seen from the whole document as `frame` says: a change of the one is a
change of the other. -/
def Opens (path : List String) (frame : Entries → Entries) : Prop :=
  ∀ change inner, alter .implied change path .header (frame inner) =
    (change .header inner).map frame

theorem opens_nil : Opens [] id := by
  intro change inner
  rw [alter, id, Option.map_id, id]

theorem opens_last (h : key ∉ entries.map Prod.fst) :
    Opens [key] fun inner => entries ++ [(key, .table .header inner)] := by
  intro change inner
  have hfind : find? (entries ++ [(key, .table .header inner)]) key =
      some (.table .header inner) := by
    rw [find?_append, find?_of_not_mem h, Option.none_or, find?, if_pos rfl]
  simp only [alter, hfind, put_append h, put, if_pos]
  cases change .header inner <;> rfl

variable {path : List String} {frame : Entries → Entries}

theorem step_assign (ho : Opens path frame) (h : key ∉ inner.map Prod.fst) :
    Building.step ⟨frame inner, path⟩ (.assign [key] value) =
      some ⟨frame (inner ++ [(key, value)]), path⟩ := by
  have hassign : assignPath [key] value .header inner = some (inner ++ [(key, value)]) := by
    show assign false key value .header inner = _
    rw [assign, find?_of_not_mem h, put_of_not_mem h]
    rfl
  rw [Building.step, ho, hassign]
  rfl

theorem step_header (h : key ∉ entries.map Prod.fst) :
    Building.step ⟨entries, path⟩ (.header [key]) =
      some ⟨entries ++ [(key, .table .header [])], [key]⟩ := by
  have hopen : openTable key .header entries = some (entries ++ [(key, .table .header [])]) := by
    rw [openTable, find?_of_not_mem h, put_of_not_mem h]
  show (openTable key .header entries >>= fun after => some (⟨after, [key]⟩ : Building)) = _
  rw [hopen]
  rfl

end Entries

/-! ## All statements -/

open Entries (Building Opens)

/-- The entries of some keys, given what stands under them. -/
def Entries.ofKeys {α : Type} (value : α → Value) (xs : List (BareKey × α)) : Entries :=
  xs.map fun x => (x.1.name, value x.2)

/-- The entries that strings come to. -/
def Strings.entries (strings : Strings) : Entries :=
  .ofKeys (fun value => .string value.text) strings

/-- The entries that a document comes to. -/
def Document.entries (d : Document) : Entries :=
  d.strings.entries ++ .ofKeys (fun strings => .table .header strings.entries) d.tables

theorem BareKey.name_injective : Function.Injective BareKey.name := by
  rintro ⟨name, _, _⟩ ⟨_, _, _⟩ rfl
  rfl

theorem Entries.keys_ofKeys {α : Type} (value : α → Value) (xs : List (BareKey × α)) :
    (ofKeys value xs).map Prod.fst = (xs.map Prod.fst).map BareKey.name := by
  rw [ofKeys, List.map_map, List.map_map]
  rfl

namespace Entries

variable {path : List String} {frame : Entries → Entries}

/-- Each string goes behind those that were given before. -/
theorem foldlM_assigns (ho : Opens path frame) (strings : Strings) (inner : Entries)
    (h : (inner.map Prod.fst ++ strings.entries.map Prod.fst).Nodup) :
    (strings.lines.filterMap Line.says?).foldlM Building.step ⟨frame inner, path⟩ =
      some ⟨frame (inner ++ strings.entries), path⟩ := by
  induction strings generalizing inner with
  | nil =>
    rw [Strings.entries, ofKeys, List.map_nil, List.append_nil]
    rfl
  | cons entry strings ih =>
    obtain ⟨key, value⟩ := entry
    have hkey : key.name ∉ inner.map Prod.fst := fun hm =>
      (List.nodup_append.1 h).2.2 _ hm _ List.mem_cons_self rfl
    have hrest := ih (inner ++ [(key.name, .string value.text)])
      (by rw [List.map_append, List.append_assoc]; exact h)
    rw [List.append_assoc] at hrest
    show (Building.step _ (.assign [key.name] (.string value.text)) >>= fun b =>
      ((Strings.lines strings).filterMap Line.says?).foldlM Building.step b) = _
    rw [step_assign ho hkey]
    exact hrest

/-- Each table goes behind what was given before, with its strings. -/
theorem foldlM_tables (tables : List (BareKey × Strings)) (entries : Entries) (path : List String)
    (h : (entries.map Prod.fst ++ (tables.map Prod.fst).map BareKey.name).Nodup)
    (hkeys : ∀ table ∈ tables, (table.2.map Prod.fst).Nodup) :
    (((tables.flatMap fun (key, strings) => .header key :: Strings.lines strings).filterMap
      Line.says?).foldlM Building.step ⟨entries, path⟩).map (·.entries) =
        some (entries ++ ofKeys (fun strings => .table .header strings.entries) tables) := by
  induction tables generalizing entries path with
  | nil =>
    rw [ofKeys, List.map_nil, List.append_nil]
    rfl
  | cons table tables ih =>
    obtain ⟨key, strings⟩ := table
    -- The header opens a table at the end, and the strings go into that one.
    have hkey : key.name ∉ entries.map Prod.fst := fun hm =>
      (List.nodup_append.1 h).2.2 _ hm _ List.mem_cons_self rfl
    have hstrings : ((List.map Prod.fst ([] : Entries)) ++
        (Strings.entries strings).map Prod.fst).Nodup := by
      rw [Strings.entries, keys_ofKeys]
      exact (hkeys _ List.mem_cons_self).map BareKey.name_injective
    have hrest := ih (entries ++ [(key.name, .table .header (Strings.entries strings))])
      [key.name] (by rw [List.map_append, List.append_assoc]; exact h)
      fun table hm => hkeys table (List.mem_cons_of_mem _ hm)
    have hassigns := foldlM_assigns (opens_last hkey) strings [] hstrings
    rw [List.flatMap_cons, List.cons_append, List.filterMap_cons, List.filterMap_append]
    show Option.map _ ((_ :: _).foldlM Building.step _) = _
    rw [List.foldlM_cons, step_header hkey, Option.bind_eq_bind, Option.bind_some,
      List.foldlM_append, hassigns, Option.bind_eq_bind, Option.bind_some]
    rw [List.append_assoc] at hrest
    exact hrest

end Entries

namespace Document

variable {d : Document} {s : String}

theorem ofStatements?_lines (d : Document) :
    Entries.ofStatements? (d.lines.filterMap Line.says?) = some d.entries := by
  have hnames : (d.strings.entries.map Prod.fst ++
      (d.tables.map Prod.fst).map BareKey.name).Nodup := by
    rw [Strings.entries, Entries.keys_ofKeys, ← List.map_append]
    exact d.nodup_names.map BareKey.name_injective
  have hstrings := Entries.foldlM_assigns Entries.opens_nil d.strings [] hnames.of_append_left
  rw [Entries.ofStatements?, lines, List.filterMap_append, List.foldlM_append]
  show Option.map _ (List.foldlM Building.step ⟨id [], []⟩ _ >>= _) = _
  rw [hstrings, Option.bind_eq_bind, Option.bind_some]
  exact Entries.foldlM_tables d.tables d.strings.entries [] hnames d.nodup_keys

/-- On a blank line nothing is said. -/
theorem filterMap_says?_filter (lines : List Line) :
    (lines.filter (· ≠ .blank)).filterMap Line.says? = lines.filterMap Line.says? := by
  rw [List.filterMap_filter]
  congr 1
  funext line
  cases line <;> rfl

/-- A document comes to its entries, however it is written. -/
theorem read?_of_spells (h : d.Spells s) : read? s.toList = some d.entries := by
  obtain ⟨lines, hlines, hs⟩ := h
  rw [hs, read?_flatMap_text, ← filterMap_says?_filter, hlines, ofStatements?_lines]

end Document

end SqlLexis.Toml
