import SqlLexis.Files

/-!
# Files that are written can be read

* `FileSystem.Keeps`: what was written to a file is what it holds then;
* `Folder.keeps`: a folder keeps what is written to it;
* `Folder.read_of_lookup`: the content of a file in a folder.
-/

namespace SqlLexis

/-- What is written to the file at a path can be read there afterwards. -/
def FileSystem.Keeps {σ : Type} (files : FileSystem σ) (path : String) : Prop :=
  ∀ before content after, files.write before path content = (.ok (), after) →
    files.read after path = .ok content

namespace Folder

variable {folder : Folder} {names : List String} {path name : String} {content : ByteArray}

/-! ## Paths -/

/-- The files in a folder have no part in where a path leads, if it leads anywhere. -/
theorem follow_of_ok (h : folder.follow names = .ok name) (other : Folder) :
    other.follow names = .ok name := by
  fun_induction folder.follow names with
  | case1 => cases h
  | case2 first names hstays ih =>
    rw [follow, if_pos hstays]
    exact ih h
  | case3 => cases h
  | case4 => cases h
  | case5 first names hstays hdots hlong hlast =>
    rw [follow, if_neg hstays, if_neg hdots, if_neg hlong, if_pos hlast]
    exact h
  | case6 => cases h

theorem locate_of_ok (h : folder.locate path = .ok name) (other : Folder) :
    other.locate path = .ok name := by
  rw [locate] at h ⊢
  split at h
  · cases h
  · next hnul =>
    split at h
    · cases h
    · next hlong =>
      rw [if_neg hnul, if_neg hlong]
      generalize (path.toList.splitOn '/').map String.ofList = parts at h ⊢
      split at h
      · cases h
      · cases h
      · exact follow_of_ok h other

/-- The name of a file leads to itself. -/
theorem locate_name (folder : Folder) (hchars : '/' ∉ name.toList ∧ '\x00' ∉ name.toList)
    (hname : name ∉ ["", ".", ".."]) (hsize : name.utf8ByteSize ≤ nameLimit) :
    folder.locate name = .ok name := by
  simp only [List.mem_cons, List.not_mem_nil, or_false, not_or] at hname
  obtain ⟨hempty, hdot, hdots⟩ := hname
  have hnul : name.contains '\x00' = false := by simpa [String.contains_char_eq] using hchars.2
  have hpath : ¬ pathLimit < name.utf8ByteSize := by unfold pathLimit nameLimit at *; omega
  have hparts : (name.toList.splitOn '/').map String.ofList = [name] := by
    rw [List.splitOn_eq_singleton hchars.1, List.map_cons, List.map_nil, String.ofList_toList]
  have hfollow : follow folder [name] = .ok name := by
    rw [follow, if_neg (by simp [hempty, hdot]), if_neg hdots, if_neg (Nat.not_lt.2 hsize),
      if_pos List.isEmpty_nil]
  rw [locate, hnul, if_neg Bool.false_ne_true, if_neg hpath, hparts]
  split
  case h_1 heq => exact absurd (List.cons.inj heq).1 hempty
  case h_2 heq => exact absurd (List.cons.inj heq).1 hempty
  case h_3 => exact hfollow

/-! ## Reading -/

theorem read_of_locate (hname : folder.locate path = .ok name)
    (h : folder.lookup name = some content) : folder.read path = .ok content := by
  simp only [read, hname, bind, Except.bind, h]

/-- The name of a file leads to its content. -/
theorem read_of_lookup (h : folder.lookup name = some content)
    (hchars : '/' ∉ name.toList ∧ '\x00' ∉ name.toList) (hname : name ∉ ["", ".", ".."])
    (hsize : name.utf8ByteSize ≤ nameLimit) : folder.read name = .ok content :=
  read_of_locate (locate_name folder hchars hname hsize) h

/-! ## Writing -/

/-- A folder keeps what is written to it. -/
theorem keeps (path : String) : fileSystem.Keeps path := by
  intro before content after h
  change before.write path content = (.ok (), after) at h
  rw [write] at h
  split at h
  · cases h
  · next name hname =>
    cases h
    exact read_of_locate (locate_of_ok hname _) List.lookup_cons_self

end Folder

end SqlLexis
