import SqlLexis.Proofs.Toml.Document
import SqlLexis.Toml.Reader

/-!
# Reading documents of strings

The reader takes a document of strings for what its lines say, one after another.

* `Line.says?`: what a line says;
* `statements?_flatMap_text`: the statements of a document are those of its lines;
* `read?_flatMap_text`: what a document comes to.
-/

namespace SqlLexis.Toml

variable {c : Char} {s rest read : Text} {n : Nat}

/-- What a line says. -/
def Line.says? : Line → Option Statement
  | blank => none
  | header key => some (.header [key.name])
  | assign key value => some (.assign [key.name] (.string value.text))

/-! ## The parts of a line -/

theorem not_mem_of_isKeyChar {cs : Text} (hcs : cs.any isKeyChar = false)
    (h : isKeyChar c = true) : c ∉ cs := fun hc =>
  List.any_eq_false.1 hcs c hc h

theorem skipSpaces_cons (h : c ∉ [' ', '\t']) : skipSpaces (c :: s) = c :: s := by
  simp only [List.mem_cons, List.not_mem_nil, or_false, not_or] at h
  have hspace : isSpace c = false := by simp [isSpace, h.1, h.2]
  rw [skipSpaces, List.dropWhile_cons, hspace, if_neg Bool.false_ne_true]

/-- Something is said on a line that begins with neither a blank nor a comment. -/
theorem nextLine?_eq_none (h : c ∉ [' ', '\t', '#', '\n', '\r']) : nextLine? (c :: s) = none := by
  have hspaces : skipSpaces (c :: s) = c :: s :=
    skipSpaces_cons fun hc => h (List.mem_append_left ['#', '\n', '\r'] hc)
  simp only [List.mem_cons, List.not_mem_nil, or_false, not_or] at h
  obtain ⟨-, -, hsharp, hnewline, hreturn⟩ := h
  have hcomment : skipComment (c :: s) = c :: s := by
    rw [skipComment]
    rintro t ⟨⟩
    exact hsharp rfl
  rw [nextLine?, hspaces, hcomment]
  show afterNewline? (c :: s) = none
  rw [afterNewline?]
  · rintro t ⟨⟩
    exact hnewline rfl
  · rintro t ⟨⟩
    exact hreturn rfl

/-! ## Keys -/

namespace BareKey

variable (key : BareKey)

theorem isKeyChar_of_mem (h : c ∈ key.name.toList) : isKeyChar c = true :=
  List.all_eq_true.1 key.all_isBareChar c h

theorem exists_cons : ∃ c cs, key.name.toList = c :: cs ∧ isKeyChar c = true := by
  obtain ⟨c, cs, h⟩ := List.exists_cons_of_ne_nil key.ne_nil
  exact ⟨c, cs, h, key.isKeyChar_of_mem (by rw [h]; exact List.mem_cons_self)⟩

theorem append_ne_cons (hc : isKeyChar c = false) (t : Text) :
    key.name.toList ++ rest ≠ c :: t := by
  obtain ⟨d, ds, hds, hd⟩ := key.exists_cons
  rw [hds]
  rintro ⟨⟩
  rw [hd] at hc
  cases hc

theorem skipSpaces_append : skipSpaces (key.name.toList ++ rest) = key.name.toList ++ rest := by
  obtain ⟨c, cs, hcs, hc⟩ := key.exists_cons
  rw [hcs]
  exact skipSpaces_cons (not_mem_of_isKeyChar (by decide) hc)

theorem nextLine?_append : nextLine? (key.name.toList ++ rest) = none := by
  obtain ⟨c, cs, hcs, hc⟩ := key.exists_cons
  rw [hcs]
  exact nextLine?_eq_none (not_mem_of_isKeyChar (by decide) hc)

theorem keyPart?_append (h : ∀ c ∈ rest.head?, isKeyChar c = false) :
    keyPart? (key.name.toList ++ rest) = some (key.name, rest) := by
  have hrest : rest.takeWhile isKeyChar = [] := by
    cases rest with
    | nil => rfl
    | cons d rest => rw [List.takeWhile_cons, h d rfl, if_neg Bool.false_ne_true]
  have hpart : (key.name.toList ++ rest).takeWhile isKeyChar = key.name.toList := by
    rw [List.takeWhile_append_of_pos fun _ => key.isKeyChar_of_mem, hrest, List.append_nil]
  have hempty : key.name.toList.isEmpty = false := by
    rw [List.isEmpty_eq_false_iff]
    exact key.ne_nil
  rw [keyPart?]
  · simp only [hpart, hempty, List.drop_left, String.ofList_toList]
    rfl
  · exact key.append_ne_cons rfl
  · exact key.append_ne_cons rfl

/-- A key alone, without dots. -/
theorem keyPath?_append (h : ∀ c ∈ rest.head?, isKeyChar c = false)
    (hdot : (skipSpaces rest).head? ≠ some '.') :
    keyPath? (n + 1) (key.name.toList ++ rest) = some ([key.name], skipSpaces rest) := by
  rw [keyPath?, key.keyPart?_append h]
  simp only [Option.bind_eq_bind, Option.bind_some]
  split
  case h_1 t ht => exact absurd (by rw [ht]; rfl) hdot
  case h_2 => rfl

end BareKey

/-! ## Strings -/

theorem of_isUnescaped (h : isUnescaped c = true) :
    isPlainChar c = true ∧ c ≠ '"' ∧ c ≠ '\\' := by
  simp only [isUnescaped, Bool.and_eq_true, decide_eq_true_eq] at h
  obtain ⟨⟨⟨hspace, hdelete⟩, hquote⟩, hbackslash⟩ := h
  exact ⟨by simp [isPlainChar, hspace, hdelete], hquote, hbackslash⟩

theorem basicBody_append (h : s.all isUnescaped = true) :
    basicBody read (s ++ '"' :: rest) = some (read.reverse ++ s, rest) := by
  induction s generalizing read with
  | nil => rw [List.nil_append, basicBody, if_pos rfl, List.append_nil]
  | cons c s ih =>
    rw [List.all_cons, Bool.and_eq_true] at h
    obtain ⟨hc, hs⟩ := h
    obtain ⟨hplain, hquote, hbackslash⟩ := of_isUnescaped hc
    rw [List.cons_append, basicBody, if_neg hquote, if_neg hbackslash, if_pos hplain, ih hs,
      List.reverse_cons, List.append_assoc, List.singleton_append]

/-- A plain string, unless a quote follows: the string without characters would then look like the
start of one in three quotes. -/
theorem PlainString.value?_append (value : PlainString) {depth : Nat} (h : rest.head? ≠ some '"') :
    value? (n + 1) depth ('"' :: (value.text.toList ++ '"' :: rest)) =
      some (.string value.text, rest) := by
  have hthree : ∀ t, value.text.toList ++ '"' :: rest ≠ '"' :: '"' :: t := by
    intro t ht
    cases hs : value.text.toList with
    | nil =>
      rw [hs, List.nil_append, List.cons.injEq] at ht
      exact h (by rw [ht.2, List.head?_cons])
    | cons c s =>
      have hc : isUnescaped c = true :=
        List.all_eq_true.1 value.isPlain c (by rw [hs]; exact List.mem_cons_self)
      rw [hs, List.cons_append, List.cons.injEq] at ht
      exact (of_isUnescaped hc).2.1 ht.1
  have hquoted : quoted? ('"' :: (value.text.toList ++ '"' :: rest)) =
      some (value.text.toList, rest) := by
    rw [quoted?]
    · exact basicBody_append value.isPlain
    · exact hthree
  simp only [value?, hquoted, Option.map_some, String.ofList_toList]

/-! ## Statements -/

theorem statement?_header (key : BareKey) :
    statement? ('[' :: (key.name.toList ++ ']' :: rest)) = some (.header [key.name], rest) := by
  have hpath : keyPath? partLimit (key.name.toList ++ ']' :: rest) =
      some ([key.name], ']' :: rest) :=
    key.keyPath?_append (by rintro _ ⟨⟩; decide) (by rintro ⟨⟩)
  rw [statement?, header?, key.skipSpaces_append, hpath]
  · rfl
  · exact key.append_ne_cons rfl

theorem statement?_assign (key : BareKey) (value : PlainString) (h : rest.head? ≠ some '"') :
    statement? (key.name.toList ++ (" = \"".toList ++ (value.text.toList ++ '"' :: rest))) =
      some (.assign [key.name] (.string value.text), rest) := by
  have hpath : keyPath? partLimit
      (key.name.toList ++ (" = \"".toList ++ (value.text.toList ++ '"' :: rest))) =
        some ([key.name], '=' :: ' ' :: '"' :: (value.text.toList ++ '"' :: rest)) :=
    key.keyPath?_append (by rintro _ ⟨⟩; decide) (by rintro ⟨⟩)
  have hassigned : assigned? skipSpaces
      (key.name.toList ++ (" = \"".toList ++ (value.text.toList ++ '"' :: rest))) =
        some ([key.name], '"' :: (value.text.toList ++ '"' :: rest)) := by
    rw [assigned?, hpath]
    rfl
  rw [statement?, hassigned]
  · show (value? _ _ _ >>= fun _ => _) = _
    rw [value.value?_append h]
    rfl
  · exact fun t => key.append_ne_cons rfl ('[' :: t)
  · exact key.append_ne_cons rfl

/-! ## Documents -/

/-- A line on which nothing is said is passed over. -/
theorem statements?_of_nextLine (h : nextLine? s = some rest) :
    statements? (n + 2) s = statements? (n + 1) rest := by
  rw [statements?, h]
  cases rest with
  -- The end of the document is found at once, and one step later again.
  | nil => rfl
  | cons c rest => rfl

theorem statements?_of_statement {st : Statement} (h : nextLine? s = none)
    (hs : skipSpaces s = s) (hst : statement? s = some (st, '\n' :: rest)) :
    statements? (n + 1) s = (statements? n rest).map (st :: ·) := by
  rw [statements?, h, hs, hst]
  show (statements? n rest >>= fun sts => some (st :: sts)) = _
  cases statements? n rest <;> rfl

theorem statements?_text (line : Line) (rest : Text) :
    statements? (n + 2) (line.text ++ rest) =
      (statements? (n + 1) rest).map (line.says?.toList ++ ·) := by
  cases line with
  | blank =>
    have hnext : nextLine? (Line.blank.text ++ rest) = some rest := rfl
    rw [statements?_of_nextLine hnext]
    cases statements? (n + 1) rest <;> rfl
  | header key =>
    have htext : (Line.header key).text ++ rest =
        '[' :: (key.name.toList ++ ']' :: '\n' :: rest) := by
      simp [Line.text]
    rw [htext, statements?_of_statement (nextLine?_eq_none (by decide))
      (skipSpaces_cons (by decide)) (statement?_header key)]
    rfl
  | assign key value =>
    have htext : (Line.assign key value).text ++ rest =
        key.name.toList ++ (" = \"".toList ++ (value.text.toList ++ '"' :: '\n' :: rest)) := by
      simp [Line.text]
    rw [htext, statements?_of_statement key.nextLine?_append key.skipSpaces_append
      (statement?_assign key value (by rintro ⟨⟩))]
    rfl

/-- The statements of a document are what its lines say. -/
theorem statements?_flatMap_text (lines : List Line) (h : lines.length < n) :
    statements? n (lines.flatMap Line.text) = some (lines.filterMap Line.says?) := by
  induction lines generalizing n with
  | nil =>
    obtain ⟨n, rfl⟩ := Nat.exists_eq_succ_of_ne_zero (Nat.ne_of_gt h)
    rfl
  | cons line lines ih =>
    -- The line takes one step, and the end of the document takes another.
    rw [List.length_cons] at h
    obtain ⟨n, rfl⟩ : ∃ m, n = m + 2 := ⟨n - 2, by omega⟩
    rw [List.flatMap_cons, statements?_text, ih (by omega)]
    cases line <;> rfl

theorem length_le_flatMap_text (lines : List Line) :
    lines.length ≤ (lines.flatMap Line.text).length := by
  induction lines with
  | nil => exact Nat.le_refl 0
  | cons line lines ih =>
    have hpos : 0 < line.text.length :=
      List.length_pos_iff.2 (by cases line <;> simp [Line.text])
    rw [List.length_cons, List.flatMap_cons, List.length_append]
    omega

/-- No line begins like the mark of an encoding. -/
theorem withoutMark_flatMap_text (lines : List Line) :
    withoutMark (lines.flatMap Line.text) = lines.flatMap Line.text := by
  rw [withoutMark]
  cases lines with
  | nil => rintro t ⟨⟩
  | cons line lines =>
    cases line with
    | blank => rintro t ⟨⟩
    | header key => rintro t ⟨⟩
    | assign key value =>
      simp only [List.flatMap_cons, Line.text, List.append_assoc]
      exact key.append_ne_cons (by decide)

/-- A document that is written line by line comes to what its lines say. -/
theorem read?_flatMap_text (lines : List Line) :
    read? (lines.flatMap Line.text) =
      Entries.ofStatements? (lines.filterMap Line.says?) := by
  rw [read?, withoutMark_flatMap_text, statements?_flatMap_text lines
    (Nat.lt_succ_of_le (length_le_flatMap_text lines))]
  rfl

end SqlLexis.Toml
