import Mathlib
import SqlLexis.Proofs.Lexeme.Caseless
import SqlLexis.Proofs.Visible

/-!
# Looking keywords up

A table of keywords is asked for words in any case. No two keywords share a spelling, and every
spelling is in upper case, so a table is a map from spellings and the order in which it was filled
does not show.

* `Keyword.text_injective`: a spelling belongs to one keyword;
* `Keyword.upper_text`: a spelling is in upper case;
* `KeywordTable.find?_eq_some_iff`: the keyword of a word;
* `finds_ofList`: what a table finds, and how many keywords it holds, by the keywords
  that it was made from.
-/

namespace SqlLexis

namespace Keyword

/-! ## Spellings -/

theorem mem_all (k : Keyword) : k ∈ all := by
  have h : all[k.ctorIdx]? = some k := by cases k <;> rfl
  exact List.mem_of_getElem? h

/-- The spelling as a number in base 256. Numbers are quick to compare. -/
def code (k : Keyword) : Nat := k.text.toList.foldl (fun n c => 256 * n + c.toNat) 0

/-- Every keyword is the first of all that have its number. -/
theorem find?_code (k : Keyword) : all.find? (fun j => Nat.beq j.code k.code) = some k := by
  have h : all.all (fun k => all.find? (fun j => Nat.beq j.code k.code) = some k) = true := by
    decide +kernel
  exact of_decide_eq_true (List.all_eq_true.1 h k k.mem_all)

/-- A spelling belongs to one keyword. -/
theorem text_injective : Function.Injective text := by
  intro j k h
  have hcode : j.code = k.code := by rw [code, h, ← code]
  have hj := j.find?_code
  rw [hcode, k.find?_code] at hj
  exact Option.some.inj hj.symm

/-- A character of a spelling is no small letter, and it shows. -/
theorem of_mem_text {k : Keyword} {c : Char} (hc : c ∈ k.text.toList) :
    c.toUpper = c ∧ isVisible c = true := by
  have h : k.text.toList.all (fun c => c.toUpper == c && isVisible c) = true := by
    cases k <;> decide
  simpa using List.all_eq_true.1 h c hc

/-- A spelling is in upper case. -/
theorem upper_text (k : Keyword) : upper k.text.toList = k.text.toList := by
  rw [upper, List.map_congr_left fun c hc => (of_mem_text hc).1, List.map_id']

end Keyword

/-- A character that shows is one of ASCII. -/
theorem toNat_lt_of_isVisible {c : Char} (h : isVisible c = true) : c.toNat < 127 := by
  simp only [isVisible, Bool.and_eq_true, decide_eq_true_eq, Char.lt_def,
    UInt32.lt_iff_toNat_lt] at h
  exact h.2

namespace KeywordTable

variable {t : KeywordTable} {ks : List Keyword} {w : String} {k : Keyword}

/-! ## One keyword for a spelling -/

/-- The keyword of a spelling is the same one wherever it stands in a list. -/
theorem find?_text_eq_some_iff {spelling : String} :
    ks.find? (·.text == spelling) = some k ↔ k ∈ ks ∧ spelling = k.text := by
  constructor
  · intro h
    have htext : k.text = spelling := by simpa using List.find?_some h
    exact ⟨List.mem_of_find?_eq_some h, htext.symm⟩
  · rintro ⟨hk, rfl⟩
    have hsome : (ks.find? (·.text == k.text)).isSome = true :=
      List.find?_isSome.2 ⟨k, hk, beq_self_eq_true _⟩
    obtain ⟨j, hj⟩ := Option.isSome_iff_exists.1 hsome
    have htext : j.text = k.text := by simpa using List.find?_some hj
    rw [hj, Keyword.text_injective htext]

theorem find?_eq_some_iff :
    t.find? w = some k ↔ k ∈ t.keywords ∧ upper w.toList = k.text.toList := by
  rw [find?, find?_text_eq_some_iff, ← String.toList_inj, String.toList_ofList]

theorem find?_ofList_eq_some_iff : (ofList ks).find? w = some k ↔
    (k ∈ Keyword.standard ∨ k ∈ ks) ∧ upper w.toList = k.text.toList := by
  rw [find?_eq_some_iff, mem_keywords_ofList]

theorem find?_ofList_eq_none_iff : (ofList ks).find? w = none ↔
    ∀ k, k ∈ Keyword.standard ∨ k ∈ ks → upper w.toList ≠ k.text.toList := by
  simp only [Option.eq_none_iff_forall_ne_some, ne_eq, find?_ofList_eq_some_iff, not_and]

/-- Which of two keywords with one spelling comes last does not show, as there is only one. -/
theorem find?_ofList_eq_find?_reverse : (ofList ks).find? w =
    (Keyword.standard ++ ks).reverse.find? (·.text == String.ofList (upper w.toList)) := by
  ext k
  rw [find?_ofList_eq_some_iff, find?_text_eq_some_iff, List.mem_reverse, List.mem_append,
    ← String.toList_inj, String.toList_ofList]

/-- A character that is none of ASCII stands in no spelling. -/
theorem find?_of_foreign {c : Char} (hc : c ∈ w.toList) (h : 128 ≤ c.toNat) :
    t.find? w = none := by
  refine Option.eq_none_iff_forall_ne_some.2 fun k hk => ?_
  have hletter : c.isAlpha = false := Bool.eq_false_iff.2 fun ha => by
    have := toNat_lt_of_isVisible (visible_isAlpha c ha)
    omega
  have hmem : c ∈ k.text.toList := by
    rw [← (find?_eq_some_iff.1 hk).2, ← toUpper_of_not_isAlpha hletter]
    exact List.mem_map_of_mem hc
  have := toNat_lt_of_isVisible (Keyword.of_mem_text hmem).2
  omega

/-! ## How many keywords there are -/

theorem toFinset_keywords_ofList (ks : List Keyword) :
    (ofList ks).keywords.toFinset = (Keyword.standard ++ ks).toFinset := by
  ext k
  simp only [List.mem_toFinset, mem_keywords_ofList, List.mem_append]

theorem size_ofList (ks : List Keyword) :
    (ofList ks).size = (Keyword.standard ++ ks).toFinset.card := by
  rw [size, ← List.toFinset_card_of_nodup (ofList ks).nodup, toFinset_keywords_ofList]

/-- As many spellings as keywords. -/
theorem card_toFinset_map_text (ks : List Keyword) :
    (ks.map Keyword.text).toFinset.card = ks.toFinset.card := by
  have h : (ks.map Keyword.text).toFinset = ks.toFinset.image Keyword.text := by
    ext spelling
    simp only [List.mem_toFinset, List.mem_map, Finset.mem_image]
  rw [h, Finset.card_image_of_injective _ Keyword.text_injective]

/-! ## Tables -/

/-- Tables of the same keywords are the same dictionary. -/
theorem ofList_congr {ks' : List Keyword} (h : ∀ k, k ∉ Keyword.standard → (k ∈ ks ↔ k ∈ ks')) :
    (ofList ks).toDictionary = (ofList ks').toDictionary ∧
      (ofList ks).size = (ofList ks').size := by
  have hmem : ∀ k, (k ∈ Keyword.standard ∨ k ∈ ks) ↔ (k ∈ Keyword.standard ∨ k ∈ ks') := by
    intro k
    by_cases hk : k ∈ Keyword.standard
    · simp only [hk, true_or]
    · simp only [hk, false_or, h k hk]
  constructor
  · have hfind : (ofList ks).find? = (ofList ks').find? := by
      funext w
      ext k
      rw [find?_ofList_eq_some_iff, find?_ofList_eq_some_iff, hmem]
    rw [toDictionary, toDictionary, hfind]
  · have hset : (Keyword.standard ++ ks).toFinset = (Keyword.standard ++ ks').toFinset := by
      ext k
      rw [List.mem_toFinset, List.mem_toFinset, List.mem_append, List.mem_append, hmem]
    rw [size_ofList, size_ofList, hset]

end KeywordTable

/-- What a table finds that was made from the keywords `ks`, and how many keywords it holds. A word
is looked up by its spelling in upper case. Were the keywords put into a map from spellings one
after another, the last keyword of a spelling would count, and one for each spelling: it comes to
the same. -/
structure Finds (ks : List Keyword) (t : KeywordTable) : Prop where
  found (w : String) (k : Keyword) : t.find? w = some k ↔
    (k ∈ Keyword.standard ∨ k ∈ ks) ∧ upper w.toList = k.text.toList
  missing (w : String) : t.find? w = none ↔
    ∀ k, k ∈ Keyword.standard ∨ k ∈ ks → upper w.toList ≠ k.text.toList
  foreign (w : String) : (∃ c ∈ w.toList, 128 ≤ c.toNat) → t.find? w = none
  recased (w : String) (k : Keyword) : k ∈ Keyword.standard ∨ k ∈ ks →
    sameWord w.toList k.text.toList = true → t.find? w = some k
  last (w : String) : t.find? w =
    (Keyword.standard ++ ks).reverse.find? (·.text == String.ofList (upper w.toList))
  size : t.size = (Keyword.standard ++ ks).toFinset.card
  spellings : t.size = ((Keyword.standard ++ ks).map Keyword.text).toFinset.card
  congr (ks' : List Keyword) : (∀ k, k ∉ Keyword.standard → (k ∈ ks ↔ k ∈ ks')) →
    t.toDictionary = (KeywordTable.ofList ks').toDictionary ∧
      t.size = (KeywordTable.ofList ks').size

/-- A table finds the standard keywords and those that it was made from, by their spellings in any
case, and nothing else. -/
theorem finds_ofList (ks : List Keyword) : Finds ks (.ofList ks) := by
  constructor
  case found => exact fun w k => KeywordTable.find?_ofList_eq_some_iff
  case missing => exact fun w => KeywordTable.find?_ofList_eq_none_iff
  case foreign => exact fun w ⟨c, hc, h⟩ => KeywordTable.find?_of_foreign hc h
  case recased =>
    intro w k hk hw
    have hupper : upper w.toList = upper k.text.toList := by simpa [sameWord] using hw
    exact KeywordTable.find?_ofList_eq_some_iff.2 ⟨hk, hupper.trans k.upper_text⟩
  case last => exact fun w => KeywordTable.find?_ofList_eq_find?_reverse
  case size => exact KeywordTable.size_ofList ks
  case spellings =>
    rw [KeywordTable.size_ofList, KeywordTable.card_toFinset_map_text]
  case congr => exact fun ks' => KeywordTable.ofList_congr

end SqlLexis
