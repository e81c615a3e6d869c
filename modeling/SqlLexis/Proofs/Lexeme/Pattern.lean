import Mathlib.Computability.RegularExpressions
import Mathlib.Data.List.TakeWhile
import SqlLexis.Character

/-!
# Longest matches

A `Pattern` is a regular expression over characters. A count of characters is `Greedy` if in front
of every text it takes the longest match of a pattern.

* `LongestMatch.cons`: a longest match behind a character that has to stand there;
* `Greedy.takeWhile`, `Greedy.lead`: as many characters of a class as there are, and a part that a
  character of a class announces;
* `Greedy.seq`: one part and then another, if no character of the first begins the second
  (`Pattern.apart`).
-/

namespace SqlLexis

/-- A regular expression over characters. -/
abbrev Pattern := RegularExpression Char

namespace Pattern

/-- One character of a list. -/
def oneOf (cs : List Char) : Pattern := (cs.map .char).sum

/-- A match, or nothing. -/
def optional (r : Pattern) : Pattern := 1 + r

/-- The characters from one to another. -/
def between (a b : Char) : List Char :=
  (List.range' a.toNat (b.toNat + 1 - a.toNat)).map Char.ofNat

/-- The characters of which matches are made. -/
def atoms : Pattern → List Char
  | .zero => []
  | .epsilon => []
  | .char a => [a]
  | .plus r s => atoms r ++ atoms s
  | .comp r s => atoms r ++ atoms s
  | .star r => atoms r

/-- The characters with which matches begin. -/
def firsts : Pattern → List Char
  | .zero => []
  | .epsilon => []
  | .char a => [a]
  | .plus r s => firsts r ++ firsts s
  | .comp r s => if r.matchEpsilon then firsts r ++ firsts s else firsts r
  | .star r => firsts r

/-- Whether no character of a match of `r` begins a match of `s`. -/
def apart (r s : Pattern) : Bool := (atoms r).all fun c => !(firsts s).contains c

variable {r : Pattern} {s v w : Text} {c : Char}

theorem matchEpsilon_of_nil (h : [] ∈ r.matches') : r.matchEpsilon = true :=
  (RegularExpression.rmatch_iff_matches' r []).2 h

theorem mem_atoms (h : w ∈ r.matches') (hc : c ∈ w) : c ∈ atoms r := by
  induction r generalizing w with
  | zero => exact absurd h (Language.notMem_zero w)
  | epsilon =>
    cases (Language.mem_one w).1 h
    cases hc
  | char a =>
    cases h
    exact hc
  | plus r s ihr ihs =>
    rcases h with h | h
    · exact List.mem_append_left _ (ihr h hc)
    · exact List.mem_append_right _ (ihs h hc)
  | comp r s ihr ihs =>
    obtain ⟨a, ha, b, hb, rfl⟩ := Language.mem_mul.1 h
    rcases List.mem_append.1 hc with hc | hc
    · exact List.mem_append_left _ (ihr ha hc)
    · exact List.mem_append_right _ (ihs hb hc)
  | star r ih =>
    obtain ⟨ws, rfl, hws⟩ := Language.mem_kstar.1 h
    obtain ⟨a, ha, hc⟩ := List.mem_flatten.1 hc
    exact ih (hws a ha) hc

theorem mem_firsts (h : c :: v ∈ r.matches') : c ∈ firsts r := by
  induction r generalizing v with
  | zero => exact absurd h (Language.notMem_zero _)
  | epsilon => cases (Language.mem_one _).1 h
  | char a =>
    cases h
    exact List.mem_singleton_self _
  | plus r s ihr ihs =>
    rcases h with h | h
    · exact List.mem_append_left _ (ihr h)
    · exact List.mem_append_right _ (ihs h)
  | comp r s ihr ihs =>
    obtain ⟨a, ha, b, hb, hab⟩ := Language.mem_mul.1 h
    rw [firsts]
    cases a with
    | nil =>
      cases hab
      rw [if_pos (matchEpsilon_of_nil ha)]
      exact List.mem_append_right _ (ihs hb)
    | cons x a =>
      cases hab
      split
      · exact List.mem_append_left _ (ihr ha)
      · exact ihr ha
  | star r ih =>
    obtain ⟨ws, hw, hws⟩ := Language.mem_kstar_iff_exists_nonempty.1 h
    cases ws with
    | nil => cases hw
    | cons a ws =>
      obtain ⟨ha, hne⟩ := hws a List.mem_cons_self
      cases a with
      | nil => exact absurd rfl hne
      | cons x a =>
        cases hw
        exact ih ha

theorem not_mem_firsts {r' : Pattern} (h : r.apart r' = true) (hc : c ∈ atoms r) :
    c ∉ firsts r' := by
  have hall := List.all_eq_true.1 h c hc
  simpa using hall

/-! ## Classes of characters -/

variable {cs : List Char}

theorem mem_matches'_oneOf : w ∈ (oneOf cs).matches' ↔ ∃ c ∈ cs, w = [c] := by
  induction cs with
  | nil =>
    constructor
    · exact fun h => absurd h (Language.notMem_zero w)
    · rintro ⟨c, hc, -⟩
      cases hc
  | cons a cs ih =>
    have hsum : oneOf (a :: cs) = .char a + oneOf cs := rfl
    rw [hsum, RegularExpression.matches'_add, Language.mem_add, ih, List.exists_mem_cons_iff]
    rfl

theorem mem_matches'_optional : w ∈ (optional r).matches' ↔ w = [] ∨ w ∈ r.matches' := by
  rw [optional, RegularExpression.matches'_add, Language.mem_add,
    RegularExpression.matches'_epsilon, Language.mem_one]

/-- A repeated character of a class makes the texts of that class. -/
theorem mem_matches'_star_oneOf : w ∈ (oneOf cs).star.matches' ↔ ∀ c ∈ w, c ∈ cs := by
  rw [RegularExpression.matches'_star, Language.mem_kstar]
  constructor
  · rintro ⟨ws, rfl, hws⟩ c hc
    obtain ⟨a, ha, hc⟩ := List.mem_flatten.1 hc
    obtain ⟨x, hx, rfl⟩ := mem_matches'_oneOf.1 (hws a ha)
    rwa [List.mem_singleton.1 hc]
  · intro h
    refine ⟨w.map fun c => [c], ?_, ?_⟩
    · rw [← List.flatMap_def, List.flatMap_singleton']
    · intro a ha
      obtain ⟨c, hc, rfl⟩ := List.mem_map.1 ha
      exact mem_matches'_oneOf.2 ⟨c, h c hc, rfl⟩

theorem mem_between {a b : Char} (hb : b.toNat < 0xd800) :
    c ∈ between a b ↔ a ≤ c ∧ c ≤ b := by
  have hle : ∀ x y : Char, x ≤ y ↔ x.toNat ≤ y.toNat := fun x y => by
    rw [Char.le_def, UInt32.le_iff_toNat_le]
    rfl
  rw [between, List.mem_map, hle, hle]
  constructor
  · rintro ⟨n, hn, rfl⟩
    have hn := List.mem_range'_1.1 hn
    have hv : (Char.ofNat n).toNat = n := by
      rw [Char.ofNat, dif_pos (.inl (by omega))]
      rfl
    omega
  · rintro ⟨ha, hc⟩
    exact ⟨c.toNat, List.mem_range'_1.2 (by omega), Char.ofNat_toNat c⟩

end Pattern

open Pattern (oneOf optional)

/-- The longest start of a text that a pattern matches. -/
structure LongestMatch (r : Pattern) (s w : Text) : Prop where
  start : w <+: s
  matched : w ∈ r.matches'
  longest (v : Text) : v <+: s → v ∈ r.matches' → v.length ≤ w.length

/-- A count of characters that takes the longest match in front of every text. -/
def Greedy (r : Pattern) (f : Text → Nat) : Prop := ∀ s, LongestMatch r s (s.take (f s))

variable {r r' : Pattern} {f g : Text → Nat} {p : Char → Bool} {cs : List Char} {s w : Text}

/-- Behind a character that has to stand there. -/
theorem LongestMatch.cons (h : LongestMatch r s w) (c : Char) :
    LongestMatch (.char c * r) (c :: s) (c :: w) where
  start := List.cons_prefix_cons.2 ⟨rfl, h.start⟩
  matched := Language.mem_mul.2 ⟨[c], rfl, w, h.matched, rfl⟩
  longest v hv hm := by
    obtain ⟨a, rfl, b, hb, rfl⟩ := Language.mem_mul.1 hm
    have := h.longest b (List.cons_prefix_cons.1 hv).2 hb
    exact Nat.succ_le_succ this

namespace Greedy

theorem le (hf : Greedy r f) {v : Text} (hv : v <+: s) (hm : v ∈ r.matches') : v.length ≤ f s := by
  have h := (hf s).longest v hv hm
  rw [List.length_take] at h
  omega

theorem one : Greedy 1 fun _ => 0 := fun s => by
  refine ⟨List.nil_prefix, rfl, fun v _ hv => ?_⟩
  rw [(Language.mem_one v).1 hv]
  exact Nat.zero_le _

/-- As many characters of a class as there are. -/
theorem takeWhile (hp : ∀ c, p c = true ↔ c ∈ cs) :
    Greedy (oneOf cs).star fun s => (s.takeWhile p).length := fun s => by
  have hpre : s.takeWhile p <+: s := List.takeWhile_prefix p
  rw [← List.prefix_iff_eq_take.1 hpre]
  refine ⟨hpre, Pattern.mem_matches'_star_oneOf.2 fun c hc => ?_, fun v hv hm => ?_⟩
  · exact (hp c).1 (List.mem_takeWhile_imp hc)
  · obtain ⟨t, rfl⟩ := hv
    have hall : ∀ c ∈ v, p c = true := fun c hc =>
      (hp c).2 (Pattern.mem_matches'_star_oneOf.1 hm c hc)
    rw [List.takeWhile_append_of_pos hall, List.length_append]
    exact Nat.le_add_right _ _

/-- A part that a character of a class announces, or nothing. -/
theorem lead (hp : ∀ c, p c = true ↔ c ∈ cs) (hg : Greedy r g) (hnil : f [] = 0)
    (hcons : ∀ c s, f (c :: s) = if p c then 1 + g s else 0) :
    Greedy (optional (oneOf cs * r)) f := fun s => by
  cases s with
  | nil =>
    rw [hnil]
    refine ⟨List.nil_prefix, Pattern.mem_matches'_optional.2 (.inl rfl), fun v hv _ => ?_⟩
    rw [List.prefix_nil.1 hv]
    exact Nat.le_refl _
  | cons c s =>
    have hword : ∀ v, v <+: c :: s → v ∈ (optional (oneOf cs * r)).matches' →
        v = [] ∨ p c = true ∧ ∃ b, b <+: s ∧ b ∈ r.matches' ∧ v = c :: b := by
      intro v hv hm
      rcases Pattern.mem_matches'_optional.1 hm with rfl | hm
      · exact .inl rfl
      obtain ⟨a, ha, b, hb, rfl⟩ := Language.mem_mul.1 hm
      obtain ⟨x, hx, rfl⟩ := Pattern.mem_matches'_oneOf.1 ha
      obtain ⟨rfl, hbs⟩ := List.cons_prefix_cons.1 hv
      exact .inr ⟨(hp x).2 hx, b, hbs, hb, rfl⟩
    rw [hcons]
    cases hc : p c with
    | false =>
      refine ⟨List.nil_prefix, Pattern.mem_matches'_optional.2 (.inl rfl), fun v hv hm => ?_⟩
      rcases hword v hv hm with rfl | ⟨hpc, -⟩
      · exact Nat.zero_le _
      · rw [hc] at hpc
        cases hpc
    | true =>
      rw [if_pos rfl, Nat.add_comm, List.take_succ_cons]
      obtain ⟨hstart, hmatched, hlongest⟩ := hg s
      refine ⟨List.cons_prefix_cons.2 ⟨rfl, hstart⟩, ?_, fun v hv hm => ?_⟩
      · exact Pattern.mem_matches'_optional.2 (.inr (Language.mem_mul.2
          ⟨[c], Pattern.mem_matches'_oneOf.2 ⟨c, (hp c).1 hc, rfl⟩, _, hmatched, rfl⟩))
      · rcases hword v hv hm with rfl | ⟨-, b, hbs, hb, rfl⟩
        · exact Nat.zero_le _
        · exact Nat.succ_le_succ (hlongest b hbs hb)

theorem of_eq (hf : Greedy r f) (h : r.matches' = r'.matches') : Greedy r' f := fun s =>
  ⟨(hf s).start, h ▸ (hf s).matched, fun v hv hm => (hf s).longest v hv (h ▸ hm)⟩

/-- One character of a class, or none. -/
theorem option (hp : ∀ c, p c = true ↔ c ∈ cs) (hnil : f [] = 0)
    (hcons : ∀ c s, f (c :: s) = if p c then 1 else 0) : Greedy (optional (oneOf cs)) f := by
  have h : Greedy (optional (oneOf cs * 1)) f := .lead hp .one hnil hcons
  refine h.of_eq ?_
  simp only [Pattern.optional, RegularExpression.matches'_add, RegularExpression.matches'_mul,
    RegularExpression.matches'_epsilon, mul_one]

/-- One part and then another, if no character of the first begins the second. -/
theorem seq (hf : Greedy r f) (hg : Greedy r' g) (h : r.apart r' = true) :
    Greedy (r * r') fun s => f s + g (s.drop (f s)) := fun s => by
  have hw := hf s
  have hs : s.take (f s) ++ s.drop (f s) = s := List.take_append_drop _ _
  have hx := hg (s.drop (f s))
  show LongestMatch (r * r') s (s.take (f s + g (s.drop (f s))))
  rw [List.take_add]
  generalize s.take (f s) = w at hw hs
  generalize s.drop (f s) = rest at hx hs
  generalize rest.take (g rest) = x at hx
  subst hs
  refine ⟨(List.prefix_append_right_inj w).2 hx.start,
    Language.mem_mul.2 ⟨w, hw.matched, x, hx.matched, rfl⟩, fun v hv hm => ?_⟩
  obtain ⟨a, ha, b, hb, rfl⟩ := Language.mem_mul.1 hm
  have haw : a.length ≤ w.length := hw.longest a ((List.prefix_append a b).trans hv) ha
  obtain ⟨y, rfl⟩ : a <+: w :=
    List.prefix_of_prefix_length_le ((List.prefix_append a b).trans hv) (List.prefix_append w rest)
      haw
  rw [List.append_assoc, List.prefix_append_right_inj] at hv
  cases y with
  | nil =>
    have hbx := hx.longest b hv hb
    simp only [List.length_append, List.length_nil]
    omega
  | cons c y =>
    -- What the second part matches would begin within the first one.
    cases b with
    | nil =>
      simp only [List.length_append, List.length_nil]
      omega
    | cons c' b =>
      obtain ⟨rfl, -⟩ := List.cons_prefix_cons.1 hv
      have hc : c' ∈ r.atoms := Pattern.mem_atoms hw.matched (by simp)
      exact absurd (Pattern.mem_firsts hb) (Pattern.not_mem_firsts h hc)

end Greedy

end SqlLexis
