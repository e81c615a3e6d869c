import SqlLexis.Proofs.Answers
import SqlLexis.Proofs.Calls

/-!
# Dialects that read a text alike

Two dialects differ in the keywords of their own dictionary, in `#`, in `@`, in `N'` and in what
they call a hint. The last makes no difference: a hint ends where the comment would (`Gap.span?_eq`).
So with one dictionary, two dialects that differ in no rule which a text calls for (`Dialect.Agree`)
reply to every sequence of requests alike (`replies_agree`).
-/

namespace SqlLexis

/-- Two dialects differ in no rule that a text calls for. -/
structure Dialect.Agree (d d' : Dialect) (s : Text) : Prop where
  hash : d.hashComments ≠ d'.hashComments → '#' ∉ s
  vars : d.hasVariables ≠ d'.hasVariables → '@' ∉ s
  national : d.nationalStrings ≠ d'.nationalStrings → ¬ ['N', '\''] <:+: s

variable {d d' : Dialect} {dict : Dictionary} {s : Text}

theorem Dialect.Agree.drop (h : d.Agree d' s) (n : Nat) : d.Agree d' (s.drop n) where
  hash := fun hd hs => h.hash hd (List.mem_of_mem_drop hs)
  vars := fun hd hs => h.vars hd (List.mem_of_mem_drop hs)
  national := fun hd hs => h.national hd (hs.trans (List.drop_suffix n s).isInfix)

/-! ## Gaps -/

namespace Gap

/-- Whether a block is a hint makes no difference. -/
theorem span?_eq (d : Dialect) (s : Text) :
    span? d s = if opensComment d s then some (comment s) else none := by
  unfold span?
  split
  · next h =>
    have hb : hint s = comment s ∧ opensComment d s = true := by
      have hk := block_of_opensHint h
      unfold opensHint at h
      split at h
      · exact ⟨hk, rfl⟩
      · cases h
    rw [hb.1, if_pos hb.2]
  · rfl

theorem opensComment_agree (h : d.Agree d' s) : opensComment d s = opensComment d' s := by
  unfold opensComment
  split
  · by_contra hne
    exact h.hash hne List.mem_cons_self
  · rfl
  · rfl
  · rfl
  · rfl

theorem span?_agree (h : d.Agree d' s) : span? d s = span? d' s := by
  rw [span?_eq, span?_eq, opensComment_agree h]

theorem skip_agree (h : d.Agree d' s) : skip d s = skip d' s := by
  induction s using skip.induct d with
  | case1 s _ hs => rw [skip_of_none hs, skip_of_none ((span?_agree (h.drop _)).symm.trans hs)]
  | case2 s _ e hs => rw [skip_of_error hs, skip_of_error ((span?_agree (h.drop _)).symm.trans hs)]
  | case3 s _ n hs ih =>
    rw [skip_of_ok hs, skip_of_ok ((span?_agree (h.drop _)).symm.trans hs),
      ih ((h.drop _).drop n)]

end Gap

/-! ## Tokens -/

theorem Opening.of_agree (h : d.Agree d' s) (p : Option Char) :
    Opening.of d p s = Opening.of d' p s := by
  cases s with
  | nil => rfl
  | cons c s =>
    have hv : (d.hasVariables && c == '@') = (d'.hasVariables && c == '@') := by
      by_cases hc : c = '@'
      · subst hc
        have : d.hasVariables = d'.hasVariables :=
          not_not.1 fun hne => h.vars hne List.mem_cons_self
        rw [this]
      · rw [beq_eq_false_iff_ne.2 hc, Bool.and_false, Bool.and_false]
    have hn : (d.nationalStrings && c == 'N' && s.head? == some '\'') =
        (d'.nationalStrings && c == 'N' && s.head? == some '\'') := by
      by_cases hc : c = 'N' ∧ s.head? = some '\''
      · obtain ⟨rfl, hs⟩ := hc
        obtain ⟨t, rfl⟩ := List.head?_eq_some_iff.1 hs
        have : d.nationalStrings = d'.nationalStrings :=
          not_not.1 fun hne => h.national hne (List.prefix_append ['N', '\''] t).isInfix
        rw [this]
      · have hf : (c == 'N' && s.head? == some '\'') = false := by simpa using hc
        rw [Bool.and_assoc, Bool.and_assoc, hf, Bool.and_false, Bool.and_false]
    rw [of, of, hv, hn]

theorem Cursor.token_agree {c : Cursor} (h : d.Agree d' c.rest) :
    c.token d dict = c.token d' dict := by
  rw [token, token, opening, opening, Opening.of_agree h]

/-! ## Calls -/

namespace Lexer

/-- The same lexer for another dialect, with its dictionary as it is. -/
def inDialect (l : Lexer) (d : Dialect) : Lexer := { l with dialect := d }

variable {l : Lexer}

theorem read_agree (h : l.dialect.Agree d l.input) :
    (l.inDialect d).read.result = l.read.result ∧
      (l.inDialect d).read.lexer = l.read.lexer.inDialect d := by
  have ht : l.cursor.token l.dialect l.dictionary = l.cursor.token d l.dictionary :=
    Cursor.token_agree (h.drop l.offset)
  cases hr : l.cursor.token l.dialect l.dictionary with
  | ok t =>
    obtain ⟨h1, h2⟩ := read_of_ok hr
    obtain ⟨h3, h4⟩ := read_of_ok (l := l.inDialect d) (ht.symm.trans hr)
    rw [h1, h2, h3, h4]
    exact ⟨rfl, rfl⟩
  | error e =>
    obtain ⟨h1, h2⟩ := read_of_error hr
    obtain ⟨h3, h4⟩ := read_of_error (l := l.inDialect d) (ht.symm.trans hr)
    rw [h1, h2, h3, h4]
    exact ⟨rfl, rfl⟩

theorem next_agree (h : l.dialect.Agree d l.input) :
    (l.inDialect d).next.result = l.next.result ∧
      (l.inDialect d).next.lexer = l.next.lexer.inDialect d := by
  have hskip : Gap.skip (l.inDialect d).dialect (l.inDialect d).cursor.rest =
      Gap.skip l.dialect l.cursor.rest := (Gap.skip_agree (h.drop l.offset)).symm
  cases he : (Gap.skip l.dialect l.cursor.rest).error? with
  | some e =>
    rw [next_of_some he, next_of_some (l := l.inDialect d) (by rw [hskip]; exact he), hskip]
    exact ⟨rfl, rfl⟩
  | none =>
    rw [next_of_none he, next_of_none (l := l.inDialect d) (by rw [hskip]; exact he), hskip]
    exact read_agree (l := (l.afterGap _).atToken) h

theorem agree_next (h : l.dialect.Agree d l.input) :
    l.next.lexer.dialect.Agree d l.next.lexer.input := by
  obtain ⟨hd, -, hi⟩ := l.fixed_next
  rwa [hd, hi]

theorem tokenize_agree (h : l.dialect.Agree d l.input) :
    (l.inDialect d).tokenize.result = l.tokenize.result ∧
      (l.inDialect d).tokenize.lexer = l.tokenize.lexer.inDialect d := by
  induction l using readAll.induct with
  | case1 l e he =>
    obtain ⟨hr, hl⟩ := next_agree h
    obtain ⟨h1, h2⟩ := tokenize_of_error he
    obtain ⟨h3, h4⟩ := tokenize_of_error (hr.trans he)
    rw [h1, h2, h3, h4, hl]
    exact ⟨rfl, rfl⟩
  | case2 l t ht hend =>
    obtain ⟨hr, hl⟩ := next_agree h
    obtain ⟨h1, h2⟩ := tokenize_of_end ht hend
    obtain ⟨h3, h4⟩ := tokenize_of_end (hr.trans ht) hend
    rw [h1, h2, h3, h4, hl]
    exact ⟨rfl, rfl⟩
  | case3 l t ht hend ih =>
    have hend : t.type.isEnd = false := by simpa using hend
    obtain ⟨hr, hl⟩ := next_agree h
    obtain ⟨h1, h2⟩ := tokenize_of_token ht hend
    obtain ⟨h3, h4⟩ := tokenize_of_token (hr.trans ht) hend
    obtain ⟨h5, h6⟩ := ih (agree_next h)
    rw [h1, h2, h3, h4, hl, h5, h6]
    exact ⟨rfl, rfl⟩

/-- One request, for either dialect. -/
theorem asked_agree (h : l.dialect.Agree d l.input) (r : Request) :
    (l.inDialect d).reply r = l.reply r ∧ (l.inDialect d).asked r = (l.asked r).inDialect d := by
  cases r with
  | next =>
    obtain ⟨hr, hl⟩ := next_agree h
    exact ⟨congrArg Reply.token hr, hl⟩
  | tokenize =>
    obtain ⟨hr, hl⟩ := tokenize_agree h
    exact ⟨congrArg Reply.tokens hr, hl⟩

theorem after_agree (h : l.dialect.Agree d l.input) (rs : List Request) :
    (l.inDialect d).replies rs = l.replies rs ∧
      (l.inDialect d).after rs = (l.after rs).inDialect d := by
  induction rs generalizing l with
  | nil => exact ⟨rfl, rfl⟩
  | cons r rs ih =>
    obtain ⟨hr, hl⟩ := asked_agree h r
    obtain ⟨hd, -, hi⟩ := l.fixed_after [r]
    have h' : (l.asked r).dialect.Agree d (l.asked r).input := by
      show (l.after [r]).dialect.Agree d (l.after [r]).input
      rwa [hd, hi]
    obtain ⟨hrs, hls⟩ := ih h'
    rw [replies, replies, hr, hl, hrs]
    refine ⟨rfl, ?_⟩
    show ((l.inDialect d).asked r).after rs = _
    rw [hl, hls]
    rfl

end Lexer

/-- With one dictionary, two dialects that differ in no rule which a statement calls for reply alike
to every sequence of requests, and stand at the same place after it. A block is skipped alike by any
two dialects, whether it is a hint or a comment. -/
theorem replies_agree {sql : String} {dialect dialect' : Dialect} {d : Dictionary}
    (hh : dialect.hashComments ≠ dialect'.hashComments → '#' ∉ sql.toList)
    (hv : dialect.hasVariables ≠ dialect'.hasVariables → '@' ∉ sql.toList)
    (hn : dialect.nationalStrings ≠ dialect'.nationalStrings → ¬ ['N', '\''] <:+: sql.toList) :
    (∀ rs, let l := Lexer.withDictionary sql dialect d
      let l' := Lexer.withDictionary sql dialect' d
      l.replies rs = l'.replies rs ∧ (l.after rs).offset = (l'.after rs).offset ∧
        (l.after rs).tokenStart = (l'.after rs).tokenStart ∧
        (l.after rs).current? = (l'.after rs).current?) ∧
      ∀ m ∈ ['!', '+'], ∀ s, let block := '/' :: '*' :: m :: s
        Gap.hint block = Gap.comment block ∧ Gap.span? dialect block = some (Gap.comment block) ∧
          Gap.span? dialect' block = some (Gap.comment block) := by
  constructor
  · intro rs l l'
    obtain ⟨hr, hl⟩ := Lexer.after_agree (l := l) (d := dialect') ⟨hh, hv, hn⟩ rs
    have hl' : l.inDialect dialect' = l' := rfl
    rw [← hl', hr, hl]
    exact ⟨rfl, rfl, rfl, rfl⟩
  · intro m hm s block
    have hm : m ≠ '*' := by rintro rfl; exact absurd hm (by decide)
    exact ⟨Gap.block_three hm s, Gap.span?_block _, Gap.span?_block _⟩

/-- A hint of each of two dialects, in front of a string that is not closed. -/
theorem replies_agree_hint :
    let sql := "SELECT /*+ a */ b.c /*! d */ 'e"
    let dictionary := Dialect.mySql.dictionary
    ('#' ∉ sql.toList ∧ '@' ∉ sql.toList ∧
        Dialect.mySql.nationalStrings = Dialect.oracle.nationalStrings) ∧
      (∀ rs, let l := Lexer.withDictionary sql .mySql dictionary
        let l' := Lexer.withDictionary sql .oracle dictionary
        l.replies rs = l'.replies rs ∧ (l.after rs).offset = (l'.after rs).offset ∧
          (l.after rs).tokenStart = (l'.after rs).tokenStart ∧
          (l.after rs).current? = (l'.after rs).current?) ∧
      ∀ m ∈ ['!', '+'], ∀ s, let block := '/' :: '*' :: m :: s
        Gap.hint block = Gap.comment block ∧
          Gap.span? .mySql block = some (Gap.comment block) ∧
          Gap.span? .oracle block = some (Gap.comment block) := by
  intro sql dictionary
  have hh : '#' ∉ sql.toList := by decide
  have hv : '@' ∉ sql.toList := by decide
  have hn : Dialect.mySql.nationalStrings = Dialect.oracle.nationalStrings := rfl
  exact ⟨⟨hh, hv, hn⟩, replies_agree (fun _ => hh) (fun _ => hv) (fun h => absurd hn h)⟩

end SqlLexis
