import SqlLexis.Program.Basic
import SqlLexis.Proofs.Answers
import SqlLexis.Proofs.Files
import SqlLexis.Proofs.Formats.Standard
import SqlLexis.Proofs.Verdict

/-!
# All tokens of a statement, or nothing

The command that prints the tokens of a statement asks for them one by one and remembers where each
begins. It prints what a call for all tokens returns, and where that call fails it prints nothing.

* `Lexer.spans_eq_map_tokenize`: the tokens asked for one by one, with their starts, are those that
  a call for all tokens returns;
* `Program.tokensShown`: what the tokens look like in print;
* `Program.execute_tokenize`: what the command comes to.
-/

namespace SqlLexis

namespace Lexer

variable {l : Lexer} {t : Token} {e : LexError}

/-- Where the token number `i` of the ones to come begins, counted from zero. -/
def startOf (l : Lexer) (i : Nat) : Nat :=
  (l.after (List.replicate (i + 1) .next)).tokenStart

theorem startOf_succ (l : Lexer) (i : Nat) : l.startOf (i + 1) = l.next.lexer.startOf i := rfl

/-! ## One by one -/

theorem answer_of_ok (h : l.next.result = .ok t) :
    l.next.answer = .ok ⟨l.next.lexer.tokenStart, t⟩ := by
  rw [Call.answer, h]
  rfl

theorem spans_of_error (h : l.next.result = .error e) : l.spans = .error e := by
  have ha : l.next.answer = .error e := by rw [Call.answer, h]; rfl
  rw [spans_eq, drain_of_error h, List.mapM_cons, ha]
  rfl

theorem spans_of_end (h : l.next.result = .ok t) (ht : t.type.isEnd = true) : l.spans = .ok [] := by
  rw [spans_eq, drain_of_ok h, ht, if_pos rfl, List.mapM_cons, answer_of_ok h]
  rfl

theorem spans_of_token (h : l.next.result = .ok t) (ht : t.type.isEnd = false) :
    l.spans = l.next.lexer.spans.map (⟨l.next.lexer.tokenStart, t⟩ :: ·) := by
  rw [spans_eq, spans_eq, drain_of_ok h, ht, if_neg Bool.false_ne_true, List.mapM_cons,
    answer_of_ok h]
  cases hall : l.next.lexer.drain.mapM Call.answer with
  | error e => rfl
  | ok spans =>
    -- There is always an answer to come, so the one in front is not the last.
    have hne : spans ≠ [] := by
      rintro rfl
      exact answers_ne_nil _ (mapM_eq_ok_iff.1 hall)
    exact congrArg Except.ok (List.dropLast_cons_of_ne_nil hne)

/-- The tokens asked for one by one are those that a call for all tokens returns, each with the
start that the lexer then knows. -/
theorem spans_eq_map_tokenize (l : Lexer) :
    l.spans = l.tokenize.result.map fun ts => ts.mapIdx fun i t => ⟨l.startOf i, t⟩ := by
  induction l using readAll.induct with
  | case1 l e he => rw [spans_of_error he, (tokenize_of_error he).1]; rfl
  | case2 l t ht hend => rw [spans_of_end ht hend, (tokenize_of_end ht hend).1]; rfl
  | case3 l t ht hend ih =>
    have hend' : t.type.isEnd = false := by simpa using hend
    rw [spans_of_token ht hend', ih, (tokenize_of_token ht hend').1]
    cases l.next.lexer.tokenize.result with
    | error e => rfl
    | ok ts => simp only [Except.map, List.mapIdx_cons, startOf_succ]; rfl

/-- With the dictionary of a dialect no failure is a fault of the program. -/
theorem not_isFatal_of_tokenize {sql : String} {dialect : Dialect}
    (h : (new sql dialect).tokenize.result = .error e) : e.isFatal = false := by
  obtain ⟨rs, he⟩ := error_of_tokenize h
  have hk : ((new sql dialect).after rs).dictionary.KnowsOperators := by
    rw [(fixed_new_after sql dialect rs).2.1]
    exact KeywordTable.knowsOperators _
  obtain ⟨_, -, hd⟩ := ((new sql dialect).after rs).exists_decides hk
  exact (hd.harmless e he).1

end Lexer

namespace Program

open CommandLine (OutputFormat TokenizeRequest)

variable {formats : Formats} {env : Environment} {config : Config} {request : TokenizeRequest}
  {sql : String} {dialect : Dialect}

/-! ## Printing -/

theorem outcome_of_ok {α β : Type} {r : Except Failure α} {a : α} (h : r = .ok a)
    (work : α → Printing β) (printed : String) :
    Printing.outcome (liftM r >>= work) printed = (work a).outcome printed := by
  rw [h]
  rfl

/-- A step that fails prints nothing, and nothing is printed after it. -/
theorem outcome_of_error {α β : Type} {r : Except Failure α} {f : Failure} (h : r = .error f)
    (work : α → Printing β) (printed : String) :
    Printing.outcome (liftM r >>= work) printed = (.error f, printed) := by
  rw [h]
  rfl

theorem outcome_forM_print {α : Type} (line : α → String) (xs : List α) (printed : String) :
    Printing.outcome (xs.forM fun x => print (line x)) printed =
      (.ok (), printed ++ String.join (xs.map line)) := by
  induction xs generalizing printed with
  | nil => rw [List.map_nil, String.join_nil, String.append_empty]; rfl
  | cons x xs ih =>
    rw [List.map_cons, String.join_cons, ← String.append_assoc, ← ih]
    rfl

/-! ## The command -/

/-- The statement of a request: it stands in the command line, or in a file that can be read and is
text. -/
inductive Gives (env : Environment) (request : TokenizeRequest) (sql : String) : Prop where
  | words (hsql : request.sql? = some sql)
  | content {path : String} {bytes : ByteArray} (hsql : request.sql? = none)
    (hfile : request.file? = some path) (hread : env.readFile path = .ok bytes)
    (htext : String.fromUTF8? bytes = some sql)

/-- The dialect of a request: the one that it names, or else the one of the configuration. -/
inductive Selects (config : Config) (request : TokenizeRequest) (dialect : Dialect) : Prop where
  | named {n : String} (h : request.dialect? = some n) (hn : Dialect.parse n = .ok dialect)
  | configured (h : request.dialect? = none) (hd : config.dialect = dialect)

theorem statement_of_gives (h : Gives env request sql) : statement env request = .ok sql := by
  cases h with
  | words hsql => rw [statement, hsql]
  | content hsql hfile hread htext => simp only [statement, hsql, hfile, hread, htext]

theorem dialectOf_of_selects (h : Selects config request dialect) :
    dialectOf config request = .ok dialect := by
  cases h with
  | named h hn => simp only [dialectOf, h, hn]; rfl
  | configured h hd => rw [dialectOf, h, hd]

theorem dialectOf_of_error {n : String} {e : Error} (h : request.dialect? = some n)
    (hn : Dialect.parse n = .error e) : dialectOf config request = .error (.error e) := by
  simp only [dialectOf, h, hn]
  rfl

/-! ## What it comes to -/

/-- A token on a line of its own: its place, its type and its value. -/
def tokenLine (start : Nat) (t : Token) : String :=
  toString start ++ ".." ++ toString t.endOffset ++ "\t" ++ t.type.toString ++ "\t" ++ t.value
    ++ "\n"

/-- The tokens of a lexer as a format shows them: a line for each, in order, or one array. -/
def tokensShown (l : Lexer) (ts : List Token) : OutputFormat → String
  | .text => String.join (ts.mapIdx fun i t => tokenLine (l.startOf i) t)
  | .json => tokensForm ts ++ "\n"

/-- The lines or the array that are printed for tokens. -/
theorem outcome_printSpans (l : Lexer) (ts : List Token) {format : OutputFormat}
    (hjson : format = .json → formats.UsesJson) (printed : String) :
    (printSpans formats format (ts.mapIdx fun i t => ⟨l.startOf i, t⟩)).outcome printed =
      (.ok (), printed ++ tokensShown l ts format) := by
  cases format with
  | text =>
    have hlines : (ts.mapIdx fun i t => (⟨l.startOf i, t⟩ : Span)).map spanLine =
        ts.mapIdx fun i t => tokenLine (l.startOf i) t := by
      simp only [List.mapIdx_eq_zipIdx_map, List.map_map]
      rfl
    rw [printSpans, outcome_forM_print, hlines, tokensShown]
  | json =>
    have htokens : (ts.mapIdx fun i t => (⟨l.startOf i, t⟩ : Span)).map (·.token) = ts := by
      rw [List.mapIdx_eq_zipIdx_map, List.map_map]
      exact List.zipIdx_map_fst 0 ts
    simp only [printSpans, htokens, hjson rfl ts, tokensShown, ← String.append_assoc]
    rfl

theorem execute_of_dialectOf_error {f : Failure} (h : Gives env request sql)
    (hf : dialectOf config request = .error f) (printed : String) :
    (execute formats env config (.tokenize request)).outcome printed = (.error f, printed) := by
  rw [execute, tokenize, outcome_of_ok (statement_of_gives h), outcome_of_error hf]

theorem execute_of_tokenize_error {e : LexError} (h : Gives env request sql)
    (hd : dialectOf config request = .ok dialect)
    (he : (Lexer.new sql dialect).tokenize.result = .error e) (printed : String) :
    (execute formats env config (.tokenize request)).outcome printed =
      (.error (.error (.lexical e)), printed) := by
  rw [execute, tokenize, outcome_of_ok (statement_of_gives h), outcome_of_ok hd,
    Lexer.spans_eq_map_tokenize, he]
  rfl

theorem execute_of_tokenize {ts : List Token} (h : Gives env request sql)
    (hd : dialectOf config request = .ok dialect)
    (hts : (Lexer.new sql dialect).tokenize.result = .ok ts)
    (hjson : request.format = .json → formats.UsesJson) (printed : String) :
    (execute formats env config (.tokenize request)).outcome printed =
      (.ok (), printed ++ tokensShown (Lexer.new sql dialect) ts request.format) := by
  rw [execute, tokenize, outcome_of_ok (statement_of_gives h), outcome_of_ok hd,
    Lexer.spans_eq_map_tokenize, hts]
  exact outcome_printSpans _ ts hjson printed

/-- The command that prints the tokens of a statement agrees with the lexer, and where something
fails it adds nothing to what was printed before. -/
structure AllOrNothing (formats : Formats) (env : Environment) (config : Config)
    (request : TokenizeRequest) (sql : String) : Prop where
  /-- A name that no dialect has is an error. -/
  unsupported {n : String} {e : Error} (h : request.dialect? = some n)
    (hn : Dialect.parse n = .error e) (printed : String) :
    (execute formats env config (.tokenize request)).outcome printed = (.error (.error e), printed)
  /-- An error of the lexer is the error of the command, and never a fault of the program. -/
  failed {dialect : Dialect} {e : LexError} (h : Selects config request dialect)
    (he : (Lexer.new sql dialect).tokenize.result = .error e) (printed : String) :
    e.isFatal = false ∧ (execute formats env config (.tokenize request)).outcome printed =
      (.error (.error (.lexical e)), printed)
  /-- The tokens of the lexer are printed, all of them and in order. For the array it takes a format
  that writes arrays of tokens as JSON. -/
  done {dialect : Dialect} {ts : List Token} (h : Selects config request dialect)
    (hts : (Lexer.new sql dialect).tokenize.result = .ok ts)
    (hjson : request.format = .json → formats.UsesJson) (printed : String) :
    (execute formats env config (.tokenize request)).outcome printed =
      (.ok (), printed ++ tokensShown (Lexer.new sql dialect) ts request.format)

example :
    let env : Environment := ⟨fun _ => none, Folder.read [], "linux", "x86_64"⟩
    (execute .standard env default (.tokenize ⟨some "a <= 1", none, none, .text⟩)).outcome "" =
      (.ok (), "0..1\tIdentifier\ta\n2..4\t<=\t<=\n5..6\tInt\t1\n") := by
  decide +kernel

end Program

end SqlLexis
