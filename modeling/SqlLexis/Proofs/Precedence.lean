import Mathlib
import SqlLexis.Program.Basic
import SqlLexis.Proofs.StoredConfig

/-!
# Which configuration counts

A configuration is settled from four sources: the command line, the variables, a file and the
defaults. Each value is that of the first source that gives one. Three things can go wrong, and the
first of them is what is reported: the file is of no use, the variable names no dialect, or the log
level that counts is not known.

* `Program.FileGives`: what a configuration file gives, or why it is of no use;
* `Program.Settles`: what the sources lead to;
* `Program.loadConfig_byPrecedence`: the configuration is settled so, and a log level that is not
  known does no harm where a known one counts before it, and only there.
-/

namespace SqlLexis

/-! ## Names in any case -/

theorem lower_upper (s : Text) : lower (upper s) = lower s := by
  simp [lower, upper, Function.comp_def]

theorem upper_lower (s : Text) : upper (lower s) = upper s := by
  simp [lower, upper, Function.comp_def]

/-- A text in lower case is another one in lower case if they differ in the case alone. -/
theorem lower_eq_iff_sameWord {s t : Text} (ht : lower t = t) :
    lower s = t ↔ sameWord s t = true := by
  rw [sameWord, beq_iff_eq]
  constructor
  · rintro rfl
    exact (upper_lower s).symm
  · intro h
    rw [← lower_upper s, h, lower_upper, ht]

/-- A word that is one of some names, in any case. -/
def IsNamed (names : List String) (word : String) : Prop :=
  ∃ n ∈ names, sameWord word.toList n.toList = true

theorem contains_lower_iff {names : List String} (h : ∀ n ∈ names, lower n.toList = n.toList)
    (word : String) :
    names.contains (String.ofList (lower word.toList)) = true ↔ IsNamed names word := by
  rw [List.contains_iff_mem]
  constructor
  · intro hm
    refine ⟨_, hm, (lower_eq_iff_sameWord (h _ hm)).1 ?_⟩
    rw [String.toList_ofList]
  · rintro ⟨n, hn, hs⟩
    rwa [(lower_eq_iff_sameWord (h n hn)).2 hs, String.ofList_toList]

namespace Dialect

variable {d : Dialect} {n : String}

theorem names_lower (d : Dialect) : ∀ n ∈ d.names, lower n.toList = n.toList := by
  cases d <;> decide

/-- No two dialects share a name. -/
theorem eq_of_mem_names (d d' : Dialect) : ∀ n ∈ d.names, n ∈ d'.names → d = d' := by
  cases d <;> cases d' <;> decide

theorem isNamed_of_ofName? (h : ofName? n = some d) : IsNamed d.names n := by
  rw [← contains_lower_iff d.names_lower]
  exact List.find?_some
    (p := fun d : Dialect => d.names.contains (String.ofList (lower n.toList))) h

theorem ofName?_eq_some_iff : ofName? n = some d ↔ IsNamed d.names n := by
  refine ⟨isNamed_of_ofName?, fun h => ?_⟩
  rw [← contains_lower_iff d.names_lower] at h
  cases hf : ofName? n with
  | none =>
    have hall : d ∈ all := by cases d <;> decide
    exact absurd h (List.find?_eq_none.1 hf d hall)
  | some d' =>
    have h' := isNamed_of_ofName? hf
    rw [← contains_lower_iff d'.names_lower] at h'
    rw [List.contains_iff_mem] at h h'
    rw [eq_of_mem_names d d' _ h h']

theorem parse_eq_ok_iff : parse n = .ok d ↔ IsNamed d.names n := by
  rw [← ofName?_eq_some_iff, parse]
  cases ofName? n <;> simp

/-- What is not the name of a dialect is complained about. -/
theorem parse_of_not_isNamed (h : ∀ d : Dialect, ¬ IsNamed d.names n) :
    parse n = .error (.configuration ("Unsupported database type: " ++ n)) := by
  have hn : ofName? n = none := by
    rw [Option.eq_none_iff_forall_ne_some]
    exact fun d hd => h d (ofName?_eq_some_iff.1 hd)
  rw [parse, hn]
  rfl

end Dialect

namespace Config

/-! ## The log level -/

theorem isLogLevel_iff {level : String} : isLogLevel level = true ↔ IsNamed logLevels level :=
  contains_lower_iff (by decide) level

/-- The complaint about a log level that is not known. -/
def unknownLevel (level : String) : Error :=
  .configuration
    ("Unknown log level '" ++ level ++ "', expected one of " ++ ", ".intercalate logLevels)

theorem validate_eq (c : Config) [Decidable (IsNamed logLevels c.logLevel)] :
    c.validate =
      if IsNamed logLevels c.logLevel then .ok () else .error (unknownLevel c.logLevel) := by
  unfold validate
  simp only [isLogLevel_iff]
  rfl

end Config

namespace Program

open CommandLine (Invocation)

variable {formats : Formats} {env : Environment} {path? : Option String} {invocation : Invocation}
  {file : Overrides}

/-! ## The file -/

/-- What the configuration file at a path gives, or why it is of no use. Without a path nothing is
given. -/
inductive FileGives (formats : Formats) (env : Environment) :
    Option String → Except Failure Overrides → Prop where
  | absent : FileGives formats env none (.ok ⟨none, none⟩)
  | unreadable {path : String} {fault : FileFault} (hread : env.readFile path = .error fault) :
    FileGives formats env (some path) (.error (.config path (.io fault.message)))
  | notText {path : String} {bytes : ByteArray} (hread : env.readFile path = .ok bytes)
    (htext : String.fromUTF8? bytes = none) :
    FileGives formats env (some path) (.error (.config path (.io Error.notUtf8)))
  | notConfig {path s report : String} {bytes : ByteArray} (hread : env.readFile path = .ok bytes)
    (htext : String.fromUTF8? bytes = some s) (hformat : formats.readConfig s = .error report) :
    FileGives formats env (some path)
      (.error (.config path (.configuration ("Invalid config " ++ path ++ ": " ++ report))))
  | values {path s : String} {bytes : ByteArray} {given : Overrides}
    (hread : env.readFile path = .ok bytes) (htext : String.fromUTF8? bytes = some s)
    (hformat : formats.readConfig s = .ok given) : FileGives formats env (some path) (.ok given)

theorem exists_fileGives (formats : Formats) (env : Environment) (path? : Option String) :
    ∃ r, FileGives formats env path? r := by
  cases path? with
  | none => exact ⟨_, .absent⟩
  | some path =>
    cases hread : env.readFile path with
    | error fault => exact ⟨_, .unreadable hread⟩
    | ok bytes =>
      cases htext : String.fromUTF8? bytes with
      | none => exact ⟨_, .notText hread htext⟩
      | some s =>
        cases hformat : formats.readConfig s with
        | error report => exact ⟨_, .notConfig hread htext hformat⟩
        | ok given => exact ⟨_, .values hread htext hformat⟩

/-- The configuration that a file leads to if no other source gives anything. -/
def stored (formats : Formats) (env : Environment) (path? : Option String) :
    Except Failure Config :=
  match path? with
  | some path => (Config.load formats env.readFile path).mapError (.config path)
  | none => .ok default

theorem stored_of_fileGives {r : Except Failure Overrides} (h : FileGives formats env path? r) :
    stored formats env path? = r.map (default : Config).merge := by
  cases h with
  | absent => rfl
  | unreadable hread => simp only [stored, Config.load, hread]; rfl
  | notText hread htext => simp only [stored, Config.load, hread, htext]; rfl
  | notConfig hread htext hformat =>
    simp only [stored, Config.load, hread, htext, hformat]; rfl
  | values hread htext hformat => simp only [stored, Config.load, hread, htext, hformat]; rfl

/-! ## The variables and the command line -/

/-- The dialect that the value of a variable names. A variable without a value names none. -/
inductive VariableNames : Option String → Option Dialect → Prop where
  | unset : VariableNames none none
  | named {n : String} {d : Dialect} (h : IsNamed d.names n) : VariableNames (some n) (some d)

/-- The dialects that are asked for, by the variable and in the file. The first one counts. -/
def askedDialects (named? : Option Dialect) (file : Overrides) : List Dialect :=
  named?.toList ++ file.dialect?.toList

/-- The log levels that are asked for, on the command line, by the variable and in the file. The
first one counts. -/
def askedLevels (env : Environment) (invocation : Invocation) (file : Overrides) : List String :=
  invocation.logLevel?.toList ++ (env.valueOf? Config.logLevelVariable).toList
    ++ file.logLevel?.toList

/-- The configuration of what is asked for, with the defaults for what is not. -/
def asked (env : Environment) (invocation : Invocation) (named? : Option Dialect)
    (file : Overrides) : Config where
  dialect := (askedDialects named? file).headD default
  logLevel := (askedLevels env invocation file).headD Config.defaultLogLevel

/-- What the sources of a configuration lead to. The constructors exclude one another, and stand in
the order in which faults are noticed. -/
inductive Settles (formats : Formats) (env : Environment) (invocation : Invocation) :
    Except Failure Config → Prop where
  | uselessFile {f : Failure} (hfile : FileGives formats env invocation.config? (.error f)) :
    Settles formats env invocation (.error f)
  | unknownDialect {file : Overrides} {n : String}
    (hfile : FileGives formats env invocation.config? (.ok file))
    (hvalue : env.valueOf? Config.dialectVariable = some n)
    (hn : ∀ d : Dialect, ¬ IsNamed d.names n) :
    Settles formats env invocation
      (.error (.error (.configuration ("Unsupported database type: " ++ n))))
  | unknownLevel {file : Overrides} {named? : Option Dialect} {level : String}
    (hfile : FileGives formats env invocation.config? (.ok file))
    (hnamed : VariableNames (env.valueOf? Config.dialectVariable) named?)
    (hasked : (asked env invocation named? file).logLevel = level)
    (hlevel : ¬ IsNamed Config.logLevels level) :
    Settles formats env invocation (.error (.error (Config.unknownLevel level)))
  | config {file : Overrides} {named? : Option Dialect} {c : Config}
    (hfile : FileGives formats env invocation.config? (.ok file))
    (hnamed : VariableNames (env.valueOf? Config.dialectVariable) named?)
    (hasked : asked env invocation named? file = c)
    (hlevel : IsNamed Config.logLevels c.logLevel) : Settles formats env invocation (.ok c)

theorem ofVars_of_names {named? : Option Dialect}
    (h : VariableNames (env.valueOf? Config.dialectVariable) named?) :
    Overrides.ofVars env.valueOf? = .ok ⟨named?, env.valueOf? Config.logLevelVariable⟩ := by
  unfold Overrides.ofVars
  generalize env.valueOf? Config.dialectVariable = value? at h
  cases h with
  | unset => rfl
  | named hn => simp only [Dialect.parse_eq_ok_iff.2 hn]

theorem ofVars_of_unknown {n : String} (h : env.valueOf? Config.dialectVariable = some n)
    (hn : ∀ d : Dialect, ¬ IsNamed d.names n) : Overrides.ofVars env.valueOf? =
      .error (.configuration ("Unsupported database type: " ++ n)) := by
  unfold Overrides.ofVars
  rw [h]
  simp only [Dialect.parse_of_not_isNamed hn]

/-- A value that is put over another one, which is put over a third, is the first of them. -/
theorem merge_merge (named? : Option Dialect) (file : Overrides) :
    ((default : Config).merge file).merge
        ⟨named?, invocation.logLevel?.or (env.valueOf? Config.logLevelVariable)⟩ =
      asked env invocation named? file := by
  obtain ⟨dialect?, level?⟩ := file
  unfold asked askedDialects askedLevels Config.merge
  cases named? <;> cases dialect? <;> cases invocation.logLevel? <;>
    cases env.valueOf? Config.logLevelVariable <;> cases level? <;> rfl

/-! ## What they lead to -/

theorem loadConfig_eq (formats : Formats) (env : Environment) (path? level? : Option String) :
    loadConfig formats env path? level? = stored formats env path? >>= fun c =>
      (Overrides.ofVars env.valueOf?).mapError .error >>= fun o =>
        let settled := c.merge ⟨o.dialect?, level?.or o.logLevel?⟩
        (settled.validate.mapError .error).map fun _ => settled := by
  cases path? <;> rfl

theorem loadConfig_of_uselessFile {f : Failure}
    (hfile : FileGives formats env invocation.config? (.error f)) :
    loadConfig formats env invocation.config? invocation.logLevel? = .error f := by
  have hs : stored formats env invocation.config? = .error f := stored_of_fileGives hfile
  rw [loadConfig_eq, hs]
  rfl

theorem loadConfig_of_unknownDialect {n : String}
    (hfile : FileGives formats env invocation.config? (.ok file))
    (hvalue : env.valueOf? Config.dialectVariable = some n)
    (hn : ∀ d : Dialect, ¬ IsNamed d.names n) :
    loadConfig formats env invocation.config? invocation.logLevel? =
      .error (.error (.configuration ("Unsupported database type: " ++ n))) := by
  have hs : stored formats env invocation.config? = .ok _ := stored_of_fileGives hfile
  rw [loadConfig_eq, hs, ofVars_of_unknown hvalue hn]
  rfl

/-- Once the file and the variable are in order, the log level decides. -/
theorem loadConfig_of_names {named? : Option Dialect}
    (hfile : FileGives formats env invocation.config? (.ok file))
    (hnamed : VariableNames (env.valueOf? Config.dialectVariable) named?) :
    loadConfig formats env invocation.config? invocation.logLevel? =
      ((asked env invocation named? file).validate.mapError .error).map
        fun _ => asked env invocation named? file := by
  have hs : stored formats env invocation.config? = .ok _ := stored_of_fileGives hfile
  rw [loadConfig_eq, hs, ofVars_of_names hnamed, ← merge_merge]
  rfl

theorem loadConfig_of_settles {r : Except Failure Config} (h : Settles formats env invocation r) :
    loadConfig formats env invocation.config? invocation.logLevel? = r := by
  classical
  cases h with
  | uselessFile hfile => exact loadConfig_of_uselessFile hfile
  | unknownDialect hfile hvalue hn => exact loadConfig_of_unknownDialect hfile hvalue hn
  | unknownLevel hfile hnamed hasked hlevel =>
    subst hasked
    rw [loadConfig_of_names hfile hnamed, Config.validate_eq, if_neg hlevel]
    rfl
  | config hfile hnamed hasked hlevel =>
    subst hasked
    rw [loadConfig_of_names hfile hnamed, Config.validate_eq, if_pos hlevel]
    rfl

/-- Something always comes of the sources. -/
theorem exists_settles (formats : Formats) (env : Environment) (invocation : Invocation) :
    ∃ r, Settles formats env invocation r := by
  obtain ⟨r, hfile⟩ := exists_fileGives formats env invocation.config?
  cases r with
  | error f => exact ⟨_, .uselessFile hfile⟩
  | ok file =>
    have hend : ∀ named?, VariableNames (env.valueOf? Config.dialectVariable) named? →
        ∃ r, Settles formats env invocation r := by
      intro named? hnamed
      by_cases hlevel : IsNamed Config.logLevels (asked env invocation named? file).logLevel
      · exact ⟨_, .config hfile hnamed rfl hlevel⟩
      · exact ⟨_, .unknownLevel hfile hnamed rfl hlevel⟩
    cases hvalue : env.valueOf? Config.dialectVariable with
    | none => exact hend none (hvalue ▸ .unset)
    | some n =>
      by_cases hn : ∃ d : Dialect, IsNamed d.names n
      · obtain ⟨d, hd⟩ := hn
        exact hend (some d) (hvalue ▸ .named hd)
      · exact ⟨_, .unknownDialect hfile hvalue (not_exists.1 hn)⟩

/-- The configuration of a command line is settled by its sources, in their order. -/
structure ByPrecedence (formats : Formats) (env : Environment) (invocation : Invocation) :
    Prop where
  settles (r : Except Failure Config) :
    loadConfig formats env invocation.config? invocation.logLevel? = r ↔
      Settles formats env invocation r
  /-- A log level that is not known does no harm if a known one counts before it, and only then. -/
  harmless {named? : Option Dialect} {file : Overrides} {before after : List String}
    {level : String} (hfile : FileGives formats env invocation.config? (.ok file))
    (hnamed : VariableNames (env.valueOf? Config.dialectVariable) named?)
    (hasked : askedLevels env invocation file = before ++ level :: after)
    (hlevel : ¬ IsNamed Config.logLevels level) :
    (∃ c, loadConfig formats env invocation.config? invocation.logLevel? = .ok c) ↔
      ∃ counts, before.head? = some counts ∧ IsNamed Config.logLevels counts

theorem loadConfig_ok_iff {named? : Option Dialect}
    (hfile : FileGives formats env invocation.config? (.ok file))
    (hnamed : VariableNames (env.valueOf? Config.dialectVariable) named?) :
    (∃ c, loadConfig formats env invocation.config? invocation.logLevel? = .ok c) ↔
      IsNamed Config.logLevels (asked env invocation named? file).logLevel := by
  classical
  rw [loadConfig_of_names hfile hnamed, Config.validate_eq]
  split
  · next hlevel => exact ⟨fun _ => hlevel, fun _ => ⟨_, rfl⟩⟩
  · next hlevel =>
    refine ⟨fun h => ?_, fun h => absurd h hlevel⟩
    obtain ⟨c, hc⟩ := h
    cases hc

/-- How the configuration of any command line is settled, whatever its command is. -/
theorem loadConfig_byPrecedence (formats : Formats) (env : Environment)
    (invocation : Invocation) : ByPrecedence formats env invocation where
  settles r := by
    constructor
    · intro h
      obtain ⟨r', hr'⟩ := exists_settles formats env invocation
      rwa [← h, loadConfig_of_settles hr']
    · exact loadConfig_of_settles
  harmless {named? file before after level} hfile hnamed hasked hlevel := by
    rw [loadConfig_ok_iff hfile hnamed, asked, hasked]
    cases before with
    | nil => simpa using hlevel
    | cons counts before => simp

/-- A file whose log level is not known. With another one on the command line it is of use, alone it
is not. -/
theorem loadConfig_byPrecedence_loud :
    let s := "database_type = \"oracle\"\n[logging]\nlevel = \"loud\"\n"
    let folder : Folder := [("rustlex.toml", s.toUTF8)]
    let env : Environment := ⟨fun _ => none, folder.read, "linux", "x86_64"⟩
    loadConfig .standard env (some "rustlex.toml") (some "Warn") = .ok ⟨.oracle, "Warn"⟩ ∧
      ¬ ∃ c, loadConfig .standard env (some "rustlex.toml") none = .ok c := by
  intro s folder env
  have hread : env.readFile "rustlex.toml" = .ok s.toUTF8 :=
    Folder.read_of_lookup rfl (by decide) (by decide) (by decide)
  have hformat : Formats.standard.readConfig s = .ok ⟨some .oracle, some "loud"⟩ := by
    decide +kernel
  have hfile : FileGives .standard env (some "rustlex.toml") (.ok ⟨some .oracle, some "loud"⟩) :=
    .values hread (Config.fromUTF8?_toUTF8 s) hformat
  constructor
  · have hlevel : IsNamed Config.logLevels "Warn" := by unfold IsNamed; decide
    have h := loadConfig_byPrecedence .standard env ⟨some "rustlex.toml", some "Warn", .info⟩
    exact (h.settles _).2 (.config hfile .unset rfl hlevel)
  · have hlevel : ¬ IsNamed Config.logLevels "loud" := by unfold IsNamed; decide
    have hasked : askedLevels env ⟨some "rustlex.toml", none, .info⟩ ⟨some .oracle, some "loud"⟩ =
        [] ++ "loud" :: [] := rfl
    have h := loadConfig_byPrecedence .standard env ⟨some "rustlex.toml", none, .info⟩
    rw [h.harmless hfile .unset hasked hlevel]
    rintro ⟨_, hhead, -⟩
    cases hhead

end Program

end SqlLexis
