import SqlLexis.Config.Stored
import SqlLexis.Proofs.Files
import SqlLexis.Proofs.Formats.Standard

/-!
# Configurations that are saved load back

A configuration is saved as the document of its two values. Both stand where they are looked for, so
the file gives both of them and nothing is left to a default.

* `Config.gives_document`: what the document of a configuration gives;
* `Config.save_eq_ok_iff`: when a configuration is saved;
* `Config.Reloads`: saving a configuration and loading it again changes nothing;
* `Config.save_reloads`: so it is for every log level that is a plain string.
-/

namespace SqlLexis.Config

open Toml (IsPlain)

variable {σ : Type} {formats : Formats} {files : FileSystem σ} {path s : String} {c : Config}
  {before after : σ}

/-- The document of a configuration gives both values. -/
theorem gives_document (c : Config) (h : IsPlain c.logLevel) :
    (c.document h).Gives ⟨some c.dialect, some c.logLevel⟩ where
  dialect := .named (.inl rfl)
  level := rfl
  isString := by
    show dialectKey ∉ [loggingKey]
    decide
  isTable := by
    show loggingKey ∉ [dialectKey]
    decide

theorem fromUTF8?_toUTF8 (s : String) : String.fromUTF8? s.toUTF8 = some s :=
  dif_pos s.isValidUTF8

/-- A file with the document of a configuration loads as that configuration. -/
theorem load_of_spells (hformats : formats.UsesToml) {h : IsPlain c.logLevel}
    (hs : (c.document h).Spells s) {read : String → Except FileFault ByteArray}
    (hread : read path = .ok s.toUTF8) : load formats read path = .ok c := by
  have hgiven := hformats.reads hs (gives_document c h)
  simp only [load, hread, fromUTF8?_toUTF8, hgiven]
  rfl

/-- Saving succeeds where there is a document and the file can be written, and only there. -/
theorem save_eq_ok_iff : save formats files path c before = (.ok (), after) ↔
    ∃ s, formats.writeConfig c = .ok s ∧ files.write before path s.toUTF8 = (.ok (), after) := by
  constructor
  · intro h
    rw [save] at h
    cases hdocument : formats.writeConfig c with
    | error report =>
      simp only [hdocument] at h
      cases h
    | ok s =>
      rcases hwrite : files.write before path s.toUTF8 with ⟨fault | _, later⟩
      · simp only [hdocument, hwrite] at h
        cases h
      · simp only [hdocument, hwrite] at h
        cases h
        exact ⟨s, rfl, hwrite⟩
  · rintro ⟨s, hdocument, hwrite⟩
    simp only [save, hdocument, hwrite]

theorem save_of_fault {fault : FileFault} (hdocument : formats.writeConfig c = .ok s)
    (hwrite : files.write before path s.toUTF8 = (.error fault, after)) :
    save formats files path c before = (.error (.io fault.message), after) := by
  simp only [save, hdocument, hwrite]

/-- A configuration can be saved, unless the file cannot be written. -/
theorem save_outcome (hformats : formats.UsesToml) (files : FileSystem σ) (path : String)
    (hlevel : IsPlain c.logLevel) (before : σ) :
    (∃ after, save formats files path c before = (.ok (), after)) ∨
      ∃ content fault after, files.write before path content = (.error fault, after) ∧
        save formats files path c before = (.error (.io fault.message), after) := by
  obtain ⟨s, hdocument, -⟩ := hformats.writes c hlevel
  rcases hwrite : files.write before path s.toUTF8 with ⟨fault | _, after⟩
  · exact .inr ⟨s.toUTF8, fault, after, hwrite, save_of_fault hdocument hwrite⟩
  · exact .inl ⟨after, save_eq_ok_iff.2 ⟨s, hdocument, hwrite⟩⟩

/-- A configuration that was saved loads as what it was. -/
theorem load_of_save (hformats : formats.UsesToml) (hfiles : files.Keeps path)
    (hlevel : IsPlain c.logLevel) (h : save formats files path c before = (.ok (), after)) :
    load formats (files.read after) path = .ok c := by
  obtain ⟨s, hdocument, hwrite⟩ := save_eq_ok_iff.1 h
  obtain ⟨_, hspelled, hs⟩ := hformats.writes c hlevel
  rw [hdocument] at hspelled
  cases hspelled
  exact load_of_spells hformats hs (hfiles before s.toUTF8 after hwrite)

/-- A configuration that was saved to the file at a path is as good as before: it loads as what it
was, it takes overrides as it did, and the same is said about its log level. -/
structure Reloads (formats : Formats) (files : FileSystem σ) (path : String) (c : Config)
    (before : σ) : Prop where
  /-- It can be saved, unless the file cannot be written, and then the reason for that is given. -/
  saves : (∃ after, save formats files path c before = (.ok (), after)) ∨
    ∃ content fault after, files.write before path content = (.error fault, after) ∧
      save formats files path c before = (.error (.io fault.message), after)
  loads {after : σ} (h : save formats files path c before = (.ok (), after)) :
    load formats (files.read after) path = .ok c
  merges {after : σ} (h : save formats files path c before = (.ok (), after)) (o : Overrides) :
    (load formats (files.read after) path).map (·.merge o) = .ok (c.merge o)
  validates {after : σ} (h : save formats files path c before = (.ok (), after)) :
    (load formats (files.read after) path >>= validate) = c.validate

/-- A configuration with any plain log level can be saved and loads back, where files keep what is
written to them. -/
theorem save_reloads (hformats : formats.UsesToml) (hfiles : files.Keeps path)
    (hlevel : IsPlain c.logLevel) (before : σ) : Reloads formats files path c before where
  saves := save_outcome hformats files path hlevel before
  loads h := load_of_save hformats hfiles hlevel h
  merges h o := by
    rw [load_of_save hformats hfiles hlevel h]
    rfl
  validates h := by
    rw [load_of_save hformats hfiles hlevel h]
    rfl

/-- A log level that looks like a comment, a header and an assignment, in an empty folder. -/
theorem save_reloads_folder :
    let c : Config := ⟨.sqlServer, "# [é] = 1"⟩
    Formats.standard.UsesToml ∧ Folder.fileSystem.Keeps "rustlex.toml" ∧ IsPlain c.logLevel ∧
      ∃ after, save .standard Folder.fileSystem "rustlex.toml" c [] = (.ok (), after) ∧
        load .standard (Folder.read after) "rustlex.toml" = .ok c := by
  intro c
  have hlevel : IsPlain c.logLevel := by decide
  have hkeeps := Folder.keeps "rustlex.toml"
  have h : Reloads .standard Folder.fileSystem "rustlex.toml" c [] :=
    save_reloads Formats.usesToml_standard hkeeps hlevel []
  refine ⟨Formats.usesToml_standard, hkeeps, hlevel, ?_⟩
  rcases h.saves with ⟨after, hafter⟩ | ⟨content, fault, after, hwrite, -⟩
  · exact ⟨after, hafter, h.loads hafter⟩
  · -- The name of the file leads to itself, so it can be written.
    have hname : Folder.locate [] "rustlex.toml" = .ok "rustlex.toml" :=
      Folder.locate_name [] (by decide) (by decide) (by decide)
    change Folder.write [] "rustlex.toml" content = _ at hwrite
    rw [Folder.write, hname] at hwrite
    cases hwrite

end SqlLexis.Config
