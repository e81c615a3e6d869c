import SqlLexis.Formats.Standard
import SqlLexis.Proofs.Formats
import SqlLexis.Proofs.Toml.Entries

/-!
# TOML and JSON are what is expected

`Formats.standard` can be relied on as `Formats.UsesToml` and `Formats.UsesJson` say.

* `Toml.document_spells`: the document of a configuration is written as it should be;
* `Toml.settings?_of_gives`: a document of strings is understood as it should be;
* `Json.pretty_tokens`: the array of tokens looks as it should.
-/

namespace SqlLexis

namespace Toml

open Entries (find?)

/-! ## Configurations are written -/

theorem escaped_of_isUnescaped {c : Char} (h : isUnescaped c = true) : escaped c = [c] := by
  obtain ⟨hplain, hquote, hbackslash⟩ := of_isUnescaped h
  unfold escaped
  split
  case h_6 => exact absurd rfl hquote
  case h_7 => exact absurd rfl hbackslash
  case h_8 => exact if_pos hplain
  -- The others are control characters.
  all_goals exact absurd h (by decide)

theorem flatMap_escaped {s : Text} (h : s.all isUnescaped = true) : s.flatMap escaped = s := by
  induction s with
  | nil => rfl
  | cons c s ih =>
    rw [List.all_cons, Bool.and_eq_true] at h
    obtain ⟨hc, hs⟩ := h
    rw [List.flatMap_cons, escaped_of_isUnescaped hc, ih hs]
    rfl

/-- A plain string stands between double quotes as it is. -/
theorem written_of_isPlain {s : String} (h : IsPlain s) :
    written s.toList = ['"'] ++ s.toList ++ ['"'] := by
  have hany : s.toList.any (fun c => c == '"' || c == '\\') = false := by
    rw [List.any_eq_false]
    intro c hc
    obtain ⟨-, hquote, hbackslash⟩ := of_isUnescaped (List.all_eq_true.1 h c hc)
    simp [hquote, hbackslash]
  rw [written, hany, Bool.false_and, if_neg Bool.false_ne_true, flatMap_escaped h]

/-- The document of a configuration has a blank line behind the dialect. -/
theorem document_spells (c : Config) (h : IsPlain c.logLevel) :
    (c.document h).Spells (String.ofList (document c)) := by
  have hdialect : "database_type = ".toList ++ ['"'] =
      Config.dialectKey.name.toList ++ " = \"".toList := by decide
  have hlogging : ['"'] ++ "\n\n[logging]\nlevel = ".toList ++ ['"'] =
      "\"\n".toList ++ Line.blank.text ++ (Line.header Config.loggingKey).text
        ++ Config.levelKey.name.toList ++ " = \"".toList := by decide
  have hend : ['"'] ++ ['\n'] = "\"\n".toList := by decide
  refine ⟨[.assign Config.dialectKey ⟨c.dialect.configName, Config.isPlain_configName c.dialect⟩,
    .blank, .header Config.loggingKey, .assign Config.levelKey ⟨c.logLevel, h⟩], rfl, ?_⟩
  calc (String.ofList (document c)).toList
    _ = ("database_type = ".toList ++ ['"']) ++ c.dialect.configName.toList
          ++ (['"'] ++ "\n\n[logging]\nlevel = ".toList ++ ['"']) ++ c.logLevel.toList
          ++ (['"'] ++ ['\n']) := by
      unfold document
      simp only [String.toList_ofList, List.append_assoc,
        written_of_isPlain (Config.isPlain_configName c.dialect), written_of_isPlain h]
    _ = _ := by
      rw [hdialect, hlogging, hend]
      simp only [List.flatMap_cons, List.flatMap_nil, Line.text, List.append_assoc, List.append_nil]

/-! ## Documents are understood -/

variable {d : Document} {given : Overrides}

theorem find?_ofKeys {α : Type} (value : α → Value) (xs : List (BareKey × α)) (key : BareKey) :
    find? (Entries.ofKeys value xs) key.name = (xs.lookup key).map value := by
  induction xs with
  | nil => rfl
  | cons x xs ih =>
    rw [Entries.ofKeys] at ih ⊢
    rw [List.map_cons, find?, List.lookup_cons]
    by_cases hx : x.1 = key
    · rw [hx, if_pos rfl, beq_self_eq_true]
      rfl
    · have hne : (key == x.1) = false := beq_false_of_ne (Ne.symm hx)
      rw [if_neg fun h => hx (BareKey.name_injective h), hne, ih]

theorem lookup_of_not_mem {β : Type} {xs : List (BareKey × β)} {key : BareKey}
    (h : key ∉ xs.map Prod.fst) : xs.lookup key = none := by
  rw [List.lookup_eq_none_iff]
  intro entry hm
  rw [bne_iff_ne]
  rintro rfl
  exact h (List.mem_map_of_mem hm)

theorem find?_entries (d : Document) (key : BareKey) :
    find? d.entries key.name = ((d.strings.lookup key).map fun value => .string value.text).or
      ((d.tables.lookup key).map fun strings => .table .header strings.entries) := by
  rw [Document.entries, Entries.find?_append, Strings.entries, find?_ofKeys, find?_ofKeys]

theorem entriesReadable_iff {entries : Entries} :
    Value.entriesReadable entries = true ↔ ∀ entry ∈ entries, entry.2.isReadable = true := by
  induction entries with
  | nil => simp [Value.entriesReadable]
  | cons entry entries ih =>
    rw [Value.entriesReadable, Bool.and_eq_true, ih, List.forall_mem_cons]

theorem Strings.entriesReadable (strings : Strings) :
    Value.entriesReadable strings.entries = true := by
  rw [entriesReadable_iff, Strings.entries, Entries.ofKeys, List.forall_mem_map]
  intro entry _
  rw [Value.isReadable]

theorem Document.isReadable_of_mem {entry : String × Value} (h : entry ∈ d.entries) :
    entry.2.isReadable = true := by
  rcases List.mem_append.1 h with h | h
  · exact entriesReadable_iff.1 d.strings.entriesReadable entry h
  · obtain ⟨table, -, rfl⟩ := List.mem_map.1 h
    rw [Value.isReadable]
    exact table.2.entriesReadable

theorem dialect_of_names {value? : Option PlainString} {dialect? : Option Dialect}
    (h : Config.Names value? dialect?) :
    (value?.map fun value => Value.string value.text).mapM dialectOf? = some dialect? := by
  cases h with
  | absent => rfl
  | @named value d h =>
    have hd := Dialect.ofConfigName?_of_mem d value.text (List.mem_cons.2 h)
    rw [Option.map_some, Option.mapM_some, dialectOf?, hd]
    rfl

theorem level_of_tables (strings? : Option Strings) :
    (strings?.map fun strings => Value.table .header strings.entries).mapM levelOf? =
      some (strings?.map fun strings => (strings.lookup Config.levelKey).map (·.text)) := by
  cases strings? with
  | none => rfl
  | some strings =>
    have hfind : find? strings.entries "level" =
        (strings.lookup Config.levelKey).map fun value => .string value.text :=
      find?_ofKeys _ strings Config.levelKey
    have hlevel : levelOf? (.table .header strings.entries) =
        some ((strings.lookup Config.levelKey).map (·.text)) := by
      rw [levelOf?, strings.entriesReadable, if_pos rfl, hfind]
      cases strings.lookup Config.levelKey <;> rfl
    rw [Option.map_some, Option.mapM_some, hlevel]
    rfl

/-- A document is understood as the values that it gives. -/
theorem settings?_of_gives (h : d.Gives given) : settings? d.entries = some given := by
  have hdialect : find? d.entries "database_type" =
      (d.strings.lookup Config.dialectKey).map fun value => .string value.text := by
    have hd := find?_entries d Config.dialectKey
    rwa [lookup_of_not_mem h.isString, Option.map_none, Option.or_none] at hd
  have hlogging : find? d.entries "logging" =
      (d.tables.lookup Config.loggingKey).map fun strings => .table .header strings.entries := by
    have hl := find?_entries d Config.loggingKey
    rwa [lookup_of_not_mem h.isTable, Option.map_none, Option.none_or] at hl
  have hothers : Value.entriesReadable
      (d.entries.filter fun entry => entry.1 ∉ ["database_type", "logging"]) = true :=
    entriesReadable_iff.2 fun entry hm => Document.isReadable_of_mem (List.mem_of_mem_filter hm)
  obtain ⟨dialect?, level?⟩ := given
  have hlevel : level? = _ := h.level
  unfold settings?
  rw [hdialect, dialect_of_names h.dialect, hlogging, level_of_tables, Option.bind_eq_bind,
    Option.bind_some, Option.bind_eq_bind, Option.bind_some]
  simp only [hothers, if_true]
  rw [hlevel]
  cases d.tables.lookup Config.loggingKey <;> rfl

end Toml

namespace Json

/-! ## Tokens are written -/

theorem fourHexDigits_eq : ∀ n < 32,
    fourHexDigits n = ['0', '0', Nat.digitChar (n / 16), Nat.digitChar (n % 16)] := by
  decide

theorem escaped_eq_charForm (c : Char) : escaped c = charForm c := by
  unfold escaped
  split
  case h_8 hquote hbackslash hb hf hn hr ht =>
    have hlookup : letters.lookup c = none := by
      rw [List.lookup_eq_none_iff]
      simp only [letters, List.forall_mem_cons, bne_iff_ne]
      exact ⟨hquote, hbackslash, hb, hf, hn, hr, ht, nofun⟩
    have hspace : c < ' ' ↔ c.toNat < 32 := Iff.rfl
    rw [charForm, hlookup]
    simp only [hspace]
    split
    · next h => rw [fourHexDigits_eq _ h]; rfl
    · rfl
  all_goals rfl

theorem quoted_eq_stringForm (s : String) : quoted s = stringForm s := by
  rw [quoted, stringForm, funext escaped_eq_charForm, String.ofList_append, String.ofList_append]

/-- The object of a token, one level inside the array. -/
theorem prettyAt_ofToken (t : Token) : newLine 1 ++ (ofToken t).prettyAt 1 = tokenForm t := by
  have hopen : "\n  \x7b\n    \"token_type\": \x7b\n      " = newLine 1 ++ ("\x7b" ++ (newLine 2
      ++ (stringForm "token_type" ++ (": " ++ ("\x7b" ++ newLine 3))))) := by decide
  have hvalue : "\n    \x7d,\n    \"value\": " =
      newLine 2 ++ ("\x7d" ++ ("," ++ (newLine 2 ++ (stringForm "value" ++ ": ")))) := by decide
  have hoffset : ",\n    \"end_offset\": " =
      "," ++ (newLine 2 ++ (stringForm "end_offset" ++ ": ")) := by decide
  have hclose : "\n  \x7d" = newLine 1 ++ "\x7d" := by decide
  unfold tokenForm
  simp only [hopen, hvalue, hoffset, hclose]
  simp only [ofToken, Value.prettyAt, Value.memberLines, List.isEmpty_cons, quoted_eq_stringForm,
    String.intercalate_cons_cons, String.intercalate_singleton, String.append_assoc,
    Bool.false_eq_true, if_false, Nat.reduceAdd]

theorem itemLines_tokens (ts : List Token) :
    Value.itemLines 1 (ts.map ofToken) = ts.map tokenForm := by
  induction ts with
  | nil => rfl
  | cons t ts ih => rw [List.map_cons, Value.itemLines, prettyAt_ofToken, ih, List.map_cons]

/-- The array of tokens looks as it should. -/
theorem pretty_tokens (ts : List Token) :
    (Value.array (ts.map ofToken)).pretty = tokensForm ts := by
  rw [Value.pretty, Value.prettyAt, itemLines_tokens, tokensForm, List.isEmpty_map]
  have hclose : "\n]" = newLine 0 ++ "]" := by decide
  rw [hclose, String.append_assoc]

end Json

namespace Formats

theorem usesToml_standard : standard.UsesToml where
  writes c h := ⟨_, rfl, Toml.document_spells c h⟩
  reads hs hd := by
    simp only [standard, Toml.Document.read?_of_spells hs, Option.bind_eq_bind, Option.bind_some,
      Toml.settings?_of_gives hd]

theorem usesJson_standard : standard.UsesJson := by
  intro ts
  show ((Json.Value.array (ts.map Json.ofToken)).pretty, Except.ok ()) = _
  rw [Json.pretty_tokens]

end Formats

end SqlLexis
