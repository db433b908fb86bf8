import TestTwins.Proofs.ConfigLayers
import TestTwins.Proofs.TomlText

namespace TestTwins

section Lines

variable {α : Type} {name : String} {encode : α → Toml} {value : Option α}

theorem forall_mem_settingLine {P : String × Toml → Prop} :
    (∀ e ∈ settingLine name encode value, P e) ↔ ∀ a ∈ value, P (name, encode a) := by
  cases value <;> simp [settingLine]

theorem keys_settingLine : ((settingLine name encode value).map (·.1)).Sublist [name] := by
  cases value with
  | none => exact List.nil_sublist _
  | some a => exact List.Sublist.refl _

theorem keys_settingLine_append {keys names : List String} (h : keys.Sublist names) :
    ((settingLine name encode value).map (·.1) ++ keys).Sublist (name :: names) :=
  keys_settingLine.append h

theorem lookup_settingLine (key : String) :
    (settingLine name encode value).lookup key = if key = name then value.map encode else none := by
  cases value with
  | none => simp [settingLine]
  | some a =>
    by_cases h : key = name
    · simp [settingLine, h]
    · simp [settingLine, List.lookup_cons, h, beq_false_of_ne h]

theorem setting_eq_elim (entries : Toml.Entries) (decode : Toml → Option α) :
    Toml.setting entries name decode =
      (entries.lookup name).elim (some none) fun t => (decode t).map some := by
  rw [Toml.setting]
  cases entries.lookup name <;> rfl

theorem elim_encoded (encode : α → Toml) (decode : Toml → Option α)
    (h : ∀ a, decode (encode a) = some a) (value : Option α) :
    ((value.map encode).elim (some none) fun t => (decode t).map some) = some value := by
  cases value with
  | none => rfl
  | some a => simp [h]

end Lines

/-- Values that text can hold: doubles have to be finite, and whole numbers have to fit in 64 bits with a
sign. -/
def Setting.Fits : Setting α → α → Prop
  | exactThreshold, v | nearThreshold, v | similarThreshold, v | coverageWeight, v | mockWeight, v
  | exceptionWeight, v | shapeWeight, v => v.isFinite
  | minClusterSize, n | maxClusterSize, n | timeoutSeconds, n | maxParentDepth, n | maxSelectedFiles, n
  | maxCandidateFiles, n => n < Word.half
  | retentionDays, n => Word.isSigned n
  | python, _ | storagePath, _ | storageEnabled, _ => True

namespace DuplicateSettings

theorem ofToml?_entries (s : DuplicateSettings) : ofToml? (.header s.entries) = some s := by
  simp [ofToml?, Toml.sectionEntries, setting_eq_elim, entries, List.lookup_append, lookup_settingLine,
    elim_encoded Toml.float Toml.asFloat fun _ => rfl, elim_encoded natToml Toml.asNat fun _ => rfl,
    -Option.elim_map]

end DuplicateSettings

namespace CoverageSettings

theorem ofToml?_entries (s : CoverageSettings) : ofToml? (.header s.entries) = some s := by
  simp [ofToml?, Toml.sectionEntries, setting_eq_elim, entries, List.lookup_append, lookup_settingLine,
    elim_encoded Toml.string Toml.asString fun _ => rfl, elim_encoded natToml Toml.asNat fun _ => rfl,
    -Option.elim_map]

end CoverageSettings

namespace StorageSettings

theorem ofToml?_entries (s : StorageSettings) : ofToml? (.header s.entries) = some s := by
  simp [ofToml?, Toml.sectionEntries, setting_eq_elim, entries, List.lookup_append, lookup_settingLine,
    elim_encoded Toml.string Toml.asString fun _ => rfl, elim_encoded Toml.integer Toml.asInt fun _ => rfl,
    elim_encoded Toml.boolean Toml.asBool fun _ => rfl, -Option.elim_map]

end StorageSettings

namespace Config

theorem keys_entries (c : Config) :
    (c.duplicates.entries.map (·.1)).Sublist DuplicateSettings.names ∧
      (c.coverage.entries.map (·.1)).Sublist CoverageSettings.names ∧
      (c.storage.entries.map (·.1)).Sublist StorageSettings.names := by
  simp only [DuplicateSettings.entries, CoverageSettings.entries, StorageSettings.entries, List.map_append,
    List.append_assoc]
  refine ⟨?_, ?_, ?_⟩
  all_goals
    repeat apply keys_settingLine_append
    exact keys_settingLine

theorem keyed_tables (c : Config) : Toml.Keyed c.tables ∧ ∀ t ∈ c.tables, Toml.Keyed t.2 := by
  obtain ⟨hduplicates, hcoverage, hstorage⟩ := c.keys_entries
  refine ⟨Toml.keyed_of_sublist (.refl ["duplicates", "coverage", "storage"]) (by decide) (by decide), ?_⟩
  simp only [tables, List.forall_mem_cons]
  exact ⟨Toml.keyed_of_sublist hduplicates (by decide) (by decide),
    Toml.keyed_of_sublist hcoverage (by decide) (by decide),
    Toml.keyed_of_sublist hstorage (by decide) (by decide), fun _ h => absurd h List.not_mem_nil⟩

theorem faithful_tables {c : Config} (h : ∀ (α : Type) (x : Setting α), ∀ v ∈ x.get c, x.Fits v)
    (hread : ∀ s ∈ c.duplicates.shares, ∀ v ∈ s.2, v.isFinite → Toml.ReadsBack v) :
    ∀ t ∈ c.tables, ∀ e ∈ t.2, e.2.Faithful := by
  have hfloat {x : Option Float} (hfits : ∀ v ∈ x, v.isFinite)
      (hread : ∀ v ∈ x, v.isFinite → Toml.ReadsBack v) : ∀ v ∈ x, (Toml.float v).Faithful :=
    fun v hv => .float (hread v hv (hfits v hv))
  have hcount {x : Option Nat} (hfits : ∀ n ∈ x, n < Word.half) : ∀ n ∈ x, (natToml n).Faithful := by
    intro n hn
    have hhalf := hfits n hn
    refine .integer ?_
    simp [Word.isSigned]
    omega
  simp only [DuplicateSettings.shares, List.forall_mem_cons] at hread
  obtain ⟨hexact, hnear, hsimilar, hcoverage, hmock, hexception, hshape, -⟩ := hread
  simp only [tables, DuplicateSettings.entries, CoverageSettings.entries, StorageSettings.entries,
    List.forall_mem_cons, List.forall_mem_append, forall_mem_settingLine, and_assoc]
  exact ⟨hfloat (h _ .exactThreshold) hexact, hfloat (h _ .nearThreshold) hnear,
    hfloat (h _ .similarThreshold) hsimilar, hcount (h _ .minClusterSize), hcount (h _ .maxClusterSize),
    hfloat (h _ .coverageWeight) hcoverage, hfloat (h _ .mockWeight) hmock,
    hfloat (h _ .exceptionWeight) hexception, hfloat (h _ .shapeWeight) hshape, fun s _ => .string s,
    hcount (h _ .timeoutSeconds), hcount (h _ .maxParentDepth), hcount (h _ .maxSelectedFiles),
    hcount (h _ .maxCandidateFiles), fun s _ => .string s,
    fun n hn => .integer (h _ .retentionDays n hn), fun b _ => .boolean b,
    fun _ h => absurd h List.not_mem_nil⟩

theorem ofEntries?_tables (c : Config) :
    ofEntries? (c.tables.map fun t => (t.1, .header t.2)) = some c := by
  simp [ofEntries?, tables, Toml.setting, List.lookup_cons, DuplicateSettings.ofToml?_entries,
    CoverageSettings.ofToml?_entries, StorageSettings.ofToml?_entries]

/-- Settings that text can hold are written, and what is written is read as the same settings, whichever of
them are set and whatever characters their texts have. -/
theorem ofString_toText {c : Config} (h : ∀ (α : Type) (x : Setting α), ∀ v ∈ x.get c, x.Fits v)
    (hread : ∀ s ∈ c.duplicates.shares, ∀ v ∈ s.2, v.isFinite → Toml.ReadsBack v) :
    ∃ text, c.toText = .ok text ∧ ofString text = .ok c := by
  obtain ⟨hnames, hkeyed⟩ := c.keyed_tables
  obtain ⟨text, htext, hparse⟩ := Toml.parse?_render? hnames hkeyed (faithful_tables h hread)
  refine ⟨text, ?_, ?_⟩
  · rw [toText, htext]
  · rw [ofString, ofText, ofText?, hparse, Option.bind_some, ofEntries?_tables]

def awkward : Config where
  duplicates := { DuplicateSettings.empty with exactThreshold := some 0.5, minClusterSize := some 3 }
  coverage := { CoverageSettings.empty with python := some "a\\b\n\x27\x27\x27\"\"\"\r\x07\x7fé" }
  storage := ⟨some "", some (-1), some false⟩

theorem ofString_toText_awkward :
    (∀ (α : Type) (x : Setting α), ∀ v ∈ x.get awkward, x.Fits v) ∧
      ∃ text, awkward.toText = .ok text ∧ ofString text = .ok awkward := by
  have hfits : ∀ (α : Type) (x : Setting α), ∀ v ∈ x.get awkward, x.Fits v := by
    intro α x v hv
    cases x <;> cases hv <;> simp only [Setting.Fits] <;> decide
  refine ⟨hfits, ofString_toText hfits ?_⟩
  simp [awkward, DuplicateSettings.shares, DuplicateSettings.empty, Toml.readsBack_half]

end Config

end TestTwins
