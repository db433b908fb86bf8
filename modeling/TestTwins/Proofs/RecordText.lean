import TestTwins.Proofs.JsonText
import TestTwins.Store.Record

namespace TestTwins

namespace Json

theorem countKey_le_one {given : Members} (h : (given.map (·.1)).Nodup) (key : String) :
    countKey key given ≤ 1 := by
  have hcount : countKey key given = (given.map (·.1)).count key := by
    rw [countKey, List.count, List.countP_map, List.countP_eq_length_filter]
    rfl
  rw [hcount]
  exact List.nodup_iff_count.1 h key

theorem members_obj {fields : List (String × Presence)} {given : Members}
    (hkeys : given.map (·.1) = fields.map (·.1)) (hnodup : (fields.map (·.1)).Nodup) :
    members fields (.obj given) = some given := by
  have hcount : fields.all (fun f => countKey f.1 given ≤ 1) := by
    rw [List.all_eq_true]
    intro f _
    simpa using countKey_le_one (hkeys ▸ hnodup) f.1
  have hknown : given.filter (fun m => fields.any (·.1 == m.1)) = given := by
    rw [List.filter_eq_self]
    intro m hm
    have hmem : m.1 ∈ fields.map (·.1) := hkeys ▸ List.mem_map_of_mem hm
    obtain ⟨f, hf, hkey⟩ := List.mem_map.1 hmem
    exact List.any_eq_true.2 ⟨f, hf, by simp [hkey]⟩
  rw [members, if_pos hcount, hknown]

theorem field_first {fields : List (String × Presence)} {key text t : String} {more ms : Members}
    (hkey : key ∈ fields.map (·.1)) (hms : members fields (.obj ((key, .str text) :: more)) = some ms)
    (ht : ms.field key asString = some t) : t = text := by
  obtain ⟨f, hf, rfl⟩ := List.mem_map.1 hkey
  have hany : fields.any (·.1 == f.1) := List.any_eq_true.2 ⟨f, hf, by simp⟩
  rw [members] at hms
  split at hms <;> cases hms
  simpa [Members.field, hany, asString, eq_comm] using ht

theorem decode_pretty {α : Type} {decode : Json → Option α} {j : Json} {a : α}
    (hj : j.Faithful (depthLimit - 1)) (ha : decode j = some a) :
    (parse? j.pretty).bind decode = some a := by
  rw [parse?_pretty hj, Option.bind_some, ha]

theorem first_of_decode_pretty {α : Type} {decode : Json → Option α} {key text : String}
    {given : Members} {a : α}
    (h : (parse? (pretty (.obj ((key, .str text) :: given)))).bind decode = some a) :
    ∃ more, decode (.obj ((key, .str text) :: more)) = some a := by
  obtain ⟨j, hj, ha⟩ := Option.bind_eq_some_iff.1 h
  obtain ⟨more, rfl⟩ := parse?_pretty_first hj
  exact ⟨more, ha⟩

theorem asList_map_ite {α : Type} {item : Json → Option α} {encode : α → Json} {p : α → Bool}
    {as : List α} (h : ∀ a ∈ as, item (encode a) = if p a then some a else none) :
    asList item (.arr (as.map encode)) = if as.all p then some as else none := by
  rw [asList]
  induction as with
  | nil => rfl
  | cons a as ih =>
    rw [List.map_cons, List.mapM_cons, h a List.mem_cons_self,
      ih fun b hb => h b (List.mem_cons_of_mem a hb), List.all_cons]
    cases p a <;> cases as.all p <;> rfl

theorem asList_map {α : Type} {item : Json → Option α} {encode : α → Json} {as : List α}
    (h : ∀ a ∈ as, item (encode a) = some a) : asList item (.arr (as.map encode)) = some as := by
  have hall := asList_map_ite (p := fun _ => true) h
  rwa [List.all_eq_true.2 fun _ _ => rfl] at hall

theorem asNatBelow_nat {bound n : Nat} (h : n < bound) : asNatBelow bound (.nat n) = some n :=
  if_pos h

@[simp] theorem asString_str (s : String) : asString (.str s) = some s := rfl

@[simp] theorem asFloat_float (x : Float) : asFloat (.float x) = some x := rfl

@[simp] theorem asList_strings (xs : List String) : asList asString (.strings xs) = some xs :=
  asList_map fun s _ => asString_str s

@[simp] theorem asList_floats (xs : List Float) : asList asFloat (.floats xs) = some xs :=
  asList_map fun x _ => asFloat_float x

theorem asList_nats {bound : Nat} {xs : List Nat} (h : ∀ n ∈ xs, n < bound) :
    asList (asNatBelow bound) (.nats xs) = some xs :=
  asList_map fun n hn => asNatBelow_nat (h n hn)

namespace Faithful

variable {depth : Nat}

theorem nat {n : Nat} (h : n < Word.count) : Faithful depth (.nat n) :=
  .int (by omega) (Int.ofNat_lt.2 h)

theorem list {α : Type} {encode : α → Json} {as : List α} (h : ∀ a ∈ as, Faithful depth (encode a)) :
    Faithful (depth + 1) (.arr (as.map encode)) :=
  .arr (List.forall_mem_map.2 h)

end Faithful

end Json

def Moment.ReadsBack (m : Moment) : Prop := Moment.ofLooseText? m.text = some m

theorem Moment.readsBack_epoch : epoch.ReadsBack := by
  have htext : epoch.text = "1970-01-01T00:00:00Z" := by decide +kernel
  rw [ReadsBack, htext]
  decide +kernel

theorem Moment.ReadsBack.ofJson?_toJson {m : Moment} (h : m.ReadsBack) :
    Moment.ofJson? m.toJson = some m :=
  h

open Json (depthLimit)

namespace SessionRecord

/-- A record that its text can stand for. The settings are in the form in which they are kept, and one
level of nesting is left for the record around them. -/
structure Faithful (r : SessionRecord) : Prop where
  timestamp : r.timestamp.ReadsBack
  totalTests : r.totalTests < Word.count
  averageScore : Json.ReadsBack r.averageScore
  coverageFiles : r.coverageFiles < Word.count
  violationsFound : r.violationsFound < Word.count
  normal : r.config.normal = r.config
  config : r.config.Faithful (depthLimit - 2)

theorem ofJson?_toJson {r : SessionRecord} (h : r.Faithful) : ofJson? r.toJson = some r := by
  rw [ofJson?, toJson, Json.members_obj]
  · simp [Json.Members.field, Json.Members.fieldD, List.lookup_cons, h.timestamp.ofJson?_toJson,
      Json.asWord, Json.asNatBelow_nat h.totalTests, Json.asNatBelow_nat h.coverageFiles,
      Json.asNatBelow_nat h.violationsFound, h.normal]
  · rfl
  · decide

theorem faithful_toJson {r : SessionRecord} (h : r.Faithful) : r.toJson.Faithful (depthLimit - 1) := by
  have hconfig : r.config.normal.Faithful (depthLimit - 2) := h.normal.symm ▸ h.config
  apply Json.Faithful.obj
  simp only [List.forall_mem_cons]
  exact ⟨.str _, .str _, .nat h.totalTests, .float h.averageScore, .nat h.coverageFiles,
    .nat h.violationsFound, .str _, hconfig, nofun⟩

theorem decode_pretty {r : SessionRecord} (h : r.Faithful) :
    (Json.parse? r.toJson.pretty).bind ofJson? = some r :=
  Json.decode_pretty (faithful_toJson h) (ofJson?_toJson h)

theorem id_of_decode_pretty {r r' : SessionRecord}
    (h : (Json.parse? r.toJson.pretty).bind ofJson? = some r') : r'.id = r.id := by
  obtain ⟨more, h⟩ := Json.first_of_decode_pretty h
  simp only [ofJson?, Option.bind_eq_bind, Option.pure_def] at h
  obtain ⟨ms, hms, h⟩ := Option.bind_eq_some_iff.1 h
  obtain ⟨id, hid, h⟩ := Option.bind_eq_some_iff.1 h
  -- The other fields only have to be there.
  repeat
    rw [Option.bind_eq_some_iff] at h
    obtain ⟨_, -, h⟩ := h
  cases h
  exact Json.field_first (by decide) hms hid

end SessionRecord

namespace TestRecord

structure Faithful (r : TestRecord) : Prop where
  score : Json.ReadsBack r.score.score
  percentage : Json.ReadsBack r.percentage
  covered : ∀ n ∈ r.covered, n < 0x100000000
  missing : ∀ n ∈ r.missing, n < 0x100000000
  timestamp : r.timestamp.ReadsBack

theorem ofJson?_toJson {r : TestRecord} (h : r.Faithful) : ofJson? r.toJson = some r := by
  rw [ofJson?, toJson, Json.members_obj]
  · simp [Json.Members.field, Json.Members.fieldD, List.lookup_cons, h.timestamp.ofJson?_toJson,
      Json.asLine, Json.asList_nats h.covered, Json.asList_nats h.missing]
  · rfl
  · decide

theorem faithful_toJson {r : TestRecord} (h : r.Faithful) : r.toJson.Faithful (depthLimit - 1) := by
  have hline : ∀ n < 0x100000000, n < Word.count := by
    intro n hn
    exact Nat.lt_trans hn (by decide)
  apply Json.Faithful.obj
  simp only [List.forall_mem_cons]
  exact ⟨.str _, .str _, .float h.score, .str _, .str _, .float h.percentage, .str _,
    .list fun n hn => .nat (hline n (h.covered n hn)), .list fun n hn => .nat (hline n (h.missing n hn)),
    .list fun s _ => .str s, .str _, .str _, nofun⟩

theorem decode_pretty {r : TestRecord} (h : r.Faithful) :
    (Json.parse? r.toJson.pretty).bind ofJson? = some r :=
  Json.decode_pretty (faithful_toJson h) (ofJson?_toJson h)

theorem test_of_decode_pretty {r r' : TestRecord}
    (h : (Json.parse? r.toJson.pretty).bind ofJson? = some r') : r'.test = r.test := by
  obtain ⟨more, h⟩ := Json.first_of_decode_pretty h
  simp only [ofJson?, Option.bind_eq_bind, Option.pure_def] at h
  obtain ⟨ms, hms, h⟩ := Option.bind_eq_some_iff.1 h
  obtain ⟨test, htest, h⟩ := Option.bind_eq_some_iff.1 h
  repeat
    rw [Option.bind_eq_some_iff] at h
    obtain ⟨_, -, h⟩ := h
  cases h
  exact Json.field_first (by decide) hms htest

end TestRecord

namespace FileRecord

structure Faithful (r : FileRecord) : Prop where
  totalCoverage : Json.ReadsBack r.totalCoverage
  scores : ∀ x ∈ r.scores, Json.ReadsBack x
  averageScore : Json.ReadsBack r.averageScore
  updated : r.updated.ReadsBack

theorem ofJson?_toJson {r : FileRecord} (h : r.Faithful) : ofJson? r.toJson = some r := by
  rw [ofJson?, toJson, Json.members_obj]
  · simp [Json.Members.field, Json.Members.fieldD, List.lookup_cons, h.updated.ofJson?_toJson]
  · rfl
  · decide

theorem faithful_toJson {r : FileRecord} (h : r.Faithful) : r.toJson.Faithful (depthLimit - 1) := by
  apply Json.Faithful.obj
  simp only [List.forall_mem_cons]
  exact ⟨.str _, .float h.totalCoverage, .list fun s _ => .str s,
    .list fun x hx => .float (h.scores x hx), .float h.averageScore, .str _, .str _, nofun⟩

theorem decode_pretty {r : FileRecord} (h : r.Faithful) :
    (Json.parse? r.toJson.pretty).bind ofJson? = some r :=
  Json.decode_pretty (faithful_toJson h) (ofJson?_toJson h)

theorem file_of_decode_pretty {r r' : FileRecord}
    (h : (Json.parse? r.toJson.pretty).bind ofJson? = some r') : r'.file = r.file := by
  obtain ⟨more, h⟩ := Json.first_of_decode_pretty h
  simp only [ofJson?, Option.bind_eq_bind, Option.pure_def] at h
  obtain ⟨ms, hms, h⟩ := Option.bind_eq_some_iff.1 h
  obtain ⟨file, hfile, h⟩ := Option.bind_eq_some_iff.1 h
  repeat
    rw [Option.bind_eq_some_iff] at h
    obtain ⟨_, -, h⟩ := h
  cases h
  exact Json.field_first (by decide) hms hfile

end FileRecord

end TestTwins
