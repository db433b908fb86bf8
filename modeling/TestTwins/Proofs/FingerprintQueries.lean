import TestTwins.Proofs.DisjointCoverage
import TestTwins.Proofs.DoubleOrder
import TestTwins.Proofs.HashedText

namespace TestTwins

namespace Table

variable {κ ν : Type} [DecidableEq κ]

theorem nodup_keys_insert {t : Table κ ν} (h : t.keys.Nodup) (key : κ) (value : ν) :
    (t.insert key value).keys.Nodup := by
  rw [keys_insert]
  split
  · exact h
  · rename_i hkey
    rw [← List.concat_eq_append]
    exact h.concat hkey

theorem ofList_concat (entries : List (κ × ν)) (e : κ × ν) :
    ofList (entries ++ [e]) = (ofList entries).insert e.1 e.2 :=
  List.foldl_concat _ _ _ _

-- A run is followed from its end, where the entry stands that was inserted last.
theorem nodup_keys_ofList (entries : List (κ × ν)) : (ofList entries).keys.Nodup := by
  induction entries using List.reverseRecOn with
  | nil => exact List.nodup_nil
  | append_singleton entries e ih =>
    rw [ofList_concat]
    exact nodup_keys_insert ih e.1 e.2

theorem keys_ofList (entries : List (κ × ν)) : (ofList entries).keys = (entries.map (·.1)).eraseDups := by
  induction entries using List.reverseRecOn with
  | nil => rfl
  | append_singleton entries e ih =>
    rw [ofList_concat, keys_insert, ih, List.map_append, List.eraseDups_append]
    simp only [List.mem_eraseDups]
    by_cases hkey : e.1 ∈ entries.map (·.1)
    · simp [List.removeAll, hkey]
    · simp [List.removeAll, hkey, List.eraseDups_cons]

theorem get?_ofList (entries : List (κ × ν)) (key : κ) :
    (ofList entries).get? key = (entries.filter (·.1 = key)).getLast?.map (·.2) := by
  induction entries using List.reverseRecOn with
  | nil => rfl
  | append_singleton entries e ih =>
    rw [ofList_concat, get?_insert, ih, List.filter_append]
    by_cases hkey : e.1 = key <;> simp [hkey]

theorem get?_of_mem {t : Table κ ν} (h : t.keys.Nodup) {e : κ × ν} (he : e ∈ t.entries) :
    t.get? e.1 = some e.2 := by
  obtain ⟨entries⟩ := t
  have hfind : entries.find? (·.1 = e.1) = some e := by
    induction entries with
    | nil => cases he
    | cons first rest ih =>
      obtain ⟨hfirst, hrest⟩ := List.nodup_cons.1 h
      rcases List.mem_cons.1 he with rfl | he
      · simp
      · have hmem : e.1 ∈ rest.map (·.1) := List.mem_map_of_mem he
        have hne : first.1 ≠ e.1 := fun heq => hfirst (by rwa [← heq] at hmem)
        rw [List.find?_cons_of_neg (by simpa using hne)]
        exact ih hrest he
  simp [get?, hfind]

theorem map_some_values {t : Table κ ν} (h : t.keys.Nodup) : t.values.map some = t.keys.map t.get? := by
  rw [values, keys, List.map_map, List.map_map]
  exact List.map_congr_left fun _ he => (get?_of_mem h he).symm

theorem mem_values_iff {t : Table κ ν} (h : t.keys.Nodup) {v : ν} :
    v ∈ t.values ↔ ∃ key, t.get? key = some v := by
  constructor
  · intro hv
    have hsome : some v ∈ t.keys.map t.get? := map_some_values h ▸ List.mem_map_of_mem hv
    obtain ⟨key, -, hkey⟩ := List.mem_map.1 hsome
    exact ⟨key, hkey⟩
  · rintro ⟨key, hkey⟩
    exact mem_values_of_get? hkey

end Table

namespace Fingerprint

theorem hash_ne_empty (r : Record Float) : (ofRecord r).hash ≠ "" := by
  intro h
  have hlength := Digest.length_hex128 (hashInput r)
  rw [show Digest.hex128 (hashInput r) = "" from h] at hlength
  cases hlength

theorem similarity_of_hash_eq {f g : Fingerprint} (hne : f.hash ≠ "") (h : f.hash = g.hash) :
    f.similarity g = 1 := by
  rw [similarity, if_pos (by simp [← h, hne])]

def SameTest (f g : Fingerprint) : Prop := f.file = g.file ∧ f.test = g.test

end Fingerprint

namespace FingerprintIndex

def ofRecords (records : List (Record Float)) : FingerprintIndex :=
  records.foldl (fun t r => (t.generate r).1) .empty

def latest? (records : List (Record Float)) (key : String) : Option (Record Float) :=
  (records.filter (keyOf · = key)).getLast?

/-- An index with one fingerprint for each key of some records, that of the last record with the key, in the
order in which the keys came first. -/
structure Indexes (t : FingerprintIndex) (records : List (Record Float)) : Prop where
  keys : t.keys = (records.map keyOf).eraseDups
  get? : ∀ key, t.get? key = (latest? records key).map Fingerprint.ofRecord
  values : t.values.map some = t.keys.map t.get?
  size : t.size = (records.map keyOf).toFinset.card

theorem ofRecords_eq (records : List (Record Float)) :
    ofRecords records = .ofList (records.map fun r => (keyOf r, Fingerprint.ofRecord r)) := by
  rw [ofRecords, Table.ofList, List.foldl_map]
  rfl

theorem nodup_keys_ofRecords (records : List (Record Float)) : (ofRecords records).keys.Nodup :=
  ofRecords_eq records ▸ Table.nodup_keys_ofList _

theorem indexes_ofRecords (records : List (Record Float)) : (ofRecords records).Indexes records := by
  have hkeys : (ofRecords records).keys = (records.map keyOf).eraseDups := by
    rw [ofRecords_eq, Table.keys_ofList, List.map_map]
    rfl
  refine ⟨hkeys, fun key => ?_, Table.map_some_values (nodup_keys_ofRecords records), ?_⟩
  · rw [ofRecords_eq, Table.get?_ofList, List.filter_map, List.getLast?_map, Option.map_map]
    rfl
  · have hmem : (ofRecords records).keys.toFinset = (records.map keyOf).toFinset := by
      ext key
      simp [hkeys]
    rw [← hmem, List.toFinset_card_of_nodup (nodup_keys_ofRecords records), Table.size, Table.keys,
      List.length_map]

def testIn (test file : String) : Record Float :=
  .ofLines test ⟨file⟩ 1 (.ofList [1, 2]) (.ofList [3]) ⟨0, 0⟩ none

example :
    (ofRecords [testIn "test_a" "a.py", testIn "test_b" "a.py", testIn "test_a" "a.py"]).keys =
      ["a.py:test_a", "a.py:test_b"] := by
  decide +kernel

theorem mem_of_latest? {records : List (Record Float)} {key : String} {r : Record Float}
    (h : latest? records key = some r) : r ∈ records :=
  (List.mem_filter.1 (List.mem_of_getLast? h)).1

theorem mem_values_ofRecords {records : List (Record Float)} {f : Fingerprint} :
    f ∈ (ofRecords records).values ↔ ∃ key r, latest? records key = some r ∧ Fingerprint.ofRecord r = f := by
  rw [Table.mem_values_iff (nodup_keys_ofRecords records)]
  simp only [(indexes_ofRecords records).get?, Option.map_eq_some_iff]

def candidates (t : FingerprintIndex) (target : Fingerprint) : List (Fingerprint × Float) :=
  (t.values.filter (·.test != target.test)).map fun f => (f, target.similarity f)

/-- Lookups for a target: each ranks all candidates that reach the threshold, and a higher threshold gives the
beginning of what a lower one gives. The order is that of all doubles, where zero with a sign has a place of
its own, right below zero. -/
structure Answers (t : FingerprintIndex) (target : Fingerprint) : Prop where
  ranks : ∀ threshold, Ranks (t.candidates target) threshold (t.findSimilar target threshold)
  ordered : ∀ threshold, (t.findSimilar target threshold).Pairwise fun a b => orderKey b.2 ≤ orderKey a.2
  raised : ∀ low high : Float, low ≤ high → t.findSimilar target high <+: t.findSimilar target low

theorem answers (t : FingerprintIndex) (target : Fingerprint) : t.Answers target where
  ranks threshold := ranks_sortByScore (t.candidates target) threshold
  ordered _ := (List.pairwise_mergeSort scoreOrder_trans scoreOrder_total _).imp of_decide_eq_true
  raised _ _ := sortByScore_isPrefix (t.candidates target)

/-- After any sequence of records, an index has one fingerprint for each key, that of the last record with
the key, in the order in which the keys came first. A lookup gives each stored fingerprint of another name
than the target's that scores at least the threshold once, best first, and those with the same score in
the order of the index. -/
theorem findSimilar_ofRecords (records : List (Record Float)) :
    (ofRecords records).Indexes records ∧ ∀ target, (ofRecords records).Answers target :=
  ⟨indexes_ofRecords records, answers (ofRecords records)⟩

theorem mem_findSimilar_iff {t : FingerprintIndex} {target f : Fingerprint} {threshold : Float} :
    (f, target.similarity f) ∈ t.findSimilar target threshold ↔
      (f ∈ t.values ∧ f.test ≠ target.test) ∧ threshold ≤ target.similarity f := by
  rw [((t.answers target).ranks threshold).perm.mem_iff, List.mem_filter, candidates, List.mem_map]
  simp only [List.mem_filter, bne_iff_ne, decide_eq_true_eq, Prod.mk.injEq]
  refine and_congr_left fun _ => ⟨?_, fun h => ⟨f, h, rfl, rfl⟩⟩
  rintro ⟨g, hg, rfl, -⟩
  exact hg

theorem findSimilar_eq_nil {t : FingerprintIndex} {target : Fingerprint}
    (h : ∀ f ∈ t.values, f.test = target.test) (threshold : Float) : t.findSimilar target threshold = [] := by
  have hnone : t.values.filter (·.test != target.test) = [] := List.filter_eq_nil_iff.2 (by simpa using h)
  rw [findSimilar, hnone]
  exact List.mergeSort_nil

/-- Of the fingerprints that reach the threshold, those of the target's name are left out. All of these are
of the same test as the target if and only if they are from its file. -/
theorem findSimilar_omits_name (t : FingerprintIndex) (target : Fingerprint) (threshold : Float) :
    let reaching := t.values.filter fun f => threshold ≤ target.similarity f
    let found f := (f, target.similarity f) ∈ t.findSimilar target threshold
    (∀ f ∈ reaching, ¬ found f ↔ f.test = target.test) ∧
      ((∀ f ∈ reaching, ¬ found f → f.SameTest target) ↔
        ∀ f ∈ reaching, f.test = target.test → f.file = target.file) := by
  intro reaching found
  have homits : ∀ f ∈ reaching, ¬ found f ↔ f.test = target.test := by
    intro f hf
    obtain ⟨hstored, hreaches⟩ := List.mem_filter.1 hf
    have hfound : found f ↔ f.test ≠ target.test := by
      rw [show found f ↔ _ from mem_findSimilar_iff]
      simp [hstored, of_decide_eq_true hreaches]
    rw [hfound, not_not]
  refine ⟨homits, forall₂_congr fun f hf => ?_⟩
  rw [homits f hf]
  exact ⟨fun h hname => (h hname).1, fun h hname => ⟨h hname, hname⟩⟩

section Namesakes

theorem similarity_testIn (test test' file file' : String) :
    (Fingerprint.ofRecord (testIn test file)).similarity (.ofRecord (testIn test' file')) = 1 :=
  Fingerprint.similarity_of_hash_eq (Fingerprint.hash_ne_empty _) rfl

theorem mem_values_testIn {records : List (Record Float)} {test file : String}
    (h : latest? records (keyOf (testIn test file)) = some (testIn test file)) :
    Fingerprint.ofRecord (testIn test file) ∈ (ofRecords records).values :=
  mem_values_ofRecords.2 ⟨_, _, h, rfl⟩

theorem findSimilar_omits_name_once :
    let t := ofRecords [testIn "test_a" "a.py", testIn "test_b" "a.py"]
    let target := Fingerprint.ofRecord (testIn "test_a" "a.py")
    (target, target.similarity target) ∉ t.findSimilar target 0.8 := by
  intro t target
  refine ((findSimilar_omits_name t target 0.8).1 target (List.mem_filter.2 ⟨?_, ?_⟩)).2 rfl
  · exact mem_values_testIn rfl
  · rw [similarity_testIn]
    decide +kernel

/-- A copy of a test in another file scores one, and nothing is found. -/
theorem findSimilar_omits_namesake :
    let t := ofRecords [testIn "test_a" "a.py", testIn "test_a" "b.py"]
    let target := Fingerprint.ofRecord (testIn "test_a" "a.py")
    let copy := Fingerprint.ofRecord (testIn "test_a" "b.py")
    copy ∈ t.values ∧ 0.8 ≤ target.similarity copy ∧ ¬ copy.SameTest target ∧
      t.findSimilar target 0.8 = [] := by
  intro t target copy
  refine ⟨mem_values_testIn rfl, ?_, ?_, ?_⟩
  · rw [similarity_testIn]
    decide +kernel
  · rintro ⟨hfile, -⟩
    exact absurd (congrArg Path.text hfile) (by decide)
  · apply findSimilar_eq_nil
    intro f hf
    obtain ⟨key, r, hlatest, rfl⟩ := mem_values_ofRecords.1 hf
    have hr := mem_of_latest? hlatest
    simp only [List.mem_cons, List.not_mem_nil, or_false] at hr
    rcases hr with rfl | rfl <;> rfl

end Namesakes

end FingerprintIndex

end TestTwins
