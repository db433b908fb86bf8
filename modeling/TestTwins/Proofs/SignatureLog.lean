import TestTwins.Proofs.StoreMaps

namespace TestTwins

namespace Json

mutual

def shown : Json → Json
  | .float x => if x.isFinite then .float x else .null
  | .arr items => .arr (shownItems items)
  | .obj members => .obj (shownMembers members)
  | j => j

def shownItems : List Json → List Json
  | [] => []
  | j :: rest => j.shown :: shownItems rest

def shownMembers : List (String × Json) → List (String × Json)
  | [] => []
  | (k, j) :: rest => (k, j.shown) :: shownMembers rest

end

mutual

theorem prettyAt_shown (level : Nat) : ∀ j : Json, j.shown.prettyAt level = j.prettyAt level
  | .null => by simp only [shown]
  | .bool b => by simp only [shown]
  | .int n => by simp only [shown]
  | .float x => by
    simp only [shown]
    split
    · rfl
    · rename_i h
      simp only [prettyAt, floatText, if_neg h]
  | .str s => by simp only [shown]
  | .arr items => by simp only [shown, prettyAt, prettyItems_shown _ items]
  | .obj members => by simp only [shown, prettyAt, prettyMembers_shown _ members]

theorem prettyItems_shown (level : Nat) :
    ∀ items : List Json, prettyItems level (shownItems items) = prettyItems level items
  | [] => by simp only [shownItems]
  | j :: rest => by simp only [shownItems, prettyItems, prettyAt_shown _ j, prettyItems_shown _ rest]

theorem prettyMembers_shown (level : Nat) :
    ∀ members : List (String × Json),
      prettyMembers level (shownMembers members) = prettyMembers level members
  | [] => by simp only [shownMembers]
  | (k, j) :: rest => by
    simp only [shownMembers, prettyMembers, prettyAt_shown _ j, prettyMembers_shown _ rest]

end

theorem shownItems_map (encode : α → Json) (as : List α) :
    shownItems (as.map encode) = as.map fun a => (encode a).shown := by
  induction as with
  | nil => simp [shownItems]
  | cons a as ih => simp [shownItems, ih]

theorem parse?_pretty_shown {j : Json} (h : j.shown.Faithful (depthLimit - 1)) :
    parse? j.pretty = some j.shown := by
  rw [← parse?_pretty h, pretty, pretty, prettyAt_shown]

theorem asFloat_shown (x : Float) :
    asFloat (Json.float x).shown = if x.isFinite then some x else none := by
  simp only [shown]
  split <;> rfl

theorem faithful_shown_float {depth : Nat} {x : Float} (h : x.isFinite → ReadsBack x) :
    (Json.float x).shown.Faithful depth := by
  rw [shown]
  split
  · rename_i hfinite
    exact .float (h hfinite)
  · exact .null

end Json

open Json (depthLimit)

namespace SignatureRecord

def isFinite (r : SignatureRecord) : Bool := r.vector.all Float.isFinite

/-- A record that is read back as far as its numbers are finite. -/
structure Printable (r : SignatureRecord) : Prop where
  vector : ∀ x ∈ r.vector, x.isFinite → Json.ReadsBack x
  timestamp : r.timestamp.ReadsBack

structure Faithful (r : SignatureRecord) : Prop extends Printable r where
  finite : r.isFinite

theorem shown_toJson (r : SignatureRecord) :
    r.toJson.shown = .obj [("test_name", .str r.test), ("signature_hash", .str r.hash),
      ("signature_vector", .arr (r.vector.map fun x => (Json.float x).shown)),
      ("signature_pattern", .str r.pattern), ("timestamp", r.timestamp.toJson),
      ("session_id", .str r.session)] := by
  simp only [toJson, members, Json.floats, Moment.toJson, Json.shown, Json.shownMembers,
    Json.shownItems_map]

theorem shown_listToJson (rs : List SignatureRecord) :
    (listToJson rs).shown = .obj [("signatures", .arr (rs.map fun r => r.toJson.shown))] := by
  simp only [listToJson, Json.shown, Json.shownMembers, Json.shownItems_map]

theorem ofJson?_shown {r : SignatureRecord} (h : r.timestamp.ReadsBack) :
    ofJson? r.toJson.shown = if r.isFinite then some r else none := by
  rw [ofJson?, shown_toJson, Json.members_obj]
  · have hvector : Json.asList Json.asFloat (.arr (r.vector.map fun x => (Json.float x).shown)) =
        if r.isFinite then some r.vector else none :=
      Json.asList_map_ite fun x _ => Json.asFloat_shown x
    cases hfinite : r.isFinite <;>
      simp [Json.Members.field, Json.Members.fieldD, List.lookup_cons, h.ofJson?_toJson, hvector,
        hfinite]
  · rfl
  · decide

theorem listOfJson?_shown {rs : List SignatureRecord} (h : ∀ r ∈ rs, r.timestamp.ReadsBack) :
    listOfJson? (listToJson rs).shown = if rs.all isFinite then some rs else none := by
  rw [listOfJson?, shown_listToJson, Json.members_obj]
  · exact Json.asList_map_ite fun r hr => ofJson?_shown (h r hr)
  · rfl
  · decide

theorem faithful_shown {rs : List SignatureRecord} (h : ∀ r ∈ rs, r.Printable) :
    (listToJson rs).shown.Faithful (depthLimit - 1) := by
  have hrecord : ∀ r ∈ rs, r.toJson.shown.Faithful (depthLimit - 3) := by
    intro r hr
    rw [shown_toJson]
    apply Json.Faithful.obj
    simp only [List.forall_mem_cons]
    exact ⟨.str _, .str _, .list fun x hx => Json.faithful_shown_float ((h r hr).vector x hx), .str _,
      .str _, .str _, nofun⟩
  rw [shown_listToJson]
  apply Json.Faithful.obj
  simp only [List.forall_mem_cons]
  exact ⟨.list hrecord, nofun⟩

theorem decode_list {rs : List SignatureRecord} (h : ∀ r ∈ rs, r.Printable) :
    (Json.parse? (listToJson rs).pretty).bind listOfJson? =
      if rs.all isFinite then some rs else none := by
  rw [Json.parse?_pretty_shown (faithful_shown h), Option.bind_some,
    listOfJson?_shown fun r hr => (h r hr).timestamp]

end SignatureRecord

namespace Store

open SignatureRecord (listOfJson?)

def unreadableSignatures (s : Store) : StorageError :=
  .serialization s.signaturesPath.text "not a valid record"

section

variable {s : Store} {d d' : Disk} {now : Int} {r : SignatureRecord}

theorem signatures_of_readJson (hs : s.enabled) {known : Option (List SignatureRecord)}
    (h : readJson d s.signaturesPath listOfJson? = .ok known) : s.signatures d = known.getD [] := by
  rw [signatures, load, if_pos hs, h]

theorem signatures_of_error (hs : s.enabled) {e : StorageError}
    (h : readJson d s.signaturesPath listOfJson? = .error e) : s.signatures d = [] := by
  rw [signatures, load, if_pos hs, h]
  rfl

theorem signatures_of_directories (hs : s.enabled) (h : ∀ e ∈ d.entries, e.2 = .directory) :
    s.signatures d = [] := by
  rw [signatures, load_of_not_isFile hs (Disk.isFile_of_directories h _), Option.getD_none]

theorem storeSignature_error (hs : s.enabled) {e : StorageError}
    (h : readJson d s.signaturesPath listOfJson? = .error e) : s.storeSignature d now r = .error e := by
  rw [storeSignature, if_pos hs, h]
  rfl

theorem readText_storeSignature (hs : s.enabled) (h : s.storeSignature d now r = .ok d') :
    d'.readText s.signaturesPath =
      .ok (SignatureRecord.listToJson (s.signatures d ++ [r])).pretty := by
  rw [storeSignature, if_pos hs] at h
  obtain ⟨known, hknown, hwrite⟩ := exists_of_bind_ok h
  rw [readText_signatures_writeSignatures hwrite, signatures_of_readJson hs hknown]

theorem readJson_storeSignature (hs : s.enabled) (hknown : ∀ q ∈ s.signatures d, q.Faithful)
    (hr : r.Printable) (h : s.storeSignature d now r = .ok d') :
    readJson d' s.signaturesPath listOfJson? =
      if r.isFinite then .ok (some (s.signatures d ++ [r])) else .error s.unreadableSignatures := by
  have hprintable : ∀ q ∈ s.signatures d ++ [r], q.Printable := by
    rw [List.forall_mem_append, List.forall_mem_singleton]
    exact ⟨fun q hq => (hknown q hq).toPrintable, hr⟩
  have hall : (s.signatures d ++ [r]).all SignatureRecord.isFinite = r.isFinite := by
    have hfinite : (s.signatures d).all SignatureRecord.isFinite :=
      List.all_eq_true.2 fun q hq => (hknown q hq).finite
    rw [List.all_append, hfinite, Bool.true_and, List.all_cons, List.all_nil, Bool.and_true]
  simp only [readJson, readText_storeSignature hs h, SignatureRecord.decode_list hprintable, hall]
  cases r.isFinite <;> rfl

theorem signatures_storeSignature (hs : s.enabled) (hknown : ∀ q ∈ s.signatures d, q.Faithful)
    (hr : r.Faithful) (h : s.storeSignature d now r = .ok d') :
    s.signatures d' = s.signatures d ++ [r] := by
  have hread := readJson_storeSignature hs hknown hr.toPrintable h
  rw [if_pos hr.finite] at hread
  exact signatures_of_readJson hs hread

theorem storeSignature_again (hs : s.enabled) (h : s.storeSignature d now r = .ok d')
    {known : Option (List SignatureRecord)}
    (hread : readJson d' s.signaturesPath listOfJson? = .ok known) (later : Int) (q : SignatureRecord) :
    ∃ d'', s.storeSignature d' later q = .ok d'' := by
  rw [storeSignature, if_pos hs] at h
  obtain ⟨_, -, hwrite⟩ := exists_of_bind_ok h
  rw [storeSignature, if_pos hs, hread]
  exact writeJson_again hwrite later _

end

def storedSignatures (calls : List (Int × Call)) : List SignatureRecord :=
  calls.filterMap fun c => c.2.signature?

theorem storedSignatures_record {c : Int × Call} (h : c.2.signature? = none)
    (calls : List (Int × Call)) : storedSignatures (c :: calls) = storedSignatures calls := by
  simp only [storedSignatures, List.filterMap_cons, h]

theorem storedSignatures_signature (now : Int) (r : SignatureRecord) (calls : List (Int × Call)) :
    storedSignatures ((now, .signature r) :: calls) = r :: storedSignatures calls :=
  rfl

theorem signatures_run_of_error {s : Store} (hs : s.enabled) {d d' : Disk} {calls : List (Int × Call)}
    {e : StorageError} (hread : readJson d s.signaturesPath listOfJson? = .error e)
    (hrun : s.run d calls = .ok d') : s.signatures d' = [] := by
  induction calls generalizing d with
  | nil =>
    cases hrun
    exact signatures_of_error hs hread
  | cons c calls ih =>
    obtain ⟨d₁, hc, hcalls⟩ := run_cons hrun
    obtain ⟨f, k, j, -, hwrite⟩ | ⟨r, known, -, hknown, -⟩ := Call.apply_ok hs hc
    · refine ih ?_ hcalls
      rw [← hread, readJson, readJson, readText_signatures_writeRecord hwrite]
    · rw [hread] at hknown
      cases hknown

theorem signatures_run {s : Store} (hs : s.enabled) {d d' : Disk} {calls : List (Int × Call)}
    (hknown : ∀ q ∈ s.signatures d, q.Faithful) (hnew : ∀ r ∈ storedSignatures calls, r.Printable)
    (hrun : s.run d calls = .ok d') :
    s.signatures d' =
      if (storedSignatures calls).all SignatureRecord.isFinite then
        s.signatures d ++ storedSignatures calls
      else [] := by
  induction calls generalizing d with
  | nil =>
    cases hrun
    exact (List.append_nil _).symm
  | cons c calls ih =>
    obtain ⟨d₁, hc, hcalls⟩ := run_cons hrun
    obtain ⟨now, c⟩ := c
    cases hsignature : c.signature? with
    | none =>
      have hsame := (Call.keepsOthers hs hc).signatures hsignature
      have hknown₁ : ∀ q ∈ s.signatures d₁, q.Faithful := by rwa [hsame]
      rw [storedSignatures_record hsignature] at hnew ⊢
      rw [ih hknown₁ hnew hcalls, hsame]
    | some r =>
      obtain rfl := Call.eq_signature hsignature
      rw [storedSignatures_signature, List.forall_mem_cons] at hnew
      obtain ⟨hr, hnew⟩ := hnew
      have hread := readJson_storeSignature hs hknown hr hc
      rw [storedSignatures_signature, List.all_cons]
      cases hfinite : r.isFinite with
      | false =>
        rw [hfinite] at hread
        exact signatures_run_of_error hs hread hcalls
      | true =>
        have hlog := signatures_storeSignature hs hknown ⟨hr, hfinite⟩ hc
        have hknown₁ : ∀ q ∈ s.signatures d₁, q.Faithful := by
          rw [hlog, List.forall_mem_append, List.forall_mem_singleton]
          exact ⟨hknown, hr, hfinite⟩
        rw [ih hknown₁ hnew hcalls, hlog, List.append_assoc]
        rfl

/-- What becomes of the signatures when one is stored: it is added to those that were there and others
can follow, but if its numbers are not finite all are lost and no other can follow. -/
theorem storeSignature_outcome {s : Store} (hs : s.enabled) {d : Disk} {now : Int}
    {r : SignatureRecord} (hknown : ∀ q ∈ s.signatures d, q.Faithful) (hr : r.Printable) :
    (∀ e, readJson d s.signaturesPath listOfJson? = .error e → s.storeSignature d now r = .error e) ∧
      (∀ d', s.storeSignature d now r = .ok d' →
        if r.isFinite then
          readJson d' s.signaturesPath listOfJson? = .ok (some (s.signatures d ++ [r])) ∧
            s.signatures d' = s.signatures d ++ [r] ∧
            ∀ later q, ∃ d'', s.storeSignature d' later q = .ok d''
        else
          s.signatures d' = [] ∧
            ∀ later q, s.storeSignature d' later q = .error s.unreadableSignatures) ∧
      ∀ calls d', s.run d calls = .ok d' → (∀ q ∈ storedSignatures calls, q.Printable) →
        s.signatures d' =
          if (storedSignatures calls).all SignatureRecord.isFinite then
            s.signatures d ++ storedSignatures calls
          else [] := by
  refine ⟨fun e => storeSignature_error hs, fun d' hstore => ?_,
    fun calls d' hrun hnew => signatures_run hs hknown hnew hrun⟩
  have hread := readJson_storeSignature hs hknown hr hstore
  split
  · rename_i hfinite
    rw [if_pos hfinite] at hread
    exact ⟨hread, signatures_of_readJson hs hread, storeSignature_again hs hstore hread⟩
  · rename_i hfinite
    rw [if_neg hfinite] at hread
    exact ⟨signatures_of_error hs hread, fun later q => storeSignature_error hs hread⟩

def halfSignature (test hash : String) : SignatureRecord := ⟨test, hash, [0.5], "p", .epoch, "s"⟩

theorem faithful_halfSignature (test hash : String) : (halfSignature test hash).Faithful := by
  have hfinite : ([0.5] : List Float).all Float.isFinite := by decide +kernel
  exact ⟨⟨List.forall_mem_singleton.2 fun _ => Json.readsBack_half, Moment.readsBack_epoch⟩, hfinite⟩

theorem exists_storeSignature_halfSignature :
    let s : Store := ⟨⟨"store"⟩, 30, true⟩
    let d : Disk := ⟨[(["store"], .directory), (["store", "signatures"], .directory)], []⟩
    ∃ d₁, s.storeSignature d 1 (halfSignature "test_a" "abc") = .ok d₁ ∧
      readJson d₁ s.signaturesPath listOfJson? = .ok (some [halfSignature "test_a" "abc"]) := by
  intro s d
  have hs : s.enabled := rfl
  have hnone : s.signatures d = [] := signatures_of_directories hs (by simp [d])
  have hhalf := faithful_halfSignature "test_a" "abc"
  obtain ⟨d₁, hd₁⟩ : ∃ d₁, s.storeSignature d 1 (halfSignature "test_a" "abc") = .ok d₁ :=
    exists_of_isOk (by decide +kernel)
  have hread := readJson_storeSignature hs (by simp [hnone]) hhalf.toPrintable hd₁
  rw [if_pos hhalf.finite, hnone] at hread
  exact ⟨d₁, hd₁, hread⟩

theorem storeSignature_outcome_half :
    let s : Store := ⟨⟨"store"⟩, 30, true⟩
    let d : Disk := ⟨[(["store"], .directory), (["store", "signatures"], .directory)], []⟩
    ∃ d₁ d₂, s.storeSignature d 1 (halfSignature "test_a" "abc") = .ok d₁ ∧
      s.signatures d₁ = [halfSignature "test_a" "abc"] ∧
      s.storeSignature d₁ 2 (halfSignature "test_b" "abd") = .ok d₂ ∧
      s.signatures d₂ = [halfSignature "test_a" "abc", halfSignature "test_b" "abd"] := by
  intro s d
  have hs : s.enabled := rfl
  obtain ⟨d₁, hd₁, hread⟩ := exists_storeSignature_halfSignature
  have hlog : s.signatures d₁ = [halfSignature "test_a" "abc"] := signatures_of_readJson hs hread
  have hnew := faithful_halfSignature "test_b" "abd"
  obtain ⟨d₂, hd₂⟩ := storeSignature_again hs hd₁ hread 2 (halfSignature "test_b" "abd")
  have hknown : ∀ q ∈ s.signatures d₁, q.Faithful := by
    rw [hlog, List.forall_mem_singleton]
    exact faithful_halfSignature "test_a" "abc"
  have houtcome := (storeSignature_outcome hs hknown hnew.toPrintable).2.1 d₂ hd₂
  rw [if_pos hnew.finite, hlog] at houtcome
  exact ⟨d₁, d₂, hd₁, hlog, hd₂, houtcome.2.1⟩

/-- A signature that could be read is lost when one with a number that is not finite is stored. -/
theorem signatures_lost :
    let s : Store := ⟨⟨"store"⟩, 30, true⟩
    let d : Disk := ⟨[(["store"], .directory), (["store", "signatures"], .directory)], []⟩
    let first : SignatureRecord := ⟨"test_a", "abc", [0.5], "p", .epoch, "s"⟩
    let last : SignatureRecord := ⟨"test_b", "abd", [0 / 0], "p", .epoch, "s"⟩
    ∃ d₁ d₂, s.storeSignature d 1 first = .ok d₁ ∧ s.signatures d₁ = [first] ∧
      s.storeSignature d₁ 2 last = .ok d₂ ∧ s.signatures d₂ = [] := by
  intro s d first last
  have hs : s.enabled := rfl
  have hlast : last.Printable :=
    ⟨List.forall_mem_singleton.2 fun hfinite => absurd hfinite (by decide +kernel),
      Moment.readsBack_epoch⟩
  obtain ⟨d₁, hd₁, hread⟩ := exists_storeSignature_halfSignature
  have hlog : s.signatures d₁ = [first] := signatures_of_readJson hs hread
  have hfirst : first.Faithful := faithful_halfSignature "test_a" "abc"
  obtain ⟨d₂, hd₂⟩ := storeSignature_again hs hd₁ hread 2 last
  have hlost := readJson_storeSignature hs (by simp [hlog, hfirst]) hlast hd₂
  rw [if_neg (by decide +kernel)] at hlost
  exact ⟨d₁, d₂, hd₁, hlog, hd₂, signatures_of_error hs hlost⟩

end Store

end TestTwins
