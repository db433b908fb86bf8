import TestTwins.Proofs.Expiry
import TestTwins.Proofs.SessionQueries

namespace TestTwins

namespace Store

variable {d d' : Disk}

theorem makeAll_found {paths : List Path} (hd : d.IsTree)
    (hhere : d.entry? d.here = some .directory) (hpaths : ∀ p ∈ paths, p.isEmpty = false)
    (h : makeAll d paths = (d', .ok ())) :
    (d'.IsTree ∧ d.Extends d') ∧ ∀ p ∈ paths, ∃ q, d'.find p = .ok (q, .directory) := by
  induction paths generalizing d with
  | nil =>
    cases h
    exact ⟨⟨hd, .refl _⟩, nofun⟩
  | cons p rest ih =>
    obtain ⟨hp, hrest⟩ := List.forall_mem_cons.1 hpaths
    rw [makeAll, makeDirectory] at h
    cases hmade : d.makeDirectories p with
    | error e =>
      rw [hmade] at h
      cases h
    | ok d₁ =>
      rw [hmade] at h
      obtain ⟨htree, hextends⟩ := Disk.makeDirectories_isTree hd hhere hmade
      have hhere₁ : d₁.entry? d₁.here = some .directory :=
        hextends.here_eq ▸ hextends.directory _ hhere
      obtain ⟨⟨htree', hextends'⟩, hfound⟩ := ih htree hhere₁ hrest h
      obtain ⟨q, hq⟩ := Disk.find_makeDirectories hd hhere hp hmade
      refine ⟨⟨htree', hextends.trans hextends'⟩, List.forall_mem_cons.2 ⟨?_, hfound⟩⟩
      exact ⟨q, hextends'.find_directory hq⟩

theorem find_folder_openAt {now : Int} {root : Path} {retentionDays : Int} {s : Store}
    (hd : d.IsTree) (hhere : d.entry? d.here = some .directory)
    (h : openAt d now root retentionDays true = (d', .ok s)) :
    ∀ folder ∈ ["sessions", "tests", "files", "signatures"],
      ∃ q, d'.find (root.join folder) = .ok (q, .directory) := by
  intro folder hfolder
  rw [openAt, if_pos rfl] at h
  split at h
  · rename_i made hmade
    cases h
    have hnames : ∀ name ∈ ["sessions", "tests", "files", "signatures"], Path.IsName name := by decide
    have hpaths : ∀ p ∈ ["sessions", "tests", "files", "signatures"].map
        (directory ⟨root, retentionDays, true⟩), p.isEmpty = false :=
      List.forall_mem_map.2 fun name hname => Path.isEmpty_join (hnames name hname) root
    obtain ⟨⟨htree, -⟩, hfound⟩ := makeAll_found hd hhere hpaths hmade
    obtain ⟨q, hq⟩ := hfound _ (List.mem_map_of_mem hfolder)
    have hfiles : made.OnlyFiles (IsGone ⟨root, retentionDays, true⟩ (fun _ => false) made now) :=
      onlyFiles_isGone
    rw [purge, purgeUnless_eq rfl htree]
    exact ⟨q, (Disk.sameDirectories_without htree hfiles).find_directory_iff.2 hq⟩
  · cases h

inductive Request
  | openAt (root : Path) (retentionDays : Int) (enabled : Bool)
  | write (c : Call)
  | session (id : String)
  | test (name : String)
  | file (path : Path)
  | signatures
  | similarSignatures (hash : String) (threshold : Float)
  | recentSessions (limit : Nat)
  | trends (days : Int)
  | purge

inductive Answer
  | done (outcome : Except StorageError Unit)
  | session (found : Option SessionRecord)
  | test (found : Option TestRecord)
  | file (found : Option FileRecord)
  | signatures (found : List SignatureRecord)
  | similarSignatures (found : List (SignatureRecord × Float))
  | sessions (found : List SessionRecord)
  | trends (found : Option Trends)
  | removed (report : RetentionReport)

namespace Request

def apply (now : Int) : Request → Store × Disk → Answer × Store × Disk
  | openAt root retentionDays enabled, (s, d) =>
    match Store.openAt d now root retentionDays enabled with
    | (d, .ok s) => (.done (.ok ()), s, d)
    | (d, .error e) => (.done (.error e), s, d)
  | write c, (s, d) =>
    match c.apply s d now with
    | .ok d => (.done (.ok ()), s, d)
    | .error e => (.done (.error e), s, d)
  | session id, (s, d) => (.session (s.loadSession d id), s, d)
  | test name, (s, d) => (.test (s.loadTest d name), s, d)
  | file path, (s, d) => (.file (s.loadFile d path), s, d)
  | signatures, (s, d) => (.signatures (s.signatures d), s, d)
  | similarSignatures hash threshold, (s, d) =>
    (.similarSignatures (s.similarSignatures d hash threshold), s, d)
  | recentSessions limit, (s, d) => (.sessions (s.recentSessions d limit), s, d)
  | trends days, (s, d) => (.trends (s.trends d now days), s, d)
  | purge, (s, d) =>
    let (d, report) := s.purge d now
    (.removed report, s, d)

def enables : Request → Bool
  | openAt _ _ enabled => enabled
  | _ => false

def emptyAnswer : Request → Answer
  | openAt _ _ _ => .done (.ok ())
  | write _ => .done (.ok ())
  | session _ => .session none
  | test _ => .test none
  | file _ => .file none
  | signatures => .signatures []
  | similarSignatures _ _ => .similarSignatures []
  | recentSessions _ => .sessions []
  | trends _ => .trends none
  | purge => .removed .empty

end Request

def serve : List (Int × Request) → Store × Disk → List Answer × Store × Disk
  | [], state => ([], state)
  | r :: rest, state =>
    let (answer, state) := r.2.apply r.1 state
    let (answers, state) := serve rest state
    (answer :: answers, state)

section Disabled

variable {s : Store} (hs : s.enabled = false)
include hs

theorem load_disabled (d : Disk) (p : Path) (decode : Json → Option α) : s.load d p decode = none := by
  rw [load, if_neg (by simp [hs])]

theorem sessions_disabled (d : Disk) : s.sessions d = [] := by
  rw [sessions, if_neg (by simp [hs])]

theorem signatures_disabled (d : Disk) : s.signatures d = [] := by
  rw [signatures, load_disabled hs, Option.getD_none]

theorem similarSignatures_disabled {K : Type} [Scalar K] [Ranked K] (d : Disk) (hash : String)
    (threshold : K) : s.similarSignatures d hash threshold = [] := by
  rw [similarSignatures, signatures_disabled hs]
  simp [sortByScore]

theorem recentSessions_disabled (d : Disk) (limit : Nat) : s.recentSessions d limit = [] := by
  rw [recentSessions, sessions_disabled hs, List.mergeSort_nil, List.take_nil]

theorem trends_disabled (d : Disk) (now days : Int) : s.trends d now days = none := by
  rw [trends_eq_none_iff, sessionsSince, sessions_disabled hs]
  exact .inr rfl

theorem apply_disabled (d : Disk) (now : Int) (c : Call) : c.apply s d now = .ok d := by
  have hnot : ¬ s.enabled := by simp [hs]
  cases c with
  | session r => exact if_neg hnot
  | test r => exact if_neg hnot
  | file r => exact if_neg hnot
  | signature r => exact if_neg hnot

theorem purge_disabled (d : Disk) (now : Int) : s.purge d now = (d, .empty) := by
  rw [purge, purgeUnless, if_neg (by simp [hs])]

theorem request_disabled {r : Request} (hr : r.enables = false) (now : Int) :
    ∃ s', s'.enabled = false ∧ ∀ d, r.apply now (s, d) = (r.emptyAnswer, s', d) := by
  cases r with
  | openAt root retentionDays enabled =>
    obtain rfl : enabled = false := hr
    exact ⟨⟨root, retentionDays, false⟩, rfl, fun d => rfl⟩
  | write c => exact ⟨s, hs, fun d => by rw [Request.apply, apply_disabled hs]; rfl⟩
  | session id => exact ⟨s, hs, fun d => by rw [Request.apply, loadSession, load_disabled hs]; rfl⟩
  | test name => exact ⟨s, hs, fun d => by rw [Request.apply, loadTest, load_disabled hs]; rfl⟩
  | file path => exact ⟨s, hs, fun d => by rw [Request.apply, loadFile, load_disabled hs]; rfl⟩
  | signatures => exact ⟨s, hs, fun d => by rw [Request.apply, signatures_disabled hs]; rfl⟩
  | similarSignatures hash threshold =>
    exact ⟨s, hs, fun d => by rw [Request.apply, similarSignatures_disabled hs]; rfl⟩
  | recentSessions limit => exact ⟨s, hs, fun d => by rw [Request.apply, recentSessions_disabled hs]; rfl⟩
  | trends days => exact ⟨s, hs, fun d => by rw [Request.apply, trends_disabled hs]; rfl⟩
  | purge => exact ⟨s, hs, fun d => by rw [Request.apply, purge_disabled hs]; rfl⟩

theorem serve_disabled {requests : List (Int × Request)} (h : ∀ r ∈ requests, r.2.enables = false) :
    ∃ s', s'.enabled = false ∧
      ∀ d, serve requests (s, d) = (requests.map (·.2.emptyAnswer), s', d) := by
  induction requests generalizing s with
  | nil => exact ⟨s, hs, fun d => rfl⟩
  | cons r rest ih =>
    obtain ⟨hr, hrest⟩ := List.forall_mem_cons.1 h
    obtain ⟨s₁, hs₁, hfirst⟩ := request_disabled hs hr r.1
    obtain ⟨s', hs', hothers⟩ := ih hs₁ hrest
    refine ⟨s', hs', fun d => ?_⟩
    rw [serve, hfirst d]
    simp only [hothers d, List.map_cons]

end Disabled

/-- Opening a store, and all that is asked of it after that, leaves every disk as it is, with answers that
know nothing and are the same on all disks, if and only if the store is not enabled. -/
theorem inert_iff_disabled (now : Int) (root : Path) (retentionDays : Int) (enabled : Bool)
    {requests : List (Int × Request)} (h : ∀ r ∈ requests, r.2.enables = false) :
    enabled = false ↔ ∃ s s', ∀ d,
      openAt d now root retentionDays enabled = (d, .ok s) ∧
        serve requests (s, d) = (requests.map (·.2.emptyAnswer), s', d) ∧
        ∀ d', (serve requests (s, d')).1 = (serve requests (s, d)).1 := by
  constructor
  · rintro rfl
    obtain ⟨s', -, hserve⟩ := serve_disabled (s := ⟨root, retentionDays, false⟩) rfl h
    refine ⟨_, s', fun d => ⟨rfl, hserve d, fun d' => ?_⟩⟩
    rw [hserve, hserve]
  · rintro ⟨s, s', hinert⟩
    by_contra henabled
    obtain rfl : enabled = true := Bool.eq_true_of_not_eq_false henabled
    -- On a disk with nothing on it, the folders that an enabled store makes are a difference.
    obtain ⟨hopen, -⟩ := hinert ⟨[], []⟩
    obtain ⟨q, hq⟩ := find_folder_openAt (Disk.isTree_empty []) rfl hopen "sessions" List.mem_cons_self
    obtain ⟨above, -, -, rfl⟩ := Disk.place_of_find_join isName_sessions hq
    exact absurd (Disk.find_eq_ok_iff.1 hq).2 (by simp [Disk.entry?])

theorem inert_iff_disabled_twoSessions :
    let requests : List (Int × Request) := [(1, .recentSessions 5), (2, .session "a"),
      (3, .write (.session (plainSession "a"))), (4, .openAt ⟨"/"⟩ 1 false), (100 * Moment.dayNanos, .purge)]
    (∀ r ∈ requests, r.2.enables = false) ∧
      sessions ⟨⟨"/"⟩, 30, true⟩ twoSessions = [plainSession "a", laterSession] ∧
      ∃ s s', openAt twoSessions 0 ⟨"/"⟩ 30 false = (twoSessions, .ok s) ∧
        serve requests (s, twoSessions) =
          ([.sessions [], .session none, .done (.ok ()), .done (.ok ()), .removed ⟨0, 0⟩], s',
            twoSessions) := by
  intro requests
  have hrequests : ∀ r ∈ requests, r.2.enables = false := by simp [requests, Request.enables]
  obtain ⟨s, s', hinert⟩ := (inert_iff_disabled 0 ⟨"/"⟩ 30 false hrequests).1 rfl
  obtain ⟨hopen, hserve, -⟩ := hinert twoSessions
  exact ⟨hrequests, sessions_twoSessions, s, s', hopen, hserve⟩

end Store

end TestTwins
