import TestTwins.Proofs.CollectorHistory

namespace TestTwins

namespace Executor

variable {σ : Type}

inductive Call (σ : Type)
  | start (world : Disk × σ) (success : Bool)
  | execute (request : Request) (world : Disk × σ) (success : Bool)

def bare (w : Disk × σ × List (Call σ)) : Disk × σ := (w.1, w.2.1)

def logged (E : Executor σ) : Executor (σ × List (Call σ)) where
  hasSession w := E.hasSession (bare w)
  start w :=
    let (result, now) := E.start (bare w)
    (result, now.1, now.2, w.2.2 ++ [.start (bare w) result.isOk])
  stop w :=
    let (_, now) := E.stop (bare w)
    ((), now.1, now.2, w.2.2)
  execute request w :=
    let (result, now) := E.execute request (bare w)
    (result, now.1, now.2, w.2.2 ++ [.execute request (bare w) result.isOk])

namespace Call

def success : Call σ → Bool
  | .start _ success => success
  | .execute _ _ success => success

def Failed (call : Call σ) : Prop := call.success = false

/-- Sessions are started where there is none, tests are run where there is one, and only tests that are
found at that time. -/
def Allowed (E : Executor σ) : Call σ → Prop
  | .start w _ => E.hasSession w = false
  | .execute request w _ => E.hasSession w ∧ Collector.IsFound w.1 request.file request.test

end Call

def Orderly (E : Executor σ) (w : Disk × σ × List (Call σ)) : Prop := ∀ call ∈ w.2.2, call.Allowed E

end Executor

namespace Collector

open Executor (Call bare Orderly)
open Cluster (Mirrors)

variable {σ : Type}

theorem ensureSession_eq (E : Executor σ) (w : Disk × σ) :
    ensureSession E w = if E.hasSession w then (.ok (), w) else E.start w := by
  simp only [ensureSession, bind, StateT.bind, get, getThe, MonadStateOf.get, StateT.get, pure]
  split <;> rfl

theorem measure_eq (E : Executor σ) (c : Collector) (file : Path) (test : String) (line : Nat)
    (given : Option (List Path)) (w : Disk × σ) :
    c.measure E file test line given w =
      match ensureSession E w with
      | (.error e, w₁) => ((.error e, c), w₁)
      | (.ok (), w₁) =>
        match c.analyze w₁.1 file test (sourcesOf c.limits w.1 file given) with
        | .error _ =>
          ((.ok (c.recordOf w₁.1 .empty file test line (sourcesOf c.limits w.1 file given)), c), w₁)
        | .ok c' =>
          match E.execute ⟨file, test, sourcesOf c.limits w.1 file given,
              Sources.importRoots w₁.1 file (sourcesOf c.limits w.1 file given)⟩ w₁ with
          | (.error e, w₂) => ((.error e, c'), w₂)
          | (.ok m, w₂) =>
            ((.ok (c'.recordOf w₂.1 m file test line (sourcesOf c.limits w.1 file given)), c'), w₂) := by
  simp only [measure, bind, StateT.bind, get, getThe, MonadStateOf.get, StateT.get, pure, sourcesOf]
  rcases ensureSession E w with ⟨_ | ⟨⟨⟩⟩, w₁⟩
  · rfl
  · simp only [StateT.bind, bind, StateT.get, pure]
    cases c.analyze w₁.1 file test (given.getD (Sources.resolve w.1 c.limits file)) with
    | error e => rfl
    | ok c' =>
      simp only [StateT.bind, bind]
      rcases E.execute _ w₁ with ⟨_ | m, w₂⟩ <;> rfl

def recordFrom (test : String) (file : Path) (line : Nat) :
    Except InstrumentationError (Record Float) → Record Float
  | .ok r => r
  | .error _ => .empty test file line

theorem collect_eq (E : Executor σ) (c : Collector) (file : Path) (test : String) (line : Nat)
    (given : Option (List Path)) (w : Disk × σ) :
    c.collect E file test line given w =
      let ((result, c'), w') := c.measure E file test line given w
      let record := recordFrom test file line result
      ((record, { c' with records := c'.records.insert (keyOf file test) record }), w') :=
  rfl

section Keeps

variable {E : Executor σ} {inv : Disk × σ → Prop}
  (h : ∀ c file test line given, Cluster.Keeps inv (collect E c file test line given))

include h

theorem keeps_collectTests (file : Path) (tests : List (String × Nat)) (c : Collector) :
    Cluster.Keeps inv (collectTests E file tests c) := by
  induction tests generalizing c with
  | nil => exact .pure _
  | cons t rest ih => exact (h c file t.1 t.2 none).bind fun r => (ih r.2).bind fun _ => .pure _

theorem keeps_collectSuite (files : List Path) (c : Collector) :
    Cluster.Keeps inv (collectSuite E files c) := by
  induction files generalizing c with
  | nil => exact .pure _
  | cons file rest ih =>
    intro w
    exact ((keeps_collectTests h file (testsOf w.1 file) c).bind fun r =>
      (ih r.2).bind fun s => .pure (r.1 ++ s.1, s.2)) w

end Keeps

section Mirrors

variable (E : Executor σ)

theorem mirrors_ensureSession : Mirrors bare (ensureSession E.logged) (ensureSession E) := by
  intro w
  rw [ensureSession_eq, ensureSession_eq]
  by_cases hsession : E.hasSession (bare w)
  · rw [if_pos hsession, if_pos (show E.logged.hasSession w from hsession)]
  · rw [if_neg hsession, if_neg (show ¬ E.logged.hasSession w from hsession)]
    rfl

theorem mirrors_measure (c : Collector) (file : Path) (test : String) (line : Nat)
    (given : Option (List Path)) :
    Mirrors bare (c.measure E.logged file test line given) (c.measure E file test line given) := by
  intro w
  rw [measure_eq, measure_eq, ← mirrors_ensureSession E w]
  rcases ensureSession E.logged w with ⟨_ | ⟨⟨⟩⟩, w₁⟩
  · rfl
  · simp only [bare]
    cases c.analyze w₁.1 file test (sourcesOf c.limits w.1 file given) with
    | error e => rfl
    | ok c' =>
      simp only [Executor.logged, bare]
      rcases E.execute _ (w₁.1, w₁.2.1) with ⟨_ | m, w₂⟩ <;> rfl

theorem mirrors_collect (c : Collector) (file : Path) (test : String) (line : Nat)
    (given : Option (List Path)) :
    Mirrors bare (c.collect E.logged file test line given) (c.collect E file test line given) :=
  (mirrors_measure E c file test line given).bind fun _ => .pure _

theorem mirrors_collectTests (file : Path) (tests : List (String × Nat)) (c : Collector) :
    Mirrors bare (collectTests E.logged file tests c) (collectTests E file tests c) := by
  induction tests generalizing c with
  | nil => exact .pure _
  | cons t rest ih =>
    exact (mirrors_collect E c file t.1 t.2 none).bind fun r => (ih r.2).bind fun _ => .pure _

theorem mirrors_collectSuite (files : List Path) (c : Collector) :
    Mirrors bare (collectSuite E.logged files c) (collectSuite E files c) := by
  induction files generalizing c with
  | nil => exact .pure _
  | cons file rest ih =>
    intro w
    exact ((mirrors_collectTests E file (testsOf w.1 file) c).bind fun r =>
      (ih r.2).bind fun s => .pure (r.1 ++ s.1, s.2)) w

theorem apply_logged (op : Op) (now : Collector × Disk × σ × List (Call σ)) :
    ((op.apply E.logged now).1, bare (op.apply E.logged now).2) = op.apply E (now.1, bare now.2) := by
  cases op with
  | collect file test line given =>
    simp only [Op.apply, ← mirrors_collect E now.1 file test line given now.2]
    rfl
  | collectSuite files =>
    simp only [Op.apply, ← mirrors_collectSuite E files now.1 now.2]
    rfl
  | clear => rfl
  | shutdown => rfl
  | edit change => rfl

theorem run_logged (ops : List Op) (now : Collector × Disk × σ × List (Call σ)) :
    ((run E.logged ops now).1, bare (run E.logged ops now).2) = run E ops (now.1, bare now.2) := by
  induction ops generalizing now with
  | nil => rfl
  | cons op ops ih =>
    change _ = run E ops (op.apply E (now.1, bare now.2))
    rw [← apply_logged E op now]
    exact ih _

end Mirrors

theorem isFound_of_analyze {c c' : Collector} {disk : Disk} {file : Path} {test : String}
    {sources : List Path} (h : c.analyze disk file test sources = .ok c') : IsFound disk file test := by
  by_contra hfound
  obtain ⟨e, he⟩ := analyze_of_not_isFound hfound sources c
  rw [h] at he
  cases he

theorem records_of_analyze {c c' : Collector} {disk : Disk} {file : Path} {test : String}
    {sources : List Path} (h : c.analyze disk file test sources = .ok c') : c'.records = c.records := by
  obtain ⟨f, hf⟩ := analyze_of_isFound (isFound_of_analyze h) sources
  rw [hf c] at h
  cases h
  simp only [addDiagnostics]
  split <;> split <;> rfl

def Accounts (success : Bool) (calls : List (Call σ)) : Prop :=
  success = false ↔ ∃ call ∈ calls, call.Failed

theorem Accounts.append {calls : List (Call σ)} (h : Accounts true calls) {call : Call σ} {success : Bool}
    (hcall : call.Failed ↔ success = false) : Accounts success (calls ++ [call]) := by
  simp only [Accounts, Bool.true_eq_false, false_iff] at h
  simp only [Accounts, List.mem_append, List.mem_singleton, or_and_right, exists_or, h, false_or,
    exists_eq_left, hcall]

/-- What measuring a test comes to: the calls are allowed, one of them failed if and only if there is no
record, a record is signed, and those that were kept stay as they are. -/
structure Turn (E : Executor σ) (c : Collector) (log calls : List (Call σ))
    (after : (Except InstrumentationError (Record Float) × Collector) × Disk × σ × List (Call σ)) :
    Prop where
  log_eq : after.2.2.2 = log ++ calls
  allowed : ∀ call ∈ calls, call.Allowed E
  accounts : Accounts after.1.1.isOk calls
  signed : ∀ r, after.1.1 = .ok r → r.signature.isSome
  records : after.1.2.records = c.records

section Log

variable {E : Executor σ} (hstart : ∀ w, (E.start w).1 = .ok () → E.hasSession (E.start w).2)

include hstart

theorem session_calls (w : Disk × σ × List (Call σ)) :
    ∃ calls, (ensureSession E.logged w).2.2.2 = w.2.2 ++ calls ∧ (∀ call ∈ calls, call.Allowed E) ∧
      Accounts (ensureSession E.logged w).1.isOk calls ∧
      ((ensureSession E.logged w).1 = .ok () → E.hasSession (bare (ensureSession E.logged w).2)) := by
  rw [ensureSession_eq]
  by_cases hsession : E.logged.hasSession w
  · rw [if_pos hsession]
    exact ⟨[], by simp, by simp, by simp [Accounts, Except.isOk, Except.toBool], fun _ => hsession⟩
  · rw [if_neg hsession]
    refine ⟨[_], rfl, ?_, ?_, hstart (bare w)⟩
    · rw [List.forall_mem_singleton]
      exact Bool.eq_false_iff.2 hsession
    · simp only [Accounts, List.mem_singleton, exists_eq_left]
      exact Iff.rfl

theorem measure_turn (c : Collector) (file : Path) (test : String) (line : Nat)
    (given : Option (List Path)) (w : Disk × σ × List (Call σ)) :
    ∃ calls, Turn E c w.2.2 calls (c.measure E.logged file test line given w) := by
  obtain ⟨calls, hlog, hallowed, haccounts, hsession⟩ := session_calls hstart w
  rw [measure_eq]
  generalize ensureSession E.logged w = started at *
  obtain ⟨_ | ⟨⟨⟩⟩, w₁⟩ := started
  · exact ⟨calls, hlog, hallowed, haccounts, nofun, rfl⟩
  cases hanalyze : c.analyze w₁.1 file test (sourcesOf c.limits w.1 file given) with
  | error e =>
    simp only [hanalyze]
    exact ⟨calls, hlog, hallowed, haccounts, fun _ h => Except.ok.inj h ▸ rfl, rfl⟩
  | ok c' =>
    -- The test is found in the world in which the session is known to be there.
    have hcall (success : Bool) : ∀ call ∈ calls ++ [Call.execute ⟨file, test,
        sourcesOf c.limits w.1 file given, Sources.importRoots w₁.1 file
          (sourcesOf c.limits w.1 file given)⟩ (bare w₁) success], call.Allowed E := by
      simp only [List.forall_mem_append, List.forall_mem_singleton]
      exact ⟨hallowed, hsession rfl, isFound_of_analyze hanalyze⟩
    have hlog' (call : Call σ) : w₁.2.2 ++ [call] = w.2.2 ++ (calls ++ [call]) := by
      rw [← List.append_assoc, ← hlog]
    simp only [hanalyze, Executor.logged]
    rcases E.execute _ (bare w₁) with ⟨_ | m, w₂⟩
    · exact ⟨_, hlog' _, hcall _, haccounts.append Iff.rfl, nofun, records_of_analyze hanalyze⟩
    · exact ⟨_, hlog' _, hcall _, haccounts.append Iff.rfl, fun _ h => Except.ok.inj h ▸ rfl,
        records_of_analyze hanalyze⟩

theorem keeps_orderly_collect (c : Collector) (file : Path) (test : String) (line : Nat)
    (given : Option (List Path)) : Cluster.Keeps (Orderly E) (c.collect E.logged file test line given) := by
  refine Cluster.Keeps.bind ?_ fun _ => .pure _
  intro w hw
  obtain ⟨calls, hturn⟩ := measure_turn hstart c file test line given w
  rw [Orderly, hturn.log_eq, List.forall_mem_append]
  exact ⟨hw, hturn.allowed⟩

theorem orderly_apply {now : Collector × Disk × σ × List (Call σ)} (h : Orderly E now.2) (op : Op) :
    Orderly E (op.apply E.logged now).2 := by
  cases op with
  | collect file test line given => exact keeps_orderly_collect hstart now.1 file test line given _ h
  | collectSuite files => exact keeps_collectSuite (keeps_orderly_collect hstart) files now.1 _ h
  | clear => exact h
  | shutdown => exact h
  | edit change => exact h

theorem orderly_run {now : Collector × Disk × σ × List (Call σ)} (h : Orderly E now.2) (ops : List Op) :
    Orderly E (run E.logged ops now).2 := by
  induction ops generalizing now with
  | nil => exact h
  | cons op ops ih => exact ih (orderly_apply hstart h op)

theorem collect_turn (c : Collector) (file : Path) (test : String) (line : Nat)
    (given : Option (List Path)) (w : Disk × σ × List (Call σ)) :
    ∃ calls, (c.collect E.logged file test line given w).2.2.2 = w.2.2 ++ calls ∧
      ((∃ call ∈ calls, call.Failed) →
        (c.collect E.logged file test line given w).1.1 = .empty test file line) ∧
      ((∀ call ∈ calls, ¬ call.Failed) →
        (c.collect E.logged file test line given w).1.1.signature.isSome) ∧
      ∀ key, (c.collect E.logged file test line given w).1.2.records.get? key =
        if keyOf file test = key then some (c.collect E.logged file test line given w).1.1
        else c.records.get? key := by
  obtain ⟨calls, hturn⟩ := measure_turn hstart c file test line given w
  rw [collect_eq]
  generalize c.measure E.logged file test line given w = after at *
  obtain ⟨⟨result, c'⟩, w'⟩ := after
  refine ⟨calls, hturn.log_eq, ?_, ?_, ?_⟩
  · intro hfailed
    cases result with
    | error e => rfl
    | ok r => cases hturn.accounts.2 hfailed
  · intro hfine
    cases result with
    | error e =>
      obtain ⟨call, hcall, hfailed⟩ := hturn.accounts.1 rfl
      exact absurd hfailed (hfine call hcall)
    | ok r => exact hturn.signed r rfl
  · intro key
    rw [Table.get?_insert]
    exact congrArg _ (congrArg (Table.get? · key) hturn.records)

end Log

/-- Whatever is asked of a collector and whatever fails, all calls to its executor are allowed, and keeping
a log of them changes nothing. Collecting one more test keeps the record it gives under the key of that
test and touches no other; the record is the empty one if a call failed, and has a signature if none
did. -/
theorem run_in_sessions (E : Executor σ)
    (hstart : ∀ w, (E.start w).1 = .ok () → E.hasSession (E.start w).2) (c : Collector) (w : Disk × σ)
    (ops : List Op) (file : Path) (test : String) (line : Nat) (given : Option (List Path)) :
    let now := run E.logged ops (c, w.1, w.2, [])
    let after := now.1.collect E.logged file test line given now.2
    (now.1, bare now.2) = run E ops (c, w) ∧
      (after.1, bare after.2) = now.1.collect E file test line given (bare now.2) ∧
      (∀ call ∈ after.2.2.2, call.Allowed E) ∧
      (∀ key, after.1.2.records.get? key =
        if keyOf file test = key then some after.1.1 else now.1.records.get? key) ∧
      ∃ calls, after.2.2.2 = now.2.2.2 ++ calls ∧
        ((∃ call ∈ calls, call.Failed) →
          after.1.1 = .empty test file line ∧ after.1.1.signature = none) ∧
        ((∀ call ∈ calls, ¬ call.Failed) → after.1.1.signature.isSome) := by
  intro now after
  have horderly : Orderly E now.2 := orderly_run hstart (by simp [Orderly]) ops
  obtain ⟨calls, hlog, hfailed, hfine, hrecords⟩ :=
    collect_turn hstart now.1 file test line given now.2
  refine ⟨run_logged E ops _, mirrors_collect E now.1 file test line given now.2,
    keeps_orderly_collect hstart now.1 file test line given now.2 horderly, hrecords, calls, hlog, ?_,
    hfine⟩
  intro hsome
  have hempty := hfailed hsome
  exact ⟨hempty, hempty ▸ rfl⟩

section Flaky

def flaky : Executor (Bool × Nat) where
  hasSession w := w.2.1
  start w :=
    if w.2.2 = 0 then (.error (.sessionStart "busy"), w.1, false, 1) else (.ok (), w.1, true, w.2.2 + 1)
  stop w := ((), w.1, false, w.2.2)
  execute _ w :=
    (if w.2.2 < 3 then .error (.sessionStart "lost") else .ok .empty, w.1, w.2.1, w.2.2 + 1)

def flakyHistory : List Op :=
  [.collect ⟨"t.py"⟩ "test_a" 1 none, .collect ⟨"t.py"⟩ "test_a" 1 none, .collectSuite [⟨"t.py"⟩],
    .shutdown]

theorem run_in_sessions_flaky :
    let now := run flaky.logged flakyHistory
      (new someLimits, oneFile "def test_a():pass\n", (false, 0), [])
    let after := now.1.collect flaky.logged ⟨"t.py"⟩ "test_b" 1 none now.2
    after.2.2.2.map Call.success = [false, true, false, true, true] ∧
      (∀ call ∈ after.2.2.2, call.Allowed flaky) ∧ after.1.1.signature.isSome := by
  have hstart : ∀ w, (flaky.start w).1 = .ok () → flaky.hasSession (flaky.start w).2 := by
    intro w
    simp only [flaky]
    split
    · exact nofun
    · exact fun _ => rfl
  obtain ⟨-, -, hallowed, -⟩ := run_in_sessions flaky hstart (new someLimits)
    (oneFile "def test_a():pass\n", false, 0) flakyHistory ⟨"t.py"⟩ "test_b" 1 none
  exact ⟨by decide +kernel, hallowed, by decide +kernel⟩

end Flaky

end Collector

end TestTwins
