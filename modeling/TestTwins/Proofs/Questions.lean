import TestTwins.Proofs.Clustering

namespace TestTwins.Cluster

variable {σ τ K : Type}

structure Question (σ : Type) where
  first : String
  second : String
  state : σ

def logged (scorer : Scorer σ K) : Scorer (σ × List (Question σ)) K := fun a b s =>
  let (score, now) := scorer a b s.1
  (score, now, s.2 ++ [⟨a, b, s.1⟩])

theorem mirrors_logged (scorer : Scorer σ K) (a b : String) :
    Mirrors Prod.fst (logged scorer a b) (scorer a b) :=
  fun _ => rfl

variable [Scalar K]

section Mirrors

variable {view : τ → σ} {scorer : Scorer τ K} {scorer' : Scorer σ K}
  (h : ∀ a b, Mirrors view (scorer a b) (scorer' a b)) (config : ClusterConfig K)

include h

theorem mirrors_build (seed : TestId) (others : List TestId) :
    Mirrors view (build scorer config seed others) (build scorer' config seed others) :=
  (Mirrors.mapM (fun _ => h _ _) _).bind fun _ => .pure _

theorem mirrors_divide (seed : TestId) (l : List TestId) :
    Mirrors view (divide scorer config seed l) (divide scorer' config seed l) := by
  induction l with
  | nil => exact .pure _
  | cons t l ih => exact (h _ _).bind fun _ => ih.bind fun _ => .pure _

theorem mirrors_rounds (fuel : Nat) (l : List TestId) :
    Mirrors view (rounds scorer config fuel l) (rounds scorer' config fuel l) := by
  induction fuel generalizing l with
  | zero => exact .pure []
  | succ fuel ih =>
    cases l with
    | nil => exact .pure []
    | cons seed l =>
      refine (mirrors_divide h config seed l).bind fun (taken, free) => ?_
      change Mirrors view (if taken.length + 1 < config.minSize then _ else _)
        (if taken.length + 1 < config.minSize then _ else _)
      split
      · exact ih free
      · exact (mirrors_build h config seed taken).bind fun _ => (ih free).bind fun _ => .pure _

theorem mirrors_ofKeys (keys : List String) :
    Mirrors view (ofKeys scorer config keys) (ofKeys scorer' config keys) :=
  mirrors_rounds h config _ _

end Mirrors

def Question.IsAbout (inv : σ → Prop) (tests : List TestId) (q : Question σ) : Prop :=
  inv q.state ∧ ∃ a ∈ tests, ∃ b ∈ tests, q.first = a.similarityKey ∧ q.second = b.similarityKey

theorem questions_ofKeys {inv : σ → Prop} {scorer : Scorer σ K} (h : ∀ a b, Keeps inv (scorer a b))
    (config : ClusterConfig K) (keys : List String) :
    Keeps (fun s => inv s.1 ∧ ∀ q ∈ s.2, q.IsAbout inv (accepted keys))
      (ofKeys (logged scorer) config keys) := by
  refine keeps_ofKeys_of_accepted (fun a ha b hb s hs => ?_) config
  obtain ⟨hstate, hlog⟩ := hs
  refine ⟨h _ _ s.1 hstate, ?_⟩
  change ∀ q ∈ s.2 ++ [_], q.IsAbout inv (accepted keys)
  rw [List.forall_mem_append, List.forall_mem_singleton]
  exact ⟨hlog, hstate, a, ha, b, hb, rfl, rfl⟩

end TestTwins.Cluster
