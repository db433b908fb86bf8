import TestTwins.Features.Signature
import TestTwins.Proofs.CommentedTrees

namespace TestTwins

inductive Agrees {ε α β : Type} (R : α → β → Prop) : Except ε α → Except ε β → Prop
  | ok {a : α} {b : β} (h : R a b) : Agrees R (.ok a) (.ok b)
  | error (e e' : ε) : Agrees R (.error e) (.error e')

namespace Agrees

variable {ε α β γ δ : Type} {R : α → β → Prop} {S : γ → δ → Prop} {x : Except ε α} {y : Except ε β}

theorem bind {f : α → Except ε γ} {g : β → Except ε δ} (h : Agrees R x y)
    (hfg : ∀ a b, R a b → Agrees S (f a) (g b)) : Agrees S (x >>= f) (y >>= g) := by
  cases h with
  | ok hab => exact hfg _ _ hab
  | error e e' => exact .error e e'

theorem mapM {f : α → Except ε γ} {g : β → Except ε δ} (hfg : ∀ a b, R a b → Agrees S (f a) (g b))
    {l : List α} {k : List β} (h : List.Forall₂ R l k) : Agrees (List.Forall₂ S) (l.mapM f) (k.mapM g) := by
  induction h with
  | nil => exact .ok .nil
  | cons hab _ ih =>
    rw [List.mapM_cons, List.mapM_cons]
    exact (hfg _ _ hab).bind fun _ _ hcd => ih.bind fun _ _ hrest => .ok (.cons hcd hrest)

theorem toOption_eq {x y : Except ε α} (h : Agrees (fun a b => b = a) x y) :
    y.toOption = x.toOption := by
  cases h with
  | ok h => rw [h]
  | error => rfl

end Agrees

namespace Signature

open Python Node

variable {f g : Function} {n m : Node}

theorem agrees_callee (h : n.Commented m) : Agrees Commented (callee f n) (callee g m) := by
  have hcallee := h.rel_child? .function
  rw [callee, callee]
  generalize n.child? .function = x, m.child? .function = y at hcallee
  cases hcallee with
  | none => exact .error _ _
  | some hcallee => exact .ok hcallee

theorem callName?_eq (h : n.Commented m) : callName? m = callName? n := by
  rw [callName?, callName?, h.kind]
  split
  · rename_i hkind
    rw [h.text hkind]
  · rename_i hkind
    exact h.keeps.last hkind
  · rfl

theorem raisedType?_eq (h : n.Commented m) : raisedType? m = raisedType? n := by
  refine rel_bind_eq (h.namedChildren.rel_find?_kind (· != .comment) rfl) fun a b hab => ?_
  rw [hab.kind]
  split
  · rename_i hkind
    rw [hab.text hkind]
  · refine rel_bind_eq (hab.rel_child? .function) fun c d hcd => ?_
    rw [hcd.kind]
    split
    · rename_i hkind
      rw [hcd.text (by simpa using hkind)]
    · rfl
  · rfl

theorem handledType?_eq (h : n.Commented m) : handledType? m = handledType? n := by
  refine rel_bind_eq
    (h.namedChildren.rel_find?_kind (fun k => k != .comment && k != .block) rfl) fun a b hab => ?_
  dsimp only
  rw [hab.kind]
  split
  · rename_i hkind
    exact rel_bind_eq (hab.rel_lead (.inl (by simpa using hkind))) fun _ _ => callName?_eq
  · exact callName?_eq hab

theorem agrees_exceptionToken? (h : n.Commented m) :
    Agrees (fun a b => b = a) (exceptionToken? f n) (exceptionToken? g m) := by
  rw [exceptionToken?, exceptionToken?, h.kind]
  split
  · exact .ok (by rw [raisedType?_eq h])
  · exact .ok (by rw [handledType?_eq h])
  · refine (agrees_callee h).bind fun target target' htarget => .ok ?_
    rw [htarget.kind, callName?_eq htarget]
  · exact .ok rfl

variable (f g) in
theorem agrees_tokens {l k : List Node} (h : Inserts Commented l k) :
    Agrees (fun a b => b.filterMap id = a.filterMap id) (l.mapM (exceptionToken? f))
      (k.mapM (exceptionToken? g)) := by
  induction h with
  | nil => exact .ok rfl
  | keep hhead _ ih =>
    rw [List.mapM_cons, List.mapM_cons]
    refine (agrees_exceptionToken? hhead).bind fun a b hab => ih.bind fun as bs hrest => .ok ?_
    rw [hab, List.filterMap_cons, List.filterMap_cons, hrest]
  | @comment c l k hc _ ih =>
    have hnone : exceptionToken? g c = .ok none := by rw [exceptionToken?, hc.kind]
    rw [List.mapM_cons, hnone, ← bind_pure (l.mapM _)]
    exact ih.bind fun _ _ hrest => .ok hrest

theorem agrees_mockCount (h : f.Commented g) :
    Agrees (fun a b => b = a) (mockCount f) (mockCount g) := by
  have hcalls := h.descendants.forall₂_kind (· == .call) rfl
  refine (Agrees.mapM (fun _ _ h => agrees_callee h.1) hcalls).bind fun targets targets' htargets => .ok ?_
  have hmocks : List.Forall₂ Commented (targets.filter isMockAssertion) (targets'.filter isMockAssertion) :=
    List.rel_filter (fun _ _ h => by simp only [isMockAssertion, callName?_eq h]) htargets
  exact hmocks.length_eq.symm

theorem agrees_exceptionTokens (h : f.Commented g) :
    Agrees (fun a b => b = a) (exceptionTokens f) (exceptionTokens g) :=
  (agrees_tokens f g h.descendants).bind fun _ _ htokens => .ok (congrArg OrderedSet.ofList htokens)

theorem shapeOf_eq_of_commented (h : f.Commented g) (mocks : Nat) (exceptions : String) :
    shapeOf g mocks exceptions = shapeOf f mocks exceptions := by
  rw [shapeOf, shapeOf, h.name_eq, h.parameterCount_eq, h.decoratorCount_eq, h.statementCount_eq]

theorem agrees_ofFunction (h : f.Commented g) :
    Agrees (fun a b => b = a) (ofFunction f) (ofFunction g) := by
  refine (agrees_mockCount h).bind ?_
  rintro mocks _ rfl
  refine (agrees_exceptionTokens h).bind ?_
  rintro tokens _ rfl
  exact .ok (by rw [shapeOf_eq_of_commented h])

/-- Comments anywhere in a module leave its tests as they are, in the same order, and each test has the
same features or, in both trees, none. -/
theorem same_with_comments {root root' : Node} (h : root.Commented root') :
    List.Forall₂
      (fun f g => f.Commented g ∧ g.name = f.name ∧ (ofFunction g).toOption = (ofFunction f).toOption)
      root.testFunctions root'.testFunctions :=
  h.testFunctions.imp fun _ _ hfg => ⟨hfg, hfg.name_eq, (agrees_ofFunction hfg).toOption_eq⟩

def rescue (comment : String) : String :=
  comment ++ "\ndef test_a(n " ++ comment ++ "\n : int): " ++ comment ++
    "\n try:f(n)\n except E as e: " ++ comment ++ "\n  raise E\n"

theorem same_with_comments_rescue :
    (parse (rescue "")).Commented (parse (rescue "# c")) ∧
      (parse (rescue "")).testFunctions.map (fun f => (ofFunction f).toOption) =
        [some ⟨0, "except_E|raise_E",
          "func:test_a|params:1|decorators:0|statements:1|mocks:0|exceptions:except_E|raise_E"⟩] ∧
      List.Forall₂
        (fun f g => f.Commented g ∧ g.name = f.name ∧ (ofFunction g).toOption = (ofFunction f).toOption)
        (parse (rescue "")).testFunctions (parse (rescue "# c")).testFunctions := by
  have hcommented : (parse (rescue "")).Commented (parse (rescue "# c")) := by decide +kernel
  exact ⟨hcommented, by decide +kernel, same_with_comments hcommented⟩

end Signature

end TestTwins
