import Mathlib.Data.List.Forall2
import TestTwins.Python.Module

namespace TestTwins

variable {α β γ : Type}

theorem rel_bind_eq {R : α → β → Prop} {x : Option α} {y : Option β} (h : Option.Rel R x y)
    {f : α → Option γ} {g : β → Option γ} (hfg : ∀ a b, R a b → g b = f a) : y.bind g = x.bind f := by
  cases h with
  | none => rfl
  | some hab => exact hfg _ _ hab

theorem rel_any_eq {R : α → β → Prop} {x : Option α} {y : Option β} (h : Option.Rel R x y) {p : α → Bool}
    {q : β → Bool} (hpq : ∀ a b, R a b → q b = p a) : y.any q = x.any p := by
  cases h with
  | none => rfl
  | some hab => exact hpq _ _ hab

theorem rel_head? {R : α → β → Prop} {l : List α} {k : List β} (h : List.Forall₂ R l k) :
    Option.Rel R l.head? k.head? := by
  cases h with
  | nil => exact .none
  | cons hab _ => exact .some hab

theorem rel_find? {R : α → α → Prop} {l k : List α} {p : α → Bool}
    (h : List.Forall₂ R (l.filter p) (k.filter p)) : Option.Rel R (l.find? p) (k.find? p) := by
  simpa only [List.head?_filter] using rel_head? h

namespace Python

structure Node.IsComment (n : Node) : Prop where
  kind : n.kind = .comment
  field : n.field = none
  children : n.children = []

open Node

inductive Inserts (R : Node → Node → Prop) : List Node → List Node → Prop
  | nil : Inserts R [] []
  | keep {n m : Node} {l k : List Node} (hhead : R n m) (htail : Inserts R l k) :
      Inserts R (n :: l) (m :: k)
  | comment {c : Node} {l k : List Node} (hc : c.IsComment) (h : Inserts R l k) : Inserts R l (c :: k)

namespace Inserts

variable {R : Node → Node → Prop} {l k l' k' : List Node} {p : Node → Bool}

theorem append (h : Inserts R l k) (h' : Inserts R l' k') : Inserts R (l ++ l') (k ++ k') := by
  induction h with
  | nil => exact h'
  | keep hhead _ ih => exact .keep hhead ih
  | comment hc _ ih => exact .comment hc ih

theorem filter (h : Inserts R l k) (hp : ∀ n m, R n m → p m = p n) :
    Inserts R (l.filter p) (k.filter p) := by
  induction h with
  | nil => exact .nil
  | @keep n m l k hhead _ ih =>
    rw [List.filter_cons, List.filter_cons, hp n m hhead]
    split
    · exact .keep hhead ih
    · exact ih
  | @comment c l k hc _ ih =>
    rw [List.filter_cons]
    split
    · exact .comment hc ih
    · exact ih

theorem forall₂_filter (h : Inserts R l k) (hp : ∀ n m, R n m → p m = p n)
    (hcomment : ∀ c : Node, c.IsComment → p c = false) :
    List.Forall₂ (fun n m => R n m ∧ p n) (l.filter p) (k.filter p) := by
  induction h with
  | nil => exact .nil
  | @keep n m l k hhead _ ih =>
    rw [List.filter_cons, List.filter_cons, hp n m hhead]
    split
    · rename_i hn
      exact .cons ⟨hhead, hn⟩ ih
    · exact ih
  | comment hc _ ih =>
    rw [List.filter_cons_of_neg (by simp [hcomment _ hc])]
    exact ih

theorem rel_head? (h : Inserts R l k) (hlead : ∀ c ∈ k.head?, c.kind ≠ .comment) :
    Option.Rel R l.head? k.head? := by
  cases h with
  | nil => exact .none
  | keep hhead _ => exact .some hhead
  | comment hc _ => exact absurd hc.kind (hlead _ rfl)

theorem forall₂_flatMap {S : α → β → Prop} {f : Node → List α} {g : Node → List β}
    (h : Inserts R l k) (hfg : ∀ n m, R n m → List.Forall₂ S (f n) (g m))
    (hcomment : ∀ c : Node, c.IsComment → g c = []) :
    List.Forall₂ S (l.flatMap f) (k.flatMap g) := by
  induction h with
  | nil => exact .nil
  | keep hhead _ ih =>
    rw [List.flatMap_cons, List.flatMap_cons]
    exact List.rel_append (hfg _ _ hhead) ih
  | comment hc _ ih =>
    rw [List.flatMap_cons, hcomment _ hc]
    exact ih

end Inserts

/-- What stays when comments join the parts of a node. A node that has parts spans the comments among
them, so that its text and its line may differ; words stay what they are, and with them the name of a
function and the last part of a dotted name. In the grammar a pattern with a name and a typed parameter
begin with a node that has a name of its own: no comment comes before it. -/
structure Node.Keeps (n m : Node) : Prop where
  kind : m.kind = n.kind
  field : m.field = n.field
  text : n.children = [] ∨ n.kind = .identifier → m.text = n.text
  name : n.kind = .functionDefinition →
    (m.child? .name).map (·.text) = (n.child? .name).map (·.text)
  last : n.kind = .attribute →
    (m.child? .attribute).map (·.text) = (n.child? .attribute).map (·.text)
  leaf : n.children = [] → m.children = []
  lead : n.kind = .asPattern ∨ n.kind = .typedParameter →
    ∀ c ∈ m.namedChildren.head?, c.kind ≠ .comment

inductive Node.Commented : Node → Node → Prop
  | mk {n m : Node} (keeps : n.Keeps m) (children : Inserts Node.Commented n.children m.children) :
      Node.Commented n m

section Decidable

instance (n : Node) : Decidable n.IsComment :=
  decidable_of_iff (n.kind = .comment ∧ n.field = none ∧ n.children = [])
    ⟨fun ⟨kind, field, children⟩ => ⟨kind, field, children⟩, fun h => ⟨h.kind, h.field, h.children⟩⟩

instance (n m : Node) : Decidable (n.Keeps m) :=
  decidable_of_iff (m.kind = n.kind ∧ m.field = n.field ∧
    (n.children = [] ∨ n.kind = .identifier → m.text = n.text) ∧
    (n.kind = .functionDefinition → (m.child? .name).map (·.text) = (n.child? .name).map (·.text)) ∧
    (n.kind = .attribute →
      (m.child? .attribute).map (·.text) = (n.child? .attribute).map (·.text)) ∧
    (n.children = [] → m.children = []) ∧
    (n.kind = .asPattern ∨ n.kind = .typedParameter →
      ∀ c ∈ m.namedChildren.head?, c.kind ≠ .comment))
    ⟨fun ⟨kind, field, text, name, last, leaf, lead⟩ =>
        ⟨kind, field, text, name, last, leaf, lead⟩,
      fun h => ⟨h.kind, h.field, h.text, h.name, h.last, h.leaf, h.lead⟩⟩

mutual

def Node.isCommented (n : Node) : Node → Bool
  | ⟨kind, field, line, text, children⟩ =>
    decide (n.Keeps ⟨kind, field, line, text, children⟩) && areCommented n.children children

def areCommented (l : List Node) : List Node → Bool
  | [] => l.isEmpty
  | m :: k =>
    (match l with
      | n :: l => n.isCommented m && areCommented l k
      | [] => false) ||
    (decide m.IsComment && areCommented l k)

end

mutual

theorem isCommented_iff {n : Node} : {m : Node} → (n.isCommented m ↔ n.Commented m)
  | ⟨_, _, _, _, children⟩ => by
    rw [Node.isCommented, Bool.and_eq_true, decide_eq_true_iff, areCommented_iff (k := children)]
    exact ⟨fun ⟨keeps, children⟩ => .mk keeps children, fun (.mk keeps children) => ⟨keeps, children⟩⟩

theorem areCommented_iff {l : List Node} : {k : List Node} →
    (areCommented l k ↔ Inserts Node.Commented l k)
  | [] => by
    rw [areCommented, List.isEmpty_iff]
    constructor
    · rintro rfl
      exact .nil
    · rintro ⟨⟩
      rfl
  | m :: k => by
    simp only [areCommented, Bool.or_eq_true, Bool.and_eq_true, decide_eq_true_iff,
      areCommented_iff (k := k)]
    constructor
    · rintro (h | ⟨hc, h⟩)
      · split at h
        · rw [Bool.and_eq_true, isCommented_iff (m := m), areCommented_iff (k := k)] at h
          exact .keep h.1 h.2
        · cases h
      · exact .comment hc h
    · rintro (_ | ⟨hhead, htail⟩ | ⟨hc, h⟩)
      · exact .inl ((Bool.and_eq_true _ _).mpr ⟨isCommented_iff.2 hhead, areCommented_iff.2 htail⟩)
      · exact .inr ⟨hc, h⟩

end

instance (n m : Node) : Decidable (n.Commented m) := decidable_of_iff _ isCommented_iff

end Decidable

namespace Node.Commented

variable {n m : Node}

theorem keeps (h : n.Commented m) : n.Keeps m := by
  cases h with
  | mk keeps _ => exact keeps

theorem kind (h : n.Commented m) : m.kind = n.kind := h.keeps.kind

theorem children (h : n.Commented m) : Inserts Commented n.children m.children := by
  cases h with
  | mk _ children => exact children

theorem text (h : n.Commented m) (hword : n.kind = .identifier) : m.text = n.text :=
  h.keeps.text (.inr hword)

end Node.Commented

namespace Inserts

variable {l k : List Node} (p : Kind → Bool)

theorem forall₂_kind (h : Inserts Node.Commented l k) (hp : p .comment = false) :
    List.Forall₂ (fun n m => n.Commented m ∧ p n.kind) (l.filter (p ·.kind)) (k.filter (p ·.kind)) :=
  h.forall₂_filter (fun _ _ h => by rw [h.kind]) fun _ hc => by rw [hc.kind, hp]

theorem rel_find?_kind (h : Inserts Node.Commented l k) (hp : p .comment = false) :
    Option.Rel Node.Commented (l.find? (p ·.kind)) (k.find? (p ·.kind)) :=
  rel_find? ((h.forall₂_kind p hp).imp fun _ _ h => h.1)

end Inserts

namespace Node.Commented

variable {n m : Node} {q q' : List Node}

theorem namedChildren (h : n.Commented m) : Inserts Commented n.namedChildren m.namedChildren :=
  h.children.filter fun _ _ h => by rw [h.kind]

theorem rel_child? (h : n.Commented m) (f : Field) : Option.Rel Commented (n.child? f) (m.child? f) :=
  rel_find? ((h.children.forall₂_filter (fun _ _ h => by rw [h.keeps.field]) fun _ hc => by
    simp [hc.field]).imp fun _ _ h => h.1)

theorem rel_lead (h : n.Commented m) (hkind : n.kind = .asPattern ∨ n.kind = .typedParameter) :
    Option.Rel Commented n.namedChildren.head? m.namedChildren.head? :=
  h.namedChildren.rel_head? (h.keeps.lead hkind)

theorem inserts_traverse (h : Inserts Commented q q') : Inserts Commented (traverse q) (traverse q') := by
  induction q' using traverse.induct generalizing q with
  | case1 =>
    cases h
    rw [traverse]
    exact .nil
  | case2 m rest ih =>
    cases h with
    | keep hhead htail =>
      rw [traverse, traverse]
      exact .keep hhead (ih (htail.append hhead.children))
    | comment hc h =>
      rw [traverse]
      exact .comment hc (ih (by rw [hc.children, List.append_nil]; exact h))

theorem breadthFirst (h : n.Commented m) : Inserts Commented n.breadthFirst m.breadthFirst :=
  inserts_traverse (.keep h .nil)

end Node.Commented

structure Function.Commented (f g : Function) : Prop where
  node : f.node.Commented g.node
  kind : f.node.kind = .functionDefinition
  parent : Option.Rel Node.Commented f.parent g.parent

namespace Function

theorem isSplat_eq {n m : Node} (h : n.Commented m) : isSplat m = isSplat n := by
  rw [isSplat, isSplat, h.kind]

theorem countParameters_eq {l k : List Node} (h : Inserts Node.Commented l k) (count : Nat) :
    countParameters count k = countParameters count l := by
  induction h generalizing count with
  | nil => rfl
  | @keep n m l k hhead _ ih =>
    have hsplat (hkind : n.kind = .typedParameter) :
        m.namedChildren.head?.any isSplat = n.namedChildren.head?.any isSplat :=
      rel_any_eq (hhead.rel_lead (.inr hkind)) fun _ _ => isSplat_eq
    simp only [countParameters, hhead.kind, ih]
    split
    case h_5 hkind => rw [hsplat hkind]
    all_goals rfl
  | comment hc _ ih => simpa only [countParameters, hc.kind] using ih count

namespace Commented

variable {f g : Function}

theorem name_eq (h : f.Commented g) : g.name = f.name := by
  rw [name, name, h.node.keeps.name h.kind]

theorem parameterCount_eq (h : f.Commented g) : g.parameterCount = f.parameterCount := by
  have hparams := h.node.rel_child? .parameters
  rw [parameterCount, parameterCount]
  generalize f.node.child? .parameters = x, g.node.child? .parameters = y at hparams
  cases hparams with
  | none => rfl
  | some hparams => exact countParameters_eq hparams.namedChildren 0

theorem decoratorCount_eq (h : f.Commented g) : g.decoratorCount = f.decoratorCount := by
  have hparent := h.parent
  rw [decoratorCount, decoratorCount]
  generalize f.parent = x, g.parent = y at hparent
  cases hparent with
  | none => rfl
  | some hparent =>
    have hdecorators := hparent.namedChildren.forall₂_kind (· == .decorator) rfl
    simp only [hparent.kind, hdecorators.length_eq]

theorem statementCount_eq (h : f.Commented g) : g.statementCount = f.statementCount := by
  have hbody := h.node.rel_child? .body
  rw [statementCount, statementCount, body?, body?]
  generalize f.node.child? .body = x, g.node.child? .body = y at hbody
  cases hbody with
  | none => rfl
  | some hbody =>
    exact (hbody.namedChildren.forall₂_kind (· != .comment) rfl).length_eq.symm

theorem descendants (h : f.Commented g) : Inserts Node.Commented f.descendants g.descendants :=
  h.node.breadthFirst

end Commented

end Function

namespace Node.Commented

variable {root root' : Node}

theorem childFunctions {n m : Node} (h : n.Commented m) :
    List.Forall₂ Function.Commented (childFunctions n) (childFunctions m) := by
  refine List.rel_map (R := fun n m => n.Commented m ∧ n.kind == .functionDefinition) ?_ ?_
  · exact fun _ _ hnode => ⟨hnode.1, eq_of_beq hnode.2, .some h⟩
  · exact h.children.forall₂_kind (· == .functionDefinition) rfl

theorem functions (h : root.Commented root') :
    List.Forall₂ Function.Commented root.functions root'.functions := by
  refine List.rel_append ?_ ?_
  · rw [h.kind]
    split
    · rename_i hkind
      exact .cons ⟨h, eq_of_beq hkind, .none⟩ .nil
    · exact .nil
  · exact h.breadthFirst.forall₂_flatMap (fun _ _ => childFunctions) fun _ hc => by
      simp [Python.childFunctions, hc.children]

theorem testFunctions (h : root.Commented root') :
    List.Forall₂ Function.Commented root.testFunctions root'.testFunctions :=
  List.rel_filter (fun _ _ h => by simp only [h.name_eq]) h.functions

end Node.Commented

end Python

end TestTwins
