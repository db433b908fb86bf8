import TestTwins.Proofs.DiskLaws
import TestTwins.Proofs.FunctionNames
import TestTwins.Proofs.JsonNumbers
import TestTwins.Proofs.PairScores

namespace TestTwins

open Python

section Index

variable {α : Type} [DecidableEq α]

def jaccardIndex (s t : Finset α) : ℚ :=
  if s ∪ t = ∅ then 1 else ((s ∩ t).card : ℚ) / (s ∪ t).card

variable [LE α] [LT α] [DecidableLT α] [Std.IsLinearOrder α] [Std.LawfulOrderLT α]

def OrderedSet.toFinset (s : OrderedSet α) : Finset α := ⟨s.toList, s.nodup_toList⟩

omit [DecidableEq α] [DecidableLT α] [Std.IsLinearOrder α] in
@[simp] theorem OrderedSet.mem_toFinset {s : OrderedSet α} {a : α} : a ∈ s.toFinset ↔ a ∈ s := .rfl

omit [DecidableLT α] [Std.IsLinearOrder α] in
theorem OrderedSet.toFinset_inter (s t : OrderedSet α) : (s.inter t).toFinset = s.toFinset ∩ t.toFinset := by
  ext a
  simp

theorem OrderedSet.toFinset_union (s t : OrderedSet α) : (s.union t).toFinset = s.toFinset ∪ t.toFinset := by
  ext a
  simp

omit [DecidableEq α] [DecidableLT α] in
theorem OrderedSet.toFinset_inj {s t : OrderedSet α} : s.toFinset = t.toFinset ↔ s = t := by
  constructor
  · intro h
    apply OrderedSet.ext_mem
    intro a
    rw [← mem_toFinset, h, mem_toFinset]
  · rintro rfl
    rfl

theorem jaccard_eq_index (a b : OrderedSet α) :
    (jaccard a b : ℚ) = jaccardIndex a.toFinset b.toFinset := by
  have hempty : ∀ s : OrderedSet α, s.isEmpty ↔ s.toFinset = ∅ := by
    intro s
    rw [OrderedSet.isEmpty_iff, Finset.eq_empty_iff_forall_notMem]
    rfl
  simp only [jaccard, jaccardIndex, Bool.and_eq_true, Bool.or_eq_true, hempty, Finset.union_eq_empty]
  split
  · exact Scalar.one_rat
  split
  · rename_i hone
    have hinter : a.toFinset ∩ b.toFinset = ∅ := by
      rcases hone with h | h <;> simp [h]
    simp [hinter]
  · rw [← OrderedSet.toFinset_inter, ← OrderedSet.toFinset_union]
    rfl

end Index

section Bars

open Signature (joinBars)

theorem splitOnChar_eq_splitOn (c : Char) (s : List Char) : splitOnChar c s = s.splitOn c := by
  induction s with
  | nil => rfl
  | cons d rest ih =>
    rw [List.splitOn_eq_splitOnP, List.splitOnP_cons_eq_if_modifyHead, ← List.splitOn_eq_splitOnP, ← ih]
    obtain ⟨piece, pieces, hrest⟩ := List.exists_cons_of_ne_nil (ih ▸ List.splitOn_ne_nil c rest)
    simp [splitOnChar, hrest]

def IsToken (t : String) : Prop := t ≠ "" ∧ '|' ∉ t.toList

theorem toList_joinBars (parts : List String) :
    (joinBars parts).toList = ['|'].intercalate (parts.map String.toList) :=
  String.toList_intercalate

theorem tokens_joinBars {parts : List String} (h : ∀ t ∈ parts, IsToken t) :
    tokens (joinBars parts) = parts := by
  by_cases hparts : parts = []
  · subst hparts
    rfl
  have hsplit : splitOnChar '|' (joinBars parts).toList = parts.map String.toList := by
    rw [splitOnChar_eq_splitOn, toList_joinBars]
    apply List.splitOn_intercalate
    · simpa using fun t ht => (h t ht).2
    · simpa using hparts
  have hkept : (parts.map String.toList).filter (!·.isEmpty) = parts.map String.toList := by
    rw [List.filter_eq_self]
    simpa using fun t ht => (h t ht).1
  rw [tokens, hsplit, hkept, List.map_map]
  simp [Function.comp_def]

theorem joinBars_eq_empty_iff {parts : List String} (h : ∀ t ∈ parts, IsToken t) :
    joinBars parts = "" ↔ parts = [] := by
  constructor
  · intro hempty
    rw [← tokens_joinBars h, hempty]
    rfl
  · rintro rfl
    rfl

theorem append_joinBars (mark t : String) (ts : List String) :
    mark ++ joinBars (t :: ts) = joinBars ((mark ++ t) :: ts) := by
  apply String.ext
  rw [String.toList_append, toList_joinBars, toList_joinBars]
  cases ts with
  | nil => simp
  | cons u us => simp [List.intercalate_cons_cons]

theorem joinBars_append_joinBars (a : List String) {b : List String} (hb : b ≠ []) :
    joinBars (a ++ [joinBars b]) = joinBars (a ++ b) := by
  apply String.ext
  obtain ⟨u, us, rfl⟩ := List.exists_cons_of_ne_nil hb
  simp only [toList_joinBars, List.map_append, List.map_cons, List.map_nil]
  induction a with
  | nil => simp
  | cons t a ih =>
    cases a with
    | nil => simp [List.intercalate_cons_cons]
    | cons t' a => simpa [List.intercalate_cons_cons] using ih

end Bars

section Words

theorem mem_of_mapM_ok {ε α β : Type} {step : α → Except ε β} {xs : List α} {ys : List β}
    (h : xs.mapM step = .ok ys) {b : β} : b ∈ ys ↔ ∃ a ∈ xs, step a = .ok b := by
  induction xs generalizing ys with
  | nil =>
    cases h
    simp
  | cons a xs ih =>
    rw [List.mapM_cons] at h
    obtain ⟨b', hb', h⟩ := exists_of_bind_ok h
    obtain ⟨ys', hys', h⟩ := exists_of_bind_ok h
    cases h
    simp [ih hys', hb', eq_comm]

namespace Python

theorem isWord_of_all {s : String} (h : s.toList.all Identifier.isContinue) : IsWord s :=
  List.all_eq_true.1 h

theorem IsWord.append {s t : String} (hs : IsWord s) (ht : IsWord t) : IsWord (s ++ t) := by
  intro c hc
  rw [String.toList_append, List.mem_append] at hc
  exact hc.elim (hs c) (ht c)

theorem IsWord.no_bar {s : String} (h : IsWord s) : '|' ∉ s.toList := by
  intro hbar
  exact absurd (h '|' hbar) (by decide)

theorem IsWord.no_colon {s : String} (h : IsWord s) : ':' ∉ s.toList := by
  intro hcolon
  exact absurd (h ':' hcolon) (by decide)

namespace Node.WellNamed

variable {n m : Node}

theorem of_mem (h : n.WellNamed) (hm : m ∈ n.children) : m.WellNamed := by
  cases h with
  | mk _ _ children => exact children m hm

theorem of_named (h : n.WellNamed) (hm : m ∈ n.namedChildren) : m.WellNamed :=
  h.of_mem (List.mem_of_mem_filter hm)

theorem of_child? {role : Field} (h : n.WellNamed) (hm : n.child? role = some m) : m.WellNamed :=
  h.of_mem (List.mem_of_find?_eq_some hm)

theorem isWord_identifier (h : n.WellNamed) (hkind : n.kind = .identifier) : IsWord n.text := by
  cases h with
  | mk _ word _ => exact word (.inl hkind)

theorem isWord_attribute (h : n.WellNamed) (hm : n.child? .attribute = some m) : IsWord m.text := by
  have hrole : m.field = some .attribute := by simpa using List.find?_some hm
  cases h.of_child? hm with
  | mk _ word _ => exact word (.inr hrole)

end Node.WellNamed

theorem wellNamed_descendants {source : String} {f : Function} (h : f ∈ (parse source).functions) :
    ∀ n ∈ f.descendants, n.WellNamed := by
  apply Node.WellNamed.of_mem_traverse
  simpa using (Node.functions_node h (wellNamed_parse source)).2

end Python

namespace Signature

variable {f : Function} {n : Node} {t : String}

theorem isWord_raisedType? (h : n.WellNamed) (ht : raisedType? n = some t) : IsWord t := by
  simp only [raisedType?, Option.bind_eq_bind, Option.bind_eq_some_iff] at ht
  obtain ⟨raised, hfind, ht⟩ := ht
  have hraised : raised.WellNamed := h.of_named (List.mem_of_find?_eq_some hfind)
  split at ht
  · rename_i hkind
    cases ht
    exact hraised.isWord_identifier hkind
  · obtain ⟨callee, hcallee, ht⟩ := Option.bind_eq_some_iff.1 ht
    split at ht
    · rename_i hkind
      cases ht
      exact (hraised.of_child? hcallee).isWord_identifier (by simpa using hkind)
    · cases ht
  · cases ht

theorem isWord_handledType? (h : n.WellNamed) (ht : handledType? n = some t) : IsWord t := by
  obtain ⟨clause, hfind, ht⟩ := Option.bind_eq_some_iff.1 ht
  have hclause : clause.WellNamed := h.of_named (List.mem_of_find?_eq_some hfind)
  -- What follows `as` does not count.
  obtain ⟨handled, hwell, hname⟩ : ∃ handled : Node, handled.WellNamed ∧
      (handled.kind = .identifier ∧ handled.text = t ∨
        (handled.child? .attribute).map (·.text) = some t) := by
    split at ht
    · obtain ⟨handled, hhead, ht⟩ := Option.bind_eq_some_iff.1 ht
      refine ⟨handled, hclause.of_named (List.mem_of_head? hhead), ?_⟩
      dsimp only at ht
      split at ht <;> simp_all
    · refine ⟨clause, hclause, ?_⟩
      simp only [Option.bind_eq_bind, Option.bind_some] at ht
      split at ht <;> simp_all
  rcases hname with ⟨hkind, rfl⟩ | hname
  · exact hwell.isWord_identifier hkind
  · obtain ⟨name, hattribute, rfl⟩ := Option.map_eq_some_iff.1 hname
    exact hwell.isWord_attribute hattribute

theorem isWord_exceptionToken? (h : n.WellNamed) (ht : exceptionToken? f n = .ok (some t)) :
    IsWord t ∧ t ≠ "" := by
  have hraise : IsWord "raise_" := isWord_of_all (by decide)
  have hexcept : IsWord "except_" := isWord_of_all (by decide)
  have hraises : IsWord "pytest_raises" := isWord_of_all (by decide)
  have hmarked : ∀ mark type : String, mark ≠ "" → mark ++ type ≠ "" := by
    intro mark type hmark hempty
    exact hmark (String.append_eq_empty_iff.1 hempty).1
  simp only [exceptionToken?] at ht
  split at ht
  · obtain ⟨type, htype, rfl⟩ := Option.map_eq_some_iff.1 (Except.ok.inj ht)
    exact ⟨hraise.append (isWord_raisedType? h htype), hmarked _ _ (by decide)⟩
  · obtain ⟨type, htype, rfl⟩ := Option.map_eq_some_iff.1 (Except.ok.inj ht)
    exact ⟨hexcept.append (isWord_handledType? h htype), hmarked _ _ (by decide)⟩
  · obtain ⟨target, -, ht⟩ := exists_of_bind_ok ht
    have ht := Except.ok.inj ht
    split at ht
    · cases ht
      exact ⟨hraises, by decide⟩
    · cases ht
  · cases ht

def exceptionsFound (f : Function) : Finset String :=
  (f.descendants.filterMap fun n => (exceptionToken? f n).toOption.join).toFinset

theorem mem_exceptionsFound :
    t ∈ exceptionsFound f ↔ ∃ n ∈ f.descendants, exceptionToken? f n = .ok (some t) := by
  have htoken : ∀ n, (exceptionToken? f n).toOption.join = some t ↔
      exceptionToken? f n = .ok (some t) := by
    intro n
    cases exceptionToken? f n with
    | error e => simp [Except.toOption]
    | ok o => simp [Except.toOption]
  simp [exceptionsFound, htoken]

theorem toFinset_exceptionTokens {tokens : TokenSet} (h : exceptionTokens f = .ok tokens) :
    tokens.toFinset = exceptionsFound f := by
  obtain ⟨found, hfound, h⟩ := exists_of_bind_ok h
  cases h
  ext t
  rw [OrderedSet.mem_toFinset, OrderedSet.mem_ofList, mem_exceptionsFound]
  simp [mem_of_mapM_ok hfound]

end Signature

end Words

section Shapes

theorem bar_notMem_toString (n : Nat) : '|' ∉ (toString n).toList := by
  intro hbar
  have hdigit : '|'.isDigit := Decimal.isDigit_of_mem_toDigits (n := n) (by simpa using hbar)
  exact absurd hdigit (by decide)

namespace Signature

variable {f g : Function}

theorem ofFunction_ok {s : Signature} (h : ofFunction f = .ok s) :
    ∃ tokens, exceptionTokens f = .ok tokens ∧ mockCount f = .ok s.mocks ∧
      s.exceptions = joinBars tokens.toList ∧
      s.shape = shapeOf f s.mocks (joinBars tokens.toList) := by
  obtain ⟨mocks, hmocks, h⟩ := exists_of_bind_ok h
  obtain ⟨tokens, htokens, h⟩ := exists_of_bind_ok h
  cases h
  exact ⟨tokens, htokens, hmocks, rfl, rfl⟩

def labels (f : Function) (mocks : Nat) (exceptions : List String) : List (String × String) :=
  [("params", toString f.parameterCount), ("decorators", toString f.decoratorCount),
    ("statements", toString f.statementCount), ("mocks", toString mocks)] ++
    (exceptions.head?.map ("exceptions", ·)).toList

def labelWord (entry : String × String) : String := entry.1 ++ ":" ++ entry.2

def shapeWords (f : Function) (mocks : Nat) (exceptions : List String) : List String :=
  (labels f mocks exceptions).map labelWord ++ exceptions.tail

variable {mocks : Nat} {exceptions : List String}

theorem shapeOf_eq (h : ∀ t ∈ exceptions, IsToken t) :
    shapeOf f mocks (joinBars exceptions) = joinBars (("func:" ++ f.name) :: shapeWords f mocks exceptions) := by
  cases exceptions with
  | nil => rfl
  | cons t ts =>
    have hfull : joinBars (t :: ts) ≠ "" := mt (joinBars_eq_empty_iff h).1 (List.cons_ne_nil t ts)
    rw [shapeOf, if_neg (by simpa using hfull), append_joinBars,
      joinBars_append_joinBars _ (List.cons_ne_nil _ _)]
    rfl

theorem mem_labels {label body : String} (h : (label, body) ∈ labels f mocks exceptions) :
    label ∈ ["params", "decorators", "statements", "mocks", "exceptions"] ∧
      ((∃ n : Nat, body = toString n) ∨ body ∈ exceptions) := by
  simp only [labels, List.mem_append, List.mem_cons, Prod.mk.injEq, List.not_mem_nil, or_false,
    Option.mem_toList, Option.map_eq_some_iff] at h
  rcases h with (⟨rfl, rfl⟩ | ⟨rfl, rfl⟩ | ⟨rfl, rfl⟩ | ⟨rfl, rfl⟩) | ⟨t, ht, rfl, rfl⟩
  · exact ⟨by simp, .inl ⟨_, rfl⟩⟩
  · exact ⟨by simp, .inl ⟨_, rfl⟩⟩
  · exact ⟨by simp, .inl ⟨_, rfl⟩⟩
  · exact ⟨by simp, .inl ⟨_, rfl⟩⟩
  · exact ⟨by simp, .inr (List.mem_of_head? ht)⟩

theorem labelWord_inj {label body label' body' : String} (h : ':' ∉ label.toList)
    (h' : ':' ∉ label'.toList) (heq : labelWord (label, body) = labelWord (label', body')) :
    label = label' ∧ body = body' := by
  have htext := congrArg String.toList heq
  simp only [labelWord, String.toList_append, List.append_assoc] at htext
  obtain ⟨hlabel, hbody⟩ := cut_at_colon h h' htext
  exact ⟨String.ext hlabel, String.ext hbody⟩

theorem label_plain {label body : String} (h : (label, body) ∈ labels f mocks exceptions) :
    label ≠ "func" ∧ ':' ∉ label.toList ∧ '|' ∉ label.toList := by
  have hlabel := (mem_labels h).1
  simp only [List.mem_cons, List.not_mem_nil, or_false] at hlabel
  rcases hlabel with rfl | rfl | rfl | rfl | rfl <;> decide

theorem isToken_shapeWords (h : ∀ t ∈ exceptions, IsToken t) :
    ∀ w ∈ shapeWords f mocks exceptions, IsToken w := by
  intro w hw
  rcases List.mem_append.1 hw with hw | hw
  · obtain ⟨⟨label, body⟩, hentry, rfl⟩ := List.mem_map.1 hw
    have hbody : '|' ∉ body.toList := by
      rcases (mem_labels hentry).2 with ⟨n, rfl⟩ | hmem
      · exact bar_notMem_toString n
      · exact (h body hmem).2
    constructor
    · simp [labelWord]
    · simp [labelWord, (label_plain hentry).2.2, hbody]
  · exact h w (List.mem_of_mem_tail hw)

theorem labelWord_mem_shapeWords (h : ∀ t ∈ exceptions, ':' ∉ t.toList) {label body : String}
    (hlabel : ':' ∉ label.toList) :
    labelWord (label, body) ∈ shapeWords f mocks exceptions ↔ (label, body) ∈ labels f mocks exceptions := by
  constructor
  · intro hw
    rcases List.mem_append.1 hw with hw | hw
    · obtain ⟨⟨label', body'⟩, hentry, heq⟩ := List.mem_map.1 hw
      obtain ⟨rfl, rfl⟩ := labelWord_inj (label_plain hentry).2.1 hlabel heq
      exact hentry
    · exact absurd (by simp [labelWord]) (h _ (List.mem_of_mem_tail hw))
  · intro hentry
    exact List.mem_append_left _ (List.mem_map_of_mem hentry)

theorem mem_tail_iff_mem_shapeWords (h : ∀ t ∈ exceptions, ':' ∉ t.toList) {t : String} :
    t ∈ exceptions.tail ↔ t ∈ shapeWords f mocks exceptions ∧ ':' ∉ t.toList := by
  constructor
  · intro ht
    exact ⟨List.mem_append_right _ ht, h t (List.mem_of_mem_tail ht)⟩
  · rintro ⟨hw, hplain⟩
    rcases List.mem_append.1 hw with hw | hw
    · obtain ⟨entry, -, rfl⟩ := List.mem_map.1 hw
      exact absurd (by simp [labelWord]) hplain
    · exact hw

theorem not_named_of_mem_shapeWords (h : ∀ t ∈ exceptions, ':' ∉ t.toList) {w : String}
    (hw : w ∈ shapeWords f mocks exceptions) : "func:".toList.isPrefixOf w.toList = false := by
  rw [Bool.eq_false_iff, ne_eq, List.isPrefixOf_iff_prefix]
  rintro ⟨rest, hrest⟩
  have hword : w = labelWord ("func", String.ofList rest) := by
    apply String.ext
    simp [← hrest, labelWord]
  subst hword
  have hentry := (labelWord_mem_shapeWords h (by decide)).1 hw
  exact (label_plain hentry).1 rfl

theorem mem_shapeSet (h : ∀ t ∈ exceptions, IsToken t) (hcolon : ∀ t ∈ exceptions, ':' ∉ t.toList)
    (hname : '|' ∉ f.name.toList) {w : String} :
    w ∈ shapeSet (shapeOf f mocks (joinBars exceptions)) ↔ w ∈ shapeWords f mocks exceptions := by
  have hfirst : IsToken ("func:" ++ f.name) := ⟨by simp, by simp [hname]⟩
  have htokens : tokens (shapeOf f mocks (joinBars exceptions)) =
      ("func:" ++ f.name) :: shapeWords f mocks exceptions := by
    rw [shapeOf_eq h, tokens_joinBars (List.forall_mem_cons.2 ⟨hfirst, isToken_shapeWords h⟩)]
  rw [shapeSet, OrderedSet.mem_filter, tokenSet, OrderedSet.mem_ofList, htokens, List.mem_cons]
  constructor
  · rintro ⟨rfl | hw, hother⟩
    · simp at hother
    · exact hw
  · intro hw
    refine ⟨.inr hw, ?_⟩
    rw [not_named_of_mem_shapeWords hcolon hw]
    rfl

theorem eq_of_shapeWords {mocks' : Nat} {xs ys : List String} (hxs : ∀ t ∈ xs, ':' ∉ t.toList)
    (hys : ∀ t ∈ ys, ':' ∉ t.toList)
    (h : ∀ w, w ∈ shapeWords f mocks xs ↔ w ∈ shapeWords g mocks' ys) :
    f.parameterCount = g.parameterCount ∧ f.decoratorCount = g.decoratorCount ∧
      f.statementCount = g.statementCount ∧ mocks = mocks' ∧ ∀ t, t ∈ xs ↔ t ∈ ys := by
  have hlabels : ∀ label body, ':' ∉ label.toList →
      ((label, body) ∈ labels f mocks xs ↔ (label, body) ∈ labels g mocks' ys) := by
    intro label body hlabel
    rw [← labelWord_mem_shapeWords hxs hlabel, h, labelWord_mem_shapeWords hys hlabel]
  have hparams := hlabels "params" (toString f.parameterCount) (by decide)
  have hdecorators := hlabels "decorators" (toString f.decoratorCount) (by decide)
  have hstatements := hlabels "statements" (toString f.statementCount) (by decide)
  have hmocks := hlabels "mocks" (toString mocks) (by decide)
  simp only [labels] at hparams hdecorators hstatements hmocks
  have hhead : ∀ t, xs.head? = some t ↔ ys.head? = some t := by
    intro t
    simpa [labels] using hlabels "exceptions" t (by decide)
  have hmem : ∀ (zs : List String) t, t ∈ zs ↔ zs.head? = some t ∨ t ∈ zs.tail := by
    intro zs t
    cases zs <;> simp [eq_comm]
  refine ⟨by simpa using hparams, by simpa using hdecorators, by simpa using hstatements,
    by simpa using hmocks, fun t => ?_⟩
  rw [hmem xs, hmem ys, hhead, mem_tail_iff_mem_shapeWords hxs, h, mem_tail_iff_mem_shapeWords hys]

theorem exceptionTokens_plain {source : String} (h : f ∈ (parse source).functions) {found : TokenSet}
    (hfound : exceptionTokens f = .ok found) :
    (∀ t ∈ found.toList, IsToken t) ∧ ∀ t ∈ found.toList, ':' ∉ t.toList := by
  have hword : ∀ t ∈ found.toList, IsWord t ∧ t ≠ "" := by
    intro t ht
    have ht : t ∈ exceptionsFound f := toFinset_exceptionTokens hfound ▸ ht
    obtain ⟨n, hn, htoken⟩ := mem_exceptionsFound.1 ht
    exact isWord_exceptionToken? (wellNamed_descendants h n hn) htoken
  exact ⟨fun t ht => ⟨(hword t ht).2, (hword t ht).1.no_bar⟩, fun t ht => (hword t ht).1.no_colon⟩

/-- For any two functions of parsed sources, the exception score is the index of their sets of exception
tokens, and the shape score is full if and only if all counts and these sets are the same. -/
theorem features_lose_name_only {source source' : String} (hf : f ∈ (parse source).functions)
    (hg : g ∈ (parse source').functions) {s t : Signature} (hs : ofFunction f = .ok s)
    (ht : ofFunction g = .ok t) :
    (tokenJaccard s.exceptions t.exceptions : ℚ) =
        jaccardIndex (exceptionsFound f) (exceptionsFound g) ∧
      ((shapeSimilarity s.shape t.shape : ℚ) = 1 ↔
        f.parameterCount = g.parameterCount ∧ f.decoratorCount = g.decoratorCount ∧
          f.statementCount = g.statementCount ∧ mockCount f = mockCount g ∧
          exceptionsFound f = exceptionsFound g) := by
  obtain ⟨xs, hxs, hmocks, hsexceptions, hsshape⟩ := ofFunction_ok hs
  obtain ⟨ys, hys, hmocks', htexceptions, htshape⟩ := ofFunction_ok ht
  obtain ⟨hxtoken, hxcolon⟩ := exceptionTokens_plain hf hxs
  obtain ⟨hytoken, hycolon⟩ := exceptionTokens_plain hg hys
  rw [← toFinset_exceptionTokens hxs, ← toFinset_exceptionTokens hys]
  constructor
  · have hset : ∀ zs : TokenSet, (∀ t ∈ zs.toList, IsToken t) → tokenSet (joinBars zs.toList) = zs := by
      intro zs hzs
      apply OrderedSet.ext_mem
      intro w
      rw [tokenSet, OrderedSet.mem_ofList, tokens_joinBars hzs]
      rfl
    rw [tokenJaccard, hsexceptions, htexceptions, hset xs hxtoken, hset ys hytoken, jaccard_eq_index]
  · have hxshape : ∀ w, w ∈ shapeSet (shapeOf f s.mocks (joinBars xs.toList)) ↔
        w ∈ shapeWords f s.mocks xs.toList :=
      fun _ => mem_shapeSet hxtoken hxcolon (isWord_name hf).no_bar
    have hyshape : ∀ w, w ∈ shapeSet (shapeOf g t.mocks (joinBars ys.toList)) ↔
        w ∈ shapeWords g t.mocks ys.toList :=
      fun _ => mem_shapeSet hytoken hycolon (isWord_name hg).no_bar
    rw [shapeSimilarity, jaccard_eq_one_iff, hsshape, htshape, hmocks, hmocks', Except.ok.injEq,
      OrderedSet.toFinset_inj]
    constructor
    · intro heq
      obtain ⟨hparams, hdecorators, hstatements, hmock, hmem⟩ := eq_of_shapeWords hxcolon hycolon
        fun w => by rw [← hxshape, heq, hyshape]
      exact ⟨hparams, hdecorators, hstatements, hmock, OrderedSet.ext_mem hmem⟩
    · rintro ⟨hparams, hdecorators, hstatements, hmock, rfl⟩
      apply OrderedSet.ext_mem
      intro w
      rw [hxshape, hyshape]
      simp only [shapeWords, labels, hparams, hdecorators, hstatements, hmock]

def handling (name : String) : String := "def " ++ name ++ "(x):\n try:f(x)\n except V:raise E\n"

def summary (name : String) : Option ((Nat × Nat × Nat) × Option Signature × Finset String) :=
  ((parse (handling name)).findFunction? name).map fun f =>
    ((f.parameterCount, f.decoratorCount, f.statementCount), (ofFunction f).toOption, exceptionsFound f)

theorem exists_of_summary {name : String} {counts : Nat × Nat × Nat} {s : Signature} {found : Finset String}
    (h : summary name = some (counts, some s, found)) :
    ∃ f ∈ (parse (handling name)).functions,
      (f.parameterCount, f.decoratorCount, f.statementCount) = counts ∧ ofFunction f = .ok s ∧
        exceptionsFound f = found := by
  obtain ⟨f, hf, heq⟩ := Option.map_eq_some_iff.1 h
  obtain ⟨hcounts, hsignature, hfound⟩ := by simpa only [Prod.mk.injEq] using heq
  refine ⟨f, List.mem_of_find?_eq_some hf, hcounts, ?_, hfound⟩
  cases hresult : ofFunction f with
  | error e => simp [hresult, Except.toOption] at hsignature
  | ok s' => simpa [hresult, Except.toOption] using hsignature

theorem features_lose_name_only_handling :
    ∃ f ∈ (parse (handling "test_a")).functions, ∃ g ∈ (parse (handling "test_b")).functions,
      ∃ s t, ofFunction f = .ok s ∧ ofFunction g = .ok t ∧ s.shape ≠ t.shape ∧
        (shapeSimilarity s.shape t.shape : ℚ) = 1 ∧
        (tokenJaccard s.exceptions t.exceptions : ℚ) =
          jaccardIndex (exceptionsFound f) (exceptionsFound g) := by
  have ha : summary "test_a" = some ((1, 0, 1),
      some ⟨0, "except_V|raise_E",
        "func:test_a|params:1|decorators:0|statements:1|mocks:0|exceptions:except_V|raise_E"⟩,
      {"except_V", "raise_E"}) := by decide +kernel
  have hb : summary "test_b" = some ((1, 0, 1),
      some ⟨0, "except_V|raise_E",
        "func:test_b|params:1|decorators:0|statements:1|mocks:0|exceptions:except_V|raise_E"⟩,
      {"except_V", "raise_E"}) := by decide +kernel
  obtain ⟨f, hf, hfcounts, hs, hfound⟩ := exists_of_summary ha
  obtain ⟨g, hg, hgcounts, ht, hfound'⟩ := exists_of_summary hb
  obtain ⟨-, -, hmocks, -⟩ := ofFunction_ok hs
  obtain ⟨-, -, hmocks', -⟩ := ofFunction_ok ht
  obtain ⟨hexceptions, hshape⟩ := features_lose_name_only hf hg hs ht
  have hcounts := hfcounts.trans hgcounts.symm
  simp only [Prod.mk.injEq] at hcounts
  refine ⟨f, hf, g, hg, _, _, hs, ht, by decide, hshape.2 ?_, hexceptions⟩
  exact ⟨hcounts.1, hcounts.2.1, hcounts.2.2, hmocks.trans hmocks'.symm, hfound.trans hfound'.symm⟩

end Signature

end Shapes

end TestTwins
