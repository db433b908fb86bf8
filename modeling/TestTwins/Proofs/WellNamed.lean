import Mathlib
import TestTwins.Python.Module

/-! Functions are named by words. Whatever the source, every function definition of its tree has a name,
made of the characters of identifiers, and so are identifiers and the names of attributes everywhere in
the tree. The lexer gives words only such characters, and no production makes a definition whose name is
not a word. -/

namespace TestTwins.Python

open Std.Do Grammar

set_option mvcgen.warning false

def IsWord (s : String) : Prop := ∀ c ∈ s.toList, Identifier.isContinue c

def Kind.IsFree (kind : Kind) : Prop := kind ≠ .functionDefinition ∧ kind ≠ .identifier

@[simp] theorem Kind.isFree_iff {kind : Kind} :
    kind.IsFree ↔ kind ≠ .functionDefinition ∧ kind ≠ .identifier := .rfl

/-- Every function definition of the tree is named by a word, and identifiers and the names of attributes
are words. -/
inductive Node.WellNamed : Node → Prop
  | mk {n : Node} (function : n.kind = .functionDefinition → ∃ m, n.child? .name = some m ∧ IsWord m.text)
      (word : n.kind = .identifier ∨ n.field = some .attribute → IsWord n.text)
      (children : ∀ c ∈ n.children, c.WellNamed) : n.WellNamed

structure Part.IsPlain (p : Part) : Prop where
  field : p.node.field = none
  wellNamed : p.node.WellNamed

structure Token.Tidy (t : Token) : Prop where
  word : t.kind = .word → IsWord t.text
  trivia : ∀ p ∈ t.trivia, p.IsPlain

section Lexer

open Lexer

theorem isWord_takeWhile (cs : List Char) :
    IsWord (String.ofList (cs.take (cs.takeWhile Identifier.isContinue).length)) := by
  intro c hc
  have htake : cs.take (cs.takeWhile Identifier.isContinue).length = cs.takeWhile Identifier.isContinue :=
    List.prefix_iff_eq_take.1 (List.takeWhile_prefix _) |>.symm
  rw [String.toList_ofList, htake] at hc
  exact List.mem_takeWhile_imp hc

theorem isPlain_triviaPart {kind : Kind} (s : State) (n : Nat) (h : kind.IsFree) :
    (triviaPart kind s n).IsPlain :=
  ⟨rfl, .mk (fun he => absurd he h.1) (by simpa [triviaPart] using fun he => absurd he h.2)
    (by simp [triviaPart])⟩

theorem tidy_token {kind : TokenKind} {s : State} {n : Nat} {trivia : List Part} (h : kind ≠ .word)
    (htrivia : ∀ p ∈ trivia, p.IsPlain) : (token kind s n trivia).Tidy :=
  ⟨fun he => absurd he h, htrivia⟩

theorem numberLength_ne_word (cs : List Char) : (numberLength cs).2 ≠ .word := by
  have hdecimal : (numberLength.decimal cs).2 ≠ .word := by
    unfold numberLength.decimal
    extract_lets
    split_ifs <;> simp
  simp only [numberLength]
  split
  · split
    · exact hdecimal
    · simp
  · exact hdecimal

theorem isPlain_lineStart {steps indentation : Nat} {trivia : List Part} {s : State}
    (h : ∀ p ∈ trivia, p.IsPlain) : ∀ p ∈ (lineStart steps indentation trivia s).2.1, p.IsPlain := by
  induction steps generalizing indentation trivia s with
  | zero => exact h
  | succ steps ih =>
    simp only [lineStart]
    split
    case h_7 =>
      apply ih
      intro p hp
      rcases List.mem_append.1 hp with hp | hp
      · exact h p hp
      · rw [List.mem_singleton.1 hp]
        exact isPlain_triviaPart _ _ (by simp)
    case h_8 => split <;> first | exact h | exact ih h
    all_goals first | exact h | exact ih h

def Output.Tidy : Output → Prop
  | .token t => t.Tidy
  | .trivia p => p.IsPlain
  | .nothing => True

theorem tidy_stringStep {quote : Char} {triple raw format : Bool} {outer : List Mode}
    {trivia : List Part} {s : State} (h : ∀ p ∈ trivia, p.IsPlain) :
    Output.Tidy (stringStep quote triple raw format outer trivia s).1 := by
  simp only [stringStep]
  split
  · exact tidy_token (by decide) h
  · split
    · exact tidy_token (by decide) h
    · split <;> exact tidy_token (by decide) h
    · exact tidy_token (by decide) h

theorem tidy_specificationStep {outer : List Mode} {trivia : List Part} {s : State}
    (h : ∀ p ∈ trivia, p.IsPlain) : Output.Tidy (specificationStep outer trivia s).1 := by
  simp only [specificationStep]
  split
  · exact tidy_token (by decide) h
  · split <;> exact tidy_token (by decide) h

theorem isPlain_withoutContinuations {trivia : List Part} (h : ∀ p ∈ trivia, p.IsPlain) :
    ∀ p ∈ withoutContinuations trivia, p.IsPlain :=
  fun p hp => h p (List.mem_of_mem_filter hp)

theorem tidy_codeStep {trivia : List Part} {s : State} (h : ∀ p ∈ trivia, p.IsPlain) :
    Output.Tidy (codeStep trivia s).1 := by
  unfold codeStep
  split
  · trivial
  · split
    · trivial
    split
    · exact isPlain_triviaPart _ _ (by simp)
    split
    · exact isPlain_triviaPart _ _ (by simp)
    split
    · exact tidy_token (by decide) (isPlain_withoutContinuations h)
    split
    · exact ⟨fun _ => isWord_takeWhile _, h⟩
    split
    · exact tidy_token (numberLength_ne_word _) h
    split
    · exact tidy_token (by decide) h
    extract_lets n
    split <;> exact tidy_token (by decide) h

theorem tidy_step {trivia : List Part} {s : State} (h : ∀ p ∈ trivia, p.IsPlain) :
    Output.Tidy (step trivia s).1 := by
  unfold step
  split
  · exact tidy_stringStep h
  · exact tidy_specificationStep h
  · exact tidy_codeStep h

theorem tidy_run {steps : Nat} {trivia : List Part} {s : State} (h : ∀ p ∈ trivia, p.IsPlain) :
    ∀ t ∈ run steps trivia s, t.Tidy := by
  induction steps generalizing trivia s with
  | zero => simp [run]
  | succ steps ih =>
    have hnil : ∀ p ∈ ([] : List Part), p.IsPlain := by simp
    have hstep := tidy_step h (s := s)
    have hclean := isPlain_withoutContinuations h
    simp only [run]
    split
    · simp only [List.mem_cons, List.not_mem_nil, or_false]
      rintro t (rfl | rfl)
      · exact tidy_token (by simp) hclean
      · exact tidy_token (by simp) hnil
    · rintro t (_ | ⟨_, ht⟩)
      · exact tidy_token (by simp) hclean
      · exact ih (isPlain_lineStart hnil) t ht
    · exact ih h
    · split
      · rename_i t s' heq
        rw [heq] at hstep
        rintro t' (_ | ⟨_, ht⟩)
        · exact hstep
        · exact ih hnil t' ht
      · rename_i p s' heq
        rw [heq] at hstep
        apply ih
        intro q hq
        rcases List.mem_append.1 hq with hq | hq
        · exact h q hq
        · rw [List.mem_singleton.1 hq]
          exact hstep
      · exact ih h

theorem tidy_tokenize (source : List Char) : ∀ t ∈ tokenize source, t.Tidy := by
  have hnil : ∀ p ∈ ([] : List Part), p.IsPlain := by simp
  have hcomments : ∀ p ∈ (lineStart (2 * source.length + 2) 0 [] ⟨source, 0, 1, []⟩).2.1, p.IsPlain :=
    isPlain_lineStart hnil
  exact tidy_run hcomments

end Lexer

namespace Grammar

def Input.Tidy (s : Input) : Prop := ∀ t ∈ s.tokens, t.Tidy

def WellNamedParts (parts : Parts) : Prop := ∀ p ∈ parts, p.node.WellNamed

def PlainParts (parts : Parts) : Prop := ∀ p ∈ parts, p.IsPlain

def NameParts (parts : Parts) :
    Prop := ∃ before p, parts = before ++ [p] ∧ PlainParts parts ∧ IsWord p.node.text

abbrev Gives (p : Parser α) (post : α → Prop) : Prop :=
  ⦃fun s => ⌜s.Tidy⌝⦄ p ⦃⇓? a s => ⌜s.Tidy ∧ post a⌝⦄

theorem gives_iff {p : Parser α} {post : α → Prop} :
    Gives p post ↔ ∀ s a s', s.Tidy → p.run s = some (a, s') → s'.Tidy ∧ post a := by
  have hrun : ∀ s, (wp⟦p⟧ (PostCond.mayThrow fun a s => ⌜s.Tidy ∧ post a⌝) s).down ↔
      ∀ a s', p.run s = some (a, s') → s'.Tidy ∧ post a := by
    intro s
    change ((wp⟦p.run s⟧ _).down) ↔ _
    cases p.run s with
    | none => simp; trivial
    | some r =>
      refine ⟨fun h a s' heq => ?_, fun h => h r.1 r.2 rfl⟩
      obtain rfl := Option.some.inj heq
      exact h
  constructor
  · intro h s a s' hs
    exact (hrun s).1 (h s hs) a s'
  · intro h s hs
    exact (hrun s).2 fun a s' => h s a s' hs

@[simp] theorem wellNamedParts_nil : WellNamedParts [] := by simp [WellNamedParts]

@[simp] theorem wellNamedParts_append {a b : Parts} :
    WellNamedParts (a ++ b) ↔ WellNamedParts a ∧ WellNamedParts b := by
  simp [WellNamedParts, or_imp, forall_and]

@[simp] theorem plainParts_nil : PlainParts [] := by simp [PlainParts]

@[simp] theorem plainParts_append {a b : Parts} :
    PlainParts (a ++ b) ↔ PlainParts a ∧ PlainParts b := by
  simp [PlainParts, or_imp, forall_and]

@[simp] theorem PlainParts.wellNamed {parts : Parts} (h : PlainParts parts) : WellNamedParts parts :=
  fun p hp => (h p hp).wellNamed

@[simp] theorem NameParts.plain {parts : Parts} (h : NameParts parts) : PlainParts parts := by
  obtain ⟨_, _, _, h, _⟩ := h
  exact h

@[simp] theorem NameParts.wellNamed {parts : Parts} (h : NameParts parts) : WellNamedParts parts :=
  h.plain.wellNamed

theorem NameParts.append {a b : Parts} (ha : PlainParts a) (h : NameParts b) : NameParts (a ++ b) := by
  obtain ⟨before, p, rfl, hplain, hword⟩ := h
  exact ⟨a ++ before, p, by simp, plainParts_append.2 ⟨ha, hplain⟩, hword⟩

theorem plainParts_leaf {kind : Kind} {text : String} (hkind : kind ≠ .functionDefinition)
    (hword : kind = .identifier → IsWord text) (line start stop : Nat) :
    PlainParts [⟨⟨kind, none, line, text, []⟩, start, stop⟩] := by
  intro p hp
  rw [List.mem_singleton.1 hp]
  exact ⟨rfl, .mk (fun he => absurd he hkind) (by simpa using hword) (by simp)⟩

theorem wellNamed_withField {p : Part} {f : Field} (hword : f = .attribute → IsWord p.node.text)
    (h : p.node.WellNamed) : (Part.withField f p).node.WellNamed := by
  cases h with
  | mk function word children =>
    refine .mk function ?_ children
    rintro (hkind | hfield)
    · exact word (.inl hkind)
    · exact hword (Option.some.inj hfield)

@[simp] theorem labelled_append (f : Field) (before : Parts) (p : Part) :
    labelled f (before ++ [p]) = before ++ [Part.withField f p] := by
  simp [labelled]

theorem wellNamedParts_withField {before : Parts} {p : Part} {f : Field}
    (hword : f = .attribute → IsWord p.node.text) (h : WellNamedParts (before ++ [p])) :
    WellNamedParts (before ++ [Part.withField f p]) := by
  rw [wellNamedParts_append] at h ⊢
  refine ⟨h.1, fun q hq => ?_⟩
  rw [List.mem_singleton.1 hq]
  exact wellNamed_withField hword (h.2 p (by simp))

@[simp] theorem wellNamedParts_labelled {parts : Parts} {f : Field} (hf : f ≠ .attribute)
    (h : WellNamedParts parts) : WellNamedParts (labelled f parts) := by
  rcases parts.eq_nil_or_concat with rfl | ⟨before, p, rfl⟩
  · exact h
  · rw [List.concat_eq_append] at h ⊢
    rw [labelled_append]
    exact wellNamedParts_withField (fun he => absurd he hf) h

@[simp] theorem NameParts.wellNamed_labelled {parts : Parts} (f : Field) (h : NameParts parts) :
    WellNamedParts (labelled f parts) := by
  have hparts := h.wellNamed
  obtain ⟨before, p, rfl, -, hword⟩ := h
  rw [labelled_append]
  exact wellNamedParts_withField (fun _ => hword) hparts

def HasName (parts : Parts) : Prop :=
  ∃ before p after, parts = before ++ p :: after ∧ PlainParts before ∧ p.node.field = some .name ∧
    IsWord p.node.text

theorem HasName.append_left {a : Parts} (b : Parts) (h : HasName a) : HasName (a ++ b) := by
  obtain ⟨before, p, after, rfl, hbefore, hname⟩ := h
  exact ⟨before, p, after ++ b, by simp, hbefore, hname⟩

theorem HasName.append_right {a b : Parts} (ha : PlainParts a) (h : HasName b) : HasName (a ++ b) := by
  obtain ⟨before, p, after, rfl, hbefore, hname⟩ := h
  exact ⟨a ++ before, p, after, by simp, plainParts_append.2 ⟨ha, hbefore⟩, hname⟩

theorem NameParts.hasName {parts : Parts} (h : NameParts parts) : HasName (labelled .name parts) := by
  obtain ⟨before, p, rfl, hplain, hword⟩ := h
  rw [labelled_append]
  exact ⟨before, _, [], rfl, (plainParts_append.1 hplain).1, rfl, hword⟩

theorem HasName.find {parts : Parts} (h : HasName parts) :
    ∃ m, (parts.map (·.node)).find? (·.field == some .name) = some m ∧ IsWord m.text := by
  obtain ⟨before, p, after, rfl, hbefore, hfield, hword⟩ := h
  refine ⟨p.node, ?_, hword⟩
  have hnone : (before.map (·.node)).find? (·.field == some Field.name) = none := by
    simp only [List.find?_eq_none, List.mem_map]
    rintro _ ⟨q, hq, rfl⟩
    simp [(hbefore q hq).field]
  simp [List.find?_append, hnone, hfield]

theorem wellNamed_of_children {kind : Kind} {line : Nat} {text : String} {parts : Parts}
    (h : WellNamedParts parts) (hword : kind ≠ .identifier)
    (hname : kind = .functionDefinition → HasName parts) :
    (Node.mk kind none line text (parts.map (·.node))).WellNamed :=
  .mk (fun hkind => (hname hkind).find) (by simpa using fun he => absurd he hword)
    (by simpa [WellNamedParts] using h)

theorem tidy_skipNewlines {trivia : List Part} {tokens : List Token} (h : PlainParts trivia)
    (ht : ∀ t ∈ tokens, t.Tidy) : ∀ t ∈ skipNewlines trivia tokens, t.Tidy := by
  induction tokens generalizing trivia with
  | nil => simp [skipNewlines]
  | cons t rest ih =>
    obtain ⟨htoken, hrest⟩ := List.forall_mem_cons.1 ht
    have htrivia : PlainParts (trivia ++ t.trivia) := plainParts_append.2 ⟨h, htoken.trivia⟩
    simp only [skipNewlines]
    split
    · exact ih htrivia hrest
    · exact List.forall_mem_cons.2 ⟨⟨htoken.word, htrivia⟩, hrest⟩

theorem Input.Tidy.settled {s : Input} (h : s.Tidy) :
    (if s.brackets == 0 then s else { s with tokens := skipNewlines [] s.tokens }).Tidy := by
  split
  · exact h
  · exact tidy_skipNewlines plainParts_nil h

theorem Input.Tidy.cons {s : Input} {t : Token} {rest : List Token} (h : s.Tidy)
    (heq : s.tokens = t :: rest) :
    t.Tidy ∧ ∀ t ∈ rest, t.Tidy := by
  have htokens : ∀ t ∈ s.tokens, t.Tidy := h
  rw [heq] at htokens
  exact List.forall_mem_cons.1 htokens

/-- The next token is a word, and stays the next one. -/
def Input.StartsWithWord (s : Input) : Prop := ∃ t rest, s.tokens = t :: rest ∧ t.kind = .word

@[spec] theorem failure_spec {P : Assertion (.arg Input (.except PUnit .pure))}
    {Q : α → Assertion (.arg Input (.except PUnit .pure))} :
    ⦃P⦄ (failure : Parser α) ⦃PostCond.mayThrow Q⦄ :=
  fun _ _ => trivial

theorem settle_word :
    ⦃fun s => ⌜s.Tidy ∧ s.StartsWithWord⌝⦄ settle ⦃⇓? _ s => ⌜s.Tidy ∧ s.StartsWithWord⌝⦄ := by
  mvcgen [settle]
  rename_i s h t
  obtain ⟨htidy, first, rest, heq, hword⟩ := h
  refine ⟨htidy.settled, ?_⟩
  change (if s.brackets == 0 then s else _).StartsWithWord
  split
  · exact ⟨first, rest, heq, hword⟩
  · exact ⟨{ first with trivia := [] ++ first.trivia }, rest, by simp [heq, skipNewlines, hword], hword⟩

theorem trivia_word :
    ⦃fun s => ⌜s.Tidy ∧ s.StartsWithWord⌝⦄ trivia
    ⦃⇓? parts s => ⌜(s.Tidy ∧ s.StartsWithWord) ∧ PlainParts parts⌝⦄ := by
  mvcgen [trivia, settle_word]
  case vc2.post.success.h_1 _ _ _ s h t rest heq =>
    obtain ⟨ht, hrest⟩ := h.1.cons heq
    obtain ⟨t', _, heq', hword⟩ := h.2
    obtain ⟨rfl, -⟩ := List.cons.inj (heq.symm.trans heq')
    exact ⟨⟨List.forall_mem_cons.2 ⟨⟨ht.word, plainParts_nil⟩, hrest⟩, _, rest, rfl, hword⟩, ht.trivia⟩
  case vc3.post.success.h_2 h _ => exact ⟨h, plainParts_nil⟩

theorem leaf_word :
    ⦃fun s => ⌜s.Tidy ∧ s.StartsWithWord⌝⦄ leaf .identifier
    ⦃⇓? parts s => ⌜s.Tidy ∧ NameParts parts⌝⦄ := by
  mvcgen [leaf, trivia_word]
  rename_i before s h t rest heq
  obtain ⟨⟨htidy, t', _, heq', hword⟩, hbefore⟩ := h
  obtain ⟨ht, hrest⟩ := htidy.cons heq
  obtain ⟨rfl, -⟩ := List.cons.inj (heq.symm.trans heq')
  exact ⟨hrest, before, _, rfl,
    plainParts_append.2 ⟨hbefore, plainParts_leaf (by decide) (fun _ => ht.word hword) _ _ _⟩,
    ht.word hword⟩

@[spec] theorem settle_gives : Gives settle fun _ => True := by
  mvcgen [settle]
  rename_i s h t
  exact h.settled

@[spec] theorem peek_gives :
    ⦃fun s => ⌜s.Tidy⌝⦄ peek ⦃⇓? t s => ⌜s.Tidy ∧ t.Tidy ∧ (t.kind = .word → s.StartsWithWord)⌝⦄ := by
  mvcgen [peek]
  rename_i s t rest heq h
  exact ⟨h, (h.cons heq).1, fun hword => ⟨t, rest, heq, hword⟩⟩

@[spec] theorem peekSecond_gives : Gives peekSecond Token.Tidy := by
  mvcgen [peekSecond]
  rename_i s first t rest heq h
  exact ⟨h, (h.cons heq).2 t (by simp)⟩

@[spec] theorem anyWord_gives : Gives anyWord NameParts := by
  mvcgen [anyWord, leaf_word]
  simp_all

@[spec] theorem identifier_gives : Gives identifier NameParts := by
  mvcgen [identifier, leaf_word]
  simp_all

@[spec] theorem trivia_gives : Gives trivia PlainParts := by
  mvcgen [trivia]
  case vc2.post.success.h_1 t rest heq h =>
    obtain ⟨ht, hrest⟩ := h.cons heq
    exact ⟨List.forall_mem_cons.2 ⟨⟨ht.word, plainParts_nil⟩, hrest⟩, ht.trivia⟩
  case vc3.post.success.h_2 h => exact ⟨h, plainParts_nil⟩

@[spec] theorem leaf_gives (kind : Kind) (hkind : kind.IsFree) : Gives (leaf kind) PlainParts := by
  mvcgen [leaf]
  rename_i before s h t rest heq
  exact ⟨(h.1.cons heq).2, plainParts_append.2 ⟨h.2,
    plainParts_leaf hkind.1 (fun he => absurd he hkind.2) _ _ _⟩⟩

@[spec] theorem sees_gives (text : String) : Gives (sees text) fun _ => True := by
  mvcgen [sees]
  simp_all

@[spec] theorem seesAny_gives (texts : List String) : Gives (seesAny texts) fun _ => True := by
  mvcgen [seesAny]
  simp_all

@[spec] theorem expect_gives (text : String) : Gives (expect text) PlainParts := by
  mvcgen [expect] <;> simp_all +zetaDelta

@[spec] theorem accept_gives (text : String) : Gives (accept text) PlainParts := by
  mvcgen [accept] <;> simp_all +zetaDelta

@[spec] theorem node_gives (kind : Kind) (parts : Parts) (h : WellNamedParts parts)
    (hword : kind ≠ .identifier) (hname : kind = .functionDefinition → HasName parts) :
    Gives (node kind parts) WellNamedParts := by
  mvcgen [node]
  rename_i hs first last _ _ text
  refine ⟨hs, fun p hp => ?_⟩
  rw [List.mem_singleton.1 hp]
  exact wellNamed_of_children h hword hname

@[spec] theorem emptyNode_gives (kind : Kind) (hkind : kind.IsFree) :
    Gives (emptyNode kind) WellNamedParts := by
  mvcgen [emptyNode]
  rename_i h
  exact ⟨h.1, (plainParts_leaf hkind.1 (fun he => absurd he hkind.2) _ _ _).wellNamed⟩

theorem iterate_go_gives {step : Parts → Parser (Option Parts)}
    (hstep : ∀ parts, WellNamedParts parts →
      Gives (step parts) fun r => ∀ parts' ∈ r, WellNamedParts parts')
    (turns : Nat) (parts : Parts) (h : WellNamedParts parts) :
    Gives (iterate.go step turns parts) WellNamedParts := by
  induction turns generalizing parts with
  | zero => mvcgen [iterate.go]
  | succ turns ih => mvcgen [iterate.go, hstep, ih] <;> simp_all +zetaDelta

@[spec] theorem iterate_gives (step : Parts → Parser (Option Parts)) (parts : Parts)
    (h : WellNamedParts parts)
    (hstep : ∀ parts, WellNamedParts parts →
      Gives (step parts) fun r => ∀ parts' ∈ r, WellNamedParts parts') :
    Gives (iterate step parts) WellNamedParts := by
  have hgo := iterate_go_gives hstep
  mvcgen [iterate, hgo]

attribute [spec] child fieldChild grow

@[spec] theorem commaList_gives (item : Parser Parts) (closes : Parser Bool)
    (hitem : Gives item WellNamedParts) (hcloses : Gives closes fun _ => True) :
    Gives (commaList item closes) WellNamedParts := by
  mvcgen [commaList, hitem, hcloses] <;> simp_all +zetaDelta

@[spec] theorem commaSeparated_gives (item : Parser Parts) (hitem : Gives item WellNamedParts) :
    Gives (commaSeparated item) WellNamedParts := by
  mvcgen [commaSeparated, hitem] <;> simp_all +zetaDelta

@[spec] theorem splat_gives (kind : Kind) (mark : String) (operand : Parser Parts)
    (hkind : kind.IsFree) (h : Gives operand WellNamedParts) :
    Gives (splat kind mark operand) WellNamedParts := by
  mvcgen [splat, h] <;> simp_all +zetaDelta

section Expression

variable {self : Self} (hself : ∀ goal, Gives (self goal) WellNamedParts)

@[spec] theorem expressionItems_gives (item : Parser Parts) (first : Parts)
    (h : Gives item WellNamedParts) (hfirst : WellNamedParts first) :
    Gives (expressionItems item first) WellNamedParts := by
  mvcgen [expressionItems, h] <;> simp_all

mutual

theorem wellNamed_patternNode : ∀ {n m : Node}, patternNode n = some m → n.WellNamed → m.WellNamed
  | ⟨kind, field, line, text, children⟩, m, hm, .mk hfunction hword hchildren => by
    have hthese : ∀ cs, patternNodes children = some cs → ∀ c ∈ cs, c.WellNamed :=
      fun cs hcs => wellNamed_patternNodes hcs hchildren
    unfold patternNode at hm
    split at hm
    all_goals
      first
      | obtain rfl := Option.some.inj hm
        exact .mk (by simp_all) (by simp_all) hchildren
      | obtain ⟨cs, hcs, rfl⟩ := Option.map_eq_some_iff.1 hm
        exact .mk (by simp) (by simp_all) (hthese cs hcs)
      | simp at hm

theorem wellNamed_patternNodes : ∀ {ns ms : List Node}, patternNodes ns = some ms →
    (∀ n ∈ ns, n.WellNamed) → ∀ m ∈ ms, m.WellNamed
  | [], ms, hms, _ => by
    simp_all [patternNodes]
  | n :: rest, ms, hms, h => by
    unfold patternNodes at hms
    split at hms
    · rename_i m ms' hm hrest
      obtain rfl := Option.some.inj hms
      obtain ⟨hn, hns⟩ := List.forall_mem_cons.1 h
      exact List.forall_mem_cons.2 ⟨wellNamed_patternNode hm hn, wellNamed_patternNodes hrest hns⟩
    · simp at hms

end

theorem wellNamedParts_patterns {parts ps : Parts} (h : parts.mapM patternPart = some ps)
    (hparts : WellNamedParts parts) : WellNamedParts ps := by
  induction parts generalizing ps with
  | nil => simp_all
  | cons p rest ih =>
    obtain ⟨hp, hrest⟩ := List.forall_mem_cons.1 hparts
    simp only [List.mapM_cons, Option.pure_def, Option.bind_eq_bind, Option.bind_eq_some_iff,
      Option.some.injEq, patternPart, Option.map_eq_some_iff] at h
    obtain ⟨_, ⟨n, hn, rfl⟩, qs, hqs, rfl⟩ := h
    exact List.forall_mem_cons.2 ⟨wellNamed_patternNode hn hp, ih hqs hrest⟩

@[spec] theorem targets_gives (parts : Parts) (h : WellNamedParts parts) :
    Gives (targets parts) WellNamedParts := by
  mvcgen [targets]
  case vc1.h_1 _ hps _ hs => exact ⟨hs, wellNamedParts_patterns hps h⟩
  case vc3 _ _ hps => exact fun _ _ => wellNamedParts_patterns hps h
  all_goals simp_all

@[spec] theorem wordAtom_gives (t : Token) : Gives (wordAtom t) PlainParts := by
  mvcgen [wordAtom] <;> simp_all

@[spec] theorem leftGrouped_gives (operators : List String) (operand : Parser Parts)
    (h : Gives operand WellNamedParts) : Gives (leftGrouped operators operand) WellNamedParts := by
  mvcgen [leftGrouped, h] <;> simp_all

@[spec] theorem booleanGroup_gives (word : String) (operand : Parser Parts)
    (h : Gives operand WellNamedParts) :
    Gives (booleanGroup word operand) WellNamedParts := by
  mvcgen [booleanGroup, h] <;> simp_all

@[spec] theorem moreElements_gives (item : Parser Parts) (close : String) (first : Parts)
    (h : Gives item WellNamedParts) (hfirst : WellNamedParts first) :
    Gives (moreElements item close first) WellNamedParts := by
  mvcgen [moreElements, h] <;> simp_all

@[spec] theorem seesClause_gives : Gives seesClause fun _ => True := by
  mvcgen [seesClause] <;> simp_all

@[spec] theorem comparator_gives : Gives comparator fun r => ∀ parts ∈ r, PlainParts parts := by
  mvcgen [comparator] <;> simp_all

include hself

@[spec] theorem yieldExpression_gives : Gives (yieldExpression self) WellNamedParts := by
  mvcgen [yieldExpression, hself] <;> simp_all

@[spec] theorem element_gives : Gives (element self) WellNamedParts := by
  mvcgen [element, hself] <;> simp_all

@[spec] theorem starTarget_gives : Gives (starTarget self) WellNamedParts := by
  mvcgen [starTarget, hself] <;> simp_all

@[spec] theorem loopTargets_gives : Gives (loopTargets self) WellNamedParts := by
  mvcgen [loopTargets, hself] <;> simp_all

@[spec] theorem slicePart_gives : Gives (slicePart self) WellNamedParts := by
  mvcgen [slicePart, hself] <;> simp_all

@[spec] theorem clauses_gives : Gives (clauses self) WellNamedParts := by
  mvcgen [clauses, hself] <;> simp_all

@[spec] theorem perhapsNamed_gives (value : Parts) (h : WellNamedParts value) :
    Gives (perhapsNamed self value) WellNamedParts := by
  mvcgen [perhapsNamed, hself] <;> simp_all

@[spec] theorem parenthesized_gives : Gives (parenthesized self) WellNamedParts := by
  mvcgen [parenthesized, hself] <;> simp_all

@[spec] theorem listDisplay_gives : Gives (listDisplay self) WellNamedParts := by
  mvcgen [listDisplay, hself] <;> simp_all

@[spec] theorem member_gives : Gives (member self) WellNamedParts := by
  mvcgen [member, hself] <;> simp_all

@[spec] theorem braceDisplay_gives : Gives (braceDisplay self) WellNamedParts := by
  mvcgen [braceDisplay, hself] <;> simp_all +zetaDelta [ite_eq_iff]

@[spec] theorem argument_gives : Gives (argument self) WellNamedParts := by
  mvcgen [argument, hself] <;> simp_all

@[spec] theorem arguments_gives : Gives (arguments self) WellNamedParts := by
  mvcgen [arguments, hself] <;> simp_all

@[spec] theorem replacementField_gives : Gives (replacementField self) WellNamedParts := by
  mvcgen [replacementField, hself] <;> simp_all

@[spec] theorem stringLiteral_gives : Gives (stringLiteral self) WellNamedParts := by
  mvcgen [stringLiteral, hself] <;> simp_all

@[spec] theorem strings_gives : Gives (strings self) WellNamedParts := by
  mvcgen [strings, hself] <;> simp_all

@[spec] theorem atom_gives : Gives (atom self) WellNamedParts := by
  mvcgen [atom, hself] <;> simp_all

@[spec] theorem trailer_gives (value : Parts) (h : WellNamedParts value) :
    Gives (trailer self value) fun r => ∀ parts ∈ r, WellNamedParts parts := by
  mvcgen [trailer, hself] <;> simp_all [NameParts.append]

@[spec] theorem primary_gives : Gives (primary self) WellNamedParts := by
  mvcgen [primary, hself] <;> simp_all

@[spec] theorem factor_gives : Gives (factor self) WellNamedParts := by
  mvcgen [factor, hself] <;> simp_all

@[spec] theorem arithmetic_gives : Gives (arithmetic self) WellNamedParts := by
  mvcgen [arithmetic, hself]

@[spec] theorem comparison_gives : Gives (comparison self) WellNamedParts := by
  mvcgen [comparison, hself] <;> simp_all

@[spec] theorem negation_gives : Gives (negation self) WellNamedParts := by
  mvcgen [negation, hself] <;> simp_all

omit hself in
@[spec] theorem splatParameter_gives (kind : Kind) (mark : String) (h : kind.IsFree) :
    Gives (splatParameter kind mark) WellNamedParts := by
  mvcgen [splatParameter] <;> simp_all

@[spec] theorem untypedParameter_gives : Gives (parameter self none) WellNamedParts := by
  mvcgen [parameter, annotation, hself] <;> simp_all +zetaDelta

@[spec] theorem typedParameter_gives (type : Parser Parts) (h : Gives type WellNamedParts) :
    Gives (parameter self (some type)) WellNamedParts := by
  mvcgen [parameter, annotation, h, hself] <;> simp_all +zetaDelta [ite_eq_iff]

@[spec] theorem parameterTuple_gives : Gives (parameterTuple self) WellNamedParts := by
  mvcgen [parameterTuple, hself] <;> simp_all

@[spec] theorem lambdaExpression_gives (body : Goal) :
    Gives (lambdaExpression self body) WellNamedParts := by
  mvcgen [lambdaExpression, hself] <;> simp_all

@[spec] theorem disjunction_gives : Gives (disjunction self) WellNamedParts := by
  mvcgen [disjunction, hself] <;> simp_all

@[spec] theorem expression_gives : Gives (expression self) WellNamedParts := by
  mvcgen [expression, hself] <;> simp_all

@[spec] theorem namedByAs_gives : Gives (namedByAs self) WellNamedParts := by
  mvcgen [namedByAs, hself] <;> simp_all

@[spec] theorem expressions_gives : Gives (expressions self) WellNamedParts := by
  mvcgen [expressions, hself] <;> simp_all

@[spec] theorem typeExpression_gives : Gives (typeExpression self) WellNamedParts := by
  mvcgen [typeExpression, hself] <;> simp_all

end Expression

end Grammar
end TestTwins.Python
