import Mathlib
import TestTwins.Proofs.WellNamed

namespace TestTwins.Python

open Std.Do

set_option mvcgen.warning false

namespace Grammar

section Pattern

@[spec] theorem dottedName_gives : Gives dottedName WellNamedParts := by
  mvcgen [dottedName] <;> simp_all

@[spec] theorem number_gives : Gives number PlainParts := by
  mvcgen [number] <;> simp_all

@[spec] theorem numberPattern_gives : Gives numberPattern WellNamedParts := by
  mvcgen [numberPattern] <;> simp_all

@[spec] theorem splatPattern_gives (mark : String) : Gives (splatPattern mark) WellNamedParts := by
  mvcgen [splatPattern] <;> simp_all

variable {self : Self} (hself : ∀ goal, Gives (self goal) WellNamedParts)
include hself

@[spec] theorem classArgument_gives : Gives (classArgument self) WellNamedParts := by
  mvcgen [classArgument, hself] <;> simp_all

@[spec] theorem namePattern_gives : Gives (namePattern self) WellNamedParts := by
  mvcgen [namePattern, hself] <;> simp_all

@[spec] theorem dictEntry_gives : Gives (dictEntry self) WellNamedParts := by
  mvcgen [dictEntry, hself] <;> simp_all

@[spec] theorem closedPattern_gives : Gives (closedPattern self) WellNamedParts := by
  mvcgen [closedPattern, hself] <;> simp_all

@[spec] theorem simplePattern_gives : Gives (simplePattern self) WellNamedParts := by
  mvcgen [simplePattern, hself] <;> simp_all

@[spec] theorem casePattern_gives : Gives (casePattern self) WellNamedParts := by
  mvcgen [casePattern, hself] <;> simp_all

end Pattern

section Simple

@[spec] theorem newline_gives : Gives newline PlainParts := by
  mvcgen [newline]
  rename_i h t rest heq _ _
  exact ⟨(h.1.cons heq).2, h.2⟩

@[spec] theorem atEnd_gives : Gives atEnd fun _ => True := by
  mvcgen [atEnd]
  simp_all

@[spec] theorem seesNewline_gives : Gives seesNewline fun _ => True := by
  mvcgen [seesNewline] <;> simp_all

@[spec] theorem seesStop_gives : Gives seesStop fun _ => True := by
  mvcgen [seesStop]
  simp_all

@[spec] theorem importItem_gives : Gives importItem WellNamedParts := by
  mvcgen [importItem] <;> simp_all

@[spec] theorem importList_gives (stop : Parser Bool) (h : Gives stop fun _ => True) :
    Gives (importList stop) WellNamedParts := by
  mvcgen [importList, h]

@[spec] theorem importStatement_gives : Gives importStatement WellNamedParts := by
  mvcgen [importStatement] <;> simp_all

@[spec] theorem importedNames_gives : Gives importedNames WellNamedParts := by
  mvcgen [importedNames] <;> simp_all

@[spec] theorem relativeModule_gives : Gives relativeModule WellNamedParts := by
  mvcgen [relativeModule] <;> simp_all

@[spec] theorem importFromStatement_gives : Gives importFromStatement WellNamedParts := by
  mvcgen [importFromStatement] <;> simp_all

@[spec] theorem nameList_gives (kind : Kind) (word : String) (h : kind.IsFree) :
    Gives (nameList kind word) WellNamedParts := by
  mvcgen [nameList] <;> simp_all

variable {self : Self} (hself : ∀ goal, Gives (self goal) WellNamedParts)
include hself

@[spec] theorem returnStatement_gives : Gives (returnStatement self) WellNamedParts := by
  mvcgen [returnStatement, hself] <;> simp_all

@[spec] theorem deleteStatement_gives : Gives (deleteStatement self) WellNamedParts := by
  mvcgen [deleteStatement, hself] <;> simp_all

@[spec] theorem assertStatement_gives : Gives (assertStatement self) WellNamedParts := by
  mvcgen [assertStatement, hself] <;> simp_all

@[spec] theorem raiseStatement_gives : Gives (raiseStatement self) WellNamedParts := by
  mvcgen [raiseStatement, hself] <;> simp_all

@[spec] theorem printStatement_gives : Gives (printStatement self) WellNamedParts := by
  mvcgen [printStatement, hself] <;> simp_all

@[spec] theorem execStatement_gives : Gives (execStatement self) WellNamedParts := by
  mvcgen [execStatement, hself] <;> simp_all

@[spec] theorem typeAliasStatement_gives : Gives (typeAliasStatement self) WellNamedParts := by
  mvcgen [typeAliasStatement, hself] <;> simp_all

@[spec] theorem assignmentTail_gives (items : Parts) (h : WellNamedParts items) :
    Gives (assignmentTail self items) fun r => ∀ parts ∈ r, WellNamedParts parts := by
  mvcgen [assignmentTail, hself] <;> simp_all +zetaDelta

@[spec] theorem rightSide_gives : Gives (rightSide self) WellNamedParts := by
  mvcgen [rightSide, hself] <;> simp_all

@[spec] theorem expressionStatement_gives : Gives (expressionStatement self) WellNamedParts := by
  mvcgen [expressionStatement, hself] <;> simp_all +zetaDelta

@[spec] theorem simpleStatement_gives : Gives (simpleStatement self) WellNamedParts := by
  mvcgen [simpleStatement, hself] <;> simp_all

@[spec] theorem simpleStatements_gives : Gives (simpleStatements self) WellNamedParts := by
  mvcgen [simpleStatements, hself] <;> simp_all

end Simple

section Compound

@[spec] theorem orElse_gives {p q : Parser Parts} (hp : Gives p WellNamedParts)
    (hq : Gives q WellNamedParts) :
    Gives (p <|> q) WellNamedParts := by
  rw [gives_iff] at *
  intro s a s' hs heq
  rcases (Option.orElse_eq_some (p.run s) (q.run s) _).1 heq with h | ⟨-, h⟩
  · exact hp s a s' hs h
  · exact hq s a s' hs h

theorem hasName_definition {async word before name : Parts} (rest : Parts) (hasync : PlainParts async)
    (hword : PlainParts word) (hbefore : PlainParts before) (hname : NameParts name) :
    HasName (async ++ (word ++ (labelled .name (before ++ name) ++ rest))) :=
  ((hname.append hbefore).hasName.append_left rest).append_right hword |>.append_right hasync

@[spec] theorem goesOn_gives (indentation : Nat) (words : List String) :
    Gives (goesOn indentation words) fun _ => True := by
  mvcgen [goesOn]

@[spec] theorem seesMatch_gives : Gives seesMatch fun _ => True := by
  mvcgen [seesMatch]

@[spec] theorem missingParenthesis_gives : Gives missingParenthesis WellNamedParts := by
  mvcgen [missingParenthesis]
  rename_i h
  exact h

theorem tidy_restOfLine {tokens : List Token} (h : ∀ t ∈ tokens, t.Tidy) :
    (∀ t ∈ (restOfLine tokens).1, t.Tidy) ∧ ∀ t ∈ (restOfLine tokens).2.2, t.Tidy := by
  induction tokens with
  | nil => simp [restOfLine]
  | cons t rest ih =>
    obtain ⟨ht, hrest⟩ := List.forall_mem_cons.1 h
    simp only [restOfLine]
    split
    · exact ⟨by simp, hrest⟩
    · exact ⟨by simp, h⟩
    · exact ⟨List.forall_mem_cons.2 ⟨ht, (ih hrest).1⟩, (ih hrest).2⟩

theorem plainParts_tokenPart {t : Token} (h : t.Tidy) : PlainParts (tokenPart t) :=
  plainParts_append.2 ⟨h.trivia, plainParts_leaf (by decide) (by simp) _ _ _⟩

theorem plainParts_flatMap_tokenPart {line : List Token} (h : ∀ t ∈ line, t.Tidy) :
    PlainParts (line.flatMap tokenPart) := by
  induction line with
  | nil => simp
  | cons t rest ih =>
    obtain ⟨ht, hrest⟩ := List.forall_mem_cons.1 h
    exact plainParts_append.2 ⟨plainParts_tokenPart ht, ih hrest⟩

@[spec] theorem errorLine_gives : Gives errorLine WellNamedParts := by
  mvcgen [errorLine]
  case vc1.h _ h => exact (plainParts_flatMap_tokenPart (tidy_restOfLine h).1).wellNamed
  case vc3.hname => simp
  case vc5.post.success h _ _ hwrong => exact ⟨(tidy_restOfLine h).2, hwrong.2⟩

variable {self : Self} (hself : ∀ goal, Gives (self goal) WellNamedParts)
include hself

@[spec] theorem blockLines_gives (indentation : Nat) :
    Gives (blockLines self indentation) WellNamedParts := by
  mvcgen [blockLines, hself] <;> simp_all

@[spec] theorem suite_gives (indentation : Nat) : Gives (suite self indentation) WellNamedParts := by
  mvcgen [suite, hself] <;> simp_all +zetaDelta

@[spec] theorem elseClause_gives (indentation : Nat) :
    Gives (elseClause self indentation) WellNamedParts := by
  mvcgen [elseClause, hself] <;> simp_all

@[spec] theorem ifStatement_gives (indentation : Nat) :
    Gives (ifStatement self indentation) WellNamedParts := by
  mvcgen [ifStatement, hself] <;> simp_all

@[spec] theorem whileStatement_gives (indentation : Nat) :
    Gives (whileStatement self indentation) WellNamedParts := by
  mvcgen [whileStatement, hself] <;> simp_all

@[spec] theorem forStatement_gives (indentation : Nat) :
    Gives (forStatement self indentation) WellNamedParts := by
  mvcgen [forStatement, hself] <;> simp_all

@[spec] theorem handled_gives : Gives (handled self) WellNamedParts := by
  mvcgen [handled, hself] <;> simp_all

@[spec] theorem handler_gives (indentation : Nat) :
    Gives (handler self indentation) WellNamedParts := by
  mvcgen [handler, hself] <;> simp_all

@[spec] theorem finallyClause_gives (indentation : Nat) :
    Gives (finallyClause self indentation) WellNamedParts := by
  mvcgen [finallyClause, hself] <;> simp_all

@[spec] theorem tryStatement_gives (indentation : Nat) :
    Gives (tryStatement self indentation) WellNamedParts := by
  mvcgen [tryStatement, hself] <;> simp_all

@[spec] theorem withItem_gives : Gives (withItem self) WellNamedParts := by
  mvcgen [withItem, hself] <;> simp_all

@[spec] theorem withItemGroup_gives : Gives (withItemGroup self) WellNamedParts := by
  mvcgen [withItemGroup, hself] <;> simp_all

@[spec] theorem withClause_gives : Gives (withClause self) WellNamedParts := by
  unfold withClause
  dsimp only
  mvcgen [hself] <;> simp_all

@[spec] theorem withStatement_gives (indentation : Nat) :
    Gives (withStatement self indentation) WellNamedParts := by
  mvcgen [withStatement, hself] <;> simp_all

@[spec] theorem typeParameter_gives : Gives (typeParameter self) WellNamedParts := by
  mvcgen [typeParameter, hself] <;> simp_all

@[spec] theorem typeParameters_gives : Gives (typeParameters self) WellNamedParts := by
  mvcgen [typeParameters, hself] <;> simp_all

@[spec] theorem parameters_gives : Gives (parameters self) WellNamedParts := by
  mvcgen [parameters, hself] <;> simp_all

@[spec] theorem functionDefinition_gives (indentation : Nat) :
    Gives (functionDefinition self indentation) WellNamedParts := by
  mvcgen [functionDefinition, hself] <;> simp_all [hasName_definition]

@[spec] theorem classDefinition_gives (indentation : Nat) :
    Gives (classDefinition self indentation) WellNamedParts := by
  mvcgen [classDefinition, hself] <;> simp_all

@[spec] theorem decorator_gives : Gives (decorator self) WellNamedParts := by
  mvcgen [decorator, hself] <;> simp_all

@[spec] theorem decoratedDefinition_gives (indentation : Nat) :
    Gives (decoratedDefinition self indentation) WellNamedParts := by
  mvcgen [decoratedDefinition, hself] <;> simp_all

@[spec] theorem caseClause_gives (indentation : Nat) :
    Gives (caseClause self indentation) WellNamedParts := by
  mvcgen [caseClause, hself] <;> simp_all

@[spec] theorem caseClauses_gives (indentation : Nat) :
    Gives (caseClauses self indentation) WellNamedParts := by
  mvcgen [caseClauses, hself] <;> simp_all

@[spec] theorem matchStatement_gives (indentation : Nat) :
    Gives (matchStatement self indentation) WellNamedParts := by
  mvcgen [matchStatement, hself] <;> simp_all +zetaDelta

@[spec] theorem compoundOrSimple_gives (indentation : Nat) :
    Gives (compoundOrSimple self indentation) WellNamedParts := by
  mvcgen [compoundOrSimple, hself] <;> simp_all

@[spec] theorem statement_gives (indentation : Nat) :
    Gives (statement self indentation) WellNamedParts := by
  have hstatement := gives_iff.1 (compoundOrSimple_gives hself indentation)
  mvcgen [statement]
  case vc4.post.success.isFalse.h_1 s _ _ heq h => exact hstatement s _ _ h heq
  case vc5.post.success.isFalse.h_2 h => exact h
  all_goals simp_all

theorem production_gives (goal : Goal) : Gives (production self goal) WellNamedParts := by
  cases goal with
  | expression => exact expression_gives hself
  | disjunction => exact disjunction_gives hself
  | negation => exact negation_gives hself
  | factor => exact factor_gives hself
  | rightSide => exact rightSide_gives hself
  | replacementField => exact replacementField_gives hself
  | casePattern => exact casePattern_gives hself
  | simplePattern => exact simplePattern_gives hself
  | parameterTuple => exact parameterTuple_gives hself
  | statement indentation => exact statement_gives hself indentation

end Compound

theorem read_gives (depth : Nat) (goal : Goal) : Gives (read depth goal) WellNamedParts := by
  induction depth generalizing goal with
  | zero => exact failure_spec
  | succ depth ih => exact production_gives ih goal

theorem moduleLines_gives (depth : Nat) : Gives (moduleLines depth) WellNamedParts := by
  have hread := read_gives depth
  mvcgen [moduleLines, hread] <;> simp_all

end Grammar

open Grammar

theorem wellNamed_parse (source : String) : (parse source).WellNamed := by
  have hlines := gives_iff.1 (moduleLines_gives ((tokenize source.toList).length + 8))
  unfold parse
  extract_lets chars tokens turns start parts
  have hstart : start.Tidy := tidy_tokenize chars
  have hparts : WellNamedParts parts := by
    unfold parts
    split
    · rename_i lines after heq
      exact (hlines _ _ _ hstart heq).2
    · exact wellNamedParts_nil
  exact wellNamed_of_children hparts (by simp) (by simp)

namespace Node

theorem WellNamed.of_mem_traverse {queue : List Node} (h : ∀ n ∈ queue, n.WellNamed) :
    ∀ n ∈ traverse queue, n.WellNamed := by
  induction queue using traverse.induct with
  | case1 => simp [traverse]
  | case2 n rest ih =>
    rw [traverse]
    obtain ⟨hn, hrest⟩ := List.forall_mem_cons.1 h
    refine List.forall_mem_cons.2 ⟨hn, ih ?_⟩
    intro m hm
    rcases List.mem_append.1 hm with hm | hm
    · exact hrest m hm
    · cases hn with
      | mk _ _ children => exact children m hm

theorem functions_node {root : Node} {f : Function} (hf : f ∈ root.functions) (h : root.WellNamed) :
    f.node.kind = .functionDefinition ∧ f.node.WellNamed := by
  rcases List.mem_append.1 hf with hf | hf
  · split at hf
    · obtain rfl := List.mem_singleton.1 hf
      exact ⟨by simp_all, h⟩
    · simp at hf
  · obtain ⟨n, hn, hf⟩ := List.mem_flatMap.1 hf
    obtain ⟨m, hm, rfl⟩ := List.mem_map.1 hf
    obtain ⟨hmem, hkind⟩ := List.mem_filter.1 hm
    have hwell : n.WellNamed := WellNamed.of_mem_traverse (by simpa using h) n hn
    cases hwell with
    | mk _ _ children => exact ⟨by simpa using hkind, children m hmem⟩

end Node

theorem isWord_name {source : String} {f : Function} (h : f ∈ (parse source).functions) :
    IsWord f.name := by
  obtain ⟨hkind, hwell⟩ := Node.functions_node h (wellNamed_parse source)
  cases hwell with
  | mk function _ _ =>
    obtain ⟨m, hm, hword⟩ := function hkind
    simpa [Function.name, hm] using hword

end TestTwins.Python
