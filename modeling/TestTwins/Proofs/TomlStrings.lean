import Mathlib.Data.List.Basic
import TestTwins.Toml.Printer
import TestTwins.Toml.Reader

namespace TestTwins.Toml.Reader

open Printer

theorem toNat_lt_of_isControl {c : Char} (h : isControl c) : c.toNat < 0x80 := by
  simp only [isControl, Bool.or_eq_true, Bool.and_eq_true, decide_eq_true_eq, beq_iff_eq] at h
  omega

theorem ofHex?_hexDigits {c : Char} (h : isControl c) :
    ofHex? ['0', '0', hexDigit (c.toNat / 16), hexDigit (c.toNat % 16)] = some c := by
  have hlow := toNat_lt_of_isControl h
  have hvalue : 16 * (c.toNat / 16) + c.toNat % 16 = c.toNat := Nat.div_add_mod _ _
  have hzero : Digit.value? '0' = some 0 := rfl
  have hvalid : c.toNat.isValidChar := c.valid
  simp [ofHex?, hexDigit, hzero, Digit.value?_toUpper_digitChar (c.toNat / 16) (by omega),
    Digit.value?_toUpper_digitChar (c.toNat % 16) (by omega), hvalue, hvalid, Char.ofNat_toNat]

theorem isPlain_of_not_isControl {c : Char} (h : isControl c = false) (hbreak : c ≠ '\n') :
    isPlain c := by
  simp only [isControl, Bool.or_eq_false_iff, Bool.and_eq_false_iff, decide_eq_false_iff_not,
    bne_eq_false_iff_eq, beq_eq_false_iff_ne] at h
  simp only [isPlain, Bool.or_eq_true, beq_iff_eq, Bool.and_eq_true, decide_eq_true_eq, bne_iff_ne]
  grind

theorem not_break_of_isPlain {c : Char} (h : isPlain c) : c ≠ '\n' ∧ c ≠ '\r' := by
  constructor <;>
    (rintro rfl; cases h)

structure Unescapes (read : List Char → Option (List Char × List Char)) : Prop where
  hex : ∀ a b c d rest, read ('\\' :: 'u' :: a :: b :: c :: d :: rest) =
    (ofHex? [a, b, c, d]).bind fun x => withFirst x (read rest)
  simple : ∀ {c x} rest, simpleEscape? c = some x → read ('\\' :: c :: rest) = withFirst x (read rest)
  plain : ∀ {c} rest, isPlain c → c ≠ '"' → c ≠ '\\' → read (c :: rest) = withFirst c (read rest)

theorem unescapes_basic : Unescapes basic where
  hex a b c d rest := by rw [basic]
  simple {c x} rest h := by
    rw [basic]
    · rw [h, Option.bind_some]
    all_goals
      intros
      subst_vars
      cases h
  plain {c} rest h hquote hslash := by
    rw [basic]
    · simp [h, hslash]
    all_goals simp [hquote, hslash]

theorem unescapes_longBasic : Unescapes (longBasic false) where
  hex a b c d rest := by rw [longBasic]
  simple {c x} rest h := by
    rw [longBasic]
    · rw [h]
    all_goals
      intros
      subst_vars
      cases h
  plain {c} rest h hquote hslash := by
    rw [longBasic]
    · simp [h, hslash]
    all_goals simp [hquote, hslash, not_break_of_isPlain h]

theorem Unescapes.escaped {read : List Char → Option (List Char × List Char)} (h : Unescapes read)
    {long : Bool} {c : Char} (hbreak : c = '\n' → long = false) (rest : List Char) :
    read (escaped long c ++ rest) = withFirst c (read rest) := by
  simp only [Printer.escaped, beq_iff_eq]
  split_ifs with h₁ h₂ h₃ h₄ h₅ hlong h₆ h₇ h₈
  · subst h₁
    exact h.simple rest rfl
  · subst h₂
    exact h.simple rest rfl
  · subst h₃
    exact h.simple rest rfl
  · subst h₄
    exact h.simple rest rfl
  · exact absurd hlong (by simp [hbreak h₅])
  · subst h₅
    exact h.simple rest rfl
  · subst h₆
    exact h.simple rest rfl
  · subst h₇
    exact h.simple rest rfl
  · simp only [List.cons_append, List.nil_append, h.hex, ofHex?_hexDigits h₈, Option.bind_some]
  · exact h.plain rest (isPlain_of_not_isControl (by simpa using h₈) h₅) h₁ h₂

theorem basic_escaped (cs rest : List Char) :
    basic (cs.flatMap (escaped false) ++ '"' :: rest) = some (cs, rest) := by
  induction cs with
  | nil => simp [basic]
  | cons c cs ih =>
    rw [List.flatMap_cons, List.append_assoc, unescapes_basic.escaped (fun _ => rfl), ih]
    rfl

theorem closing_break {quote : Char} (h : quote ≠ '\n') (rest : List Char) :
    closing quote ('\n' :: rest) = ([], '\n' :: rest) := by
  cases rest <;> simp [closing, Ne.symm h]

theorem closing_one {quote : Char} (h : quote ≠ '\n') (rest : List Char) :
    closing quote (quote :: '\n' :: rest) = ([quote], '\n' :: rest) := by
  simp [closing, Ne.symm h]

theorem closing_two (quote : Char) (rest : List Char) :
    closing quote (quote :: quote :: rest) = ([quote, quote], rest) := by
  simp [closing]

theorem longBasic_quote {cs : List Char} (h : ∀ r, cs ≠ '"' :: '"' :: r) :
    longBasic false ('"' :: cs) = withFirst '"' (longBasic false cs) := by
  rw [longBasic]
  · rfl
  · simp
  · simp
  · intro r _ hr
    exact h r hr
  all_goals simp

theorem escaped_ne_quote (long : Bool) (c : Char) : ∃ d ds, escaped long c = d :: ds ∧ d ≠ '"' := by
  simp only [Printer.escaped, beq_iff_eq]
  split_ifs <;> simp_all

theorem longBasicText_front {run : Nat} {c : Char} {cs tail rest : List Char}
    (h : longBasicText run (c :: cs) ++ tail = '"' :: rest) :
    c = '"' ∧ run < 2 ∧ longBasicText (run + 1) cs ++ tail = rest := by
  rw [longBasicText] at h
  split at h
  · rename_i hc
    split at h
    · rename_i hrun
      exact ⟨eq_of_beq hc, hrun, (List.cons.inj h).2⟩
    · cases h
  · obtain ⟨d, ds, hescaped, hd⟩ := escaped_ne_quote true c
    rw [hescaped] at h
    exact absurd (List.cons.inj h).1 hd

theorem longBasicText_three {run : Nat} {cs tail rest : List Char}
    (h : longBasicText (run + 1) cs ++ tail = '"' :: '"' :: rest) : cs = [] ∨ cs = ['"'] ∧ run = 0 := by
  match cs with
  | [] => exact .inl rfl
  | [c] =>
    obtain ⟨rfl, hrun, -⟩ := longBasicText_front h
    exact .inr ⟨rfl, by omega⟩
  | c :: d :: ds =>
    obtain ⟨-, hrun, hnext⟩ := longBasicText_front h
    obtain ⟨-, hmore, -⟩ := longBasicText_front hnext
    omega

theorem longBasic_longBasicText (run : Nat) (cs rest : List Char) :
    longBasic false (longBasicText run cs ++ '"' :: '"' :: '"' :: '\n' :: rest) =
      some (cs, '\n' :: rest) := by
  -- The reader does not count quotes: it takes them one by one and looks two ahead.
  induction cs generalizing run with
  | nil => simp [longBasicText, longBasic, closing_break]
  | cons c cs ih =>
    rw [longBasicText]
    split
    · rename_i hc
      obtain rfl := eq_of_beq hc
      split
      · rename_i hrun
        by_cases hend : ∃ r,
            longBasicText (run + 1) cs ++ '"' :: '"' :: '"' :: '\n' :: rest = '"' :: '"' :: r
        · obtain ⟨r, hr⟩ := hend
          obtain rfl | ⟨rfl, rfl⟩ := longBasicText_three hr
          · simp [longBasicText, longBasic, closing_one]
          · simp [longBasicText, longBasic, closing_two]
        · rw [List.cons_append, longBasic_quote (not_exists.1 hend), ih]
          rfl
      · rw [List.cons_append, List.cons_append, unescapes_longBasic.simple _ rfl, ih]
        rfl
    · rw [List.append_assoc]
      by_cases hbreak : c = '\n'
      · subst hbreak
        rw [show escaped true '\n' = ['\n'] from rfl, List.singleton_append, longBasic,
          if_neg Bool.false_ne_true, ih]
        rfl
      · rw [unescapes_longBasic.escaped (fun h => absurd h hbreak), ih]
        rfl

theorem le_longestRun_go (c : Char) (run : Nat) (cs : List Char) : run ≤ (longestRun.go c run cs).2 := by
  induction cs generalizing run with
  | nil => exact Nat.le_refl run
  | cons d cs ih =>
    rw [longestRun.go]
    split
    · exact Nat.le_of_succ_le (ih _)
    · exact Nat.le_max_left _ _

theorem longestRun_go_le_succ (c : Char) (run : Nat) (cs : List Char) :
    (longestRun.go c run cs).2 ≤ (longestRun.go c (run + 1) cs).2 := by
  induction cs generalizing run with
  | nil => exact Nat.le_succ run
  | cons d cs ih =>
    simp only [longestRun.go]
    split
    · exact ih _
    · omega

theorem longestRun_le_cons (c d : Char) (cs : List Char) : longestRun c cs ≤ longestRun c (d :: cs) := by
  simp only [longestRun, longestRun.go]
  split
  · exact longestRun_go_le_succ c 0 cs
  · exact Nat.le_max_right _ _

theorem three_le_longestRun (c : Char) (cs : List Char) : 3 ≤ longestRun c (c :: c :: c :: cs) := by
  simp only [longestRun, longestRun.go, beq_self_eq_true, if_true]
  exact le_longestRun_go c 3 cs

theorem eq_of_longestRun {c : Char} {cs tail rest : List Char} (h : cs ++ tail = c :: c :: rest)
    (hrun : longestRun c (c :: cs) ≤ 2) : cs = [] ∨ cs = [c] := by
  match cs with
  | [] => exact .inl rfl
  | [d] => exact .inr (congrArg (fun e => [e]) (List.cons.inj h).1)
  | d :: e :: more =>
    obtain ⟨rfl, h⟩ := List.cons.inj h
    obtain ⟨rfl, -⟩ := List.cons.inj h
    exact absurd (three_le_longestRun e more) (Nat.not_le.2 (Nat.lt_succ_of_le hrun))

theorem longLiteral_three (cs : List Char) :
    longLiteral (apostrophe :: apostrophe :: apostrophe :: cs) = some (closing apostrophe cs) :=
  rfl

theorem longLiteral_apostrophe {cs : List Char} (h : ∀ r, cs ≠ apostrophe :: apostrophe :: r) :
    longLiteral (apostrophe :: cs) = withFirst apostrophe (longLiteral cs) := by
  rw [longLiteral]
  · rfl
  · simp [apostrophe]
  · simp [apostrophe]
  · intro r _ hr
    exact h r hr

theorem longLiteral_plain {c : Char} (hplain : isPlain c) (h : c ≠ apostrophe) (cs : List Char) :
    longLiteral (c :: cs) = withFirst c (longLiteral cs) := by
  rw [longLiteral]
  · rw [if_pos hplain]
  · simp [not_break_of_isPlain hplain]
  · simp [not_break_of_isPlain hplain]
  · intro r hc _
    exact h hc

theorem longLiteral_line {cs : List Char} (hcontrol : ∀ c ∈ cs, isControl c = false)
    (hrun : longestRun apostrophe cs ≤ 2) (rest : List Char) :
    longLiteral (cs ++ apostrophe :: apostrophe :: apostrophe :: '\n' :: rest) =
      some (cs, '\n' :: rest) := by
  induction cs with
  | nil => rw [List.nil_append, longLiteral_three, closing_break (by decide)]
  | cons c cs ih =>
    obtain ⟨hc, hcs⟩ := List.forall_mem_cons.1 hcontrol
    have hnext := ih hcs (Nat.le_trans (longestRun_le_cons _ c cs) hrun)
    rw [List.cons_append]
    by_cases hbreak : c = '\n'
    · subst hbreak
      rw [longLiteral, hnext]
      rfl
    by_cases hquote : c = apostrophe
    · subst hquote
      by_cases hend : ∃ r, cs ++ apostrophe :: apostrophe :: apostrophe :: '\n' :: rest =
          apostrophe :: apostrophe :: r
      · obtain ⟨r, hr⟩ := hend
        obtain rfl | rfl := eq_of_longestRun hr hrun
        · rw [List.nil_append, longLiteral_three, closing_one (by decide)]
        · rw [List.singleton_append, longLiteral_three, closing_two]
      · rw [longLiteral_apostrophe (not_exists.1 hend), hnext]
        rfl
    · rw [longLiteral_plain (isPlain_of_not_isControl hc hbreak) hquote, hnext]
      rfl

theorem literal_line {cs : List Char} (hplain : ∀ c ∈ cs, isPlain c) (hquote : apostrophe ∉ cs)
    (rest : List Char) : literal (cs ++ apostrophe :: rest) = some (cs, rest) := by
  induction cs with
  | nil => rfl
  | cons c cs ih =>
    obtain ⟨hc, hcs⟩ := List.forall_mem_cons.1 hplain
    have hne : c ≠ apostrophe := fun heq => hquote (heq ▸ List.mem_cons_self)
    have hrest := ih hcs fun hmem => hquote (List.mem_cons_of_mem _ hmem)
    rw [List.cons_append, literal, if_neg (beq_false_of_ne hne ▸ Bool.false_ne_true), if_pos hc, hrest]
    rfl

theorem isControl_of_literalFits {cs : List Char}
    (h : (!cs.any isControl && decide (longestRun apostrophe cs ≤ 2)) = true) :
    (∀ c ∈ cs, isControl c = false) ∧ longestRun apostrophe cs ≤ 2 := by
  simpa using h

theorem literal_of_styleOf {cs : List Char} (h : styleOf cs = .literal) :
    (∀ c ∈ cs, isPlain c) ∧ apostrophe ∉ cs ∧ cs ≠ [] := by
  simp only [styleOf] at h
  split_ifs at h with hlong _ hmarks hfits hquote
  have hcontrol := (isControl_of_literalFits (by simpa using hfits)).1
  refine ⟨fun c hc => isPlain_of_not_isControl (hcontrol c hc) ?_, by simpa using hquote, ?_⟩
  · rintro rfl
    exact hlong (List.contains_iff_mem.2 hc)
  · rintro rfl
    exact hmarks rfl

theorem longLiteral_of_styleOf {cs : List Char} (h : styleOf cs = .longLiteral) :
    (∀ c ∈ cs, isControl c = false) ∧ longestRun apostrophe cs ≤ 2 := by
  simp only [styleOf] at h
  split_ifs at h with hlong hfits _ hfits
  · exact isControl_of_literalFits (Bool.and_eq_true_iff.1 hfits).1
  · exact isControl_of_literalFits (by simpa using hfits)

theorem quoted?_basic {cs : List Char} (h : ∀ r, cs ≠ '"' :: '"' :: r) :
    quoted? ('"' :: cs) = quoted?.finish (basic cs) := by
  rw [quoted?]
  intro r hr
  exact h r hr

theorem quoted?_literal {cs : List Char} (h : ∀ r, cs ≠ apostrophe :: apostrophe :: r) :
    quoted? (apostrophe :: cs) = quoted?.finish (literal cs) := by
  rw [apostrophe, quoted?]
  intro r hr
  exact h r hr

theorem quoted?_longLiteral (cs : List Char) : quoted? (apostrophe :: apostrophe :: apostrophe :: cs) =
    quoted?.finish (longLiteral (skipFirstBreak cs)) :=
  rfl

theorem skipFirstBreak_cons {c : Char} (hline : c ≠ '\n') (hreturn : c ≠ '\r') (cs : List Char) :
    skipFirstBreak (c :: cs) = c :: cs := by
  rw [skipFirstBreak, newline?]
  · rfl
  · simp [hline]
  · simp [hreturn]

theorem quoted?_line (s : String) (rest : List Char) :
    quoted? ((quoted s).toList ++ '\n' :: rest) = some (s, '\n' :: rest) := by
  have hfinish : quoted?.finish (some (s.toList, '\n' :: rest)) = some (s, '\n' :: rest) := by
    simp [quoted?.finish]
  rw [quoted, String.toList_ofList, quotedChars]
  cases hstyle : styleOf s.toList with
  | basic =>
    have hfront (r : List Char) :
        s.toList.flatMap (escaped false) ++ '"' :: '\n' :: rest ≠ '"' :: '"' :: r := by
      cases s.toList with
      | nil => simp
      | cons c cs =>
        obtain ⟨d, ds, hescaped, hd⟩ := escaped_ne_quote false c
        simp [hescaped, hd]
    simp only [List.cons_append, List.append_assoc, List.nil_append]
    rw [quoted?_basic hfront, basic_escaped, hfinish]
  | literal =>
    obtain ⟨hplain, hquote, hne⟩ := literal_of_styleOf hstyle
    have hfront (r : List Char) :
        s.toList ++ apostrophe :: '\n' :: rest ≠ apostrophe :: apostrophe :: r := by
      intro hr
      obtain ⟨c, cs, hcs⟩ := List.exists_cons_of_ne_nil hne
      rw [hcs] at hr
      exact hquote (hcs ▸ (List.cons.inj hr).1 ▸ List.mem_cons_self)
    simp only [List.cons_append, List.append_assoc, List.nil_append]
    rw [quoted?_literal hfront, literal_line hplain hquote, hfinish]
  | longBasic =>
    have hread := longBasic_longBasicText 0 s.toList rest
    simp [quoted?, skipFirstBreak, newline?, hread, quoted?.finish]
  | longLiteral =>
    obtain ⟨hcontrol, hrun⟩ := longLiteral_of_styleOf hstyle
    have hread := longLiteral_line hcontrol hrun rest
    have hfront (h : s.toList.contains '\n' = false) (tail : List Char) :
        skipFirstBreak (s.toList ++ apostrophe :: tail) = s.toList ++ apostrophe :: tail := by
      cases hcs : s.toList with
      | nil => exact skipFirstBreak_cons (by decide) (by decide) _
      | cons c cs =>
        refine skipFirstBreak_cons ?_ ?_ _
        · rintro rfl
          simp [hcs] at h
        · rintro rfl
          exact absurd (hcontrol '\r' (hcs ▸ List.mem_cons_self)) (by decide)
    simp only [List.cons_append, List.nil_append]
    split
    · simp only [List.cons_append, List.append_assoc, List.nil_append]
      rw [quoted?_longLiteral, skipFirstBreak, newline?, Option.getD_some, hread, hfinish]
    · rename_i hlong
      simp only [List.cons_append, List.append_assoc, List.nil_append]
      rw [quoted?_longLiteral, hfront (by simpa using hlong), hread, hfinish]

end TestTwins.Toml.Reader
