import Mathlib.Data.List.Basic
import Mathlib.Data.List.TakeWhile
import TestTwins.Json.Printer
import TestTwins.Json.Reader

namespace TestTwins

namespace Decimal

theorem ofDigits_toDigits (n : Nat) : ofDigits (Nat.toDigits 10 n) = n :=
  Nat.ofDigitChars_eq_foldl.symm.trans Nat.ofDigitChars_ten_toDigits

theorem isDigit_of_mem_toDigits {n : Nat} {c : Char} (h : c ∈ Nat.toDigits 10 n) : c.isDigit :=
  Nat.isDigit_of_mem_toDigits (by decide) (by decide) h

theorem head?_toDigits_ne_zero {n : Nat} (h : 0 < n) : (Nat.toDigits 10 n).head? ≠ some '0' := by
  induction n using Nat.strong_induction_on with
  | _ n ih =>
    rw [Nat.toDigits_eq_if (by decide)]
    split
    · simp; omega
    · rw [List.head?_append_of_ne_nil _ Nat.toDigits_ne_nil]
      exact ih (n / 10) (by omega) (by omega)

end Decimal

namespace Json.Reader

open Decimal

/-- What no number goes on with: nothing, or a character that is not part of numbers. -/
def Ends (rest : List Char) : Prop :=
  ∀ c ∈ rest.head?, c.isDigit = false ∧ c ≠ '.' ∧ c ≠ 'e' ∧ c ≠ 'E'

theorem ends_nil : Ends [] := by simp [Ends]

theorem ends_cons {c : Char} (hdigit : c.isDigit = false) (hpoint : c ≠ '.') (hsmall : c ≠ 'e')
    (hlarge : c ≠ 'E') (cs : List Char) : Ends (c :: cs) := by
  rintro d ⟨⟩
  exact ⟨hdigit, hpoint, hsmall, hlarge⟩

theorem takeWhile_append_of_ends (cs : List Char) {rest : List Char} (h : Ends rest) :
    (cs ++ rest).takeWhile Char.isDigit = cs.takeWhile Char.isDigit ∧
      (cs ++ rest).dropWhile Char.isDigit = cs.dropWhile Char.isDigit ++ rest := by
  induction cs with
  | nil =>
    cases rest with
    | nil => exact ⟨rfl, rfl⟩
    | cons c rest => simp [(h c rfl).1]
  | cons c cs ih =>
    by_cases hc : c.isDigit
    · simp [hc, ih]
    · simp [hc]

theorem le_foldl_digits (ds : List Char) (n : Nat) :
    n ≤ ds.foldl (fun n c => 10 * n + digitValue c) n := by
  induction ds generalizing n with
  | nil => exact Nat.le_refl n
  | cons d ds ih =>
    have hd : n ≤ 10 * n + digitValue d := by omega
    exact hd.trans (ih _)

theorem wholeDigits_of_fits {ds : List Char} {n : Nat}
    (h : ds.foldl (fun n c => 10 * n + digitValue c) n < Word.count) :
    wholeDigits n ds = (ds.foldl (fun n c => 10 * n + digitValue c) n, 0) := by
  induction ds generalizing n with
  | nil => rfl
  | cons d ds ih =>
    have hd : 10 * n + digitValue d < Word.count := Nat.lt_of_le_of_lt (le_foldl_digits ds _) h
    rw [wholeDigits, if_pos hd]
    exact ih h

def signedDigits (negative : Bool) (cs : List Char) : Option (Int × List Char) :=
  let ds := cs.takeWhile Char.isDigit
  if ds.isEmpty then none
  else some (if negative then -(ofDigits ds : Int) else ofDigits ds, cs.dropWhile Char.isDigit)

theorem exponent_unsigned {c : Char} (hminus : c ≠ '-') (hplus : c ≠ '+') (cs : List Char) :
    exponent (c :: cs) = signedDigits false (c :: cs) := by
  simp only [exponent]
  split
  · rename_i heq
    exact absurd (List.cons.inj heq).1 hminus
  · rename_i heq
    exact absurd (List.cons.inj heq).1 hplus
  · rfl

theorem signedDigits_append (negative : Bool) {cs r rest : List Char} {e : Int}
    (h : signedDigits negative cs = some (e, r)) (hrest : Ends rest) :
    signedDigits negative (cs ++ rest) = some (e, r ++ rest) := by
  obtain ⟨htake, hdrop⟩ := takeWhile_append_of_ends cs hrest
  simp only [signedDigits, htake, hdrop] at h ⊢
  split at h
  · cases h
  · rename_i hne
    cases h
    rw [if_neg hne]

theorem exponent_append {cs r rest : List Char} {e : Int} (h : exponent cs = some (e, r))
    (hrest : Ends rest) : exponent (cs ++ rest) = some (e, r ++ rest) := by
  obtain _ | ⟨c, cs⟩ := cs
  · cases h
  by_cases hminus : c = '-'
  · subst hminus
    exact signedDigits_append true h hrest
  by_cases hplus : c = '+'
  · subst hplus
    exact signedDigits_append false h hrest
  · rw [exponent_unsigned hminus hplus] at h
    rw [List.cons_append, exponent_unsigned hminus hplus, ← List.cons_append]
    exact signedDigits_append false h hrest

structure Numeral where
  whole : List Char
  fraction : Option (List Char)
  exponent : Option Int

def Numeral.value? (negative : Bool) (m : Numeral) : Option Json :=
  let (n, dropped) := wholeDigits 0 m.whole
  let float (n : Nat) (e : Int) : Option Json :=
    (scale 8 (ofWord n) e).map fun x => .float (if negative then -x else x)
  match m.fraction, m.exponent with
  | some ds, e =>
    let (n, taken) := fractionDigits n 0 ds
    float n (dropped - taken + e.getD 0)
  | none, some e => float n (dropped + e)
  | none, none =>
    if dropped != 0 then float n dropped
    else if negative && (n == 0 || Word.half < n) then float n 0
    else some (.int (if negative then -n else n))

def fractionPart : Step (Option (List Char))
  | '.' :: rest =>
    if (rest.takeWhile Char.isDigit).isEmpty then none
    else some (some (rest.takeWhile Char.isDigit), rest.dropWhile Char.isDigit)
  | cs => some (none, cs)

def exponentPart : Step (Option Int)
  | [] => some (none, [])
  | c :: rest =>
    if c = 'e' ∨ c = 'E' then (exponent rest).map fun (e, rest) => (some e, rest)
    else some (none, c :: rest)

def numeral : Step Numeral := fun cs =>
  let whole := cs.takeWhile Char.isDigit
  if whole.isEmpty || (whole.head? == some '0' && whole.length != 1) then none
  else
    (fractionPart (cs.dropWhile Char.isDigit)).bind fun (fraction, rest) =>
      (exponentPart rest).map fun (exponent, rest) => (⟨whole, fraction, exponent⟩, rest)

theorem fractionPart_cons {c : Char} (h : c ≠ '.') (cs : List Char) :
    fractionPart (c :: cs) = some (none, c :: cs) := by
  rw [fractionPart]
  intro rest heq
  exact h (List.cons.inj heq).1

theorem number_eq (negative : Bool) (cs : List Char) :
    number negative cs =
      (numeral cs).bind fun p => (p.1.value? negative).map fun j => (j, p.2) := by
  simp only [number, numeral]
  split
  · rfl
  match cs.dropWhile Char.isDigit with
  | [] =>
    simp only [fractionPart, exponentPart, Numeral.value?, Option.bind_some, Option.map_some]
    repeat' split
    all_goals simp only [Option.map_map, Function.comp_def, Option.map_some]
  | c :: rest =>
    by_cases hpoint : c = '.'
    · subst hpoint
      simp only [fractionPart]
      split
      · rfl
      match rest.dropWhile Char.isDigit with
      | [] => simp [exponentPart, Numeral.value?, Function.comp_def]
      | d :: more =>
        by_cases hmark : d = 'e' ∨ d = 'E'
        · cases hexp : exponent more <;>
            simp [exponentPart, Numeral.value?, Function.comp_def, hmark, hexp]
        · simp [exponentPart, Numeral.value?, Function.comp_def, hmark]
    · simp only [fractionPart_cons hpoint, Option.bind_some]
      by_cases hmark : c = 'e' ∨ c = 'E'
      · cases hexp : exponent rest <;>
          simp [exponentPart, Numeral.value?, Function.comp_def, hmark, hexp]
      · simp only [exponentPart, Numeral.value?, Bool.or_eq_true, beq_iff_eq, hmark, if_false,
          Option.map_some, Option.bind_some]
        repeat' split
        all_goals simp only [Option.map_map, Function.comp_def, Option.map_some]

theorem fractionPart_append {cs r rest : List Char} {f : Option (List Char)}
    (h : fractionPart cs = some (f, r)) (hrest : Ends rest) :
    fractionPart (cs ++ rest) = some (f, r ++ rest) := by
  match cs with
  | [] =>
    cases h
    match rest, hrest with
    | [], _ => rfl
    | c :: rest, hrest => exact fractionPart_cons (hrest c rfl).2.1 rest
  | c :: cs =>
    by_cases hpoint : c = '.'
    · subst hpoint
      obtain ⟨htake, hdrop⟩ := takeWhile_append_of_ends cs hrest
      simp only [fractionPart, List.cons_append, htake, hdrop] at h ⊢
      split at h
      · cases h
      · rename_i hne
        cases h
        rw [if_neg hne]
    · rw [fractionPart_cons hpoint] at h
      cases h
      rw [List.cons_append, fractionPart_cons hpoint, ← List.cons_append]

theorem exponentPart_append {cs r rest : List Char} {e : Option Int}
    (h : exponentPart cs = some (e, r)) (hrest : Ends rest) :
    exponentPart (cs ++ rest) = some (e, r ++ rest) := by
  match cs with
  | [] =>
    cases h
    match rest, hrest with
    | [], _ => rfl
    | c :: rest, hrest =>
      have hmark := (hrest c rfl).2.2
      simp [exponentPart, hmark]
  | c :: cs =>
    simp only [exponentPart, List.cons_append] at h ⊢
    split at h
    · rename_i hmark
      obtain ⟨⟨x, r'⟩, hx, h⟩ := Option.map_eq_some_iff.1 h
      cases h
      rw [if_pos hmark, exponent_append hx hrest, Option.map_some]
    · rename_i hmark
      cases h
      rw [if_neg hmark]
      rfl

theorem numeral_append {cs r rest : List Char} {m : Numeral} (h : numeral cs = some (m, r))
    (hrest : Ends rest) : numeral (cs ++ rest) = some (m, r ++ rest) := by
  obtain ⟨htake, hdrop⟩ := takeWhile_append_of_ends cs hrest
  simp only [numeral, htake, hdrop] at h ⊢
  split at h
  · cases h
  rename_i hwhole
  obtain ⟨⟨f, r₁⟩, hf, h⟩ := Option.bind_eq_some_iff.1 h
  obtain ⟨⟨e, r₂⟩, he, h⟩ := Option.map_eq_some_iff.1 h
  cases h
  rw [if_neg hwhole]
  simp only [fractionPart_append hf hrest, Option.bind_some, exponentPart_append he hrest,
    Option.map_some]

theorem number_append {negative : Bool} {cs r rest : List Char} {j : Json}
    (h : number negative cs = some (j, r)) (hrest : Ends rest) :
    number negative (cs ++ rest) = some (j, r ++ rest) := by
  rw [number_eq] at h ⊢
  obtain ⟨⟨m, r'⟩, hm, h⟩ := Option.bind_eq_some_iff.1 h
  obtain ⟨j', hj, h⟩ := Option.map_eq_some_iff.1 h
  cases h
  rw [numeral_append hm hrest, Option.bind_some, hj, Option.map_some]

theorem number_toDigits (negative : Bool) {n : Nat} (hword : n < Word.count)
    (hneg : negative = true → 0 < n ∧ n ≤ Word.half) :
    number negative (Nat.toDigits 10 n) = some (.int (if negative then -n else n), []) := by
  have hall : ∀ c ∈ Nat.toDigits 10 n, c.isDigit := fun c => isDigit_of_mem_toDigits
  have hdigits : wholeDigits 0 (Nat.toDigits 10 n) = (n, 0) := by
    have hvalue := ofDigits_toDigits n
    rw [ofDigits] at hvalue
    rw [wholeDigits_of_fits (by rwa [hvalue]), hvalue]
  have hlead : ((Nat.toDigits 10 n).isEmpty ||
      ((Nat.toDigits 10 n).head? == some '0' && (Nat.toDigits 10 n).length != 1)) = false := by
    by_cases hn : n = 0
    · subst hn
      rfl
    · have := head?_toDigits_ne_zero (Nat.pos_of_ne_zero hn)
      simp [Nat.toDigits_ne_nil, this]
  have hsign : (negative && (n == 0 || decide (Word.half < n))) = false := by
    cases negative with
    | false => rfl
    | true =>
      obtain ⟨hpos, hhalf⟩ := hneg rfl
      simp [hpos.ne', hhalf]
  have hnumeral : numeral (Nat.toDigits 10 n) = some (⟨Nat.toDigits 10 n, none, none⟩, []) := by
    simp only [numeral, List.takeWhile_eq_self_iff.2 hall, List.dropWhile_eq_nil_iff.2 hall, hlead]
    rfl
  rw [number_eq, hnumeral]
  simp only [Numeral.value?, hdigits, hsign, Option.bind_some]
  rfl

end Json.Reader

end TestTwins
