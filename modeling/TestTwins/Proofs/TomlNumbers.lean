import TestTwins.Proofs.JsonText
import TestTwins.Toml.Reader

namespace TestTwins.Toml.Reader

open Decimal
open Json.Reader (digit_ne)

/-- A step that does at the end of a line what it does at the end of a text. -/
def Linewise (f : Step α) : Prop :=
  ∀ cs rest, f (cs ++ '\n' :: rest) = (f cs).map fun p => (p.1, p.2 ++ '\n' :: rest)

theorem ne_cons_line {c : Char} {cs : List Char} (h : ∀ r, cs = c :: r → False) (hc : c ≠ '\n')
    (rest r : List Char) : cs ++ '\n' :: rest ≠ c :: r := by
  intro hr
  cases cs with
  | nil => exact hc (List.cons.inj hr).1.symm
  | cons d cs =>
    cases hr
    exact h cs rfl

theorem groupedDigits_line (cs rest : List Char) :
    groupedDigits Char.isDigit (cs ++ '\n' :: rest) =
      ((groupedDigits Char.isDigit cs).1, (groupedDigits Char.isDigit cs).2 ++ '\n' :: rest) := by
  have hbreak : Char.isDigit '\n' = false := rfl
  fun_induction groupedDigits Char.isDigit cs with
  | case1 => simp [groupedDigits, hbreak]
  | case2 c cs hc ds after hds ih => simp_all [groupedDigits]
  | case3 c cs hc => simp [groupedDigits, hc]
  | case4 c cs h hc ds after hds ih =>
    have hne : c ≠ '_' := digit_ne hc rfl
    rw [List.cons_append, groupedDigits]
    · simp_all
    · simp [hne]
  | case5 c cs h hc =>
    cases cs with
    | nil =>
      by_cases hmark : c = '_'
      · subst hmark
        simp [groupedDigits, hbreak]
      · simp [groupedDigits, hmark, hc]
    | cons d ds =>
      rw [List.cons_append, groupedDigits]
      · simp [hc]
      · intro e es hmark hmore
        exact h d ds hmark rfl

theorem linewise_digits : Linewise (digits Char.isDigit) := by
  intro cs rest
  cases cs with
  | nil => rfl
  | cons c cs =>
    simp only [List.cons_append, digits, groupedDigits_line]
    split <;> rfl

theorem sign_line (cs rest : List Char) :
    sign (cs ++ '\n' :: rest) = ((sign cs).1, (sign cs).2 ++ '\n' :: rest) := by
  fun_cases sign cs with
  | case1 | case2 => rfl
  | case3 cs hminus hplus =>
    rw [sign]
    · exact ne_cons_line hminus (by decide) rest
    · exact ne_cons_line hplus (by decide) rest

theorem linewise_wholeDigits : Linewise wholeDigits := by
  intro cs rest
  fun_cases wholeDigits cs with
  | case1 => rfl
  | case2 cs hzero =>
    rw [← linewise_digits, wholeDigits]
    exact ne_cons_line hzero (by decide) rest

theorem linewise_fraction : Linewise fraction := by
  intro cs rest
  fun_cases fraction cs with
  | case1 cs => exact linewise_digits cs rest
  | case2 cs hpoint =>
    rw [fraction]
    · rfl
    · exact ne_cons_line hpoint (by decide) rest

theorem linewise_exponent : Linewise exponent := by
  intro cs rest
  cases cs with
  | nil => rfl
  | cons c cs =>
    simp only [List.cons_append, exponent, sign_line, linewise_digits _ rest]
    split
    · cases digits Char.isDigit (sign cs).2 <;> rfl
    · rfl

theorem floatOf_line (negative : Bool) (ds : List Char) (e : Int) (cs rest : List Char) :
    floatOf negative ds e (cs ++ '\n' :: rest) =
      (floatOf negative ds e cs).map fun p => (p.1, p.2 ++ '\n' :: rest) := by
  simp only [floatOf]
  split
  · rfl
  · split <;> rfl

theorem linewise_decimal : Linewise decimal := by
  intro cs rest
  simp only [decimal, sign_line, linewise_wholeDigits _ rest]
  cases wholeDigits (sign cs).2 with
  | none => rfl
  | some p =>
    simp only [Option.map_some, Option.bind_eq_bind, Option.bind_some, linewise_fraction _ rest]
    cases fraction p.2 with
    | none =>
      simp only [Option.map_none, linewise_exponent _ rest]
      cases exponent p.2 with
      | none => rfl
      | some q => exact floatOf_line _ _ _ _ _
    | some q =>
      simp only [Option.map_some, linewise_exponent _ rest]
      cases exponent q.2 with
      | none => exact floatOf_line _ _ _ _ _
      | some r => exact floatOf_line _ _ _ _ _

theorem word?_line (word : String) (h : '\n' ∉ word.toList) (cs rest : List Char) :
    word? word (cs ++ '\n' :: rest) = (word? word cs).map (· ++ '\n' :: rest) := by
  have hfront : word.toList <+: cs ++ '\n' :: rest ↔ word.toList <+: cs := by
    refine ⟨fun hword => ?_, fun hword => hword.trans (List.prefix_append _ _)⟩
    obtain hshort | ⟨t, ht⟩ := List.prefix_or_prefix_of_prefix hword (List.prefix_append cs _)
    · exact hshort
    · rw [← ht, List.prefix_append_right_inj] at hword
      cases t with
      | nil => simp [← ht]
      | cons c t =>
        obtain rfl : c = '\n' := (List.cons_prefix_cons.1 hword).1
        exact absurd (ht ▸ List.mem_append_right _ List.mem_cons_self) h
  simp only [word?, List.isPrefixOf_iff_prefix, hfront]
  split
  · rename_i hword
    rw [List.drop_append_of_le_length (String.length_toList ▸ hword.length_le)]
    rfl
  · rfl

theorem linewise_named : Linewise named := by
  intro cs rest
  simp only [named, sign_line, word?_line "inf" (by decide) _ rest, word?_line "nan" (by decide) _ rest]
  cases word? "inf" (sign cs).2 with
  | none =>
    cases word? "nan" (sign cs).2 <;> rfl
  | some r => rfl

theorem linewise_fixedNumber (count : Nat) : Linewise (fixedNumber count) := by
  intro cs rest
  by_cases hcount : count ≤ cs.length
  · simp only [fixedNumber, List.take_append_of_le_length hcount, List.drop_append_of_le_length hcount]
    split <;> rfl
  · have hshort : (cs.take count).length ≠ count := by
      rw [List.length_take]
      omega
    have hbreak : '\n' ∈ (cs ++ '\n' :: rest).take count := by
      rw [List.take_append, List.take_cons (by omega)]
      simp
    have hall : ((cs ++ '\n' :: rest).take count).all Char.isDigit = false :=
      List.all_eq_false.2 ⟨_, hbreak, by decide⟩
    rw [fixedNumber, fixedNumber, beq_false_of_ne hshort, hall, Bool.and_false]
    rfl

theorem mark_line {c : Char} (h : c ≠ '\n') (cs rest : List Char) :
    mark c (cs ++ '\n' :: rest) = (mark c cs).map (· ++ '\n' :: rest) := by
  cases cs with
  | nil => simp [mark, h]
  | cons d cs =>
    simp only [List.cons_append, mark]
    split <;> rfl

theorem date_line (cs rest : List Char) :
    date (cs ++ '\n' :: rest) = (date cs).map (· ++ '\n' :: rest) := by
  simp only [date, Option.bind_eq_bind, linewise_fixedNumber _ _ rest, Option.bind_map, Option.map_bind,
    Function.comp_def, mark_line (c := '-') (by decide) _ rest, apply_ite, Option.map_some, Option.map_none]

theorem timeOfDay_line (cs rest : List Char) :
    timeOfDay (cs ++ '\n' :: rest) = (timeOfDay cs).map (· ++ '\n' :: rest) := by
  simp only [timeOfDay, Option.bind_eq_bind, linewise_fixedNumber _ _ rest, Option.bind_map,
    Option.map_bind, Function.comp_def, mark_line (c := ':') (by decide) _ rest, apply_ite, Option.map_none]
  iterate 5 refine Option.bind_congr fun _ _ => ?_
  rename_i second _
  congr 1
  cases second.2 with
  | nil => rfl
  | cons c cs =>
    by_cases hpoint : c = '.'
    · subst hpoint
      have hdrop : (cs ++ '\n' :: rest).dropWhile Char.isDigit =
          cs.dropWhile Char.isDigit ++ '\n' :: rest :=
        (Json.Reader.takeWhile_append_of_ends cs
          (Json.Reader.ends_cons rfl (by decide) (by decide) (by decide) rest)).2
      simp [hdrop, apply_ite]
    · simp [hpoint]

theorem datetime_eq_none_iff {cs : List Char} :
    datetime cs = none ↔ date cs = none ∧ timeOfDay cs = none := by
  fun_cases datetime cs with
  | case1 | case2 | case3 | case4 => simp_all
  | case5 => simp_all

theorem datetime_line {cs : List Char} (h : datetime cs = none) (rest : List Char) :
    datetime (cs ++ '\n' :: rest) = none := by
  obtain ⟨hdate, htime⟩ := datetime_eq_none_iff.1 h
  exact datetime_eq_none_iff.2 ⟨by rw [date_line, hdate]; rfl, by rw [timeOfDay_line, htime]; rfl⟩

theorem eq_of_integerOf {n : Int} {cs : List Char} {p : Toml × List Char} (h : integerOf n cs = some p) :
    p.1 = .integer n := by
  rw [integerOf] at h
  split at h
  · cases h
    rfl
  · cases h

theorem exists_of_based {base : Nat} {isDigit : Char → Bool} {cs : List Char} {p : Toml × List Char}
    (h : based base isDigit cs = some p) : ∃ n, p.1 = .integer n := by
  obtain ⟨_, _, h⟩ := Option.bind_eq_some_iff.1 h
  exact ⟨_, eq_of_integerOf h⟩

theorem exists_of_integer {cs : List Char} {p : Toml × List Char} (h : integer cs = some p) :
    ∃ n, p.1 = .integer n := by
  revert h
  fun_cases integer cs with
  | case1 | case2 | case3 => exact exists_of_based
  | case4 =>
    intro h
    obtain ⟨_, _, h⟩ := Option.bind_eq_some_iff.1 h
    exact ⟨_, eq_of_integerOf h⟩

theorem number_float_line {cs r : List Char} {x : Float} (h : number cs = some (.float x, r))
    (rest : List Char) : number (cs ++ '\n' :: rest) = some (.float x, r ++ '\n' :: rest) := by
  rw [number] at h ⊢
  split at h
  · cases h
  rename_i hdate
  rw [datetime_line hdate, linewise_decimal, linewise_named]
  cases hdecimal : decimal cs with
  | some p =>
    rw [hdecimal] at h
    cases h
    rfl
  | none =>
    rw [hdecimal] at h
    cases hnamed : named cs with
    | some p =>
      rw [hnamed] at h
      cases h
      rfl
    | none =>
      rw [hnamed] at h
      obtain ⟨n, hn⟩ := exists_of_integer h
      cases hn

theorem groupedDigits_of_digits {ds : List Char} (h : ∀ c ∈ ds, c.isDigit) :
    groupedDigits Char.isDigit ds = (ds, []) := by
  induction ds with
  | nil => rfl
  | cons c ds ih =>
    obtain ⟨hc, hds⟩ := List.forall_mem_cons.1 h
    rw [groupedDigits, if_pos hc, ih hds]
    rintro d ds rfl
    exact absurd hc (by decide)

theorem wholeDigits_toDigits (n : Nat) :
    wholeDigits (Nat.toDigits 10 n) = some (Nat.toDigits 10 n, []) := by
  by_cases hn : n = 0
  · subst hn
    rfl
  have hhead := head?_toDigits_ne_zero (Nat.pos_of_ne_zero hn)
  have hall : ∀ c ∈ Nat.toDigits 10 n, c.isDigit := fun c => isDigit_of_mem_toDigits
  have hne : Nat.toDigits 10 n ≠ [] := Nat.toDigits_ne_nil
  generalize Nat.toDigits 10 n = ds at hhead hall hne ⊢
  cases ds with
  | nil => exact absurd rfl hne
  | cons c ds =>
    obtain ⟨hc, hds⟩ := List.forall_mem_cons.1 hall
    rw [wholeDigits]
    · rw [digits, if_pos hc, groupedDigits_of_digits hds]
    · rintro r hr
      cases hr
      exact hhead rfl

theorem mark_of_digits {c : Char} (hc : c.isDigit = false) {ds : List Char} (h : ∀ d ∈ ds, d.isDigit) :
    mark c ds = none := by
  cases ds with
  | nil => rfl
  | cons d ds =>
    have hne : c ≠ d := (digit_ne (h d List.mem_cons_self) hc).symm
    simp [mark, hne]

theorem fixedNumber_rest {count n : Nat} {cs r : List Char} (h : fixedNumber count cs = some (n, r)) :
    r = cs.drop count := by
  rw [fixedNumber] at h
  split at h
  · cases h
    rfl
  · cases h

theorem datetime_of_digits {ds : List Char} (h : ∀ c ∈ ds, c.isDigit) : datetime ds = none := by
  have hrest {count n : Nat} {r : List Char} (hr : fixedNumber count ds = some (n, r)) {c : Char}
      (hc : c.isDigit = false) : mark c r = none := by
    rw [fixedNumber_rest hr]
    exact mark_of_digits hc fun d hd => h d (List.mem_of_mem_drop hd)
  refine datetime_eq_none_iff.2 ⟨?_, ?_⟩
  · rw [date]
    cases hr : fixedNumber 4 ds with
    | none => rfl
    | some p => simp [hrest hr (c := '-') rfl]
  · rw [timeOfDay]
    cases hr : fixedNumber 2 ds with
    | none => rfl
    | some p => simp [hrest hr (c := ':') rfl]

theorem datetime_minus (cs : List Char) : datetime ('-' :: cs) = none := by
  have hfixed (count : Nat) : fixedNumber (count + 1) ('-' :: cs) = none := by simp [fixedNumber]
  refine datetime_eq_none_iff.2 ⟨?_, ?_⟩
  · rw [date, hfixed]
    rfl
  · rw [timeOfDay, hfixed]
    rfl

theorem sign_digit {c : Char} (h : c.isDigit) (cs : List Char) : sign (c :: cs) = (false, c :: cs) := by
  rw [sign]
  all_goals
    intro r hr
    exact digit_ne h rfl (List.cons.inj hr).1

theorem sign_toDigits (n : Nat) : sign (Nat.toDigits 10 n) = (false, Nat.toDigits 10 n) := by
  cases hds : Nat.toDigits 10 n with
  | nil => exact absurd hds Nat.toDigits_ne_nil
  | cons c ds => exact sign_digit (isDigit_of_mem_toDigits (hds ▸ List.mem_cons_self)) ds

theorem second_toDigits (n : Nat) {b c : Char} {r rest : List Char}
    (h : Nat.toDigits 10 n ++ '\n' :: rest = b :: c :: r) : c.isDigit ∨ c = '\n' := by
  match hds : Nat.toDigits 10 n with
  | [] => exact absurd hds Nat.toDigits_ne_nil
  | [d] =>
    rw [hds] at h
    cases h
    exact .inr rfl
  | d :: e :: ds =>
    rw [hds] at h
    cases h
    exact .inl (isDigit_of_mem_toDigits (n := n) (hds ▸ by simp))

theorem named_of_digit {cs : List Char} {c : Char} {ds : List Char} (hsign : (sign cs).2 = c :: ds)
    (hc : c.isDigit) : named cs = none := by
  have hword (word : String) {d : Char} {more : List Char} (hd : d.isDigit = false)
      (hword : word.toList = d :: more) : word? word (c :: ds) = none := by
    simp [word?, hword, (digit_ne hc hd).symm]
  simp [named, hsign, hword "inf" (d := 'i') rfl rfl, hword "nan" (d := 'n') rfl rfl]

theorem decimal_of_digits {cs ds : List Char} (h : wholeDigits (sign cs).2 = some (ds, [])) :
    decimal cs = none := by
  simp [decimal, h, fraction, exponent]

theorem integer_of_digits {cs ds rest : List Char}
    (hbase : ∀ c r, cs = '0' :: c :: r → c.isDigit ∨ c = '\n')
    (h : wholeDigits (sign cs).2 = some (ds, rest)) :
    integer cs = integerOf (if (sign cs).1 then -(ofDigits ds : Int) else ofDigits ds) rest := by
  rw [integer]
  · simp [h]
  all_goals
    intro r hr
    obtain hdigit | hbreak := hbase _ _ hr
    · exact absurd hdigit (by decide)
    · exact absurd hbreak (by decide)

theorem number_of_digits {cs ds rest : List Char} (hdate : datetime cs = none)
    (hsign : (sign cs).2 = ds) (hhead : ∀ c ∈ ds.head?, c.isDigit) (hwhole : wholeDigits ds = some (ds, []))
    (hbase : ∀ c r, cs ++ '\n' :: rest = '0' :: c :: r → c.isDigit ∨ c = '\n') :
    number (cs ++ '\n' :: rest) =
      integerOf (if (sign cs).1 then -(ofDigits ds : Int) else ofDigits ds) ('\n' :: rest) := by
  cases ds with
  | nil => cases hwhole
  | cons c t =>
    have hdecimal : decimal cs = none := decimal_of_digits (hsign ▸ hwhole)
    have hnamed : named cs = none := named_of_digit hsign (hhead c rfl)
    have hline : wholeDigits (sign (cs ++ '\n' :: rest)).2 = some (c :: t, '\n' :: rest) := by
      rw [sign_line, linewise_wholeDigits, hsign, hwhole]
      rfl
    rw [number, datetime_line hdate, linewise_decimal, hdecimal, linewise_named, hnamed]
    exact (integer_of_digits hbase hline).trans (by rw [sign_line])

theorem toList_toString_negSucc (k : Nat) :
    (toString (Int.negSucc k)).toList = '-' :: Nat.toDigits 10 (k + 1) := by
  simp [toString, Int.repr, ← Nat.toList_repr]

theorem exists_toList_toString (n : Int) :
    ∃ c cs, (toString n).toList = c :: cs ∧ (c.isDigit ∨ c = '-') := by
  cases n with
  | ofNat k =>
    obtain ⟨c, cs, hcs⟩ := List.exists_cons_of_ne_nil (Nat.toDigits_ne_nil (b := 10) (n := k))
    exact ⟨c, cs, Nat.toList_repr.trans hcs, .inl (isDigit_of_mem_toDigits (hcs ▸ List.mem_cons_self))⟩
  | negSucc k => exact ⟨_, _, toList_toString_negSucc k, .inr rfl⟩

theorem number_toString {n : Int} (h : Word.isSigned n) (rest : List Char) :
    number ((toString n).toList ++ '\n' :: rest) = some (.integer n, '\n' :: rest) := by
  have hall (k : Nat) : ∀ c ∈ Nat.toDigits 10 k, c.isDigit := fun c => isDigit_of_mem_toDigits
  have hhead (k : Nat) : ∀ c ∈ (Nat.toDigits 10 k).head?, c.isDigit :=
    fun c hc => hall k c (List.mem_of_mem_head? hc)
  have hfits : integerOf n ('\n' :: rest) = some (.integer n, '\n' :: rest) := if_pos h
  cases n with
  | ofNat k =>
    have htext : (toString (Int.ofNat k)).toList = Nat.toDigits 10 k := Nat.toList_repr
    have hsign := sign_toDigits k
    rw [htext, number_of_digits (datetime_of_digits (hall k)) (by rw [hsign]) (hhead k)
      (wholeDigits_toDigits k) (fun c r => second_toDigits k), hsign, ofDigits_toDigits]
    exact hfits
  | negSucc k =>
    have hsign : sign ('-' :: Nat.toDigits 10 (k + 1)) = (true, Nat.toDigits 10 (k + 1)) := rfl
    rw [toList_toString_negSucc, number_of_digits (datetime_minus _) (by rw [hsign]) (hhead _)
      (wholeDigits_toDigits _) (by simp), hsign, ofDigits_toDigits]
    exact hfits

end TestTwins.Toml.Reader
