import Mathlib.Data.List.DropRight
import TestTwins.Proofs.JsonNumbers

/-! Printed JSON is read back. Each kind of text gets one lemma that holds whatever follows it, as long
as that is not part of a number; lists of lines then follow by induction, and a whole value by induction
on how deep it nests. Doubles enter only through their text, of which it is asked that it reads as the
same double. -/

namespace TestTwins.Json

namespace Reader

theorem hexUnit_hexDigits {n : Nat} (h : n < 0x20) :
    hexUnit '0' '0' (hexDigit (n / 16)) (hexDigit (n % 16)) = some n := by
  have hzero : Digit.value? '0' = some 0 := rfl
  have hhigh := Digit.value?_digitChar (n / 16) (by omega)
  have hlow := Digit.value?_digitChar (n % 16) (by omega)
  simp only [hexUnit, hexDigit, hzero, hhigh, hlow, Option.bind_eq_bind, Option.bind_some, Option.pure_def]
  congr 1
  omega

-- The reader looks for a second unit behind the first one, so what follows matters even here.
theorem string_control {c : Char} (h : c.toNat < 0x20) (rest : List Char) :
    string ('\\' :: 'u' :: '0' :: '0' :: hexDigit (c.toNat / 16) :: hexDigit (c.toNat % 16) :: rest) =
      (string rest).map fun (s, r) => (c :: s, r) := by
  have hhigh : ¬ 0xD800 ≤ c.toNat := by omega
  by_cases hpair : ∃ e f g h' r, rest = '\\' :: 'u' :: e :: f :: g :: h' :: r
  · obtain ⟨e, f, g, h', r, rfl⟩ := hpair
    have hlow : ¬ 0xDC00 ≤ c.toNat := by omega
    rw [string]
    simp only [hexUnit_hexDigits h, hhigh, hlow, decide_false, Bool.false_and, Bool.false_eq_true,
      if_false, Char.ofNat_toNat]
  · rw [string]
    · simp only [hexUnit_hexDigits h, hhigh, decide_false, Bool.false_and, Bool.false_eq_true,
        if_false, Char.ofNat_toNat]
    · intro e f g h' r hr
      exact hpair ⟨e, f, g, h', r, hr⟩

theorem string_plain {c : Char} (hquote : c ≠ '"') (hslash : c ≠ '\\') (hhigh : 0x20 ≤ c.toNat)
    (rest : List Char) : string (c :: rest) = (string rest).map fun (s, r) => (c :: s, r) := by
  have hlow : ¬ c.toNat < 0x20 := by omega
  rw [string]
  · simp [hlow, hslash]
  all_goals simp [hquote, hslash]

theorem string_escapeChar (c : Char) (rest : List Char) :
    string (escapeChar c ++ rest) = (string rest).map fun (s, r) => (c :: s, r) := by
  simp only [escapeChar, beq_iff_eq]
  split_ifs with h₁ h₂ h₃ h₄ h₅ h₆ h₇ h₈
  · subst h₁; simp [string, simpleEscape]
  · subst h₂; simp [string, simpleEscape]
  · subst h₃; simp [string, simpleEscape]
  · subst h₄; simp [string, simpleEscape]
  · subst h₅; simp [string, simpleEscape]
  · subst h₆; simp [string, simpleEscape]
  · subst h₇; simp [string, simpleEscape]
  · exact string_control h₈ rest
  · exact string_plain h₁ h₂ (by omega) rest

theorem string_flatMap_escapeChar (s rest : List Char) :
    string (s.flatMap escapeChar ++ '"' :: rest) = some (s, rest) := by
  induction s with
  | nil => simp [string]
  | cons c s ih => rw [List.flatMap_cons, List.append_assoc, string_escapeChar, ih, Option.map_some]

theorem skipBlank_append {blanks : List Char} (h : ∀ c ∈ blanks, isBlank c) (cs : List Char) :
    skipBlank (blanks ++ cs) = skipBlank cs :=
  List.dropWhile_append_of_pos h

theorem skipBlank_cons {c : Char} (h : isBlank c = false) (cs : List Char) :
    skipBlank (c :: cs) = c :: cs := by
  rw [skipBlank, List.dropWhile_cons_of_neg (by simp [h])]

theorem skipBlank_skipBlank (cs : List Char) : skipBlank (skipBlank cs) = skipBlank cs := by
  simp only [skipBlank, List.dropWhile_idempotent]

theorem value_skipBlank (depth : Nat) (cs : List Char) :
    value depth (skipBlank cs) = value depth cs := by
  cases depth with
  | zero => rfl
  | succ depth => simp only [value, skipBlank_skipBlank]

theorem value_nil (depth : Nat) : value depth [] = none := by
  cases depth <;> rfl

theorem value_bracket (depth : Nat) (cs : List Char) : value depth (']' :: cs) = none := by
  cases depth <;> rfl

theorem digit_ne {c d : Char} (h : c.isDigit) (hd : d.isDigit = false) : c ≠ d := by
  rintro rfl
  exact absurd h (by simp [hd])

theorem value_digit (depth : Nat) {c : Char} (h : c.isDigit) (cs : List Char) :
    value (depth + 1) (c :: cs) = number false (c :: cs) := by
  have hblank : isBlank c = false := by
    simp [isBlank, digit_ne h (d := ' ') rfl, digit_ne h (d := '\t') rfl, digit_ne h (d := '\n') rfl,
      digit_ne h (d := '\r') rfl]
  rw [value, skipBlank_cons hblank]
  split
  case h_8 heq =>
    cases heq
    rw [if_pos h]
  all_goals
    rename_i heq
    cases heq
    try exact absurd h (by decide)

theorem value_minus (depth : Nat) (cs : List Char) :
    value (depth + 1) ('-' :: cs) = number true cs :=
  rfl

theorem value_array (depth : Nat) (cs : List Char) : value (depth + 2) ('[' :: cs) =
    (enclosed (value (depth + 1)) ']' cs).map fun p => (.arr p.1, p.2) :=
  rfl

theorem value_object (depth : Nat) (cs : List Char) : value (depth + 2) ('{' :: cs) =
    (enclosed (member (value (depth + 1))) '}' cs).map fun p => (.obj p.1, p.2) :=
  rfl

theorem value_float_append {cs rest : List Char} {x : Float}
    (h : value 1 cs = some (.float x, [])) (depth : Nat) (hrest : Ends rest) :
    value (depth + 1) (cs ++ rest) = some (.float x, rest) := by
  have happend : ∀ c t, skipBlank cs = c :: t → skipBlank (cs ++ rest) = c :: (t ++ rest) := by
    intro c t hcs
    rw [skipBlank] at hcs
    rw [skipBlank, List.dropWhile_append]
    simp [hcs]
  rw [value] at h
  rw [← value_skipBlank]
  -- Only a sign or a digit starts a number.
  split at h
  case h_4 =>
    obtain ⟨s, -, h⟩ := Option.map_eq_some_iff.1 h
    cases h
  case h_5 heq =>
    rw [happend _ _ heq, value_minus]
    exact number_append h hrest
  case h_8 heq =>
    split at h
    · rename_i hdigit
      rw [happend _ _ heq, value_digit _ hdigit, ← List.cons_append]
      exact number_append h hrest
    · cases h
  all_goals cases h

def Reads (item : Step α) (a : α) (line : List Char) : Prop :=
  ∀ rest, Ends rest → item (line ++ rest) = some (a, rest)

def lineBreak (level : Nat) : List Char := '\n' :: List.replicate (2 * level) ' '

theorem isBlank_of_mem_lineBreak {level : Nat} : ∀ c ∈ lineBreak level, isBlank c := by
  intro c hc
  rcases List.mem_cons.1 hc with rfl | hc
  · rfl
  · rw [List.eq_of_mem_replicate hc]
    rfl

def moreLines (close : Char) (level : Nat) : List (List Char) → List Char
  | [] => lineBreak level ++ [close]
  | line :: lines => ',' :: (lineBreak (level + 1) ++ (line ++ moreLines close level lines))

def linesText (close : Char) (level : Nat) : List (List Char) → List Char
  | [] => [close]
  | line :: lines => lineBreak (level + 1) ++ (line ++ moreLines close level lines)

theorem moreLines_cons_append (close : Char) (level : Nat) (line : List Char) (lines : List (List Char))
    (rest : List Char) : moreLines close level (line :: lines) ++ rest =
      ',' :: (lineBreak (level + 1) ++ (line ++ (moreLines close level lines ++ rest))) := by
  simp only [moreLines, List.cons_append, List.append_assoc]

theorem ends_moreLines (close : Char) (level : Nat) (lines : List (List Char)) (rest : List Char) :
    Ends (moreLines close level lines ++ rest) := by
  cases lines with
  | nil => exact ends_cons rfl (by decide) (by decide) (by decide) _
  | cons line lines => exact ends_cons rfl (by decide) (by decide) (by decide) _

theorem length_le_moreLines (close : Char) (level : Nat) (lines : List (List Char)) :
    lines.length ≤ (moreLines close level lines).length := by
  induction lines with
  | nil => exact Nat.zero_le _
  | cons line lines ih =>
    simp only [moreLines, List.length_cons, List.length_append]
    omega

section

variable {α : Type} {item : Step α} {close : Char}

theorem items_skipBlank (hskip : ∀ cs, item (skipBlank cs) = item cs) (steps : Nat) (cs : List Char) :
    items item close steps (skipBlank cs) = items item close steps cs := by
  cases steps with
  | zero => rfl
  | succ steps => rw [items, items, hskip]

theorem items_last {a : α} {steps : Nat} {cs rest : List Char} (hcomma : close ≠ ',')
    (hitem : item cs = some (a, rest)) {more : List Char} (hrest : skipBlank rest = close :: more) :
    items item close (steps + 1) cs = some ([a], more) := by
  simp only [items, hitem, hrest, beq_self_eq_true, if_true]

theorem items_more {a : α} {steps : Nat} {cs rest : List Char}
    (hitem : item cs = some (a, rest)) {more : List Char} (hrest : skipBlank rest = ',' :: more) :
    items item close (steps + 1) cs =
      (items item close steps more).map fun p => (a :: p.1, p.2) := by
  rw [items, hitem]
  simp only [hrest]

theorem items_head {a : α} {steps : Nat} {cs rest rest' : List Char} {as : List α}
    (hitem : item cs = some (a, rest)) (h : items item close steps cs = some (as, rest')) :
    as.head? = some a := by
  cases steps with
  | zero => cases h
  | succ steps =>
    simp only [items, hitem] at h
    split at h
    · obtain ⟨p, -, h⟩ := Option.map_eq_some_iff.1 h
      cases h
      rfl
    · split at h <;> cases h
      rfl
    · cases h

theorem items_lines (level : Nat) (hskip : ∀ cs, item (skipBlank cs) = item cs)
    (hclose : isBlank close = false) (hcomma : close ≠ ',') (rest : List Char)
    (entry : α × List Char) (entries : List (α × List Char)) (steps : Nat)
    (hsteps : entries.length ≤ steps) (hreads : ∀ e ∈ entry :: entries, Reads item e.1 e.2) :
    items item close (steps + 1) (entry.2 ++ (moreLines close level (entries.map (·.2)) ++ rest)) =
      some (entry.1 :: entries.map (·.1), rest) := by
  have hentry := hreads entry List.mem_cons_self _ (ends_moreLines close level (entries.map (·.2)) rest)
  induction entries generalizing entry steps with
  | nil =>
    apply items_last hcomma hentry
    rw [List.map_nil, moreLines, List.append_assoc, skipBlank_append isBlank_of_mem_lineBreak]
    exact skipBlank_cons hclose rest
  | cons next entries ih =>
    obtain ⟨steps, rfl⟩ := Nat.exists_eq_add_one_of_ne_zero (Nat.ne_zero_of_lt hsteps)
    have hreads' : ∀ e ∈ next :: entries, Reads item e.1 e.2 :=
      fun e he => hreads e (List.mem_cons_of_mem entry he)
    have hnext := ih next steps (Nat.le_of_succ_le_succ hsteps) hreads'
      (hreads' next List.mem_cons_self _ (ends_moreLines _ _ _ _))
    rw [List.map_cons, moreLines_cons_append] at hentry ⊢
    rw [items_more hentry (skipBlank_cons rfl _), ← items_skipBlank hskip,
      skipBlank_append isBlank_of_mem_lineBreak, items_skipBlank hskip, hnext]
    rfl

theorem enclosed_eq_items (hskip : ∀ cs, item (skipBlank cs) = item cs) (hnil : item [] = none)
    (hnone : ∀ cs, item (close :: cs) = none) {cs : List Char} (hitem : item cs ≠ none) :
    enclosed item close cs = items item close (cs.length + 1) cs := by
  rw [← hskip] at hitem
  rw [enclosed, ← items_skipBlank hskip]
  match h : skipBlank cs with
  | [] => exact absurd (h ▸ hnil) hitem
  | c :: rest =>
    have hc : (c == close) = false := by
      simp only [beq_eq_false_iff_ne, ne_eq]
      rintro rfl
      exact hitem (h ▸ hnone rest)
    simp only [hc, Bool.false_eq_true, if_false]

theorem item_linesText (hskip : ∀ cs, item (skipBlank cs) = item cs) {a : α} {line : List Char}
    (hreads : Reads item a line) (level : Nat) (lines : List (List Char)) (rest : List Char) :
    item (linesText close level (line :: lines) ++ rest) =
      some (a, moreLines close level lines ++ rest) := by
  rw [linesText, List.append_assoc, List.append_assoc, ← hskip,
    skipBlank_append isBlank_of_mem_lineBreak, hskip, hreads _ (ends_moreLines _ _ _ _)]

theorem enclosed_linesText (level : Nat) (hskip : ∀ cs, item (skipBlank cs) = item cs)
    (hnil : item [] = none) (hnone : ∀ cs, item (close :: cs) = none) (hclose : isBlank close = false)
    (hcomma : close ≠ ',') (entries : List (α × List Char))
    (hreads : ∀ e ∈ entries, Reads item e.1 e.2) (rest : List Char) :
    enclosed item close (linesText close level (entries.map (·.2)) ++ rest) =
      some (entries.map (·.1), rest) := by
  cases entries with
  | nil =>
    simp only [List.map_nil, linesText, enclosed, List.cons_append, List.nil_append,
      skipBlank_cons hclose]
    rw [if_pos (beq_self_eq_true close)]
  | cons entry entries =>
    have hitem : item (linesText close level (entry.2 :: entries.map (·.2)) ++ rest) ≠ none := by
      rw [item_linesText hskip (hreads entry List.mem_cons_self)]
      exact Option.some_ne_none _
    have hsteps := length_le_moreLines close level (entries.map (·.2))
    rw [List.map_cons, enclosed_eq_items hskip hnil hnone hitem, linesText, List.append_assoc,
      List.append_assoc, ← items_skipBlank hskip, skipBlank_append isBlank_of_mem_lineBreak,
      items_skipBlank hskip]
    apply items_lines level hskip hclose hcomma rest entry entries _ ?_ hreads
    simp only [List.length_map, List.length_append] at hsteps ⊢
    omega

end

theorem member_skipBlank (item : Step Json) (cs : List Char) :
    member item (skipBlank cs) = member item cs := by
  simp only [member, expect, skipBlank_skipBlank]

theorem member_brace (item : Step Json) (cs : List Char) : member item ('}' :: cs) = none := rfl

theorem reads_member {item : Step Json} (hskip : ∀ cs, item (skipBlank cs) = item cs) {j : Json}
    {text : List Char} (h : Reads item j text) (key : String) :
    Reads (member item) (key, j) ((quoted key).toList ++ ':' :: ' ' :: text) := by
  intro rest hrest
  have hvalue : item (' ' :: (text ++ rest)) = some (j, rest) := by
    rw [← hskip, ← List.singleton_append, skipBlank_append (by simp [isBlank]), hskip]
    exact h rest hrest
  simp [quoted, member, expect, skipBlank_cons (c := '"') rfl, skipBlank_cons (c := ':') rfl,
    string_flatMap_escapeChar, hvalue]

end Reader

open Reader

theorem toList_intercalate_lines (close : Char) (level : Nat) (line : String) (lines : List String) :
    (String.intercalate ("," ++ ("\n" ++ indentation (level + 1))) (line :: lines) ++ "\n" ++
        indentation level ++ String.singleton close).toList =
      line.toList ++ moreLines close level (lines.map String.toList) := by
  induction lines generalizing line with
  | nil => simp [indentation, moreLines, lineBreak]
  | cons next lines ih =>
    rw [String.intercalate_cons_cons, List.map_cons, moreLines, ← ih]
    simp [indentation, lineBreak]

theorem toList_layered (start : String) (close : Char) (level : Nat) (lines : List String) :
    (layered start (String.singleton close) level lines).toList =
      start.toList ++ linesText close level (lines.map String.toList) := by
  cases lines with
  | nil => simp [layered, linesText]
  | cons line lines =>
    rw [List.map_cons, linesText, ← toList_intercalate_lines]
    simp [layered, indentation, lineBreak]

theorem prettyItems_eq (level : Nat) (items : List Json) :
    prettyItems level items = items.map (prettyAt level) := by
  induction items with
  | nil => simp [prettyItems]
  | cons j items ih => simp [prettyItems, ih]

theorem prettyMembers_eq (level : Nat) (members : List (String × Json)) :
    prettyMembers level members = members.map fun m => quoted m.1 ++ ": " ++ m.2.prettyAt level := by
  induction members with
  | nil => simp [prettyMembers]
  | cons m members ih => simp [prettyMembers, ih]

def memberLine (level : Nat) (m : String × Json) : List Char :=
  (quoted m.1).toList ++ ':' :: ' ' :: (m.2.prettyAt level).toList

theorem toList_prettyAt_arr (level : Nat) (items : List Json) :
    (prettyAt level (.arr items)).toList =
      '[' :: linesText ']' level (items.map fun j => (j.prettyAt (level + 1)).toList) := by
  rw [prettyAt, prettyItems_eq]
  simpa [Function.comp_def] using toList_layered "[" ']' level (items.map (prettyAt (level + 1)))

theorem toList_prettyAt_obj (level : Nat) (members : List (String × Json)) :
    (prettyAt level (.obj members)).toList =
      '{' :: linesText '}' level (members.map (memberLine (level + 1))) := by
  rw [prettyAt, prettyMembers_eq]
  unfold memberLine
  simpa [Function.comp_def] using toList_layered "\x7b" '}' level
    (members.map fun m => quoted m.1 ++ ": " ++ m.2.prettyAt (level + 1))

/-- A double whose text is read as that double. What is not finite has no such text. -/
def ReadsBack (x : Float) : Prop := Reader.value 1 (floatText x).toList = some (.float x, [])

theorem readsBack_half : ReadsBack 0.5 := by
  rw [ReadsBack]
  rfl

/-- A value that nests at most so deep, of whole numbers of 64 bits and doubles whose text is read
back. -/
inductive Faithful : Nat → Json → Prop
  | null {depth} : Faithful depth .null
  | bool {depth} (b : Bool) : Faithful depth (.bool b)
  | int {depth} {n : Int} (low : -(Word.half : Int) ≤ n) (high : n < Word.count) :
    Faithful depth (.int n)
  | float {depth} {x : Float} (h : ReadsBack x) : Faithful depth (.float x)
  | str {depth} (s : String) : Faithful depth (.str s)
  | arr {depth} {items : List Json} (h : ∀ j ∈ items, Faithful depth j) :
    Faithful (depth + 1) (.arr items)
  | obj {depth} {members : List (String × Json)} (h : ∀ m ∈ members, Faithful depth m.2) :
    Faithful (depth + 1) (.obj members)

theorem reads_nat {n : Nat} (h : n < Word.count) (depth : Nat) :
    Reads (value (depth + 1)) (.int n) (Nat.toDigits 10 n) := by
  intro rest hrest
  obtain ⟨c, ds, hds⟩ := List.exists_cons_of_ne_nil (Nat.toDigits_ne_nil (b := 10) (n := n))
  have hc : c.isDigit := Decimal.isDigit_of_mem_toDigits (hds ▸ List.mem_cons_self)
  have hread := number_append (number_toDigits false h nofun) hrest
  rw [hds, List.cons_append] at hread ⊢
  rw [value_digit depth hc, hread]
  rfl

theorem reads_negSucc {n : Nat} (h : n + 1 ≤ Word.half) (depth : Nat) :
    Reads (value (depth + 1)) (.int (.negSucc n)) ('-' :: Nat.toDigits 10 (n + 1)) := by
  intro rest hrest
  have hword : n + 1 < Word.count := Nat.lt_of_le_of_lt h (by decide)
  have hread := number_append (number_toDigits true hword fun _ => ⟨n.succ_pos, h⟩) hrest
  rw [List.cons_append, value_minus, hread]
  rfl

theorem reads_int {n : Int} (low : -(Word.half : Int) ≤ n) (high : n < Word.count) (depth : Nat) :
    Reads (value (depth + 1)) (.int n) (toString n).toList := by
  cases n with
  | ofNat n =>
    have htext : (toString (Int.ofNat n)).toList = Nat.toDigits 10 n := Nat.toList_repr
    rw [htext]
    exact reads_nat (Int.ofNat_lt.1 high) depth
  | negSucc n =>
    have htext : (toString (Int.negSucc n)).toList = '-' :: Nat.toDigits 10 (n + 1) := by
      simp [toString, Int.repr, ← Nat.toList_repr]
    rw [htext]
    exact reads_negSucc (by omega) depth

theorem reads_str (s : String) (depth : Nat) :
    Reads (value (depth + 1)) (.str s) (quoted s).toList := by
  intro rest _
  simp [quoted, value, skipBlank_cons (c := '"') rfl, string_flatMap_escapeChar]

theorem Faithful.reads {depth : Nat} {j : Json} (h : Faithful depth j) (level : Nat) :
    Reads (value (depth + 1)) j (j.prettyAt level).toList := by
  induction h generalizing level with
  | null =>
    intro rest _
    simp only [prettyAt]
    rfl
  | bool b =>
    intro rest _
    cases b <;> simp only [prettyAt] <;> rfl
  | int low high =>
    rw [prettyAt]
    exact reads_int low high _
  | float h =>
    intro rest hrest
    rw [prettyAt]
    exact value_float_append h _ hrest
  | str s =>
    rw [prettyAt]
    exact reads_str s _
  | @arr depth items h ih =>
    intro rest _
    have hlines := enclosed_linesText level (value_skipBlank (depth + 1)) (value_nil _)
      (value_bracket _) rfl (by decide) (items.map fun j => (j, (j.prettyAt (level + 1)).toList))
      (List.forall_mem_map.2 fun j hj => ih j hj _) rest
    simp only [List.map_map, Function.comp_def, List.map_id'] at hlines
    rw [toList_prettyAt_arr, List.cons_append, value_array, hlines, Option.map_some]
  | @obj depth members h ih =>
    intro rest _
    have hlines := enclosed_linesText level (member_skipBlank (value (depth + 1))) rfl
      (member_brace _) rfl (by decide) (members.map fun m => (m, memberLine (level + 1) m))
      (List.forall_mem_map.2 fun m hm => reads_member (value_skipBlank _) (ih m hm _) m.1) rest
    simp only [List.map_map, Function.comp_def, List.map_id'] at hlines
    rw [toList_prettyAt_obj, List.cons_append, value_object, hlines, Option.map_some]

theorem parse?_pretty {j : Json} (h : Faithful (depthLimit - 1) j) : parse? j.pretty = some j := by
  have hread := h.reads 0 [] ends_nil
  rw [List.append_nil] at hread
  simp only [parse?, pretty]
  rw [show depthLimit = depthLimit - 1 + 1 from rfl, hread]
  rfl

theorem value_first {key text : String} {members : List (String × Json)} {depth level : Nat} {j : Json}
    {rest : List Char} (h : value (depth + 2)
      (prettyAt level (.obj ((key, .str text) :: members))).toList = some (j, rest)) :
    ∃ more, j = .obj ((key, .str text) :: more) := by
  have hline : Reads (member (value (depth + 1))) (key, .str text)
      (memberLine (level + 1) (key, .str text)) := by
    simp only [memberLine, prettyAt]
    exact reads_member (value_skipBlank _) (reads_str text _) key
  have hitem := @item_linesText _ _ '}' (member_skipBlank _) _ _ hline level
    (members.map (memberLine (level + 1))) []
  rw [List.append_nil] at hitem
  rw [toList_prettyAt_obj, value_object] at h
  obtain ⟨⟨ms, rest'⟩, hms, hobj⟩ := Option.map_eq_some_iff.1 h
  cases hobj
  rw [List.map_cons,
    enclosed_eq_items (member_skipBlank _) rfl (member_brace _) (by simp [hitem])] at hms
  obtain ⟨more, rfl⟩ := List.head?_eq_some_iff.1 (items_head hitem hms)
  exact ⟨more, rfl⟩

theorem parse?_pretty_first {key text : String} {members : List (String × Json)} {j : Json}
    (h : parse? (pretty (.obj ((key, .str text) :: members))) = some j) :
    ∃ more, j = .obj ((key, .str text) :: more) := by
  simp only [parse?, pretty] at h
  split at h
  · rename_i hvalue
    split at h <;> cases h
    exact value_first hvalue
  · cases h

end TestTwins.Json
