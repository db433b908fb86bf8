import TestTwins.Proofs.TomlNumbers
import TestTwins.Proofs.TomlStrings

/-! Written configuration text is read back as the tables it was written from. A line of its own is read
whatever follows; lines make up tables and tables the text by induction. Doubles enter only through their
text, of which it is asked that it reads as the same double. -/

namespace TestTwins.Toml

open Reader

def ReadsBack (x : Float) : Prop :=
  scalar (Decimal.text .pointed "nan" "inf" x).toList = some (.float x, [])

theorem readsBack_half : ReadsBack 0.5 := by
  rw [ReadsBack]
  rfl

inductive Faithful : Toml → Prop
  | string (s : String) : Faithful (.string s)
  | integer {n : Int} (h : Word.isSigned n) : Faithful (.integer n)
  | float {x : Float} (h : ReadsBack x) : Faithful (.float x)
  | boolean (b : Bool) : Faithful (.boolean b)

namespace Reader

theorem scalar_of_quoted? {cs r : List Char} {s : String} (h : quoted? cs = some (s, r)) :
    scalar cs = some (.string s, r) := by
  have hquote : ∃ c t, cs = c :: t ∧ (c == '"' || c == '\x27') = true := by
    revert h
    fun_cases quoted? cs <;> simp
  obtain ⟨c, t, rfl, hc⟩ := hquote
  simp only [scalar, hc, if_true, h, Option.map_some]

theorem scalar_number {c : Char} (h : c.isDigit ∨ c = '-') (cs : List Char) :
    scalar (c :: cs) = number (c :: cs) := by
  obtain h | rfl := h
  · have hdouble : c ≠ '"' := Json.Reader.digit_ne h rfl
    have hsingle : c ≠ '\x27' := Json.Reader.digit_ne h rfl
    simp [scalar, hdouble, hsingle, h]
  · rfl

theorem scalar_float_line {cs : List Char} {x : Float} (h : scalar cs = some (.float x, []))
    (rest : List Char) : scalar (cs ++ '\n' :: rest) = some (.float x, '\n' :: rest) := by
  cases cs with
  | nil => cases h
  | cons c cs =>
    rw [scalar] at h
    rw [List.cons_append, scalar]
    split_ifs at h ⊢
    · obtain ⟨_, _, hp⟩ := Option.map_eq_some_iff.1 h
      cases hp
    · exact number_float_line h rest
    · obtain ⟨_, _, hp⟩ := Option.map_eq_some_iff.1 h
      cases hp
    · obtain ⟨_, _, hp⟩ := Option.map_eq_some_iff.1 h
      cases hp
    · rw [← List.cons_append, linewise_named, h]
      rfl

end Reader

theorem Faithful.exists_lineText? {v : Toml} (h : v.Faithful) :
    ∃ text, v.lineText? = some text ∧
      ∀ rest, scalar (text.toList ++ '\n' :: rest) = some (v, '\n' :: rest) := by
  cases h with
  | string s => exact ⟨_, rfl, fun rest => scalar_of_quoted? (quoted?_line s rest)⟩
  | @integer n h =>
    refine ⟨_, if_pos h, fun rest => ?_⟩
    obtain ⟨c, cs, htext, hc⟩ := exists_toList_toString n
    have hread := number_toString h rest
    rw [htext] at hread ⊢
    exact (scalar_number hc _).trans hread
  | float h => exact ⟨_, rfl, scalar_float_line h⟩
  | boolean b => cases b <;> exact ⟨_, rfl, fun rest => rfl⟩

def isBareKey (key : String) : Bool := !key.toList.isEmpty && key.toList.all isBare

namespace Reader

theorem skipBlank_cons {c : Char} (h : isBlank c = false) (cs : List Char) :
    skipBlank (c :: cs) = c :: cs := by
  rw [skipBlank, List.dropWhile_cons_of_neg (by simp [h])]

theorem skipBlank_of_scalar {cs : List Char} {p : Toml × List Char} (h : scalar cs = some p) :
    skipBlank cs = cs := by
  cases cs with
  | nil => rfl
  | cons c cs =>
    refine skipBlank_cons (Bool.eq_false_iff.2 fun hc => ?_) cs
    obtain hc | hc := Bool.or_eq_true_iff.1 hc <;>
      (obtain rfl := eq_of_beq hc; cases h)

theorem value_of_scalar {cs : List Char} {p : Toml × List Char} (h : scalar cs = some p) (depth : Nat) :
    value depth cs = some p := by
  cases depth with
  | zero => exact h
  | succ depth =>
    rw [value]
    · exact h
    all_goals
      rintro r rfl
      cases h

theorem ne_of_isBare {c d : Char} (h : isBare c) (hd : isBare d = false) : c ≠ d := by
  rintro rfl
  exact absurd h (by simp [hd])

theorem isBlank_of_isBare {c : Char} (h : isBare c) : isBlank c = false := by
  simp [isBlank, ne_of_isBare h (d := ' ') rfl, ne_of_isBare h (d := '\t') rfl]

theorem exists_of_isBareKey {key : String} (h : isBareKey key) :
    ∃ k ks, key.toList = k :: ks ∧ isBare k ∧ ∀ c ∈ key.toList, isBare c := by
  obtain ⟨hne, hall⟩ := Bool.and_eq_true_iff.1 h
  obtain ⟨k, ks, hkey⟩ := List.exists_cons_of_ne_nil (l := key.toList) (by simpa using hne)
  rw [List.all_eq_true] at hall
  exact ⟨k, ks, hkey, hall k (hkey ▸ List.mem_cons_self), hall⟩

theorem simpleKey_bare {key : String} (h : isBareKey key) {c : Char} (hc : isBare c = false)
    (tail : List Char) : simpleKey (key.toList ++ c :: tail) = some (key, c :: tail) := by
  obtain ⟨k, ks, hkey, hk, hall⟩ := exists_of_isBareKey h
  have htake : (key.toList ++ c :: tail).takeWhile isBare = key.toList := by
    rw [List.takeWhile_append_of_pos hall, List.takeWhile_cons_of_neg (by simp [hc]), List.append_nil]
  have hdrop : (key.toList ++ c :: tail).dropWhile isBare = c :: tail := by
    rw [List.dropWhile_append_of_pos hall, List.dropWhile_cons_of_neg (by simp [hc])]
  rw [simpleKey]
  · rw [htake, hdrop, if_neg (by simp [hkey]), String.ofList_toList]
  all_goals
    intro r hr
    rw [hkey] at hr
    exact ne_of_isBare hk rfl (List.cons.inj hr).1

theorem keys_bare {key : String} (h : isBareKey key) (limit : Nat) {c : Char} (hc : isBare c = false)
    {tail : List Char} (hdot : ∀ r, skipBlank (c :: tail) ≠ '.' :: r) :
    keys (limit + 1) (key.toList ++ c :: tail) = some ([key], skipBlank (c :: tail)) := by
  obtain ⟨k, ks, hkey, hk, -⟩ := exists_of_isBareKey h
  have hskip : skipBlank (key.toList ++ c :: tail) = key.toList ++ c :: tail := by
    rw [hkey, List.cons_append, skipBlank_cons (isBlank_of_isBare hk)]
  rw [keys, hskip, simpleKey_bare h hc]
  simp only [Option.bind_eq_bind, Option.bind_some]
  rfl

theorem pair_line {key : String} (h : isBareKey key) {v : Toml} {cs rest : List Char}
    (hv : scalar cs = some (v, rest)) :
    pair (value depthLimit) (key.toList ++ ' ' :: '=' :: ' ' :: cs) = some (([key], v), rest) := by
  have hkeys : keys depthLimit (key.toList ++ ' ' :: '=' :: ' ' :: cs) = some ([key], '=' :: ' ' :: cs) :=
    keys_bare h (depthLimit - 1) rfl (fun r hr => by cases hr)
  have hblank : skipBlank (' ' :: cs) = cs := skipBlank_of_scalar hv
  simp [pair, hkeys, mark, hblank, value_of_scalar hv]

theorem lineEnd_break (rest : List Char) : lineEnd ('\n' :: rest) = some rest :=
  rfl

def ReadsAs (cs : List Char) (lines : List Statement) : Prop :=
  ∀ turns, cs.length < turns → statements turns cs = some lines

theorem readsAs_nil : ReadsAs [] [] := by
  intro turns h
  obtain _ | turns := turns
  · cases h
  · rfl

variable {rest : List Char} {lines : List Statement}

theorem ReadsAs.blank (h : ReadsAs rest lines) : ReadsAs ('\n' :: rest) lines := by
  intro turns hturns
  obtain _ | turns := turns
  · cases hturns
  · exact h turns (Nat.lt_of_succ_lt_succ hturns)

theorem ReadsAs.cons (h : ReadsAs rest lines) {c : Char} {cs : List Char} {s : Statement}
    (hline : statement (c :: cs) = some (s, rest)) (hlength : rest.length < (c :: cs).length)
    (hblank : isBlank c = false) (hcomment : c ≠ '#') (hbreak : c ≠ '\n' ∧ c ≠ '\r') :
    ReadsAs (c :: cs) (s :: lines) := by
  intro turns hturns
  obtain _ | turns := turns
  · cases hturns
  · rw [statements, skipBlank_cons hblank]
    simp [hbreak, hline, h turns (by omega)]

theorem ReadsAs.entry (h : ReadsAs rest lines) {key : String} (hkey : isBareKey key) {v : Toml}
    {text : List Char} (hv : scalar (text ++ '\n' :: rest) = some (v, '\n' :: rest)) :
    ReadsAs (key.toList ++ ' ' :: '=' :: ' ' :: (text ++ '\n' :: rest)) (.entry [key] v :: lines) := by
  have hpair := pair_line hkey hv
  obtain ⟨k, ks, hcs, hk, -⟩ := exists_of_isBareKey hkey
  rw [hcs, List.cons_append] at hpair ⊢
  refine h.cons ?_ (by simp; omega) (isBlank_of_isBare hk) (ne_of_isBare hk rfl)
    ⟨ne_of_isBare hk rfl, ne_of_isBare hk rfl⟩
  rw [statement]
  · simp [hpair, lineEnd_break]
  all_goals
    intro r hr
    exact ne_of_isBare hk rfl (List.cons.inj hr).1

theorem ReadsAs.table (h : ReadsAs rest lines) {name : String} (hname : isBareKey name) :
    ReadsAs ('[' :: (name.toList ++ ']' :: '\n' :: rest)) (.table [name] :: lines) := by
  have hkeys : keys depthLimit (name.toList ++ ']' :: '\n' :: rest) = some ([name], ']' :: '\n' :: rest) :=
    keys_bare hname (depthLimit - 1) rfl (fun r hr => by cases hr)
  have hclose : word? "]" (']' :: '\n' :: rest) = some ('\n' :: rest) := rfl
  obtain ⟨k, ks, hcs, hk, -⟩ := exists_of_isBareKey hname
  refine h.cons ?_ (by simp; omega) rfl (by decide) (by decide)
  rw [statement]
  · simp [headerKeys, hkeys, hclose, lineEnd_break]
  · intro r hr
    rw [hcs] at hr
    exact ne_of_isBare hk rfl (List.cons.inj hr).1

end Reader

def statementsOf (table : String × Entries) : List Statement :=
  .table [table.1] :: table.2.map fun e => .entry [e.1] e.2

structure Keyed (entries : List (String × α)) : Prop where
  nodup : (entries.map (·.1)).Nodup
  bare : ∀ e ∈ entries, isBareKey e.1

theorem keyed_of_sublist {entries : List (String × α)} {names : List String}
    (h : (entries.map (·.1)).Sublist names) (hnodup : names.Nodup) (hbare : ∀ n ∈ names, isBareKey n) :
    Keyed entries :=
  ⟨hnodup.sublist h, fun _ he => hbare _ (h.subset (List.mem_map_of_mem he))⟩

theorem exists_entryLines {entries : Entries} (hbare : ∀ e ∈ entries, isBareKey e.1)
    (hfaithful : ∀ e ∈ entries, e.2.Faithful) :
    ∃ texts, (entries.mapM fun (key, v) => do return key ++ " = " ++ (← v.lineText?) ++ "\n") = some texts ∧
      ∀ rest lines, ReadsAs rest lines → ReadsAs ((String.join texts).toList ++ rest)
        (entries.map (fun e => .entry [e.1] e.2) ++ lines) := by
  induction entries with
  | nil => exact ⟨[], rfl, fun rest lines h => h⟩
  | cons e entries ih =>
    obtain ⟨key, v⟩ := e
    obtain ⟨hkey, hbare⟩ := List.forall_mem_cons.1 hbare
    obtain ⟨hv, hfaithful⟩ := List.forall_mem_cons.1 hfaithful
    obtain ⟨text, (htext : v.lineText? = some text), hread⟩ := hv.exists_lineText?
    obtain ⟨texts, htexts, hlines⟩ := ih hbare hfaithful
    refine ⟨(key ++ " = " ++ text ++ "\n") :: texts, ?_, fun rest lines h => ?_⟩
    · simp only [List.mapM_cons, htext, htexts]
      rfl
    · have hentry := (hlines rest lines h).entry hkey (hread _)
      simpa using hentry

theorem exists_tableText? {table : String × Entries} (hname : isBareKey table.1)
    (hbare : ∀ e ∈ table.2, isBareKey e.1) (hfaithful : ∀ e ∈ table.2, e.2.Faithful) :
    ∃ text, tableText? table.1 table.2 = some text ∧ text.toList.head? = some '[' ∧
      ∀ rest lines, ReadsAs rest lines → ReadsAs (text.toList ++ rest) (statementsOf table ++ lines) := by
  obtain ⟨texts, htexts, hlines⟩ := exists_entryLines hbare hfaithful
  refine ⟨"[" ++ table.1 ++ "]\n" ++ String.join texts, ?_, by simp, fun rest lines h => ?_⟩
  · rw [tableText?, htexts]
    rfl
  · have htable := (hlines rest lines h).table hname
    simpa [statementsOf] using htable

theorem exists_tableTexts {tables : List (String × Entries)} (hnames : ∀ t ∈ tables, isBareKey t.1)
    (hbare : ∀ t ∈ tables, ∀ e ∈ t.2, isBareKey e.1) (hfaithful : ∀ t ∈ tables, ∀ e ∈ t.2, e.2.Faithful) :
    ∃ texts, (tables.mapM fun (name, lines) => tableText? name lines) = some texts ∧
      (∀ c ∈ (String.intercalate "\n" texts).toList.head?, c = '[') ∧
      ReadsAs (String.intercalate "\n" texts).toList (tables.flatMap statementsOf) := by
  induction tables with
  | nil => exact ⟨[], rfl, by simp, readsAs_nil⟩
  | cons t tables ih =>
    obtain ⟨name, entries⟩ := t
    obtain ⟨hname, hnames⟩ := List.forall_mem_cons.1 hnames
    obtain ⟨hkeys, hbare⟩ := List.forall_mem_cons.1 hbare
    obtain ⟨hvalues, hfaithful⟩ := List.forall_mem_cons.1 hfaithful
    obtain ⟨text, (htext : tableText? name entries = some text), hfirst, hread⟩ :=
      exists_tableText? hname hkeys hvalues
    obtain ⟨texts, htexts, -, hrest⟩ := ih hnames hbare hfaithful
    refine ⟨text :: texts, ?_, ?_⟩
    · simp only [List.mapM_cons, htext, htexts]
      rfl
    rw [List.flatMap_cons]
    cases texts with
    | nil => exact ⟨by simp [hfirst], by simpa using hread _ _ hrest⟩
    | cons next texts =>
      rw [String.intercalate_cons_cons]
      exact ⟨by simp [hfirst], by simpa using hread _ _ hrest.blank⟩

theorem change_of_notMem {key : String} {entries : Entries} (h : key ∉ entries.map (·.1))
    (f : Option Toml → Option Toml) :
    change key f entries = (f none).map fun v => entries ++ [(key, v)] := by
  induction entries with
  | nil => rfl
  | cons e entries ih =>
    obtain ⟨k, v⟩ := e
    have hne : k ≠ key := fun heq => h (heq ▸ List.mem_cons_self)
    rw [change, if_neg hne, ih fun hmem => h (List.mem_cons_of_mem _ hmem), Option.map_map]
    rfl

theorem addLine_of_notMem {key : String} {entries : Entries} (h : key ∉ entries.map (·.1)) (v : Toml) :
    addLine [key] v entries = some (entries ++ [(key, v)]) :=
  change_of_notMem h _

theorem addLines_entries {before entries : Entries} (h : ((before ++ entries).map (·.1)).Nodup) :
    addLines (entries.map fun e => ([e.1], e.2)) before = some (before ++ entries) := by
  induction entries generalizing before with
  | nil => simp [addLines]
  | cons e entries ih =>
    have hnew : e.1 ∉ before.map (·.1) := by
      rw [List.map_append, List.map_cons, List.nodup_append] at h
      exact fun hmem => h.2.2 _ hmem _ List.mem_cons_self rfl
    have hrest := @ih (before ++ [e]) (by simpa using h)
    simp only [addLines, List.map_cons, List.foldlM_cons, addLine_of_notMem hnew]
    simpa [addLines] using hrest

theorem sections_entries (entries : Entries) (lines : List Statement) :
    sections (entries.map (fun e => .entry [e.1] e.2) ++ lines) =
      (entries.map (fun e => ([e.1], e.2)) ++ (sections lines).1, (sections lines).2) := by
  induction entries with
  | nil => rfl
  | cons e entries ih => simp [sections, ih]

def sectionOf (table : String × Entries) : Section :=
  ⟨[table.1], false, table.2.map fun e => ([e.1], e.2)⟩

theorem sections_tables (tables : List (String × Entries)) :
    sections (tables.flatMap statementsOf) = ([], tables.map sectionOf) := by
  induction tables with
  | nil => rfl
  | cons t tables ih => simp [statementsOf, sections, sections_entries, ih, sectionOf]

theorem addSection_sectionOf {table : String × Entries} {before : Entries}
    (hname : table.1 ∉ before.map (·.1)) (hkeys : (table.2.map (·.1)).Nodup) :
    addSection (sectionOf table) before = some (before ++ [(table.1, .header table.2)]) := by
  have hlines : addLines (table.2.map fun e => ([e.1], e.2)) [] = some table.2 := addLines_entries hkeys
  change change table.1 _ before = _
  rw [change_of_notMem hname]
  simp [sectionOf, hlines]

theorem foldlM_addSection {tables : List (String × Entries)} {before : Entries}
    (hnames : (before.map (·.1) ++ tables.map (·.1)).Nodup)
    (hkeys : ∀ t ∈ tables, (t.2.map (·.1)).Nodup) :
    (tables.map sectionOf).foldlM (fun es s => addSection s es) before =
      some (before ++ tables.map fun t => (t.1, .header t.2)) := by
  induction tables generalizing before with
  | nil => simp
  | cons t tables ih =>
    obtain ⟨ht, hkeys⟩ := List.forall_mem_cons.1 hkeys
    have hnew : t.1 ∉ before.map (·.1) := by
      rw [List.map_cons, List.nodup_append] at hnames
      exact fun hmem => hnames.2.2 _ hmem _ List.mem_cons_self rfl
    have hrest := @ih (before ++ [(t.1, .header t.2)]) (by simpa using hnames) hkeys
    rw [List.map_cons, List.foldlM_cons, addSection_sectionOf hnew ht]
    simpa using hrest

theorem ofStatements_tables {tables : List (String × Entries)} (hnames : (tables.map (·.1)).Nodup)
    (hkeys : ∀ t ∈ tables, (t.2.map (·.1)).Nodup) :
    ofStatements (tables.flatMap statementsOf) = some (tables.map fun t => (t.1, .header t.2)) := by
  have hsections := @foldlM_addSection tables [] hnames hkeys
  simpa [ofStatements, sections_tables, addLines] using hsections

theorem parse?_render? {tables : List (String × Entries)} (hnames : Keyed tables)
    (hkeyed : ∀ t ∈ tables, Keyed t.2) (hfaithful : ∀ t ∈ tables, ∀ e ∈ t.2, e.2.Faithful) :
    ∃ text, render? tables = some text ∧
      parse? text = some (tables.map fun t => (t.1, .header t.2)) := by
  obtain ⟨texts, htexts, hfirst, hread⟩ :=
    exists_tableTexts hnames.bare (fun t ht => (hkeyed t ht).bare) hfaithful
  refine ⟨String.intercalate "\n" texts, by rw [render?, htexts]; rfl, ?_⟩
  generalize String.intercalate "\n" texts = text at hfirst hread ⊢
  have hmark : withoutByteMark text.toList = text.toList := by
    cases hcs : text.toList with
    | nil => rfl
    | cons c cs =>
      obtain rfl := hfirst c (by simp [hcs])
      rfl
  rw [parse?, hmark, hread _ (Nat.lt_succ_self _)]
  exact ofStatements_tables hnames.nodup fun t ht => (hkeyed t ht).nodup

end TestTwins.Toml
