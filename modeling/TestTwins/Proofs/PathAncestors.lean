import Mathlib.Data.List.DropRight
import TestTwins.Proofs.DiskTrees

namespace TestTwins

namespace Path

def ofPieces (absolute : Bool) (pieces : List String) : Path :=
  ⟨(if absolute then "/" else "") ++ String.intercalate "/" pieces⟩

theorem splitSlash_intercalate {pieces : List String} (hne : pieces ≠ [])
    (h : ∀ piece ∈ pieces, '/' ∉ piece.toList) :
    (splitSlash (String.intercalate "/" pieces).toList).map String.ofList = pieces := by
  induction pieces with
  | nil => exact absurd rfl hne
  | cons first rest ih =>
    obtain ⟨hfirst, hrest⟩ := List.forall_mem_cons.1 h
    cases rest with
    | nil => simp [splitSlash_of_notMem hfirst]
    | cons second rest =>
      have hjoined : (String.intercalate "/" (first :: second :: rest)).toList =
          first.toList ++ '/' :: (String.intercalate "/" (second :: rest)).toList := by
        simp [String.intercalate_cons_cons]
      rw [hjoined, splitSlash_append, List.map_append, ih (List.cons_ne_nil _ _) hrest,
        splitSlash_of_notMem hfirst]
      simp

theorem head?_intercalate {first : String} (hfirst : first ≠ "") (rest : List String) :
    (String.intercalate "/" (first :: rest)).toList.head? = first.toList.head? := by
  have hne : first.toList ≠ [] := by simpa using hfirst
  cases rest with
  | nil => simp
  | cons second rest =>
    rw [String.intercalate_cons_cons, String.toList_append, String.toList_append, List.append_assoc,
      List.head?_append_of_ne_nil _ hne]

section Pieces

variable {absolute : Bool} {pieces : List String} (hslash : ∀ piece ∈ pieces, '/' ∉ piece.toList)
  (hfirst : absolute = false → ∀ first ∈ pieces.head?, first ≠ "")

include hslash hfirst

theorem isAbsolute_ofPieces : (ofPieces absolute pieces).isAbsolute = absolute := by
  cases absolute with
  | true => simp [ofPieces, isAbsolute]
  | false =>
    cases pieces with
    | nil => rfl
    | cons first rest =>
      have hne : first ≠ "" := hfirst rfl first rfl
      have hhead : first.toList.head? ≠ some '/' := fun hhead =>
        hslash first List.mem_cons_self (List.mem_of_mem_head? hhead)
      have htext : (ofPieces false (first :: rest)).text.toList.head? = first.toList.head? := by
        rw [ofPieces, if_neg Bool.false_ne_true, String.empty_append, head?_intercalate hne]
      rw [isAbsolute, htext]
      exact beq_eq_false_iff_ne.2 hhead

theorem pieces_ofPieces (hne : pieces ≠ []) : (ofPieces absolute pieces).pieces = pieces := by
  have hsplit := splitSlash_intercalate hne hslash
  rw [Path.pieces, isAbsolute_ofPieces hslash hfirst]
  cases absolute with
  | true => simpa [ofPieces] using hsplit
  | false => simpa [ofPieces] using hsplit

end Pieces

def markPieces (front : Bool) : List String → List (String × Bool)
  | [] => []
  | first :: rest => (first, counts front first) :: rest.map fun s => (s, counts false s)

theorem marked_eq (p : Path) : p.marked = markPieces (!p.isAbsolute) p.pieces := by
  rw [marked]
  cases p.pieces <;> rfl

theorem map_fst_marked (p : Path) : p.marked.map (·.1) = p.pieces := by
  rw [marked_eq]
  cases p.pieces with
  | nil => rfl
  | cons first rest => simp [markPieces, Function.comp_def]

theorem markPieces_of_isPrefix {front : Bool} {pieces : List String} {kept : List (String × Bool)}
    (h : kept <+: markPieces front pieces) : markPieces front (kept.map (·.1)) = kept := by
  cases pieces with
  | nil =>
    obtain rfl := List.prefix_nil.1 h
    rfl
  | cons first rest =>
    cases kept with
    | nil => rfl
    | cons mark kept =>
      obtain ⟨rfl, hkept⟩ := List.cons_prefix_cons.1 h
      obtain ⟨some, -, rfl⟩ := List.prefix_map_iff.1 hkept
      simp [markPieces, Function.comp_def]

def trim (marks : List (String × Bool)) : List (String × Bool) := marks.rdropWhile (!·.2)

theorem trim_concat (marks : List (String × Bool)) (mark : String × Bool) :
    trim (marks ++ [mark]) = if mark.2 then marks ++ [mark] else trim marks := by
  rw [trim]
  split
  · rename_i hmark
    exact List.rdropWhile_concat_neg _ _ _ (by simp [hmark])
  · rename_i hmark
    exact List.rdropWhile_concat_pos _ _ _ (by simp [hmark])

theorem filter_trim (marks : List (String × Bool)) : (trim marks).filter (·.2) = marks.filter (·.2) := by
  induction marks using List.reverseRecOn with
  | nil => rfl
  | append_singleton marks mark ih =>
    rw [trim_concat]
    split
    · rfl
    · rename_i hmark
      simp [ih, hmark]

theorem trim_eq_nil_or_concat (marks : List (String × Bool)) :
    trim marks = [] ∨ ∃ front last, trim marks = front ++ [last] ∧ last.2 := by
  induction marks using List.reverseRecOn with
  | nil => exact .inl rfl
  | append_singleton marks mark ih =>
    rw [trim_concat]
    split
    · rename_i hmark
      exact .inr ⟨marks, mark, rfl, hmark⟩
    · exact ih

theorem parent?_eq (p : Path) :
    (trim p.marked = [] ∧ p.parent? = none) ∨
      ∃ front last, trim p.marked = front ++ [last] ∧ last.2 ∧
        p.parent? = some (ofPieces p.isAbsolute ((trim front).map (·.1))) := by
  have hreverse : p.marked.reverse.dropWhile (!·.2) = (trim p.marked).reverse := by
    rw [trim, List.rdropWhile, List.reverse_reverse]
  rcases trim_eq_nil_or_concat p.marked with hnil | ⟨front, last, hlast, hcounts⟩
  · left
    refine ⟨hnil, ?_⟩
    rw [parent?, hreverse, hnil]
    rfl
  · right
    refine ⟨front, last, hlast, hcounts, ?_⟩
    rw [parent?, hreverse, hlast, List.reverse_append]
    rfl

theorem names_eq_filter_trim (p : Path) : p.names = ((trim p.marked).filter (·.2)).map (·.1) := by
  rw [filter_trim, names]

theorem parent?_eq_none_iff {p : Path} : p.parent? = none ↔ p.names = [] := by
  rcases parent?_eq p with ⟨htrim, hparent⟩ | ⟨front, last, htrim, hlast, hparent⟩
  · simp [hparent, names_eq_filter_trim, htrim]
  · simp [hparent, names_eq_filter_trim, htrim, hlast]

theorem head_pieces_ne_empty {p : Path} (hrelative : p.isAbsolute = false) (htext : p.text ≠ "") :
    ∀ first ∈ p.pieces.head?, first ≠ "" := by
  intro first hfirst
  obtain ⟨c, cs, hcs⟩ := List.exists_cons_of_ne_nil (show p.text.toList ≠ [] by simpa using htext)
  have hc : c ≠ '/' := by simpa [isAbsolute, hcs] using hrelative
  obtain ⟨piece, pieces, -, hsplit⟩ := splitSlash_cons hc cs
  have hpieces : p.pieces = String.ofList (c :: piece) :: pieces.map String.ofList := by
    simp [Path.pieces, hrelative, hcs, hsplit]
  rw [hpieces, List.head?_cons, Option.mem_some_iff] at hfirst
  simp [← hfirst]

theorem names_of_parent? {p q : Path} (h : p.parent? = some q) :
    q.isAbsolute = p.isAbsolute ∧ q.names = p.names.dropLast := by
  rcases parent?_eq p with ⟨htrim, hparent⟩ | ⟨front, last, htrim, hlast, hparent⟩
  · rw [hparent] at h
    cases h
  rw [hparent] at h
  obtain rfl := Option.some.inj h
  have hnames : p.names = (front.filter (·.2)).map (·.1) ++ [last.1] := by
    simp [names_eq_filter_trim, htrim, hlast]
  have hkept : trim front <+: p.marked :=
    (List.rdropWhile_prefix _ front).trans ((List.prefix_append front [last]).trans
      (htrim ▸ List.rdropWhile_prefix _ p.marked))
  have hpieces : (trim front).map (·.1) <+: p.pieces := by
    rw [← map_fst_marked]
    exact hkept.map _
  have hslash : ∀ piece ∈ (trim front).map (·.1), '/' ∉ piece.toList := by
    intro piece hpiece
    obtain ⟨cs, hcs, rfl⟩ := List.mem_map.1 (hpieces.subset hpiece)
    simpa using notMem_of_mem_splitSlash hcs
  have hfirst : p.isAbsolute = false → ∀ first ∈ ((trim front).map (·.1)).head?, first ≠ "" := by
    intro hrelative first hmem
    have htext : p.text ≠ "" := by
      intro htext
      rw [show p = ⟨""⟩ from congrArg Path.mk htext, show names ⟨""⟩ = [] from rfl] at hnames
      simp at hnames
    obtain ⟨rest, hrest⟩ := hpieces
    exact head_pieces_ne_empty hrelative htext first (by rw [← hrest, List.head?_append, hmem]; rfl)
  refine ⟨isAbsolute_ofPieces hslash hfirst, ?_⟩
  rw [hnames, List.dropLast_concat]
  by_cases hne : trim front = []
  · rw [hne, ← filter_trim, hne]
    cases p.isAbsolute <;> rfl
  · rw [names, marked_eq, isAbsolute_ofPieces hslash hfirst,
      pieces_ofPieces hslash hfirst (by simpa using hne), markPieces_of_isPrefix (marked_eq p ▸ hkept),
      filter_trim]

theorem eq_of_parent?_of_names_eq_nil {p q : Path} (h : p.parent? = some q) (hnames : q.names = []) :
    q = ofPieces q.isAbsolute [] := by
  have hq := names_of_parent? h
  rcases parent?_eq p with ⟨htrim, hparent⟩ | ⟨front, last, htrim, hlast, hparent⟩
  · rw [hparent] at h
    cases h
  have hfront : front.filter (·.2) = [] := by
    rw [hnames, names_eq_filter_trim, htrim] at hq
    simpa [hlast] using hq.2.symm
  have htop : trim front = [] := by
    rcases trim_eq_nil_or_concat front with hnil | ⟨before, mark, hmark, hcounts⟩
    · exact hnil
    · rw [← filter_trim, hmark] at hfront
      simp [hcounts] at hfront
  rw [hparent, htop] at h
  rw [hq.1]
  exact (Option.some.inj h).symm

section Ancestors

variable {p q : Path}

theorem ancestors_of_parent?_eq_none (h : p.parent? = none) : p.ancestors = [] := by
  rw [ancestors, parent?_eq_none_iff.1 h]
  rfl

theorem ancestors_of_parent? (h : p.parent? = some q) : p.ancestors = q :: q.ancestors := by
  have hne : p.names ≠ [] := by
    intro hnil
    rw [parent?_eq_none_iff.2 hnil] at h
    cases h
  have hlength : p.names.length = q.names.length + 1 := by
    have hpos := List.length_pos_iff.2 hne
    rw [(names_of_parent? h).2, List.length_dropLast]
    omega
  rw [ancestors, hlength, ancestors.go, h]
  rfl

theorem forall_mem_ancestors {motive : Path → Prop}
    (step : ∀ p q, motive p → p.parent? = some q → motive q) (hp : motive p) :
    ∀ q ∈ p.ancestors, motive q := by
  intro q hq
  induction hn : p.names.length generalizing p with
  | zero =>
    have htop : p.parent? = none := parent?_eq_none_iff.2 (List.length_eq_zero_iff.1 hn)
    rw [ancestors_of_parent?_eq_none htop] at hq
    cases hq
  | succ n ih =>
    cases hparent : p.parent? with
    | none =>
      rw [ancestors_of_parent?_eq_none hparent] at hq
      cases hq
    | some r =>
      rw [ancestors_of_parent? hparent] at hq
      have hr : motive r := step p r hp hparent
      have hlength : r.names.length = n := by
        rw [(names_of_parent? hparent).2, List.length_dropLast, hn]
        rfl
      rcases List.mem_cons.1 hq with rfl | hq
      · exact hr
      · exact ih hr hq hlength

theorem names_of_mem_ancestors (h : q ∈ p.ancestors) :
    q.isAbsolute = p.isAbsolute ∧ q.names <+: p.names := by
  refine forall_mem_ancestors (motive := fun q => q.isAbsolute = p.isAbsolute ∧ q.names <+: p.names)
    (fun r s hr hs => ?_) ⟨rfl, List.prefix_rfl⟩ q h
  obtain ⟨habsolute, hnames⟩ := names_of_parent? hs
  exact ⟨habsolute.trans hr.1, hnames ▸ (List.dropLast_prefix _).trans hr.2⟩

theorem exists_parent?_of_mem_ancestors (h : q ∈ p.ancestors) :
    ∃ r : Path, r.parent? = some q := by
  cases hparent : p.parent? with
  | none =>
    rw [ancestors_of_parent?_eq_none hparent] at h
    cases h
  | some r =>
    rw [ancestors_of_parent? hparent] at h
    rcases List.mem_cons.1 h with rfl | h
    · exact ⟨p, hparent⟩
    · exact forall_mem_ancestors (motive := fun q => ∃ r : Path, r.parent? = some q)
        (fun s q _ hq => ⟨s, hq⟩) ⟨p, hparent⟩ q h

end Ancestors

instance : DecidablePred IsName := fun name =>
  decidable_of_iff (name ≠ "" ∧ name ≠ "." ∧ name ≠ ".." ∧ '/' ∉ name.toList)
    ⟨fun ⟨h, hdot, hdots, hslash⟩ => ⟨h, hdot, hdots, hslash⟩, fun ⟨h, hdot, hdots, hslash⟩ =>
      ⟨h, hdot, hdots, hslash⟩⟩

/-- A path written without detours: names only, and one separator between two of them. -/
structure IsPlain (p : Path) : Prop where
  eq_ofPieces : p = ofPieces p.isAbsolute p.names
  isName : ∀ name ∈ p.names, IsName name

section Plain

variable {absolute : Bool} {names : List String}

theorem names_ofPieces (absolute : Bool) (h : ∀ name ∈ names, IsName name) :
    (ofPieces absolute names).isAbsolute = absolute ∧ (ofPieces absolute names).names = names := by
  have hslash : ∀ name ∈ names, '/' ∉ name.toList := fun name hname => (h name hname).no_slash
  have hfirst : absolute = false → ∀ first ∈ names.head?, first ≠ "" := fun _ first hmem =>
    (h first (List.mem_of_mem_head? hmem)).ne_empty
  refine ⟨isAbsolute_ofPieces hslash hfirst, ?_⟩
  cases names with
  | nil => cases absolute <;> rfl
  | cons first rest =>
    obtain ⟨hname, hrest⟩ := List.forall_mem_cons.1 h
    have hall : rest.filter (counts false) = rest :=
      List.filter_eq_self.2 fun name hmem => counts_of_isName (hrest name hmem) false
    rw [names_eq, pieces_ofPieces hslash hfirst (List.cons_ne_nil _ _), namesOf, hall,
      if_pos (counts_of_isName hname _)]
    rfl

theorem isPlain_ofPieces (h : ∀ name ∈ names, IsName name) : (ofPieces absolute names).IsPlain := by
  obtain ⟨habsolute, hnames⟩ := names_ofPieces absolute h
  exact ⟨by rw [habsolute, hnames], by rwa [hnames]⟩

end Plain

namespace IsPlain

variable {p q : Path}

theorem pieces_eq (h : p.IsPlain) (hne : p.names ≠ []) : p.pieces = p.names := by
  rw [h.eq_ofPieces, (names_ofPieces _ h.isName).2]
  exact pieces_ofPieces (fun name hname => (h.isName name hname).no_slash)
    (fun _ first hmem => (h.isName first (List.mem_of_mem_head? hmem)).ne_empty) hne

theorem counts_of_mem_marked (h : p.IsPlain) (hne : p.names ≠ []) : ∀ mark ∈ p.marked, mark.2 := by
  rw [marked_eq, h.pieces_eq hne]
  have hisName := h.isName
  generalize p.names = names at hisName
  intro mark hmark
  cases names with
  | nil => cases hmark
  | cons first rest =>
    rcases List.mem_cons.1 hmark with rfl | hmark
    · exact counts_of_isName (hisName first List.mem_cons_self) _
    · obtain ⟨name, hname, rfl⟩ := List.mem_map.1 hmark
      exact counts_of_isName (hisName name (List.mem_cons_of_mem first hname)) _

protected theorem parent? (h : p.IsPlain) (hq : p.parent? = some q) : q.IsPlain := by
  have hne : p.names ≠ [] := by
    intro hnil
    rw [parent?_eq_none_iff.2 hnil] at hq
    cases hq
  have htrim : ∀ marks, (∀ mark ∈ marks, mark.2) → trim marks = marks := by
    intro marks hmarks
    rcases List.eq_nil_or_concat' marks with rfl | ⟨front, last, rfl⟩
    · rfl
    · rw [trim_concat, if_pos (hmarks last (by simp))]
  have hmarks := h.counts_of_mem_marked hne
  rcases parent?_eq p with ⟨-, hparent⟩ | ⟨front, last, hmarked, -, hparent⟩
  · rw [hparent] at hq
    cases hq
  rw [htrim _ hmarks] at hmarked
  rw [hparent, htrim front fun mark hmark => hmarks mark (by simp [hmarked, hmark])] at hq
  obtain rfl := Option.some.inj hq
  refine isPlain_ofPieces fun name hname => h.isName name ?_
  rw [← h.pieces_eq hne, ← map_fst_marked, hmarked]
  exact List.map_subset _ (List.subset_append_left front [last]) hname

theorem of_mem_ancestors (h : p.IsPlain) (hq : q ∈ p.ancestors) : q.IsPlain :=
  forall_mem_ancestors (fun _ _ hr hs => hr.parent? hs) h q hq

protected theorem join (h : p.IsPlain) {name : String} (hname : IsName name) : (p.join name).IsPlain := by
  suffices hjoin : p.join name = ofPieces p.isAbsolute (p.names ++ [name]) by
    rw [hjoin]
    exact isPlain_ofPieces (by simpa [or_imp, forall_and, hname] using h.isName)
  by_cases hnil : p.names = []
  · have hhead : (name.toList.head? == some '/') = false := isAbsolute_name hname
    have htop : p = ofPieces p.isAbsolute [] := hnil ▸ h.eq_ofPieces
    rw [hnil]
    cases habsolute : p.isAbsolute with
    | true =>
      rw [habsolute] at htop
      rw [htop]
      simp [join, ofPieces, hhead]
    | false =>
      rw [habsolute] at htop
      rw [htop]
      simp [join, ofPieces, hhead]
  · have hpieces : "" ∉ p.pieces := by
      rw [h.pieces_eq hnil]
      exact fun hmem => (h.isName "" hmem).ne_empty rfl
    rcases join_cases hname p with ⟨rfl, -⟩ | ⟨cs, rfl, -⟩ | ⟨cs, -, hp, hjoin⟩
    · exact absurd rfl hnil
    · cases cs with
      | nil => exact absurd rfl hnil
      | cons c cs =>
        rw [pieces_append (List.cons_ne_nil c cs)] at hpieces
        exact absurd (List.mem_append_right _ (List.mem_singleton.2 rfl)) hpieces
    · have htext : String.ofList cs = (ofPieces p.isAbsolute p.names).text := by
        rw [← h.eq_ofPieces, hp]
      rw [hjoin, ofPieces, String.intercalate_append_of_ne_nil hnil (List.cons_ne_nil name []),
        Path.mk.injEq, ← String.toList_inj]
      have hlist := congrArg String.toList htext
      simp only [ofPieces, String.toList_ofList, String.toList_append] at hlist
      simp [hlist]

end IsPlain

end Path

end TestTwins
