import Mathlib.Data.List.Basic
import TestTwins.Path

namespace TestTwins

namespace Path

structure IsName (name : String) : Prop where
  ne_empty : name ≠ ""
  ne_dot : name ≠ "."
  ne_dots : name ≠ ".."
  no_slash : '/' ∉ name.toList

theorem splitSlash_ne_nil (cs : List Char) : splitSlash cs ≠ [] := by
  fun_cases splitSlash cs <;> simp_all

theorem splitSlash_cons {c : Char} (h : c ≠ '/') (cs : List Char) :
    ∃ piece pieces, splitSlash cs = piece :: pieces ∧ splitSlash (c :: cs) = (c :: piece) :: pieces := by
  obtain ⟨piece, pieces, hcs⟩ := List.exists_cons_of_ne_nil (splitSlash_ne_nil cs)
  refine ⟨piece, pieces, hcs, ?_⟩
  rw [splitSlash, hcs]
  rintro rfl
  exact h rfl

theorem splitSlash_of_notMem {cs : List Char} (h : '/' ∉ cs) : splitSlash cs = [cs] := by
  induction cs with
  | nil => rfl
  | cons c cs ih =>
    obtain ⟨hc, hcs⟩ : '/' ≠ c ∧ '/' ∉ cs := by simpa using h
    obtain ⟨piece, pieces, hsplit, hcons⟩ := splitSlash_cons hc.symm cs
    rw [ih hcs] at hsplit
    cases hsplit
    exact hcons

theorem splitSlash_append (a b : List Char) :
    splitSlash (a ++ '/' :: b) = splitSlash a ++ splitSlash b := by
  induction a with
  | nil => rfl
  | cons c a ih =>
    by_cases hc : c = '/'
    · subst hc
      exact congrArg ([] :: ·) ih
    · obtain ⟨piece, pieces, hsplit, hcons⟩ := splitSlash_cons hc a
      obtain ⟨piece', pieces', hsplit', hcons'⟩ := splitSlash_cons hc (a ++ '/' :: b)
      rw [ih, hsplit] at hsplit'
      cases hsplit'
      rw [List.cons_append, hcons', hcons]
      rfl

def namesOf (front : Bool) : List String → List String
  | [] => []
  | first :: rest => (if counts front first then [first] else []) ++ rest.filter (counts false)

theorem names_eq (p : Path) : p.names = namesOf (!p.isAbsolute) p.pieces := by
  rw [names, marked]
  cases p.pieces with
  | nil => rfl
  | cons first rest =>
    have hrest : ((rest.map fun s => (s, counts false s)).filter (·.2)).map (·.1) =
        rest.filter (counts false) := by
      rw [List.filter_map, List.map_map]
      exact List.map_id _
    simp only [namesOf, List.filter_cons]
    split
    · rw [List.map_cons, hrest]
      rfl
    · rw [hrest]
      rfl

theorem namesOf_append {front : Bool} {pieces : List String} (h : pieces ≠ []) (more : List String) :
    namesOf front (pieces ++ more) = namesOf front pieces ++ more.filter (counts false) := by
  cases pieces with
  | nil => exact absurd rfl h
  | cons first rest => simp [namesOf]

theorem counts_of_isName {name : String} (h : IsName name) (front : Bool) : counts front name := by
  simp [counts, h.ne_empty, h.ne_dot]

theorem isAbsolute_append {cs : List Char} (h : cs ≠ []) (more : List Char) :
    isAbsolute ⟨String.ofList (cs ++ more)⟩ = isAbsolute ⟨String.ofList cs⟩ := by
  simp only [isAbsolute, String.toList_ofList, List.head?_append_of_ne_nil cs h]

theorem pieces_append {cs : List Char} (h : cs ≠ []) (more : List Char) :
    pieces ⟨String.ofList (cs ++ '/' :: more)⟩ =
      pieces ⟨String.ofList cs⟩ ++ (splitSlash more).map String.ofList := by
  simp only [pieces, isAbsolute_append h, String.toList_ofList]
  split
  · rw [List.drop_append_of_le_length (List.length_pos_iff.2 h), splitSlash_append, List.map_append]
  · rw [splitSlash_append, List.map_append]

theorem names_append {cs : List Char} (h : cs ≠ []) (more : List Char) :
    names ⟨String.ofList (cs ++ '/' :: more)⟩ =
      names ⟨String.ofList cs⟩ ++ ((splitSlash more).map String.ofList).filter (counts false) := by
  have hpieces : pieces ⟨String.ofList cs⟩ ≠ [] := by
    simp only [pieces, ne_eq, List.map_eq_nil_iff]
    exact splitSlash_ne_nil _
  rw [names_eq, pieces_append h, isAbsolute_append h, namesOf_append hpieces, ← names_eq]

theorem join_cases {name : String} (h : IsName name) (p : Path) :
    (p = ⟨""⟩ ∧ p.join name = ⟨name⟩) ∨
      (∃ cs, p = ⟨String.ofList (cs ++ ['/'])⟩ ∧
        p.join name = ⟨String.ofList (cs ++ '/' :: name.toList)⟩) ∨
      (∃ cs, cs ≠ [] ∧ p = ⟨String.ofList cs⟩ ∧
        p.join name = ⟨String.ofList (cs ++ '/' :: name.toList)⟩) := by
  have hhead : (name.toList.head? == some '/') = false := by
    rw [beq_eq_false_iff_ne]
    intro hslash
    exact h.no_slash (List.mem_of_mem_head? hslash)
  obtain ⟨text⟩ := p
  simp only [join, hhead, Bool.false_eq_true, if_false]
  by_cases hempty : text = ""
  · subst hempty
    left
    simp
  right
  by_cases hlast : text.toList.getLast? = some '/'
  · left
    obtain ⟨cs, hcs⟩ := List.getLast?_eq_some_iff.1 hlast
    have htext : text = String.ofList (cs ++ ['/']) := by rw [← hcs, String.ofList_toList]
    refine ⟨cs, by rw [htext], ?_⟩
    rw [if_pos (by simp [hlast]), Path.mk.injEq, ← String.toList_inj]
    simp [htext]
  · right
    refine ⟨text.toList, by simpa using hempty, by simp, ?_⟩
    rw [if_neg (by simp [hempty, hlast]), Path.mk.injEq, ← String.toList_inj]
    simp

theorem splitSlash_name {name : String} (h : IsName name) :
    (splitSlash name.toList).map String.ofList = [name] := by
  rw [splitSlash_of_notMem h.no_slash, List.map_singleton, String.ofList_toList]

theorem isAbsolute_name {name : String} (h : IsName name) : isAbsolute ⟨name⟩ = false := by
  rw [isAbsolute, beq_eq_false_iff_ne]
  exact fun hslash => h.no_slash (List.mem_of_mem_head? hslash)

theorem isAbsolute_join {name : String} (h : IsName name) (p : Path) :
    (p.join name).isAbsolute = p.isAbsolute := by
  rcases join_cases h p with ⟨hp, hjoin⟩ | ⟨cs, hp, hjoin⟩ | ⟨cs, hcs, hp, hjoin⟩
  · rw [hjoin, hp, isAbsolute_name h]
    rfl
  · rw [hjoin, hp]
    cases cs with
    | nil => simp [isAbsolute]
    | cons c cs =>
      rw [isAbsolute_append (List.cons_ne_nil c cs), isAbsolute_append (List.cons_ne_nil c cs)]
  · rw [hjoin, hp, isAbsolute_append hcs]

theorem names_join {name : String} (h : IsName name) (p : Path) :
    (p.join name).names = p.names ++ [name] := by
  have hcounts : ∀ front, [name].filter (counts front) = [name] := fun front =>
    List.filter_eq_self.2 (by simpa using counts_of_isName h front)
  have hblank : [""].filter (counts false) = [] := rfl
  rcases join_cases h p with ⟨hp, hjoin⟩ | ⟨cs, hp, hjoin⟩ | ⟨cs, hcs, hp, hjoin⟩
  · have hpieces : pieces ⟨name⟩ = [name] := by
      rw [pieces, isAbsolute_name h]
      exact splitSlash_name h
    rw [hjoin, hp, names_eq, hpieces]
    simp only [namesOf, counts_of_isName h, if_true]
    rfl
  · rw [hjoin, hp]
    cases cs with
    | nil =>
      have hpieces : pieces ⟨String.ofList ('/' :: name.toList)⟩ = [name] := by
        simp [pieces, isAbsolute, splitSlash_name h]
      rw [List.nil_append, List.nil_append, names_eq, hpieces]
      simp only [namesOf, counts_of_isName h, if_true]
      rfl
    | cons c cs =>
      rw [names_append (List.cons_ne_nil c cs), names_append (List.cons_ne_nil c cs), splitSlash_name h,
        hcounts, List.append_assoc]
      rfl
  · rw [hjoin, hp, names_append hcs, splitSlash_name h, hcounts]

theorem isEmpty_join {name : String} (h : IsName name) (p : Path) : (p.join name).isEmpty = false := by
  have hnames := names_join h p
  cases hjoin : p.join name with
  | mk text =>
    rw [isEmpty, beq_eq_false_iff_ne]
    rintro rfl
    rw [hjoin, show names ⟨""⟩ = [] from rfl] at hnames
    simp at hnames

def IsChild (p parent : Path) : Prop :=
  p.isAbsolute = parent.isAbsolute ∧ ∃ name, IsName name ∧ p.names = parent.names ++ [name]

theorem isChild_join {name : String} (h : IsName name) (p : Path) : (p.join name).IsChild p :=
  ⟨isAbsolute_join h p, name, h, names_join h p⟩

end Path

end TestTwins
