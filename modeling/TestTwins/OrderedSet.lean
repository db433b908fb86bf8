namespace TestTwins

def insertAscending [LT α] [DecidableLT α] (a : α) : List α → List α
  | [] => [a]
  | b :: rest =>
    if a < b then a :: b :: rest
    else if b < a then b :: insertAscending a rest
    else b :: rest

structure OrderedSet (α : Type) [LT α] where
  toList : List α
  ascending : toList.Pairwise (· < ·)

section

variable {α : Type} [LE α] [LT α] [DecidableLT α] [Std.IsLinearOrder α] [Std.LawfulOrderLT α]

theorem mem_insertAscending {a b : α} {xs : List α} :
    b ∈ insertAscending a xs ↔ b = a ∨ b ∈ xs := by
  induction xs with
  | nil => simp [insertAscending]
  | cons c rest ih =>
    simp only [insertAscending]
    split
    · simp
    · split
      · simp only [List.mem_cons, ih]
        constructor <;> rintro (h | h | h) <;> simp [h]
      · rename_i hac hca
        have : a = c := Std.le_antisymm (Std.not_lt.1 hca) (Std.not_lt.1 hac)
        simp [this]

theorem pairwise_insertAscending (a : α) {xs : List α} (h : xs.Pairwise (· < ·)) :
    (insertAscending a xs).Pairwise (· < ·) := by
  induction xs with
  | nil => simp [insertAscending]
  | cons c rest ih =>
    obtain ⟨hc, hrest⟩ := List.pairwise_cons.1 h
    simp only [insertAscending]
    split
    · rename_i hac
      refine List.pairwise_cons.2 ⟨?_, h⟩
      intro b hb
      rcases List.mem_cons.1 hb with rfl | hb
      · exact hac
      · exact Std.lt_trans hac (hc b hb)
    · split
      · rename_i hca
        refine List.pairwise_cons.2 ⟨?_, ih hrest⟩
        intro b hb
        rcases mem_insertAscending.1 hb with rfl | hb
        · exact hca
        · exact hc b hb
      · exact h

namespace OrderedSet

def empty : OrderedSet α := ⟨[], .nil⟩

instance : Inhabited (OrderedSet α) := ⟨empty⟩

def insert (s : OrderedSet α) (a : α) : OrderedSet α :=
  ⟨insertAscending a s.toList, pairwise_insertAscending a s.ascending⟩

def ofList (xs : List α) : OrderedSet α := xs.foldr (fun a s => s.insert a) empty

def size (s : OrderedSet α) : Nat := s.toList.length

def isEmpty (s : OrderedSet α) : Bool := s.toList.isEmpty

instance : Membership α (OrderedSet α) := ⟨fun s a => a ∈ s.toList⟩

instance [DecidableEq α] (a : α) (s : OrderedSet α) : Decidable (a ∈ s) :=
  inferInstanceAs (Decidable (a ∈ s.toList))

def filter (p : α → Bool) (s : OrderedSet α) : OrderedSet α :=
  ⟨s.toList.filter p, s.ascending.filter p⟩

def union (s t : OrderedSet α) : OrderedSet α := ofList (s.toList ++ t.toList)

def inter [DecidableEq α] (s t : OrderedSet α) : OrderedSet α := s.filter (· ∈ t)

def sdiff [DecidableEq α] (s t : OrderedSet α) : OrderedSet α := s.filter (· ∉ t)

instance [DecidableEq α] : DecidableEq (OrderedSet α) := fun s t =>
  if h : s.toList = t.toList then
    isTrue (by cases s; cases t; cases h; rfl)
  else isFalse (fun e => h (e ▸ rfl))

omit [LE α] [DecidableLT α] [Std.IsLinearOrder α] [Std.LawfulOrderLT α] in
@[ext] theorem ext {s t : OrderedSet α} (h : s.toList = t.toList) : s = t := by
  cases s; cases t; cases h; rfl

omit [LE α] [DecidableLT α] [Std.IsLinearOrder α] [Std.LawfulOrderLT α] in
@[simp] theorem mem_empty (a : α) : ¬ a ∈ (empty : OrderedSet α) := List.not_mem_nil

@[simp] theorem mem_insert {a b : α} {s : OrderedSet α} : b ∈ s.insert a ↔ b = a ∨ b ∈ s :=
  mem_insertAscending

@[simp] theorem mem_ofList {a : α} {xs : List α} : a ∈ ofList xs ↔ a ∈ xs := by
  induction xs with
  | nil => exact iff_of_false (mem_empty a) List.not_mem_nil
  | cons b rest ih =>
    show a ∈ (ofList rest).insert b ↔ _
    rw [mem_insert, ih, List.mem_cons]

end OrderedSet

end

abbrev LineSet := OrderedSet Nat

abbrev TokenSet := OrderedSet String

end TestTwins
