namespace TestTwins

structure Table (κ ν : Type) where
  entries : List (κ × ν)

namespace Table

variable {κ ν : Type} [DecidableEq κ]

def empty : Table κ ν := ⟨[]⟩

instance : Inhabited (Table κ ν) := ⟨empty⟩

def putEntry (key : κ) (value : ν) : List (κ × ν) → List (κ × ν)
  | [] => [(key, value)]
  | (k, v) :: rest => if k = key then (key, value) :: rest else (k, v) :: putEntry key value rest

def insert (t : Table κ ν) (key : κ) (value : ν) : Table κ ν := ⟨putEntry key value t.entries⟩

def get? (t : Table κ ν) (key : κ) : Option ν := (t.entries.find? (·.1 = key)).map (·.2)

def erase (t : Table κ ν) (key : κ) : Table κ ν := ⟨t.entries.filter (·.1 ≠ key)⟩

def contains (t : Table κ ν) (key : κ) : Bool := (t.get? key).isSome

def keys (t : Table κ ν) : List κ := t.entries.map (·.1)

def values (t : Table κ ν) : List ν := t.entries.map (·.2)

def size (t : Table κ ν) : Nat := t.entries.length

def isEmpty (t : Table κ ν) : Bool := t.entries.isEmpty

def ofList (entries : List (κ × ν)) : Table κ ν :=
  entries.foldl (fun t (k, v) => t.insert k v) empty

@[simp] theorem get?_empty (key : κ) : (empty : Table κ ν).get? key = none := rfl

theorem get?_insert (t : Table κ ν) (key k : κ) (value : ν) :
    (t.insert key value).get? k = if key = k then some value else t.get? k := by
  obtain ⟨entries⟩ := t
  simp only [get?, insert]
  induction entries with
  | nil => by_cases h : key = k <;> simp [putEntry, h]
  | cons e rest ih =>
    obtain ⟨k', v'⟩ := e
    by_cases h : k' = key
    · subst h
      by_cases h' : k' = k <;> simp [putEntry, h']
    · by_cases h' : k' = k
      · subst h'
        have : key ≠ k' := fun e => h e.symm
        simp [putEntry, h, this]
      · simpa [putEntry, h, h', List.find?_cons] using ih

theorem keys_insert (t : Table κ ν) (key : κ) (value : ν) :
    (t.insert key value).keys = if key ∈ t.keys then t.keys else t.keys ++ [key] := by
  obtain ⟨entries⟩ := t
  simp only [keys, insert]
  induction entries with
  | nil => simp [putEntry]
  | cons e rest ih =>
    obtain ⟨k', v'⟩ := e
    by_cases h : k' = key
    · subst h
      simp [putEntry]
    · have h' : key ≠ k' := fun e => h e.symm
      by_cases hm : key ∈ rest.map (·.1)
      · simp only [putEntry, h, if_false, List.map_cons, ih, hm, if_true, List.mem_cons, or_true]
      · simp only [putEntry, h, if_false, List.map_cons, ih, hm, List.mem_cons, h', or_self,
          List.cons_append]

theorem get?_eq_none (t : Table κ ν) (key : κ) : t.get? key = none ↔ key ∉ t.keys := by
  simp only [get?, keys, Option.map_eq_none_iff, List.find?_eq_none, List.mem_map, not_exists, not_and,
    decide_eq_true_eq]

theorem size_insert (t : Table κ ν) (key : κ) (value : ν) :
    (t.insert key value).size = if key ∈ t.keys then t.size else t.size + 1 := by
  have hsize : ∀ u : Table κ ν, u.size = u.keys.length := fun u => (List.length_map _).symm
  rw [hsize, hsize, keys_insert]
  split <;> simp

end Table

end TestTwins
