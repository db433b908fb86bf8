namespace TestTwins.Digit

def value? (c : Char) : Option Nat :=
  if c.isDigit then some (c.toNat - '0'.toNat)
  else if 'a' ≤ c && c ≤ 'f' then some (c.toNat - 'a'.toNat + 10)
  else if 'A' ≤ c && c ≤ 'F' then some (c.toNat - 'A'.toNat + 10)
  else none

def ofBase (base : Nat) (ds : List Char) : Nat :=
  ds.foldl (fun n c => base * n + (value? c).getD 0) 0

theorem value?_digitChar : ∀ n < 16, value? (Nat.digitChar n) = some n := by decide

theorem value?_toUpper_digitChar : ∀ n < 16, value? (Nat.digitChar n).toUpper = some n := by decide

theorem ofBase_concat (base : Nat) (ds : List Char) (c : Char) :
    ofBase base (ds ++ [c]) = base * ofBase base ds + (value? c).getD 0 := by
  rw [ofBase, List.foldl_append]
  rfl

theorem ofBase_toDigits (n : Nat) : ofBase 16 (Nat.toDigits 16 n) = n := by
  induction n using Nat.strongRecOn with
  | _ n ih =>
    by_cases hn : n < 16
    · rw [Nat.toDigits_of_lt_base hn, ← List.nil_append [n.digitChar], ofBase_concat,
        value?_digitChar n hn]
      simp [ofBase]
    · rw [Nat.toDigits_of_base_le (by decide) (by omega), ofBase_concat,
        value?_digitChar _ (Nat.mod_lt _ (by decide)), ih _ (by omega), Option.getD_some, Nat.div_add_mod]

end TestTwins.Digit
