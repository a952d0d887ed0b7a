import Mathlib.Data.Nat.Notation

/-! Numerals without a zero: the digit `d` counts `d + 1`, so that every number has one numeral. -/

namespace Library

/-- The numeral of the number `n`, counted from zero, the last digit at the end. -/
def numeral (base n : ℕ) : List ℕ :=
  if _h : n / base = 0 then [n % base] else numeral base (n / base - 1) ++ [n % base]
termination_by n
decreasing_by exact Nat.lt_of_lt_of_le (Nat.sub_one_lt _h) (Nat.div_le_self n base)

/-- What a numeral counts; the numeral of `n` counts `n + 1`. -/
def numeralValue (base : ℕ) (digits : List ℕ) : ℕ :=
  digits.foldl (fun value digit => base * value + digit + 1) 0

theorem numeralValue_append_singleton (base : ℕ) (digits : List ℕ) (digit : ℕ) :
    numeralValue base (digits ++ [digit]) = base * numeralValue base digits + digit + 1 := by
  unfold numeralValue
  rw [List.foldl_append, List.foldl_cons, List.foldl_nil]

theorem numeralValue_numeral (base n : ℕ) : numeralValue base (numeral base n) = n + 1 := by
  induction n using Nat.strongRecOn with
  | ind n ih =>
    have hdivide : base * (n / base) + n % base = n := Nat.div_add_mod n base
    unfold numeral
    split
    · next hlast =>
      rw [hlast, Nat.mul_zero, Nat.zero_add] at hdivide
      rw [hdivide]
      simp [numeralValue]
    · next hmore =>
      have hrest := ih (n / base - 1) (Nat.lt_of_lt_of_le (Nat.sub_one_lt hmore) (Nat.div_le_self n base))
      rw [numeralValue_append_singleton, hrest, Nat.sub_add_cancel (Nat.pos_of_ne_zero hmore), hdivide]

theorem lt_of_mem_numeral {base n digit : ℕ} (hbase : 0 < base) (h : digit ∈ numeral base n) :
    digit < base := by
  induction n using Nat.strongRecOn with
  | ind n ih =>
    have hlast : n % base < base := Nat.mod_lt n hbase
    unfold numeral at h
    split at h
    · rw [List.mem_singleton] at h
      omega
    · next hmore =>
      have hless : n / base - 1 < n := Nat.lt_of_lt_of_le (Nat.sub_one_lt hmore) (Nat.div_le_self n base)
      rcases List.mem_append.mp h with hrest | hdigit
      · exact ih (n / base - 1) hless hrest
      · rw [List.mem_singleton] at hdigit
        omega

end Library
