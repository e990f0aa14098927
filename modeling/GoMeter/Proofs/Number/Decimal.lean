import GoMeter.Number.Decimal
import Mathlib.Tactic.IntervalCases

/-!
# Decimal numerals and their numbers

* `Decimal.value_digits`: the digits of a number spell it.
* `Decimal.length_digits_le`: how many there are at most.
* `Decimal.isDigit_of_mem_digits`, `Decimal.digits_ne_nil`, `Decimal.head?_digits_ne_zero`: a number is
  written with digits only, at least one of them, and without a leading zero.
-/

namespace GoMeter.Decimal

theorem digitValue_digitChar {d : Nat} (h : d < 10) : digitValue (digitChar d) = d := by
  interval_cases d <;> rfl

theorem isDigit_digitChar {d : Nat} (h : d < 10) : (digitChar d).isDigit = true := by
  interval_cases d <;> rfl

theorem digitChar_ne_zero {d : Nat} (hpos : 0 < d) (h : d < 10) : digitChar d ≠ '0' := by
  interval_cases d <;> decide

theorem digits_of_lt_ten {n : Nat} (h : n < 10) : digits n = [digitChar n] := by
  unfold digits
  rw [digitsBefore, if_pos h]

/-- The digits in front of a rest are the digits of the number. -/
theorem digitsBefore_eq (n : Nat) (rest : List Char) : digitsBefore n rest = digits n ++ rest := by
  induction n using Nat.strong_induction_on generalizing rest with
  | _ n ih =>
    rcases Nat.lt_or_ge n 10 with hlt | hge
    · rw [digitsBefore, if_pos hlt, digits_of_lt_ten hlt]
      rfl
    · have htens : n / 10 < n := by omega
      rw [digitsBefore, if_neg (by omega), ih _ htens, digits.eq_def n, digitsBefore,
        if_neg (by omega), ih _ htens, List.append_assoc]
      rfl

/-- The last digit of a number stands after the digits of its tens. -/
theorem digits_of_ten_le {n : Nat} (h : 10 ≤ n) :
    digits n = digits (n / 10) ++ [digitChar (n % 10)] := by
  rw [← digitsBefore_eq, digits, digitsBefore, if_neg (by omega)]

theorem value_append_singleton (cs : List Char) (c : Char) :
    value (cs ++ [c]) = value cs * 10 + digitValue c := by
  simp [value]

/-- The digits of a number spell it. -/
@[simp] theorem value_digits (n : Nat) : value (digits n) = n := by
  induction n using Nat.strong_induction_on with
  | _ n ih =>
    rcases Nat.lt_or_ge n 10 with hlt | hge
    · simp [digits_of_lt_ten hlt, value, digitValue_digitChar hlt]
    · rw [digits_of_ten_le hge, value_append_singleton, ih (n / 10) (by omega),
        digitValue_digitChar (by omega)]
      omega

theorem isDigit_of_mem_digits {n : Nat} {c : Char} (h : c ∈ digits n) : c.isDigit = true := by
  induction n using Nat.strong_induction_on with
  | _ n ih =>
    rcases Nat.lt_or_ge n 10 with hlt | hge
    · rw [digits_of_lt_ten hlt, List.mem_singleton] at h
      exact h ▸ isDigit_digitChar hlt
    · rw [digits_of_ten_le hge, List.mem_append, List.mem_singleton] at h
      rcases h with h | rfl
      · exact ih (n / 10) (by omega) h
      · exact isDigit_digitChar (by omega)

theorem digits_ne_nil (n : Nat) : digits n ≠ [] := by
  rcases Nat.lt_or_ge n 10 with hlt | hge
  · simp [digits_of_lt_ten hlt]
  · simp [digits_of_ten_le hge]

/-- A number below a power of ten has no more digits than the power. -/
theorem length_digits_le {n k : Nat} (hk : 0 < k) (h : n < 10 ^ k) : (digits n).length ≤ k := by
  induction k generalizing n with
  | zero => contradiction
  | succ k ih =>
    rcases Nat.lt_or_ge n 10 with hlt | hge
    · simp [digits_of_lt_ten hlt]
    · have hpos : 0 < k := Nat.pos_of_ne_zero fun hzero => by
        rw [hzero] at h
        omega
      have htens : (digits (n / 10)).length ≤ k :=
        ih hpos (Nat.div_lt_of_lt_mul (by rwa [← Nat.pow_succ']))
      simpa [digits_of_ten_le hge] using htens

/-- Only zero is written with a leading zero. -/
theorem head?_digits_ne_zero {n : Nat} (h : 0 < n) : (digits n).head? ≠ some '0' := by
  induction n using Nat.strong_induction_on with
  | _ n ih =>
    rcases Nat.lt_or_ge n 10 with hlt | hge
    · simpa [digits_of_lt_ten hlt] using digitChar_ne_zero h hlt
    · have htens := ih (n / 10) (by omega) (by omega)
      obtain ⟨c, cs, hdigits⟩ := List.exists_cons_of_ne_nil (digits_ne_nil (n / 10))
      rw [hdigits] at htens
      simpa [digits_of_ten_le hge, hdigits] using htens

/-- An integer starts with a minus sign or a digit. -/
theorem chars_eq_cons (n : Int) : ∃ c cs, chars n = c :: cs ∧ (c = '-' ∨ c.isDigit = true) := by
  unfold chars
  split
  · exact ⟨'-', _, rfl, .inl rfl⟩
  · obtain ⟨c, cs, hdigits⟩ := List.exists_cons_of_ne_nil (digits_ne_nil n.natAbs)
    exact ⟨c, cs, hdigits, .inr (isDigit_of_mem_digits (hdigits ▸ List.mem_cons_self))⟩

end GoMeter.Decimal
