import AssetSeed.Text.Numeral

/-!
# Written numbers

A number that is written with digits of a base is read again as this number.

## Main statements

* `Text.numeralValue_toDigits` — what is written is read again.
* `Text.head?_toDigits` — no zeros are written in front.
* `Text.natural?_toDigits` — what is written is read again, up to a bound.
-/

namespace AssetSeed.Text

/-! ## Digits -/

theorem digitValue_digitChar {d : Nat} (h : d < 10) : digitValue d.digitChar = d := by
  revert d
  decide

theorem hexValue_digitChar {d : Nat} (h : d < 16) : hexValue d.digitChar = d := by
  revert d
  decide

theorem isDigit_digitChar {d : Nat} (h : d < 10) : isDigit d.digitChar = true := by
  revert d
  decide

theorem isHexDigit_digitChar {d : Nat} (h : d < 16) : isHexDigit d.digitChar = true := by
  revert d
  decide

theorem isHexDigit_of_isDigit {c : Char} (h : isDigit c) : isHexDigit c := by
  simp [isHexDigit, h]

theorem digitChar_ne_zero {d : Nat} (h : d < 16) (pos : 0 < d) : d.digitChar ≠ '0' := by
  revert d
  decide

section

variable {base : Nat} (base_gt : 1 < base)

include base_gt

/-- A number is one digit, or a smaller number with a digit behind it. -/
theorem toDigits_induction {motive : Nat → List Char → Prop}
    (digit : ∀ d < base, motive d [d.digitChar])
    (next : ∀ n d, 0 < n → d < base → motive n (Nat.toDigits base n) →
      motive (base * n + d) (Nat.toDigits base n ++ [d.digitChar])) (n : Nat) :
    motive n (Nat.toDigits base n) := by
  induction n using Nat.strongRecOn with
  | ind n ih =>
    rw [Nat.toDigits_eq_if base_gt]
    split
    · next small => exact digit n small
    · next large =>
      have pos : 0 < n / base := Nat.div_pos (Nat.not_lt.1 large) (by omega)
      have smaller : n / base < n := Nat.div_lt_self (by omega) base_gt
      have here := next (n / base) (n % base) pos (Nat.mod_lt n (by omega)) (ih _ smaller)
      rwa [Nat.div_add_mod] at here

theorem exists_of_mem_toDigits (n : Nat) :
    ∀ c ∈ Nat.toDigits base n, ∃ d < base, c = d.digitChar := by
  refine toDigits_induction base_gt (motive := fun _ s => ∀ c ∈ s, ∃ d < base, c = d.digitChar)
    (fun d small => ?_) (fun n d _ small ih => ?_) n
  · exact List.forall_mem_singleton.2 ⟨d, small, rfl⟩
  · exact List.forall_mem_append.2 ⟨ih, List.forall_mem_singleton.2 ⟨d, small, rfl⟩⟩

/-- What is written with digits is read again, if each digit is. -/
theorem numeralValue_toDigits {value : Char → Nat} (reads : ∀ d < base, value d.digitChar = d)
    (n : Nat) : numeralValue base value (Nat.toDigits base n) = n := by
  refine toDigits_induction base_gt (motive := fun n s => numeralValue base value s = n)
    (fun d small => ?_) (fun n d _ small ih => ?_) n
  · simp [numeralValue, reads d small]
  · rw [numeralValue, List.foldl_append, ← numeralValue, ih, List.foldl_cons, List.foldl_nil,
      reads d small, Nat.mul_comm]

/-- Only zero is written with a zero in front. -/
theorem head?_toDigits (base_le : base ≤ 16) (n : Nat) (pos : 0 < n) :
    (Nat.toDigits base n).head? ≠ some '0' := by
  refine toDigits_induction base_gt (motive := fun n s => 0 < n → s.head? ≠ some '0')
    (fun d small pos => ?_) (fun n d pos _ ih _ => ?_) n pos
  · simpa using digitChar_ne_zero (by omega) pos
  · obtain ⟨c, row, eq⟩ := List.exists_cons_of_ne_nil (Nat.toDigits_ne_nil (n := n) (b := base))
    rw [eq] at ih ⊢
    exact ih pos

end

theorem decimalValue_toDigits (n : Nat) : decimalValue (Nat.toDigits 10 n) = n :=
  numeralValue_toDigits (by decide) (fun _ => digitValue_digitChar) n

theorem isDigit_of_mem_toDigits (n : Nat) : ∀ c ∈ Nat.toDigits 10 n, isDigit c := by
  intro c mem
  obtain ⟨d, small, rfl⟩ := exists_of_mem_toDigits (by decide) n c mem
  exact isDigit_digitChar small

theorem isHexDigit_of_mem_toDigits (n : Nat) : ∀ c ∈ Nat.toDigits 16 n, isHexDigit c := by
  intro c mem
  obtain ⟨d, small, rfl⟩ := exists_of_mem_toDigits (by decide) n c mem
  exact isHexDigit_digitChar small

/-- A number that does not exceed the bound is read from its digits. -/
theorem natural?_toDigits {bound n : Nat} (le : n ≤ bound) :
    natural? bound (Nat.toDigits 10 n) = some n := by
  have digits := isDigit_of_mem_toDigits n
  have value := decimalValue_toDigits n
  obtain ⟨c, row, eq⟩ := List.exists_cons_of_ne_nil (Nat.toDigits_ne_nil (n := n) (b := 10))
  rw [eq] at digits value ⊢
  have unsigned : c ≠ '+' := by
    rintro rfl
    exact absurd (digits _ List.mem_cons_self) (by decide)
  have all : (c :: row).all isDigit = true := List.all_eq_true.2 digits
  simp [natural?, unsigned, all, value, le]

end AssetSeed.Text
