import Mathlib.Tactic.IntervalCases
import DeviceTestbed.Proofs.Text.Ascii
import DeviceTestbed.Text.Numeral

/-!
Numbers are read back from the digits that are written for them, in every base up to 16 and with
either sign.
-/

namespace DeviceTestbed.Numeral

theorem digit?_digitChar {base digit : Nat} (small : base ≤ 16) (below : digit < base) :
    digit? base (Nat.digitChar digit) = some digit := by
  have bound : digit < 16 := by omega
  interval_cases digit <;> simp [digit?, Nat.digitChar, Option.filter, below]

theorem isVisible_digitChar {digit : Nat} (bound : digit < 16) :
    IsVisible (Nat.digitChar digit) := by
  interval_cases digit <;> simp [IsVisible, Nat.digitChar]

theorem mem_toDigits {base : Nat} (large : 1 < base) (value : Nat) :
    ∀ character ∈ Nat.toDigits base value, ∃ digit < base, character = Nat.digitChar digit := by
  induction value using Nat.strongRecOn with
  | ind value ih =>
    intro character member
    rw [Nat.toDigits_eq_if large] at member
    split at member
    · rename_i below
      exact ⟨value, below, List.mem_singleton.mp member⟩
    · rename_i notBelow
      rcases List.mem_append.mp member with early | last
      · exact ih (value / base) (Nat.div_lt_self (by omega) large) character early
      · exact ⟨value % base, Nat.mod_lt _ (by omega), List.mem_singleton.mp last⟩

theorem isVisible_toDigits {base : Nat} (large : 1 < base) (small : base ≤ 16) (value : Nat) :
    ∀ character ∈ Nat.toDigits base value, IsVisible character := by
  intro character member
  obtain ⟨digit, below, rfl⟩ := mem_toDigits large value character member
  exact isVisible_digitChar (by omega)

/-! Reading digits from the left. -/

variable {base : Nat} (limit : Nat) (beyond : Fault)

theorem extend_append (value : Nat) (first second : List Char) :
    extend base limit beyond value (first ++ second) =
      (extend base limit beyond value first).bind
        fun reached => extend base limit beyond reached second := by
  induction first generalizing value with
  | nil => rfl
  | cons character first ih =>
    simp only [List.cons_append, extend]
    cases digit? base character with
    | none => rfl
    | some digit =>
      by_cases within : value * base + digit ≤ limit
      · simp only [if_pos within]
        exact ih _
      · simp only [if_neg within]
        rfl

theorem extend_digitChar {digit : Nat} (small : base ≤ 16) (below : digit < base) (value : Nat)
    (within : value * base + digit ≤ limit) :
    extend base limit beyond value [Nat.digitChar digit] = .ok (value * base + digit) := by
  simp only [extend, digit?_digitChar small below, if_pos within]

theorem extend_toDigits (large : 1 < base) (small : base ≤ 16) (value : Nat)
    (within : value ≤ limit) :
    extend base limit beyond 0 (Nat.toDigits base value) = .ok value := by
  induction value using Nat.strongRecOn with
  | ind value ih =>
    rw [Nat.toDigits_eq_if large]
    split
    · rename_i below
      have read := extend_digitChar limit beyond small below 0 (by omega)
      simpa using read
    · rename_i notBelow
      have smaller : value / base < value := Nat.div_lt_self (by omega) large
      have whole : value / base * base + value % base = value := Nat.div_add_mod' value base
      have last : value % base < base := Nat.mod_lt _ (by omega)
      rw [extend_append, ih (value / base) smaller (by omega)]
      have read := extend_digitChar limit beyond small last (value / base) (by omega)
      rw [whole] at read
      exact read

theorem magnitude_toDigits (large : 1 < base) (small : base ≤ 16) (value : Nat)
    (within : value ≤ limit) :
    magnitude base limit beyond (Nat.toDigits base value) = .ok value := by
  have read := extend_toDigits limit beyond large small value within
  cases digits : Nat.toDigits base value with
  | nil => exact absurd digits Nat.toDigits_ne_nil
  | cons character rest =>
    rw [digits] at read
    exact read

theorem toDigits_eq_cons (large : 1 < base) (small : base ≤ 16) (value : Nat) :
    ∃ character rest, Nat.toDigits base value = character :: rest ∧
      character ≠ '+' ∧ character ≠ '-' := by
  cases digits : Nat.toDigits base value with
  | nil => exact absurd digits Nat.toDigits_ne_nil
  | cons character rest =>
    have member : character ∈ Nat.toDigits base value := by simp [digits]
    obtain ⟨digit, below, rfl⟩ := mem_toDigits large value character member
    have bound : digit < 16 := by omega
    refine ⟨_, rest, rfl, ?_, ?_⟩ <;> interval_cases digit <;> decide

theorem natural_toDigits (large : 1 < base) (small : base ≤ 16) (value : Nat)
    (within : value ≤ limit) : natural base limit (Nat.toDigits base value) = .ok value := by
  obtain ⟨character, rest, digits, noPlus, noMinus⟩ := toDigits_eq_cons large small value
  have read := magnitude_toDigits limit .tooLarge large small value within
  rw [digits] at read ⊢
  unfold natural
  split
  · contradiction
  · rename_i same
    exact absurd (List.cons.inj same).1 noPlus
  · exact read

theorem decimal_injective {value other : Nat} (same : decimal value = decimal other) :
    value = other := by
  have read := natural_toDigits (max value other) (by decide : 1 < 10) (by decide) value (by omega)
  rw [show Nat.toDigits 10 value = Nat.toDigits 10 other from same,
    natural_toDigits (max value other) (by decide) (by decide) other (by omega)] at read
  exact (Except.ok.inj read).symm

theorem natural_hexadecimal (value : Nat) (within : value ≤ limit) :
    natural 16 limit (hexadecimal value) = .ok value :=
  natural_toDigits limit (by decide) (by decide) value within

theorem integer_decimal (value : Nat) (within : value ≤ limit) :
    integer limit (decimal value) = .ok value := by
  have large : 1 < 10 := by decide
  have small : 10 ≤ 16 := by decide
  obtain ⟨character, rest, digits, noPlus, noMinus⟩ := toDigits_eq_cons large small value
  have read := magnitude_toDigits limit .tooLarge large small value within
  rw [decimal]
  rw [digits] at read ⊢
  unfold integer
  split
  · contradiction
  · rename_i same
    exact absurd (List.cons.inj same).1 noPlus
  · rename_i same
    exact absurd (List.cons.inj same).1 noMinus
  · rw [read]
    rfl

theorem integer_signedDecimal (value : Int) (lower : -(limit + 1 : Int) ≤ value)
    (upper : value ≤ limit) : integer limit (signedDecimal value) = .ok value := by
  cases value with
  | ofNat value => exact integer_decimal limit value (Int.ofNat_le.mp upper)
  | negSucc value =>
    have within : value + 1 ≤ limit + 1 := by omega
    have read := magnitude_toDigits (limit + 1) .tooSmall (by decide : 1 < 10) (by decide)
      (value + 1) within
    simp only [signedDecimal, decimal, integer, read]
    rfl

theorem signedDecimal_injective : Function.Injective signedDecimal := by
  intro value other same
  let limit := max value.natAbs other.natAbs
  have read := integer_signedDecimal limit value (by omega) (by omega)
  rw [same, integer_signedDecimal limit other (by omega) (by omega)] at read
  exact (Except.ok.inj read).symm

theorem isVisible_signedDecimal (value : Int) :
    ∀ character ∈ signedDecimal value, IsVisible character := by
  cases value with
  | ofNat value => exact isVisible_toDigits (by decide) (by decide) value
  | negSucc value =>
    intro character member
    rcases List.mem_cons.mp member with rfl | digit
    · exact ⟨by decide, by decide⟩
    · exact isVisible_toDigits (by decide) (by decide) _ character digit

theorem slash_not_mem_signedDecimal (value : Int) : '/' ∉ signedDecimal value := by
  have noDigit (number : Nat) : '/' ∉ decimal number := by
    intro member
    obtain ⟨digit, below, same⟩ := mem_toDigits (by decide) number _ member
    interval_cases digit <;> cases same
  cases value with
  | ofNat value => exact noDigit value
  | negSucc value => exact List.not_mem_cons_of_ne_of_not_mem (by decide) (noDigit (value + 1))

end DeviceTestbed.Numeral
