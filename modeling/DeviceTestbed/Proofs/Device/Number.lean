import DeviceTestbed.Device.Number
import DeviceTestbed.Files.Access
import DeviceTestbed.Proofs.Text.Fields
import DeviceTestbed.Proofs.Text.Spelling
import Mathlib.Data.List.TakeWhile
import Mathlib.Tactic.NormNum

/-!
Device numbers: how a major and a minor number share a word, which texts of a link tell the two, and
that a device whose link tells them has them as the major and the minor number of its own.
-/

namespace DeviceTestbed

namespace DeviceNumber

theorem toNat_make (major minor : UInt64) :
    (make major minor).toNat =
      minor.toNat % 0x100 + major.toNat % 0x1000 * 0x100 +
        minor.toNat / 0x100 % 0x1000000 * 0x100000 +
        major.toNat / 0x1000 % 0x100000 * 0x100000000000 := by
  apply UInt64.toNat_ofNat_of_lt'
  change _ < 18446744073709551616
  omega

theorem major_make (high low : UInt64) : major (make high low) = high.toNat % 0x100000000 := by
  rw [major, toNat_make]
  omega

theorem minor_make (high low : UInt64) : minor (make high low) = low.toNat % 0x100000000 := by
  rw [minor, toNat_make]
  omega

theorem make_eq_iff {high low : UInt64} (highSmall : high.toNat < 0x100000000)
    (lowSmall : low.toNat < 0x100000000) (device : DeviceNumber) :
    (major device = high.toNat ∧ minor device = low.toNat) ↔ device = make high low := by
  constructor
  · rintro ⟨sameMajor, sameMinor⟩
    have bound := device.toNat_lt
    apply UInt64.toNat_inj.mp
    rw [toNat_make, ← sameMajor, ← sameMinor, major, minor]
    omega
  · rintro rfl
    rw [major_make, minor_make]
    omega

theorem and_field (value width shift : Nat) :
    value &&& (2 ^ width - 1) * 2 ^ shift = value / 2 ^ shift % 2 ^ width * 2 ^ shift := by
  apply Nat.eq_of_testBit_eq
  intro place
  simp only [Nat.testBit_and, Nat.testBit_mul_two_pow, Nat.testBit_two_pow_sub_one,
    Nat.testBit_mod_two_pow, Nat.testBit_div_two_pow]
  by_cases above : shift ≤ place
  · have back : place - shift + shift = place := by omega
    simp [above, back, Bool.and_comm]
  · simp [above]

theorem or_field {lower unit : Nat} (upper bound : Nat) (power : unit = 2 ^ bound)
    (small : lower < unit) : upper * unit ||| lower = upper * unit + lower := by
  rw [power] at small ⊢
  rw [Nat.mul_comm]
  exact (Nat.two_pow_add_eq_or_of_lt small upper).symm

/-- The masks and shifts that the number of a device is put together with. -/
theorem make_eq_bits (high low : UInt64) :
    make high low = (high &&& 0xFFFFF000) <<< 32 ||| (high &&& 0xFFF) <<< 8 |||
      (low &&& 0xFFFFFF00) <<< 12 ||| (low &&& 0xFF) := by
  have highUpper := and_field high.toNat 20 12
  have highLower := and_field high.toNat 12 0
  have lowUpper := and_field low.toNat 24 8
  have lowLower := and_field low.toNat 8 0
  norm_num at highUpper highLower lowUpper lowLower
  apply UInt64.toNat_inj.mp
  rw [toNat_make]
  simp only [UInt64.toNat_or, UInt64.toNat_shiftLeft, UInt64.toNat_and, UInt64.reduceToNat,
    highUpper, highLower, lowUpper, lowLower, Nat.shiftLeft_eq, Nat.reduceMod, Nat.reducePow]
  clear highUpper highLower lowUpper lowLower
  generalize high.toNat = high, low.toNat = low
  have first (high : Nat) : high / 4096 % 1048576 * 4096 * 4294967296 % 18446744073709551616 =
      high / 4096 % 1048576 * 17592186044416 := by
    omega
  have second (high : Nat) : high % 4096 * 256 % 18446744073709551616 = high % 4096 * 256 := by
    omega
  have third (low : Nat) : low / 256 % 16777216 * 256 * 4096 % 18446744073709551616 =
      low / 256 % 16777216 * 1048576 := by
    omega
  have inOrder (high second third low : Nat) :
      high ||| second ||| third ||| low = high ||| (third ||| (second ||| low)) := by
    ac_rfl
  rw [first, second, third, inOrder, or_field (high % 4096) 8 (by norm_num) (by omega),
    or_field (low / 256 % 16777216) 20 (by norm_num) (by omega),
    or_field (high / 4096 % 1048576) 44 (by norm_num) (by omega)]
  omega

theorem major_eq_bits (device : DeviceNumber) :
    major device =
      ((device &&& (0xFFF00 : UInt64)) >>> 8 |||
        (device &&& (0xFFFFF00000000000 : UInt64)) >>> 32).toNat := by
  have upper := and_field device.toNat 20 44
  have lower := and_field device.toNat 12 8
  have bound := device.toNat_lt
  norm_num at upper lower
  rw [major]
  simp only [UInt64.toNat_or, UInt64.toNat_shiftRight, UInt64.toNat_and, UInt64.reduceToNat,
    upper, lower, Nat.shiftRight_eq_div_pow, Nat.reduceMod, Nat.reducePow]
  clear upper lower
  generalize device.toNat = value at bound ⊢
  have high : value / 17592186044416 % 1048576 * 17592186044416 / 4294967296 =
      value / 17592186044416 * 4096 := by
    omega
  have low : value / 256 % 4096 * 256 / 256 = value / 256 % 4096 :=
    Nat.mul_div_cancel _ (by decide)
  rw [low, high, Nat.or_comm, or_field _ 12 (by norm_num) (by omega)]
  omega

theorem minor_eq_bits (device : DeviceNumber) :
    minor device =
      ((device &&& (0xFF : UInt64)) ||| (device &&& (0xFFFFFF00000 : UInt64)) >>> 12).toNat := by
  have upper := and_field device.toNat 24 20
  have lower := and_field device.toNat 8 0
  norm_num at upper lower
  rw [minor]
  simp only [UInt64.toNat_or, UInt64.toNat_shiftRight, UInt64.toNat_and, UInt64.reduceToNat,
    upper, lower, Nat.shiftRight_eq_div_pow, Nat.reduceMod, Nat.reducePow]
  clear upper lower
  generalize device.toNat = value
  have high : value / 1048576 % 16777216 * 1048576 / 4096 =
      value / 1048576 % 16777216 * 256 := by
    omega
  rw [high, Nat.or_comm, or_field _ 8 (by norm_num) (by omega)]
  omega

/-! The numbers in a text. -/

def Ends (base : Nat) (rest : List Char) : Prop :=
  ∀ character, rest.head? = some character → ∀ digit, ¬ Numeral.IsDigit base character digit

/-- The text begins with a number without a sign, and this is the rest behind it. The mark of a
hexadecimal number comes first; a leading zero alone makes any other number octal. -/
inductive Begins : List Char → Nat → List Char → Prop
  | hexadecimal {mark : Char} {digits rest : List Char} {value : Nat}
      (isMark : mark = 'x' ∨ mark = 'X') (spelled : Numeral.Spells 16 digits value)
      (ends : Ends 16 rest) : Begins ('0' :: mark :: (digits ++ rest)) value rest
  | octal {digits rest : List Char} {value : Nat} (spelled : Numeral.Spells 8 digits value)
      (ends : Ends 8 rest) : Begins ('0' :: (digits ++ rest)) value rest
  | zero {rest : List Char} (unmarked : rest.head? ≠ some 'x' ∧ rest.head? ≠ some 'X')
      (ends : Ends 8 rest) : Begins ('0' :: rest) 0 rest
  | decimal {first : Char} {digits rest : List Char} {value : Nat} (notZero : first ≠ '0')
      (spelled : Numeral.Spells 10 (first :: digits) value) (ends : Ends 10 rest) :
      Begins (first :: digits ++ rest) value rest

inductive BeginsSigned : List Char → Int → List Char → Prop
  | plain {gap text rest : List Char} {value : Nat} (isGap : IsGap gap)
      (begins : Begins text value rest) : BeginsSigned (gap ++ text) value rest
  | plus {gap text rest : List Char} {value : Nat} (isGap : IsGap gap)
      (begins : Begins text value rest) : BeginsSigned (gap ++ '+' :: text) value rest
  | minus {gap text rest : List Char} {value : Nat} (isGap : IsGap gap)
      (begins : Begins text value rest) : BeginsSigned (gap ++ '-' :: text) (-value) rest

section

variable {base : Nat} {text digits rest : List Char} {value : Nat}

theorem isDigit_iff (small : base ≤ 16) {character : Char} :
    isDigit base character = true ↔ ∃ digit, Numeral.IsDigit base character digit := by
  rw [isDigit, Option.isSome_iff_exists]
  simp only [Numeral.digit?_eq_some small]

theorem ends_iff (small : base ≤ 16) :
    Ends base rest ↔ ∀ character, rest.head? = some character → isDigit base character = false := by
  simp only [Ends, ← Bool.not_eq_true, isDigit_iff small, not_exists]

theorem takeWhile_digits (small : base ≤ 16)
    (all : ∀ character ∈ digits, ∃ digit, Numeral.IsDigit base character digit)
    (ends : Ends base rest) :
    (digits ++ rest).takeWhile (isDigit base) = digits ∧
      (digits ++ rest).dropWhile (isDigit base) = rest := by
  have inside : ∀ character ∈ digits, isDigit base character = true :=
    fun character member => (isDigit_iff small).mpr (all character member)
  rw [List.takeWhile_append_of_pos inside, List.dropWhile_append_of_pos inside]
  cases rest with
  | nil => simp
  | cons character rest =>
    have stops : isDigit base character = false := (ends_iff small).mp ends character rfl
    simp [stops]

theorem exists_digits (small : base ≤ 16) (text : List Char) :
    ∃ digits rest, text = digits ++ rest ∧
      (∀ character ∈ digits, ∃ digit, Numeral.IsDigit base character digit) ∧ Ends base rest := by
  refine ⟨text.takeWhile (isDigit base), text.dropWhile (isDigit base),
    List.takeWhile_append_dropWhile.symm, ?_, ?_⟩
  · intro character member
    exact (isDigit_iff small).mp (List.mem_takeWhile_imp member)
  · apply (ends_iff small).mpr
    intro character first
    have stops := List.head?_dropWhile_not (isDigit base) text
    rwa [first] at stops

theorem takeDigits_eq (small : base ≤ 16)
    (all : ∀ character ∈ digits, ∃ digit, Numeral.IsDigit base character digit)
    (ends : Ends base rest) :
    takeDigits base (digits ++ rest) =
      if digits.isEmpty then if base = 8 then some (0, digits ++ rest) else none
      else (Numeral.magnitude base limit .tooLarge digits).toOption.map fun value =>
        (value, rest) := by
  obtain ⟨taken, dropped⟩ := takeWhile_digits small all ends
  simp only [takeDigits, taken, dropped]
  split
  · rfl
  · cases Numeral.magnitude base limit .tooLarge digits <;> rfl

theorem takeDigits_eq_some (small : base ≤ 16) :
    takeDigits base text = some (value, rest) ↔
      (∃ digits, text = digits ++ rest ∧ Numeral.Spells base digits value ∧ Ends base rest ∧
          value ≤ limit) ∨
        base = 8 ∧ Ends base text ∧ value = 0 ∧ rest = text := by
  constructor
  · intro taken
    obtain ⟨digits, behind, rfl, all, ends⟩ := exists_digits small text
    rw [takeDigits_eq small all ends] at taken
    split at taken
    · rename_i nothing
      obtain rfl := List.isEmpty_iff.mp nothing
      split at taken
      · rename_i octal
        cases taken
        exact .inr ⟨octal, ends, rfl, rfl⟩
      · contradiction
    · cases read : Numeral.magnitude base limit .tooLarge digits with
      | error fault =>
        rw [read] at taken
        contradiction
      | ok known =>
        rw [read] at taken
        cases taken
        obtain ⟨spelled, within⟩ := (Numeral.magnitude_eq_ok small).mp read
        exact .inl ⟨digits, rfl, spelled, ends, within⟩
  · rintro (⟨digits, rfl, spelled, ends, within⟩ | ⟨octal, ends, rfl, rfl⟩)
    · have present : ¬ digits.isEmpty = true := by simpa using spelled.ne_nil
      rw [takeDigits_eq small spelled.isDigit ends, if_neg present,
        (Numeral.magnitude_eq_ok small).mpr ⟨spelled, within⟩]
      rfl
    · have nothing := takeDigits_eq small (fun _ member => absurd member List.not_mem_nil) ends
      rwa [List.nil_append, List.isEmpty_nil, if_pos rfl, if_pos octal] at nothing

theorem takeDigits_eq_some_of_ne (small : base ≤ 16) (notOctal : base ≠ 8) :
    takeDigits base text = some (value, rest) ↔
      (∃ digits, text = digits ++ rest ∧ Numeral.Spells base digits value ∧ Ends base rest) ∧
        value ≤ limit := by
  rw [takeDigits_eq_some small]
  constructor
  · rintro (⟨digits, same, spelled, ends, within⟩ | ⟨octal, -⟩)
    · exact ⟨⟨digits, same, spelled, ends⟩, within⟩
    · contradiction
  · rintro ⟨⟨digits, same, spelled, ends⟩, within⟩
    exact .inl ⟨digits, same, spelled, ends, within⟩

theorem not_isDigit {character : Char} (small : base ≤ 16)
    (none : Numeral.digit? base character = none) (digit : Nat) :
    ¬ Numeral.IsDigit base character digit := by
  intro isDigit
  rw [(Numeral.digit?_eq_some small).mpr isDigit] at none
  contradiction

theorem begins_marked {mark : Char} (isMark : mark = 'x' ∨ mark = 'X') :
    Begins ('0' :: mark :: text) value rest ↔
      ∃ digits, text = digits ++ rest ∧ Numeral.Spells 16 digits value ∧ Ends 16 rest := by
  constructor
  · generalize same : '0' :: mark :: text = whole
    intro begins
    cases begins with
    | hexadecimal _ spelled ends =>
      cases same
      exact ⟨_, rfl, spelled, ends⟩
    | octal spelled ends =>
      obtain ⟨first, digits, digit, rfl, isDigit⟩ := spelled.head
      cases same
      rcases isMark with rfl | rfl
      · exact absurd isDigit (not_isDigit (by decide) (by decide) digit)
      · exact absurd isDigit (not_isDigit (by decide) (by decide) digit)
    | zero unmarked ends =>
      cases same
      rcases isMark with rfl | rfl
      · exact absurd rfl unmarked.1
      · exact absurd rfl unmarked.2
    | decimal notZero spelled ends =>
      exact absurd (List.cons.inj same).1.symm notZero
  · rintro ⟨digits, rfl, spelled, ends⟩
    exact .hexadecimal isMark spelled ends

theorem begins_unmarked (unmarked : text.head? ≠ some 'x' ∧ text.head? ≠ some 'X') :
    Begins ('0' :: text) value rest ↔
      (∃ digits, text = digits ++ rest ∧ Numeral.Spells 8 digits value ∧ Ends 8 rest) ∨
        Ends 8 text ∧ value = 0 ∧ rest = text := by
  constructor
  · generalize same : '0' :: text = whole
    intro begins
    cases begins with
    | hexadecimal isMark spelled ends =>
      cases same
      rcases isMark with rfl | rfl
      · exact absurd rfl unmarked.1
      · exact absurd rfl unmarked.2
    | octal spelled ends =>
      cases same
      exact .inl ⟨_, rfl, spelled, ends⟩
    | zero _ ends =>
      cases same
      exact .inr ⟨ends, rfl, rfl⟩
    | decimal notZero spelled ends =>
      exact absurd (List.cons.inj same).1.symm notZero
  · rintro (⟨digits, rfl, spelled, ends⟩ | ⟨ends, rfl, rfl⟩)
    · exact .octal spelled ends
    · exact .zero unmarked ends

theorem begins_decimal (notZero : text.head? ≠ some '0') :
    Begins text value rest ↔
      ∃ digits, text = digits ++ rest ∧ Numeral.Spells 10 digits value ∧ Ends 10 rest := by
  constructor
  · intro begins
    cases begins with
    | hexadecimal => exact absurd rfl notZero
    | octal => exact absurd rfl notZero
    | zero => exact absurd rfl notZero
    | decimal _ spelled ends => exact ⟨_, rfl, spelled, ends⟩
  · rintro ⟨digits, rfl, spelled, ends⟩
    obtain ⟨first, others, rfl⟩ := List.exists_cons_of_ne_nil spelled.ne_nil
    refine .decimal ?_ spelled ends
    rintro rfl
    exact notZero rfl

def takeUnsigned (text : List Char) : Option (Nat × List Char) :=
  takeDigits (takeBase text).1 (takeBase text).2

theorem takeUnsigned_eq_some :
    takeUnsigned text = some (value, rest) ↔ Begins text value rest ∧ value ≤ limit := by
  unfold takeUnsigned takeBase
  split
  · rw [begins_marked (.inl rfl)]
    exact takeDigits_eq_some_of_ne (Nat.le_refl 16) (show 16 ≠ 8 by decide)
  · rw [begins_marked (.inr rfl)]
    exact takeDigits_eq_some_of_ne (Nat.le_refl 16) (show 16 ≠ 8 by decide)
  · rename_i digits noSmallMark noLargeMark
    have unmarked : digits.head? ≠ some 'x' ∧ digits.head? ≠ some 'X' := by
      cases digits with
      | nil => exact ⟨nofun, nofun⟩
      | cons character digits =>
        constructor
        · rintro ⟨⟩
          exact noSmallMark digits rfl
        · rintro ⟨⟩
          exact noLargeMark digits rfl
    rw [begins_unmarked unmarked]
    cases digits with
    | nil =>
      have alone : takeDigits 10 ['0'] = some (0, []) := by decide
      simp only [List.isEmpty_nil, if_true, alone]
      constructor
      · rintro ⟨⟩
        exact ⟨.inr ⟨nofun, rfl, rfl⟩, Nat.zero_le _⟩
      · rintro ⟨⟨digits, same, spelled, -⟩ | ⟨-, rfl, rfl⟩, -⟩
        · exact absurd (List.append_eq_nil_iff.mp same.symm).1 spelled.ne_nil
        · rfl
    | cons character digits =>
      simp only [List.isEmpty_cons, Bool.false_eq_true, if_false]
      rw [takeDigits_eq_some (by decide)]
      constructor
      · rintro (⟨octal, same, spelled, ends, within⟩ | ⟨-, ends, rfl, rfl⟩)
        · exact ⟨.inl ⟨octal, same, spelled, ends⟩, within⟩
        · exact ⟨.inr ⟨ends, rfl, rfl⟩, Nat.zero_le _⟩
      · rintro ⟨⟨octal, same, spelled, ends⟩ | ⟨ends, rfl, rfl⟩, within⟩
        · exact .inl ⟨octal, same, spelled, ends, within⟩
        · exact .inr ⟨rfl, ends, rfl, rfl⟩
  · rename_i notZero
    have decimal : text.head? ≠ some '0' := by
      intro zero
      obtain ⟨digits, same⟩ := List.head?_eq_some_iff.mp zero
      exact notZero digits same
    rw [begins_decimal decimal]
    exact takeDigits_eq_some_of_ne (show 10 ≤ 16 by decide) (show 10 ≠ 8 by decide)

theorem Begins.head (begins : Begins text value rest) :
    ∃ first others, text = first :: others ∧ ∃ digit, Numeral.IsDigit 10 first digit := by
  have zero : Numeral.IsDigit 10 '0' 0 := ⟨by decide, .inl rfl⟩
  cases begins with
  | hexadecimal => exact ⟨_, _, rfl, 0, zero⟩
  | octal => exact ⟨_, _, rfl, 0, zero⟩
  | zero => exact ⟨_, _, rfl, 0, zero⟩
  | decimal _ spelled => exact ⟨_, _, rfl, spelled.isDigit _ List.mem_cons_self⟩

theorem takeNumber_eq (text : List Char) :
    takeNumber text = (takeUnsigned (takeSign (trimStart text)).2).map fun (value, rest) =>
      (if (takeSign (trimStart text)).1 then -Int.ofNat value else Int.ofNat value, rest) :=
  rfl

theorem takeSign_unsigned {character : Char} (noMinus : character ≠ '-') (noPlus : character ≠ '+')
    (others : List Char) : takeSign (character :: others) = (false, character :: others) := by
  unfold takeSign
  split
  · rename_i same
    exact absurd (List.cons.inj same).1 noMinus
  · rename_i same
    exact absurd (List.cons.inj same).1 noPlus
  · rfl

theorem trimStart_gap_cons {gap : List Char} {character : Char} (isGap : IsGap gap)
    (visible : isBlank character = false) (others : List Char) :
    trimStart (gap ++ character :: others) = character :: others := by
  rw [trimStart_gap_append isGap, trimStart, List.dropWhile_cons_of_neg (by simp [visible])]

theorem takeNumber_eq_some {number : Int} :
    takeNumber text = some (number, rest) ↔
      BeginsSigned text number rest ∧ number.natAbs ≤ limit := by
  rw [takeNumber_eq, Option.map_eq_some_iff]
  constructor
  · rintro ⟨⟨value, behind⟩, taken, same⟩
    obtain ⟨begins, within⟩ := takeUnsigned_eq_some.mp taken
    rcases gap_or_visible text with isGap | ⟨gap, character, others, isGap, visible, rfl⟩
    · have nothing := trimStart_gap_append isGap []
      rw [List.append_nil] at nothing
      rw [nothing] at taken
      contradiction
    · rw [trimStart_gap_cons isGap visible] at begins same
      by_cases minus : character = '-'
      · subst minus
        cases same
        refine ⟨.minus isGap begins, ?_⟩
        change (-(value : Int)).natAbs ≤ limit
        omega
      · by_cases plus : character = '+'
        · subst plus
          cases same
          exact ⟨.plus isGap begins, within⟩
        · rw [takeSign_unsigned minus plus] at begins same
          cases same
          exact ⟨.plain isGap begins, within⟩
  · rintro ⟨begins, within⟩
    have reading {text : List Char} {value : Nat} (begins : Begins text value rest)
        (within : value ≤ limit) : takeUnsigned text = some (value, rest) :=
      takeUnsigned_eq_some.mpr ⟨begins, within⟩
    cases begins with
    | plain isGap begins =>
      obtain ⟨first, others, rfl, digit, isDigit⟩ := begins.head
      have visible : isBlank first = false := (isDigit.isVisible (by decide)).not_isBlank
      have noMinus : first ≠ '-' := by
        rintro rfl
        exact not_isDigit (by decide) (by decide) digit isDigit
      have noPlus : first ≠ '+' := by
        rintro rfl
        exact not_isDigit (by decide) (by decide) digit isDigit
      rw [trimStart_gap_cons isGap visible, takeSign_unsigned noMinus noPlus]
      exact ⟨_, reading begins within, rfl⟩
    | plus isGap begins =>
      rw [trimStart_gap_cons isGap (by decide)]
      exact ⟨_, reading begins within, rfl⟩
    | minus isGap begins =>
      rw [trimStart_gap_cons isGap (by decide)]
      exact ⟨_, reading begins (by simpa using within), rfl⟩

def Tells (text : List Char) (high low : Int) : Prop :=
  ∃ behind rest, (BeginsSigned text high (':' :: behind) ∧ high.natAbs ≤ limit) ∧
    BeginsSigned behind low rest ∧ low.natAbs ≤ limit

theorem parse_eq_some {first second : UInt64} :
    parse text = some (first, second) ↔
      ∃ high low, Tells text high low ∧ UInt64.ofInt high = first ∧ UInt64.ofInt low = second := by
  unfold parse Tells
  constructor
  · intro parsed
    split at parsed
    · rename_i high behind taken
      obtain ⟨⟨low, rest⟩, takenLow, same⟩ := Option.map_eq_some_iff.mp parsed
      cases same
      exact ⟨high, low, ⟨behind, rest, takeNumber_eq_some.mp taken, takeNumber_eq_some.mp takenLow⟩,
        rfl, rfl⟩
    · contradiction
  · rintro ⟨high, low, ⟨behind, rest, begins, beginsLow⟩, rfl, rfl⟩
    simp only [takeNumber_eq_some.mpr begins, takeNumber_eq_some.mpr beginsLow]
    rfl

/-! The ways in which a number is written. -/

inductive Writes : List Char → Nat → Prop
  | decimal (value : Nat) : Writes (Numeral.decimal value) value
  | hexadecimal {digits : List Char} {value : Nat} (spelled : Numeral.Spells 16 digits value) :
      Writes ('0' :: 'x' :: digits) value
  | octal {digits : List Char} {value : Nat} (spelled : Numeral.Spells 8 digits value) :
      Writes ('0' :: digits) value

inductive WritesWithSign : List Char → Nat → Prop
  | plain {gap text : List Char} {value : Nat} (isGap : IsGap gap) (writes : Writes text value) :
      WritesWithSign (gap ++ text) value
  | plus {gap text : List Char} {value : Nat} (isGap : IsGap gap) (writes : Writes text value) :
      WritesWithSign (gap ++ '+' :: text) value

def IsOther (rest : List Char) : Prop :=
  ∀ character, rest.head? = some character → character.isAlphanum = false

theorem IsOther.ends (small : base ≤ 16) (other : IsOther rest) : Ends base rest := by
  intro character first digit isDigit
  have alphanumeric := isDigit.isAlphanum small
  rw [other character first] at alphanumeric
  contradiction

theorem spells_decimal (value : Nat) : Numeral.Spells 10 (Numeral.decimal value) value := by
  have read := Numeral.magnitude_toDigits value .tooLarge (by decide : 1 < 10) (by decide) value
    (Nat.le_refl value)
  exact ((Numeral.magnitude_eq_ok (by decide)).mp read).1

theorem head?_decimal {value : Nat} (positive : 0 < value) :
    (Numeral.decimal value).head? ≠ some '0' := by
  rw [Numeral.decimal]
  induction value using Nat.strongRecOn with
  | ind value ih =>
    rw [Nat.toDigits_eq_if (by decide)]
    split
    · rename_i below
      interval_cases value <;> decide
    · rename_i notBelow
      have earlier := ih (value / 10) (by omega) (by omega)
      obtain ⟨first, others, same, -⟩ :=
        Numeral.toDigits_eq_cons (by decide : 1 < 10) (by decide) (value / 10)
      rw [same] at earlier ⊢
      exact earlier

theorem begins_of_writes (writes : Writes text value) (other : IsOther rest) :
    Begins (text ++ rest) value rest := by
  cases writes with
  | decimal =>
    rcases Nat.eq_zero_or_pos value with rfl | positive
    · refine .zero ⟨?_, ?_⟩ (other.ends (by decide))
      · intro first
        cases other 'x' first
      · intro first
        cases other 'X' first
    · have notZero := head?_decimal positive
      have spelled := spells_decimal value
      obtain ⟨first, digits, digit, same, -⟩ := spelled.head
      rw [same] at notZero spelled ⊢
      refine .decimal ?_ spelled (other.ends (by decide))
      rintro rfl
      exact notZero rfl
  | hexadecimal spelled => exact .hexadecimal (.inl rfl) spelled (other.ends (by decide))
  | octal spelled => exact .octal spelled (other.ends (by decide))

theorem beginsSigned_of_writes (writes : WritesWithSign text value) (other : IsOther rest) :
    BeginsSigned (text ++ rest) value rest := by
  cases writes with
  | plain isGap writes =>
    rw [List.append_assoc]
    exact .plain isGap (begins_of_writes writes other)
  | plus isGap writes =>
    rw [List.append_assoc]
    exact .plus isGap (begins_of_writes writes other)

end

end DeviceNumber

def Files.IsLink (files : Files) (path target : Path) : Prop :=
  ∃ id, files.lookup .entry path = .ok id ∧ files.target? id = some target

theorem Files.readLink_eq_ok {files : Files} {path target : Path} :
    files.readLink path = .ok target ↔ files.IsLink path target := by
  unfold Files.readLink Files.IsLink
  cases files.lookup .entry path with
  | error fault => simp
  | ok id => cases known : files.target? id <;> simp [known]

namespace DeviceNumber

theorem ofNode_of_link {files : Files} {root : Path} {node : Name} {target : Path}
    (link : files.IsLink (linkPath root node) target) :
    ofNode files root node =
      ((parse (Utf8.lenient target)).map fun (high, low) => make high low).getD 0 := by
  simp only [ofNode, Files.readLink_eq_ok.mpr link]
  cases parse (Utf8.lenient target) <;> rfl

theorem ofNode_of_tells {files : Files} {root : Path} {node : Name} {target : Path}
    {high low : Int} (link : files.IsLink (linkPath root node) target)
    (tells : Tells (Utf8.lenient target) high low) :
    ofNode files root node = make (UInt64.ofInt high) (UInt64.ofInt low) := by
  have parsed := parse_eq_some.mpr ⟨high, low, tells, rfl, rfl⟩
  rw [ofNode_of_link link, parsed]
  rfl

theorem ofNode_of_untold {files : Files} {root : Path} {node : Name}
    (untold : ∀ target, files.IsLink (linkPath root node) target →
      ∀ high low, ¬ Tells (Utf8.lenient target) high low) :
    ofNode files root node = 0 := by
  cases link : files.readLink (linkPath root node) with
  | error fault => rw [ofNode, link]
  | ok target =>
    have isLink := Files.readLink_eq_ok.mp link
    rw [ofNode_of_link isLink]
    cases parsed : parse (Utf8.lenient target) with
    | none => rfl
    | some pair =>
      obtain ⟨high, low, tells, -⟩ := parse_eq_some.mp parsed
      exact absurd tells (untold target isLink high low)

theorem toNat_ofInt {value : Nat} (small : value < 2 ^ 32) :
    (UInt64.ofInt value).toNat = value := by
  have same : ((value : Int) % 2 ^ 64).toNat = value := by omega
  rw [UInt64.ofInt, same]
  apply UInt64.toNat_ofNat_of_lt'
  change value < 18446744073709551616
  omega

/-- A link that is text and tells a major and a minor number of 32 bits gives the device the only
number that is made of them, however the two are written. A missing link, another file in its place
and a link that tells no numbers give it the number 0. -/
theorem ofNode_unique (files : Files) (root : Path) (node : Name) :
    (∀ first second rest high low, WritesWithSign first high → WritesWithSign second low →
      high < 2 ^ 32 → low < 2 ^ 32 → IsOther rest →
      files.IsLink (linkPath root node) (Utf8.encode (first ++ ':' :: (second ++ rest))) →
      ∀ device, (major device = high ∧ minor device = low) ↔ device = ofNode files root node) ∧
    ((¬ ∃ target high low, files.IsLink (linkPath root node) target ∧
      Tells (Utf8.lenient target) high low) → ofNode files root node = 0) := by
  constructor
  · intro first second rest high low writesHigh writesLow highSmall lowSmall other link device
    have colon : IsOther (':' :: (second ++ rest)) := by
      intro character same
      cases same
      decide
    have tells : Tells (first ++ ':' :: (second ++ rest)) high low := by
      refine ⟨second ++ rest, rest, ⟨beginsSigned_of_writes writesHigh colon, ?_⟩,
        beginsSigned_of_writes writesLow other, ?_⟩
      · rw [limit]
        omega
      · rw [limit]
        omega
    rw [← Utf8.lenient_encode (first ++ ':' :: (second ++ rest))] at tells
    have highSame := toNat_ofInt highSmall
    have lowSame := toNat_ofInt lowSmall
    rw [ofNode_of_tells link tells, ← make_eq_iff (by omega) (by omega), highSame, lowSame]
  · intro untold
    apply ofNode_of_untold
    intro target link high low tells
    exact untold ⟨target, high, low, link, tells⟩

theorem ofNode_unique_of_usb :
    let ascii (text : String) := Bytes.ofAscii text.toList
    let files := Files.ofFixtures
      [.link (ascii "bed/dev/.node/bus_usb_1") (ascii "\t0x0bD:+017 usb")]
    ofNode files (ascii "bed") (ascii "bus/usb/1") = 0xBD0F ∧
      ofNode files (ascii "bed") (ascii "bus/usb/2") = 0 := by
  intro ascii files
  constructor
  · have high : WritesWithSign "\t0x0bD".toList 0xBD := by
      have spelled : Numeral.Spells 16 ['0', 'b', 'D'] 0xBD :=
        ((Numeral.magnitude_eq_ok (by decide)).mp
          (by decide : Numeral.magnitude 16 0xBD .tooLarge ['0', 'b', 'D'] = .ok 0xBD)).1
      have isGap : IsGap ['\t'] := List.forall_mem_singleton.mpr (by decide)
      exact .plain isGap (.hexadecimal spelled)
    have low : WritesWithSign "+017".toList 15 := by
      have spelled : Numeral.Spells 8 ['1', '7'] 15 :=
        ((Numeral.magnitude_eq_ok (by decide)).mp
          (by decide : Numeral.magnitude 8 15 .tooLarge ['1', '7'] = .ok 15)).1
      exact .plus isGap_nil (.octal spelled)
    have other : IsOther " usb".toList := by
      rintro _ ⟨⟩
      decide
    have link : files.IsLink (linkPath (ascii "bed") (ascii "bus/usb/1"))
        (Utf8.encode ("\t0x0bD".toList ++ ':' :: ("+017".toList ++ " usb".toList))) :=
      Files.readLink_eq_ok.mp (by decide +kernel)
    obtain ⟨told, -⟩ := ofNode_unique files (ascii "bed") (ascii "bus/usb/1")
    have only := told _ _ _ _ _ high low (by decide) (by decide) other link 0xBD0F
    exact (only.mp (by decide)).symm
  · obtain ⟨-, untold⟩ := ofNode_unique files (ascii "bed") (ascii "bus/usb/2")
    apply untold
    rintro ⟨target, -, -, link, -⟩
    have missing : files.readLink (linkPath (ascii "bed") (ascii "bus/usb/2")) =
        .error .notFound := by decide +kernel
    rw [Files.readLink_eq_ok.mpr link] at missing
    contradiction

end DeviceNumber

end DeviceTestbed
