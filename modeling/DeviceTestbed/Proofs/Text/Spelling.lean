import DeviceTestbed.Proofs.Outcome
import DeviceTestbed.Proofs.Text.Hex
import DeviceTestbed.Proofs.Text.Utf8
import Mathlib.Data.List.Induction

/-!
Which texts are read as numbers and as bytes: digits of either case, with a sign where one may
stand. Reading accepts no others, and each of these if its number is within the limit.
-/

namespace DeviceTestbed.Numeral

def IsDigit (base : Nat) (character : Char) (value : Nat) : Prop :=
  value < base ∧ (character = Nat.digitChar value ∨ character = (Nat.digitChar value).toUpper)

theorem digit?_eq_some {base value : Nat} {character : Char} (small : base ≤ 16) :
    digit? base character = some value ↔ IsDigit base character value := by
  constructor
  · intro read
    simp only [digit?, Option.filter_eq_some_iff, decide_eq_true_eq] at read
    obtain ⟨found, below⟩ := read
    have bound : value < 16 := by omega
    refine ⟨below, ?_⟩
    rw [← character.ofNat_toNat]
    generalize character.toNat = code at found
    split at found
    · have lower : 48 ≤ code := by omega
      have upper : code ≤ 57 := by omega
      cases found
      interval_cases code <;> decide
    · split at found
      · have lower : 97 ≤ code := by omega
        have upper : code < 103 := by grind
        cases found
        interval_cases code <;> decide
      · split at found
        · have lower : 65 ≤ code := by omega
          have upper : code < 71 := by grind
          cases found
          interval_cases code <;> decide
        · cases found
  · rintro ⟨below, rfl | rfl⟩
    · exact digit?_digitChar small below
    · have bound : value < 16 := by omega
      interval_cases value <;> simp [digit?, Nat.digitChar, Option.filter, below]

inductive Spells (base : Nat) : List Char → Nat → Prop
  | digit {character : Char} {value : Nat} (isDigit : IsDigit base character value) :
      Spells base [character] value
  | append {text : List Char} {value : Nat} {character : Char} {last : Nat}
      (spelled : Spells base text value) (isDigit : IsDigit base character last) :
      Spells base (text ++ [character]) (value * base + last)

variable {base limit : Nat} {beyond : Fault} {text : List Char} {value : Nat}

theorem extend_singleton (reached : Nat) (character : Char) (small : base ≤ 16) :
    extend base limit beyond reached [character] = .ok value ↔
      ∃ digit, IsDigit base character digit ∧ value = reached * base + digit ∧ value ≤ limit := by
  simp only [← digit?_eq_some small, extend]
  cases digit? base character with
  | none => simp
  | some digit =>
    by_cases within : reached * base + digit ≤ limit
    · simp only [if_pos within, Except.ok.injEq, Option.some.injEq, exists_eq_left']
      constructor
      · rintro rfl
        exact ⟨rfl, within⟩
      · rintro ⟨rfl, -⟩
        rfl
    · simp only [if_neg within, Option.some.injEq, exists_eq_left', false_iff, reduceCtorEq]
      rintro ⟨rfl, fits⟩
      exact within fits

theorem Spells.ne_nil (spelled : Spells base text value) : text ≠ [] := by
  cases spelled <;> simp

theorem spells_singleton {character : Char} :
    Spells base [character] value ↔ IsDigit base character value := by
  constructor
  · generalize same : [character] = text
    intro spelled
    cases spelled with
    | digit isDigit =>
      cases same
      exact isDigit
    | append spelled isDigit =>
      obtain ⟨nothing, -⟩ := List.append_eq_singleton_iff.mp same.symm |>.resolve_right (by simp)
      exact absurd nothing spelled.ne_nil
  · exact .digit

theorem spells_append {character : Char} (present : text ≠ []) :
    Spells base (text ++ [character]) value ↔
      ∃ reached digit, Spells base text reached ∧ IsDigit base character digit ∧
        value = reached * base + digit := by
  constructor
  · generalize same : text ++ [character] = whole
    intro spelled
    cases spelled with
    | digit isDigit =>
      obtain ⟨nothing, -⟩ := List.append_eq_singleton_iff.mp same |>.resolve_right (by simp)
      exact absurd nothing present
    | append spelled isDigit =>
      obtain ⟨rfl, last⟩ := List.append_inj' same rfl
      cases last
      exact ⟨_, _, spelled, isDigit, rfl⟩
  · rintro ⟨reached, digit, spelled, isDigit, rfl⟩
    exact .append spelled isDigit

theorem extend_eq_ok (small : base ≤ 16) (present : text ≠ []) :
    extend base limit beyond 0 text = .ok value ↔ Spells base text value ∧ value ≤ limit := by
  induction text using List.reverseRecOn generalizing value with
  | nil => contradiction
  | append_singleton text character ih =>
    rw [extend_append]
    by_cases first : text = []
    · subst first
      change extend base limit beyond 0 [character] = .ok value ↔ _
      rw [extend_singleton 0 character small, List.nil_append, spells_singleton]
      simp
    · rw [spells_append first]
      refine Outcome.bind_eq_ok.trans ?_
      simp only [extend_singleton _ character small, ih first]
      constructor
      · rintro ⟨reached, ⟨spelled, -⟩, digit, isDigit, rfl, within⟩
        exact ⟨⟨reached, digit, spelled, isDigit, rfl⟩, within⟩
      · rintro ⟨⟨reached, digit, spelled, isDigit, rfl⟩, within⟩
        have several : reached ≤ reached * base :=
          Nat.le_mul_of_pos_right reached (Nat.zero_lt_of_lt isDigit.1)
        exact ⟨reached, ⟨spelled, by omega⟩, digit, isDigit, rfl, within⟩

theorem magnitude_eq_ok (small : base ≤ 16) :
    magnitude base limit beyond text = .ok value ↔ Spells base text value ∧ value ≤ limit := by
  cases text with
  | nil =>
    constructor
    · nofun
    · rintro ⟨spelled, -⟩
      exact absurd rfl spelled.ne_nil
  | cons character text => exact extend_eq_ok small (List.cons_ne_nil _ _)

theorem Spells.isDigit (spelled : Spells base text value) :
    ∀ character ∈ text, ∃ digit, IsDigit base character digit := by
  induction spelled with
  | digit isDigit =>
    intro character member
    rw [List.mem_singleton.mp member]
    exact ⟨_, isDigit⟩
  | append spelled isDigit ih =>
    intro character member
    rcases List.mem_append.mp member with early | last
    · exact ih character early
    · rw [List.mem_singleton.mp last]
      exact ⟨_, isDigit⟩

theorem IsDigit.isVisible {character : Char} {digit : Nat} (isDigit : IsDigit base character digit)
    (small : base ≤ 16) : IsVisible character := by
  obtain ⟨below, same⟩ := isDigit
  have bound : digit < 16 := by omega
  interval_cases digit <;> rcases same with rfl | rfl <;> exact ⟨by decide, by decide⟩

theorem IsDigit.isAlphanum {character : Char} {digit : Nat} (isDigit : IsDigit base character digit)
    (small : base ≤ 16) : character.isAlphanum = true := by
  obtain ⟨below, same⟩ := isDigit
  have bound : digit < 16 := by omega
  interval_cases digit <;> rcases same with rfl | rfl <;> decide

/-! Numbers with a sign. -/

inductive SpellsNatural (base : Nat) : List Char → Nat → Prop
  | plain {digits : List Char} {value : Nat} (spelled : Spells base digits value) :
      SpellsNatural base digits value
  | plus {digits : List Char} {value : Nat} (spelled : Spells base digits value) :
      SpellsNatural base ('+' :: digits) value

inductive SpellsInteger : List Char → Int → Prop
  | natural {text : List Char} {value : Nat} (spelled : SpellsNatural 10 text value) :
      SpellsInteger text value
  | minus {digits : List Char} {value : Nat} (spelled : Spells 10 digits value) :
      SpellsInteger ('-' :: digits) (-value)

theorem Spells.head (spelled : Spells base text value) :
    ∃ character rest digit, text = character :: rest ∧ IsDigit base character digit := by
  obtain ⟨character, rest, rfl⟩ := List.exists_cons_of_ne_nil spelled.ne_nil
  obtain ⟨digit, isDigit⟩ := spelled.isDigit character List.mem_cons_self
  exact ⟨character, rest, digit, rfl, isDigit⟩

theorem not_spells_cons {sign : Char} (small : base ≤ 16) (noDigit : sign.isAlphanum = false)
    (digits : List Char) : ¬ Spells base (sign :: digits) value := by
  intro spelled
  obtain ⟨digit, isDigit⟩ := spelled.isDigit sign List.mem_cons_self
  rw [isDigit.isAlphanum small] at noDigit
  cases noDigit

theorem natural_eq_ok (small : base ≤ 16) :
    natural base limit text = .ok value ↔ SpellsNatural base text value ∧ value ≤ limit := by
  have noPlus {digits : List Char} : ¬ Spells base ('+' :: digits) value :=
    not_spells_cons small (by decide) digits
  unfold natural
  split
  · constructor
    · nofun
    · rintro ⟨⟨spelled⟩, -⟩
      exact absurd rfl spelled.ne_nil
  · rw [magnitude_eq_ok small]
    constructor
    · rintro ⟨spelled, within⟩
      exact ⟨.plus spelled, within⟩
    · rintro ⟨spelled | spelled, within⟩
      · exact absurd spelled noPlus
      · exact ⟨spelled, within⟩
  · rename_i notPlus
    rw [magnitude_eq_ok small]
    constructor
    · rintro ⟨spelled, within⟩
      exact ⟨.plain spelled, within⟩
    · rintro ⟨spelled | spelled, within⟩
      · exact ⟨spelled, within⟩
      · exact absurd rfl (notPlus _)

theorem integer_eq_natural (limit : Nat) (noMinus : ∀ digits, text ≠ '-' :: digits) :
    integer limit text = (natural 10 limit text).map Int.ofNat := by
  unfold integer natural
  split
  · rfl
  · rfl
  · exact absurd rfl (noMinus _)
  · rename_i notEmpty notPlus _
    split
    · exact absurd rfl notEmpty
    · exact absurd rfl (notPlus _)
    · rfl

theorem integer_eq_ok {number : Int} :
    integer limit text = .ok number ↔
      SpellsInteger text number ∧ -(limit + 1 : Int) ≤ number ∧ number ≤ limit := by
  have small : 10 ≤ 16 := by decide
  by_cases negative : ∃ digits, text = '-' :: digits
  · obtain ⟨digits, rfl⟩ := negative
    have noNatural (value : Nat) : ¬ SpellsNatural 10 ('-' :: digits) value := by
      rintro ⟨spelled⟩
      exact not_spells_cons small (by decide) digits spelled
    simp only [integer, Outcome.map_eq_ok, magnitude_eq_ok small, Int.ofNat_eq_natCast]
    constructor
    · rintro ⟨value, ⟨spelled, within⟩, rfl⟩
      exact ⟨.minus spelled, by omega, by omega⟩
    · rintro ⟨spelled | spelled, lower, upper⟩
      · exact absurd spelled (noNatural _)
      · exact ⟨_, ⟨spelled, by omega⟩, rfl⟩
  · rw [integer_eq_natural limit (fun digits same => negative ⟨digits, same⟩), Outcome.map_eq_ok]
    simp only [natural_eq_ok small, Int.ofNat_eq_natCast]
    constructor
    · rintro ⟨value, ⟨spelled, within⟩, rfl⟩
      exact ⟨.natural spelled, by omega, Int.ofNat_le.mpr within⟩
    · rintro ⟨spelled | spelled, lower, upper⟩
      · exact ⟨_, ⟨spelled, Int.ofNat_le.mp upper⟩, rfl⟩
      · exact absurd ⟨_, rfl⟩ negative

/-! Spelled numbers hold no white space. -/

theorem Spells.isVisible (small : base ≤ 16) (spelled : Spells base text value) :
    ∀ character ∈ text, IsVisible character := by
  intro character member
  obtain ⟨digit, isDigit⟩ := spelled.isDigit character member
  exact isDigit.isVisible small

theorem SpellsNatural.isVisible (small : base ≤ 16) (spelled : SpellsNatural base text value) :
    ∀ character ∈ text, IsVisible character := by
  cases spelled with
  | plain spelled => exact spelled.isVisible small
  | plus spelled =>
    exact List.forall_mem_cons.mpr ⟨⟨by decide, by decide⟩, spelled.isVisible small⟩

theorem SpellsInteger.isVisible {number : Int} (spelled : SpellsInteger text number) :
    ∀ character ∈ text, IsVisible character := by
  cases spelled with
  | natural spelled => exact spelled.isVisible (by decide)
  | minus spelled =>
    exact List.forall_mem_cons.mpr ⟨⟨by decide, by decide⟩, spelled.isVisible (by decide)⟩

theorem SpellsInteger.ne_nil {number : Int} (spelled : SpellsInteger text number) : text ≠ [] := by
  rcases spelled with (spelled | spelled) | spelled
  · exact spelled.ne_nil
  · exact List.cons_ne_nil _ _
  · exact List.cons_ne_nil _ _

end DeviceTestbed.Numeral

/-! Bytes in hexadecimal. -/

namespace DeviceTestbed.Hex

inductive Spells : List Char → Bytes → Prop
  | nil : Spells [] []
  | cons {high low : Char} {first second : Nat} {rest : List Char} {data : Bytes}
      (isHigh : Numeral.IsDigit 16 high first) (isLow : Numeral.IsDigit 16 low second)
      (spelled : Spells rest data) :
      Spells (high :: low :: rest) (UInt8.ofNat (16 * first + second) :: data)

theorem Spells.isVisible {text : List Char} {data : Bytes} (spelled : Spells text data) :
    ∀ character ∈ text, IsVisible character := by
  induction spelled with
  | nil =>
    intro character member
    exact absurd member List.not_mem_nil
  | cons isHigh isLow spelled ih =>
    intro character member
    rcases List.mem_cons.mp member with rfl | later
    · exact isHigh.isVisible (by decide)
    · rcases List.mem_cons.mp later with rfl | rest
      · exact isLow.isVisible (by decide)
      · exact ih character rest

theorem Spells.length {text : List Char} {data : Bytes} (spelled : Spells text data) :
    text.length = 2 * data.length := by
  induction spelled with
  | nil => rfl
  | cons isHigh isLow spelled ih =>
    simp only [List.length_cons]
    omega

theorem digit?_eq_some {byte : UInt8} {value : Nat} :
    digit? byte = some value ↔ Numeral.IsDigit 16 (Char.ofNat byte.toNat) value :=
  Numeral.digit?_eq_some (by decide)

theorem lt_of_digit? {byte : UInt8} {value : Nat} (isDigit : digit? byte = some value) :
    byte < 0x80 := by
  have bound := byte.toNat_lt
  have visible := (digit?_eq_some.mp isDigit).isVisible (by decide)
  have known : (Char.ofNat byte.toNat).toNat = byte.toNat :=
    Utf8.toNat_ofNat (.inl (by omega))
  rw [UInt8.lt_iff_toNat_lt, ← known]
  exact Nat.lt_succ_of_lt visible.2

theorem lt_of_decodePairs {digits bytes : Bytes} {position : Nat} (even : digits.length % 2 = 0)
    (decoded : decodePairs position digits = .ok bytes) : ∀ byte ∈ digits, byte < 0x80 := by
  induction position, digits using decodePairs.induct generalizing bytes with
  | case1 position high low rest noHigh => simp [decodePairs, noHigh] at decoded
  | case2 position high low rest first isHigh noLow => simp [decodePairs, isHigh, noLow] at decoded
  | case3 position high low rest first second isLow isHigh ih =>
    simp only [decodePairs, isHigh, isLow, Outcome.map_eq_ok] at decoded
    obtain ⟨later, others, -⟩ := decoded
    intro byte member
    rcases List.mem_cons.mp member with rfl | next
    · exact lt_of_digit? isHigh
    · rcases List.mem_cons.mp next with rfl | inRest
      · exact lt_of_digit? isLow
      · refine ih ?_ others byte inRest
        simp only [List.length_cons] at even
        omega
  | case4 digits position short =>
    rcases digits with _ | ⟨high, _ | ⟨low, rest⟩⟩
    · intro byte member
      exact absurd member List.not_mem_nil
    · contradiction
    · exact absurd rfl (short high low rest)

theorem digit?_ofAscii {character : Char} {value : Nat} (ascii : character.toNat < 0x80) :
    digit? (UInt8.ofNat character.toNat) = some value ↔ Numeral.IsDigit 16 character value := by
  rw [digit?_eq_some, Bytes.toNat_ofAscii ascii, Char.ofNat_toNat]

theorem decodePairs_eq_ok {text : List Char} {data : Bytes} (position : Nat) (ascii : IsAscii text)
    (even : text.length % 2 = 0) :
    decodePairs position (Bytes.ofAscii text) = .ok data ↔ Spells text data := by
  induction text using List.twoStepInduction generalizing position data with
  | nil =>
    constructor
    · intro decoded
      cases decoded
      exact .nil
    · rintro ⟨⟩
      rfl
  | singleton character => contradiction
  | cons_cons high low rest ih _ =>
    have highAscii := ascii high List.mem_cons_self
    have lowAscii := ascii low (List.mem_cons_of_mem _ List.mem_cons_self)
    have others : IsAscii rest := fun character member =>
      ascii character (List.mem_cons_of_mem _ (List.mem_cons_of_mem _ member))
    have evenRest : rest.length % 2 = 0 := by
      simp only [List.length_cons] at even
      omega
    have later (bytes : Bytes) :
        decodePairs (position + 2) (Bytes.ofAscii rest) = .ok bytes ↔ Spells rest bytes :=
      ih (position + 2) others evenRest
    simp only [Bytes.ofAscii, List.map_cons] at later ⊢
    constructor
    · intro decoded
      simp only [decodePairs] at decoded
      split at decoded
      · contradiction
      · contradiction
      · rename_i isHigh isLow
        obtain ⟨bytes, rest, rfl⟩ := Outcome.map_eq_ok.mp decoded
        exact .cons ((digit?_ofAscii highAscii).mp isHigh) ((digit?_ofAscii lowAscii).mp isLow)
          ((later _).mp rest)
    · rintro (_ | ⟨isHigh, isLow, spelled⟩)
      simp only [decodePairs, (digit?_ofAscii highAscii).mpr isHigh,
        (digit?_ofAscii lowAscii).mpr isLow, (later _).mpr spelled]
      rfl

theorem decode_eq_ok {text : List Char} {data : Bytes} :
    decode (Utf8.encode text) = .ok data ↔ Spells text data := by
  constructor
  · intro decoded
    by_cases odd : (Utf8.encode text).length % 2 = 1
    · rw [decode, if_pos odd] at decoded
      contradiction
    · rw [decode, if_neg odd] at decoded
      have even : (Utf8.encode text).length % 2 = 0 := by omega
      have ascii : IsAscii text := Utf8.isAscii_of_encode (lt_of_decodePairs even decoded)
      rw [Utf8.encode_ascii ascii] at decoded even
      exact (decodePairs_eq_ok 0 ascii (by simpa [Bytes.ofAscii] using even)).mp decoded
  · intro spelled
    have ascii : IsAscii text := isAscii_of_visible spelled.isVisible
    have even : text.length % 2 = 0 := by
      rw [spelled.length]
      omega
    have notOdd : (Bytes.ofAscii text).length % 2 ≠ 1 := by
      rw [Bytes.ofAscii, List.length_map, even]
      decide
    rw [Utf8.encode_ascii ascii, decode, if_neg notOdd]
    exact (decodePairs_eq_ok 0 ascii even).mpr spelled

end DeviceTestbed.Hex
