import DeviceTestbed.Proofs.Text.Ascii
import Mathlib.Algebra.Group.Nat.Defs
import Mathlib.Data.List.Induction

/-!
Decoding undoes encoding, and nothing but the encoding of a text is decoded to it. A character that
was begun is completed by bytes that hold the rest of its code point, six bits in each.
-/

namespace DeviceTestbed.Utf8

def tail : Nat → Nat → Bytes
  | 0, _ => []
  | count + 1, code => UInt8.ofNat (0x80 + code / 64 ^ count % 64) :: tail count code

theorem utf8EncodeChar_eq (character : Char) :
    String.utf8EncodeChar character =
      let code := character.toNat
      if code < 0x80 then [UInt8.ofNat code]
      else if code < 0x800 then UInt8.ofNat (0xC0 + code / 64) :: tail 1 code
      else if code < 0x10000 then UInt8.ofNat (0xE0 + code / 64 ^ 2) :: tail 2 code
      else UInt8.ofNat (0xF0 + code / 64 ^ 3) :: tail 3 code := by
  have valid : character.val.toNat.isValidChar := character.valid
  simp only [String.utf8EncodeChar, Char.toNat]
  generalize character.val.toNat = code at valid ⊢
  simp only [tail, ← Nat.lt_succ_iff]
  split
  · rfl
  · split
    · have lead : code / 64 % 32 + 192 = 192 + code / 64 := by omega
      simp [lead, Nat.add_comm]
    · split
      · have lead : code / 4096 % 16 + 224 = 224 + code / 4096 := by omega
        simp [lead, Nat.add_comm]
      · have lead : code / 262144 % 8 + 240 = 240 + code / 262144 := by omega
        simp [lead, Nat.add_comm]

/-! Completing a character. -/

structure Pending.Admits (pending : Pending) (code : Nat) : Prop where
  begun : code / 64 ^ (pending.owed + 1) = pending.value
  lower : pending.low.toNat ≤ 0x80 + code / 64 ^ pending.owed % 64
  upper : 0x80 + code / 64 ^ pending.owed % 64 ≤ pending.high.toNat

theorem toNat_tail (code count : Nat) :
    (UInt8.ofNat (0x80 + code / 64 ^ count % 64)).toNat = 0x80 + code / 64 ^ count % 64 := by
  rw [UInt8.toNat_ofNat']
  omega

theorem Pending.Admits.advance {pending : Pending} {code : Nat} (admits : pending.Admits code) :
    Utf8.advance (some pending) (UInt8.ofNat (0x80 + code / 64 ^ pending.owed % 64)) =
      match pending.owed with
      | 0 => ([some (Char.ofNat code)], none)
      | owed + 1 => ([], some ⟨owed, 0x80, 0xBF, code / 64 ^ (owed + 1)⟩) := by
  obtain ⟨begun, lower, upper⟩ := admits
  have byte := toNat_tail code pending.owed
  have reached : pending.value * 64 + (0x80 + code / 64 ^ pending.owed % 64 - 0x80) =
      code / 64 ^ pending.owed := by
    rw [← begun, Nat.pow_succ, ← Nat.div_div_eq_div_mul]
    omega
  have within : pending.low ≤ UInt8.ofNat (0x80 + code / 64 ^ pending.owed % 64) ∧
      UInt8.ofNat (0x80 + code / 64 ^ pending.owed % 64) ≤ pending.high := by
    rw [UInt8.le_iff_toNat_le, UInt8.le_iff_toNat_le, byte]
    exact ⟨lower, upper⟩
  rw [Utf8.advance, if_pos within, byte, reached]
  cases owed : pending.owed with
  | zero => simp
  | succ owed => rfl

theorem scan_tail {pending : Pending} {code : Nat} (admits : pending.Admits code) (rest : Bytes) :
    scan (some pending) (tail (pending.owed + 1) code ++ rest) =
      some (Char.ofNat code) :: scan none rest := by
  obtain ⟨owed, low, high, value⟩ := pending
  induction owed generalizing low high value with
  | zero =>
    have last := admits.advance
    simp only at last
    simp only [tail, List.cons_append, List.nil_append, scan, last]
  | succ owed ih =>
    have next := admits.advance
    simp only at next
    have left : Pending.Admits ⟨owed, 0x80, 0xBF, code / 64 ^ (owed + 1)⟩ code :=
      { begun := rfl
        lower := Nat.le_add_right _ _
        upper := by
          change 0x80 + code / 64 ^ owed % 64 ≤ 0xBF
          omega }
    rw [tail, List.cons_append, scan, next, List.nil_append]
    exact ih _ _ _ left

theorem Pending.admits_of_byte {pending : Pending} {byte : UInt8} {code : Nat}
    (low : 0x80 ≤ pending.low) (high : pending.high ≤ 0xBF)
    (within : pending.low ≤ byte ∧ byte ≤ pending.high)
    (reached : code / 64 ^ pending.owed = pending.value * 64 + (byte.toNat - 0x80)) :
    pending.Admits code ∧ byte = UInt8.ofNat (0x80 + code / 64 ^ pending.owed % 64) := by
  simp only [UInt8.le_iff_toNat_le] at low high within
  have least : 0x80 ≤ byte.toNat := Nat.le_trans low within.1
  have greatest : byte.toNat ≤ 0xBF := Nat.le_trans within.2 high
  have same : 0x80 + code / 64 ^ pending.owed % 64 = byte.toNat := by omega
  refine ⟨⟨?_, same ▸ within.1, same ▸ within.2⟩, ?_⟩
  · rw [Nat.pow_succ, ← Nat.div_div_eq_div_mul, reached]
    omega
  · rw [same, UInt8.ofNat_toNat]

/-- A scan that comes upon nothing broken completes the character. -/
theorem exists_code {pending : Pending} {bytes : Bytes} (low : 0x80 ≤ pending.low)
    (high : pending.high ≤ 0xBF) (whole : none ∉ scan (some pending) bytes) :
    ∃ code rest, pending.Admits code ∧ bytes = tail (pending.owed + 1) code ++ rest := by
  obtain ⟨owed, least, greatest, value⟩ := pending
  induction owed generalizing least greatest value bytes with
  | zero =>
    cases bytes with
    | nil => simp [scan] at whole
    | cons byte rest =>
      by_cases within : least ≤ byte ∧ byte ≤ greatest
      · obtain ⟨admits, same⟩ := Pending.admits_of_byte low high within (Nat.div_one _)
        exact ⟨_, rest, admits, congrArg (· :: rest) same⟩
      · simp [scan, Utf8.advance, within] at whole
  | succ owed ih =>
    cases bytes with
    | nil => simp [scan] at whole
    | cons byte bytes =>
      by_cases within : least ≤ byte ∧ byte ≤ greatest
      · have later : none ∉
            scan (some ⟨owed, 0x80, 0xBF, value * 64 + (byte.toNat - 0x80)⟩) bytes := by
          simpa only [scan, Utf8.advance, if_pos within, List.nil_append] using whole
        obtain ⟨code, rest, left, rfl⟩ := ih _ _ _ (UInt8.le_refl _) (UInt8.le_refl _) later
        obtain ⟨admits, same⟩ := Pending.admits_of_byte low high within left.begun
        exact ⟨code, rest, admits, congrArg (· :: (tail (owed + 1) code ++ rest)) same⟩
      · simp [scan, Utf8.advance, within] at whole

/-! Beginning a character. -/

section

variable {byte : UInt8}

theorem lead_one (upper : byte.toNat < 0x80) :
    lead byte = ([some (Char.ofNat byte.toNat)], none) :=
  if_pos upper

theorem lead_two (lower : 0xC2 ≤ byte.toNat) (upper : byte.toNat < 0xE0) :
    lead byte = ([], some ⟨0, 0x80, 0xBF, byte.toNat - 0xC0⟩) := by
  simp only [lead, UInt8.lt_iff_toNat_lt, UInt8.reduceToNat]
  rw [if_neg (by omega), if_neg (by omega), if_pos upper]

theorem lead_three (lower : 0xE0 ≤ byte.toNat) (upper : byte.toNat < 0xF0) :
    lead byte = ([], some ⟨1, if byte.toNat = 0xE0 then 0xA0 else 0x80,
      if byte.toNat = 0xED then 0x9F else 0xBF, byte.toNat - 0xE0⟩) := by
  simp only [lead, UInt8.lt_iff_toNat_lt, ← UInt8.toNat_inj, UInt8.reduceToNat]
  rw [if_neg (by omega), if_neg (by omega), if_neg (by omega)]
  split
  · simp [*]
  · split
    · simp [*]
    · rfl

theorem lead_four (lower : 0xF0 ≤ byte.toNat) (upper : byte.toNat ≤ 0xF4) :
    lead byte = ([], some ⟨2, if byte.toNat = 0xF0 then 0x90 else 0x80,
      if byte.toNat = 0xF4 then 0x8F else 0xBF, byte.toNat - 0xF0⟩) := by
  simp only [lead, UInt8.lt_iff_toNat_lt, ← UInt8.toNat_inj, UInt8.reduceToNat]
  rw [if_neg (by omega), if_neg (by omega), if_neg (by omega), if_neg (by omega),
    if_neg (by omega), if_neg (by omega)]
  split
  · simp [*]
  · split
    · rw [if_neg (by omega)]
    · have last : byte.toNat = 0xF4 := by omega
      simp [last]

theorem lead_broken (outside : 0x80 ≤ byte.toNat ∧ byte.toNat < 0xC2 ∨ 0xF4 < byte.toNat) :
    lead byte = ([none], none) := by
  simp only [lead, UInt8.lt_iff_toNat_lt, ← UInt8.toNat_inj, UInt8.reduceToNat]
  rw [if_neg (by omega)]
  split
  · rfl
  · rw [if_neg (by omega), if_neg (by omega), if_neg (by omega), if_neg (by omega),
      if_neg (by omega), if_neg (by omega), if_neg (by omega)]

end

theorem exists_pending (character : Char) (wide : 0x80 ≤ character.toNat) :
    ∃ byte pending, lead byte = ([], some pending) ∧ pending.Admits character.toNat ∧
      String.utf8EncodeChar character = byte :: tail (pending.owed + 1) character.toNat := by
  have valid : character.toNat.isValidChar := character.valid
  rw [utf8EncodeChar_eq]
  generalize character.toNat = code at wide valid ⊢
  simp only [if_neg (Nat.not_lt.mpr wide)]
  have byte (first : Nat) (small : first < 256) : (UInt8.ofNat first).toNat = first :=
    UInt8.toNat_ofNat_of_lt' small
  split
  · have first := byte (0xC0 + code / 64) (by omega)
    refine ⟨_, _, lead_two (by omega) (by omega), ⟨?_, ?_, ?_⟩, rfl⟩
    · simp only [first]; omega
    · simp
    · simp; omega
  · split
    · have first := byte (0xE0 + code / 64 ^ 2) (by omega)
      refine ⟨_, _, lead_three (by omega) (by omega), ⟨?_, ?_, ?_⟩, rfl⟩
      · simp only [first]; omega
      · simp only [first]
        split <;> simp
        omega
      · simp only [first]; split <;> simp <;> omega
    · have first := byte (0xF0 + code / 64 ^ 3) (by omega)
      refine ⟨_, _, lead_four (by omega) (by omega), ⟨?_, ?_, ?_⟩, rfl⟩
      · simp only [first]; omega
      · simp only [first]
        split <;> simp
        omega
      · simp only [first]; split <;> simp <;> omega

theorem toNat_ofNat {code : Nat} (valid : code.isValidChar) : (Char.ofNat code).toNat = code := by
  rw [Char.ofNat, dif_pos valid]
  rfl

theorem lead_cases (byte : UInt8) :
    lead byte = ([none], none) ∨
      (lead byte = ([some (Char.ofNat byte.toNat)], none) ∧
        String.utf8EncodeChar (Char.ofNat byte.toNat) = [byte]) ∨
      ∃ pending, lead byte = ([], some pending) ∧ 0x80 ≤ pending.low ∧ pending.high ≤ 0xBF ∧
        ∀ code, pending.Admits code →
          String.utf8EncodeChar (Char.ofNat code) = byte :: tail (pending.owed + 1) code := by
  have same {first : Nat} (equal : first = byte.toNat) : UInt8.ofNat first = byte := by
    rw [equal, UInt8.ofNat_toNat]
  by_cases one : byte.toNat < 0x80
  · have known : (Char.ofNat byte.toNat).toNat = byte.toNat := toNat_ofNat (.inl (by omega))
    exact .inr (.inl ⟨lead_one one, by simp [utf8EncodeChar_eq, known, one]⟩)
  by_cases two : 0xC2 ≤ byte.toNat ∧ byte.toNat < 0xE0
  · refine .inr (.inr ⟨_, lead_two two.1 two.2, UInt8.le_refl _, UInt8.le_refl _, ?_⟩)
    rintro code ⟨begun, -, -⟩
    simp only at begun
    have known : (Char.ofNat code).toNat = code := toNat_ofNat (.inl (by omega))
    simp only [utf8EncodeChar_eq, known]
    rw [if_neg (by omega), if_pos (by omega), same (by omega)]
  by_cases three : 0xE0 ≤ byte.toNat ∧ byte.toNat < 0xF0
  · refine .inr (.inr ⟨_, lead_three three.1 three.2, ?_, ?_, ?_⟩)
    · dsimp only; split <;> decide
    · dsimp only; split <;> decide
    rintro code ⟨begun, lower, upper⟩
    dsimp only at begun lower upper
    have long : 0x800 ≤ code := by
      split at lower <;> simp at lower <;> omega
    have valid : code.isValidChar := by
      split at upper <;> (simp at upper; omega)
    simp only [utf8EncodeChar_eq, toNat_ofNat valid]
    rw [if_neg (by omega), if_neg (by omega), if_pos (by omega), same (by omega)]
  by_cases four : 0xF0 ≤ byte.toNat ∧ byte.toNat ≤ 0xF4
  · refine .inr (.inr ⟨_, lead_four four.1 four.2, ?_, ?_, ?_⟩)
    · dsimp only; split <;> decide
    · dsimp only; split <;> decide
    rintro code ⟨begun, lower, upper⟩
    dsimp only at begun lower upper
    have long : 0x10000 ≤ code := by
      split at lower <;> simp at lower <;> omega
    have valid : code.isValidChar := by
      split at upper <;> (simp at upper; omega)
    simp only [utf8EncodeChar_eq, toNat_ofNat valid]
    rw [if_neg (by omega), if_neg (by omega), if_neg (by omega), same (by omega)]
  exact .inl (lead_broken (by omega))

/-! Whole texts. -/

theorem scan_utf8EncodeChar (character : Char) (rest : Bytes) :
    scan none (String.utf8EncodeChar character ++ rest) = some character :: scan none rest := by
  by_cases ascii : character.toNat < 0x80
  · have byte : (UInt8.ofNat character.toNat).toNat = character.toNat := Bytes.toNat_ofAscii ascii
    simp only [utf8EncodeChar_eq, ascii, if_true, List.cons_append, List.nil_append]
    rw [scan_ascii _ _ (by rw [UInt8.lt_iff_toNat_lt, byte]; exact ascii), byte, Char.ofNat_toNat]
  · obtain ⟨byte, pending, begun, admits, encoded⟩ :=
      exists_pending character (Nat.not_lt.mp ascii)
    rw [encoded, List.cons_append, scan, Utf8.advance, begun, List.nil_append,
      scan_tail admits, Char.ofNat_toNat]

theorem encode_cons (character : Char) (text : List Char) :
    encode (character :: text) = String.utf8EncodeChar character ++ encode text :=
  List.flatMap_cons

theorem scan_encode (text : List Char) (rest : Bytes) :
    scan none (encode text ++ rest) = text.map some ++ scan none rest := by
  induction text with
  | nil => rfl
  | cons character text ih =>
    rw [encode_cons, List.append_assoc, scan_utf8EncodeChar, ih, List.map_cons, List.cons_append]

theorem exists_text (bytes : Bytes) (whole : none ∉ scan none bytes) :
    ∃ text, bytes = encode text := by
  induction length : bytes.length using Nat.strongRecOn generalizing bytes with
  | ind length ih =>
    subst length
    cases bytes with
    | nil => exact ⟨[], rfl⟩
    | cons byte rest =>
      rw [scan, Utf8.advance] at whole
      rcases lead_cases byte with broken | ⟨ascii, encoded⟩ | ⟨pending, begun, low, high, completed⟩
      · simp [broken] at whole
      · have later : none ∉ scan none rest := by simpa [ascii] using whole
        obtain ⟨text, rfl⟩ := ih rest.length (Nat.lt_succ_self _) rest later rfl
        exact ⟨Char.ofNat byte.toNat :: text, by rw [encode_cons, encoded, List.singleton_append]⟩
      · rw [begun, List.nil_append] at whole
        obtain ⟨code, rest, admits, rfl⟩ := exists_code low high whole
        have later : none ∉ scan none rest := by simpa [scan_tail admits] using whole
        have shorter : rest.length < (byte :: (tail (pending.owed + 1) code ++ rest)).length := by
          rw [List.length_cons, List.length_append]
          omega
        obtain ⟨text, rfl⟩ := ih rest.length shorter rest later rfl
        refine ⟨Char.ofNat code :: text, ?_⟩
        rw [encode_cons, completed code admits, List.cons_append]

theorem scan_encode_self (text : List Char) : scan none (encode text) = text.map some := by
  have scanned := scan_encode text []
  rwa [List.append_nil, scan, List.append_nil] at scanned

theorem lenient_encode (text : List Char) : lenient (encode text) = text := by
  rw [lenient, scan_encode_self, List.map_map]
  exact List.map_id text

theorem decode?_encode (text : List Char) : decode? (encode text) = some text := by
  rw [decode?, scan_encode_self, mapM_some]

theorem encode_injective {text other : List Char} (same : encode text = encode other) :
    text = other := by
  have decoded := decode?_encode text
  rw [same, decode?_encode] at decoded
  exact (Option.some.inj decoded).symm

theorem none_not_mem_of_mapM {found : List (Option Char)} {text : List Char}
    (all : found.mapM id = some text) : none ∉ found := by
  induction found generalizing text with
  | nil => exact List.not_mem_nil
  | cons first found ih =>
    cases first with
    | none => simp at all
    | some character =>
      obtain ⟨others, later, -⟩ :
          ∃ others, found.mapM id = some others ∧ character :: others = text := by
        simpa [List.mapM_cons, Option.bind_eq_some_iff] using all
      simpa using ih later

theorem decode?_eq_some {bytes : Bytes} {text : List Char} :
    decode? bytes = some text ↔ bytes = encode text := by
  constructor
  · intro decoded
    obtain ⟨same, rfl⟩ := exists_text bytes (none_not_mem_of_mapM decoded)
    rw [decode?_encode] at decoded
    rw [Option.some.inj decoded]
  · rintro rfl
    exact decode?_encode text

theorem decode?_eq_none {bytes : Bytes} : decode? bytes = none ↔ ∀ text, bytes ≠ encode text := by
  simp only [Option.eq_none_iff_forall_ne_some, ne_eq, decode?_eq_some]

theorem eq_encode_lenient {bytes : Bytes} (clean : '\uFFFD' ∉ lenient bytes) :
    bytes = encode (lenient bytes) := by
  have whole : none ∉ scan none bytes := fun broken =>
    clean (List.mem_map.mpr ⟨none, broken, rfl⟩)
  obtain ⟨text, rfl⟩ := exists_text bytes whole
  rw [lenient_encode]

theorem isAscii_of_encode {text : List Char} (ascii : ∀ byte ∈ encode text, byte < 0x80) :
    IsAscii text := by
  intro character member
  refine Nat.lt_of_not_le fun wide => ?_
  obtain ⟨byte, pending, begun, -, encoded⟩ := exists_pending character wide
  have first : byte ∈ encode text :=
    List.mem_flatMap.mpr ⟨character, member, encoded ▸ List.mem_cons_self⟩
  rw [lead_one (ascii byte first)] at begun
  cases begun

theorem getLast?_tail (count code : Nat) :
    (tail (count + 1) code).getLast? = some (UInt8.ofNat (0x80 + code % 64)) := by
  induction count with
  | zero => simp [tail]
  | succ count ih =>
    rw [tail, List.getLast?_cons, ih]
    rfl

theorem encode_append (first second : List Char) :
    encode (first ++ second) = encode first ++ encode second :=
  List.flatMap_append

theorem encode_eq_concat {bytes : Bytes} {last : UInt8} {text : List Char} (ascii : last < 0x80)
    (encoded : encode text = bytes ++ [last]) :
    ∃ before, text = before ++ [Char.ofNat last.toNat] ∧ bytes = encode before := by
  induction text using List.reverseRecOn with
  | nil => simp [encode] at encoded
  | append_singleton before character =>
    rw [encode_append, encode_cons, show encode [] = [] from rfl, List.append_nil] at encoded
    by_cases small : character.toNat < 0x80
    · rw [utf8EncodeChar_eq] at encoded
      simp only [small, if_true] at encoded
      obtain ⟨same, lastSame⟩ := List.append_inj' encoded rfl
      refine ⟨before, ?_, same.symm⟩
      rw [← List.singleton_inj.mp lastSame, Bytes.toNat_ofAscii small, Char.ofNat_toNat]
    · obtain ⟨byte, pending, -, -, wide⟩ := exists_pending character (Nat.not_lt.mp small)
      have ends := congrArg List.getLast? encoded
      rw [wide, List.getLast?_concat, List.getLast?_append, List.getLast?_cons,
        getLast?_tail] at ends
      have same : UInt8.ofNat (0x80 + character.toNat % 64) = last := Option.some.inj ends
      rw [UInt8.lt_iff_toNat_lt, ← same, UInt8.toNat_ofNat'] at ascii
      have bound : (0x80 + character.toNat % 64) % 256 < 0x80 := ascii
      omega

end DeviceTestbed.Utf8
