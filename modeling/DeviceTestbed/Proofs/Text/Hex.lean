import DeviceTestbed.Proofs.Text.Numeral
import DeviceTestbed.Text.Hex

/-!
Bytes are read back from the digits that are written for them, two for each byte.
-/

namespace DeviceTestbed.Hex

theorem digit?_digit {value : Nat} (bound : value < 16) :
    digit? (UInt8.ofNat (digit value).toNat) = some value := by
  have ascii : (digit value).toNat < 0x80 := by
    have upper := (Numeral.isVisible_digitChar bound).2
    rw [digit]
    omega
  rw [digit?, Bytes.toNat_ofAscii ascii, Char.ofNat_toNat]
  exact Numeral.digit?_digitChar (by decide) bound

theorem isVisible_encode (bytes : Bytes) : ∀ character ∈ encode bytes, IsVisible character := by
  intro character member
  obtain ⟨byte, -, pair⟩ := List.mem_flatMap.mp member
  have bound := byte.toNat_lt
  rcases List.mem_cons.mp pair with rfl | low
  · exact Numeral.isVisible_digitChar (by omega)
  · rw [List.mem_singleton.mp low]
    exact Numeral.isVisible_digitChar (by omega)

theorem length_encode (bytes : Bytes) : (encode bytes).length = 2 * bytes.length := by
  induction bytes with
  | nil => rfl
  | cons byte bytes ih =>
    rw [encode, List.flatMap_cons, List.length_append, ← encode, ih]
    simp only [List.length_cons, List.length_nil]
    omega

theorem decodePairs_encode (bytes : Bytes) (position : Nat) :
    decodePairs position (Bytes.ofAscii (encode bytes)) = .ok bytes := by
  induction bytes generalizing position with
  | nil => rfl
  | cons byte bytes ih =>
    have bound := byte.toNat_lt
    have high := digit?_digit (show byte.toNat / 16 < 16 by omega)
    have low := digit?_digit (show byte.toNat % 16 < 16 by omega)
    have whole : UInt8.ofNat (16 * (byte.toNat / 16) + byte.toNat % 16) = byte := by
      rw [Nat.div_add_mod]
      exact UInt8.ofNat_toNat
    calc decodePairs position (Bytes.ofAscii (encode (byte :: bytes)))
        = (decodePairs (position + 2) (Bytes.ofAscii (encode bytes))).map
            (UInt8.ofNat (16 * (byte.toNat / 16) + byte.toNat % 16) :: ·) := by
          simp only [encode, Bytes.ofAscii, List.flatMap_cons, List.map_cons, List.cons_append,
            List.nil_append, decodePairs, high, low]
      _ = .ok (byte :: bytes) := by
          rw [ih, whole]
          rfl

theorem decode_encode (bytes : Bytes) : decode (Bytes.ofAscii (encode bytes)) = .ok bytes := by
  have even : (Bytes.ofAscii (encode bytes)).length % 2 ≠ 1 := by
    rw [Bytes.ofAscii, List.length_map, length_encode]
    omega
  rw [decode, if_neg even, decodePairs_encode]

theorem length_of_decodePairs {digits bytes : Bytes} {position : Nat}
    (decoded : decodePairs position digits = .ok bytes) : bytes.length = digits.length / 2 := by
  induction position, digits using decodePairs.induct generalizing bytes with
  | case1 position high low rest noHigh => simp [decodePairs, noHigh] at decoded
  | case2 position high low rest first isHigh noLow => simp [decodePairs, isHigh, noLow] at decoded
  | case3 position high low rest first second isHigh isLow ih =>
    simp only [decodePairs, isHigh, isLow] at decoded
    cases others : decodePairs (position + 2) rest with
    | error fault =>
      rw [others] at decoded
      contradiction
    | ok later =>
      rw [others] at decoded
      have length := ih others
      rw [← Except.ok.inj decoded]
      simp only [List.length_cons]
      omega
  | case4 digits position short =>
    match digits with
    | [] => simp [← Except.ok.inj decoded]
    | [_] => simp [← Except.ok.inj decoded]
    | high :: low :: rest => exact absurd rfl (short high low rest)

theorem length_of_decode {digits bytes : Bytes} (decoded : decode digits = .ok bytes) :
    digits.length = 2 * bytes.length := by
  rw [decode] at decoded
  split at decoded
  · contradiction
  · have half := length_of_decodePairs decoded
    omega

end DeviceTestbed.Hex
