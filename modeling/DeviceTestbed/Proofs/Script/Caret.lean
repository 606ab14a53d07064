import DeviceTestbed.Script.Caret

/-!
Caret notation is read back up to one pair of bytes: the control byte 30 and the caret itself are
both written as two carets. Apart from that, text in caret notation tells the bytes it stands for.
-/

namespace DeviceTestbed.Caret

def readBack (byte : UInt8) : UInt8 :=
  if byte = 30 then mark else byte

theorem escape_append (first second : Bytes) :
    escape (first ++ second) = escape first ++ escape second :=
  List.flatMap_append

theorem le_of_mem_escapeByte {byte written : UInt8} (member : written ∈ escapeByte byte) :
    32 ≤ written := by
  rw [escapeByte] at member
  split at member
  · rename_i control
    rw [UInt8.lt_iff_toNat_lt] at control
    rcases List.mem_cons.mp member with rfl | moved
    · decide
    · rw [List.mem_singleton.mp moved, UInt8.le_iff_toNat_le, UInt8.toNat_add]
      change byte.toNat < 32 at control
      change 32 ≤ (byte.toNat + 64) % 256
      omega
  · rename_i visible
    split at member
    · simp only [List.mem_cons, List.not_mem_nil, or_false, or_self] at member
      subst member
      decide
    · rw [List.mem_singleton.mp member]
      exact UInt8.not_lt.mp visible

theorem le_of_mem_escape {bytes : Bytes} {written : UInt8} (member : written ∈ escape bytes) :
    32 ≤ written := by
  obtain ⟨byte, -, inPair⟩ := List.mem_flatMap.mp member
  exact le_of_mem_escapeByte inPair

/-! Reading text in caret notation. -/

theorem unescapePair_control {byte : UInt8} (control : byte < 32) :
    unescapePair (byte + 64) = some (readBack byte) := by
  by_cases separator : byte = 30
  · subst separator
    rfl
  · have bound : byte.toNat < 32 := UInt8.lt_iff_toNat_lt.mp control
    have value : (byte + 64).toNat = byte.toNat + 64 := by
      rw [UInt8.toNat_add]
      change (byte.toNat + 64) % 256 = byte.toNat + 64
      omega
    have notMark : byte + 64 ≠ mark := by
      intro same
      apply separator
      have equal := congrArg UInt8.toNat same
      rw [value] at equal
      change byte.toNat + 64 = 94 at equal
      apply UInt8.toNat_inj.mp
      change byte.toNat = 30
      omega
    have inRange : 64 ≤ byte + 64 ∧ byte + 64 < 96 := by
      rw [UInt8.le_iff_toNat_le, UInt8.lt_iff_toNat_lt, value]
      change 64 ≤ byte.toNat + 64 ∧ byte.toNat + 64 < 96
      omega
    rw [unescapePair, if_neg notMark, if_pos inRange, readBack, if_neg separator,
      UInt8.add_sub_cancel]

theorem unescape?_mark_cons {next meant : UInt8} (pair : unescapePair next = some meant)
    (rest : Bytes) : unescape? (mark :: next :: rest) = (unescape? rest).map (meant :: ·) := by
  rw [unescape?, if_pos rfl]
  simp only [pair]
  cases unescape? rest <;> rfl

theorem unescape?_escapeByte_append (byte : UInt8) (rest : Bytes) :
    unescape? (escapeByte byte ++ rest) = (unescape? rest).map (readBack byte :: ·) := by
  by_cases control : byte < 32
  · rw [escapeByte, if_pos control]
    exact unescape?_mark_cons (unescapePair_control control) rest
  · have ordinary : byte ≠ 30 := by
      rintro rfl
      exact control (by decide)
    rw [escapeByte, if_neg control, readBack, if_neg ordinary]
    by_cases caret : byte = mark
    · rw [if_pos caret, caret]
      exact unescape?_mark_cons rfl rest
    · rw [if_neg caret, List.singleton_append, unescape?.eq_def]
      simp only [if_neg caret, if_neg control]

theorem unescape?_escape (bytes : Bytes) :
    unescape? (escape bytes) = some (bytes.map readBack) := by
  induction bytes with
  | nil => rfl
  | cons byte bytes ih =>
    change unescape? (escapeByte byte ++ escape bytes) = _
    rw [unescape?_escapeByte_append, ih]
    rfl

theorem map_readBack {bytes : Bytes} (without : 30 ∉ bytes) : bytes.map readBack = bytes := by
  have kept : ∀ byte ∈ bytes, readBack byte = byte := by
    intro byte member
    refine if_neg ?_
    rintro rfl
    exact without member
  rw [List.map_congr_left kept, List.map_id']

theorem escapeByte_readBack (byte : UInt8) : escapeByte (readBack byte) = escapeByte byte := by
  rw [readBack]
  split
  · rename_i separator
    rw [separator]
    rfl
  · rfl

theorem escape_map_readBack (bytes : Bytes) : escape (bytes.map readBack) = escape bytes := by
  rw [escape, List.flatMap_map]
  exact congrArg (List.flatMap · bytes) (funext escapeByte_readBack)

/-- Two byte strings are written alike just if they are read back alike, that is, if they are equal
once the control byte 30 counts as a caret. -/
theorem escape_eq_iff (first second : Bytes) :
    escape first = escape second ↔ first.map readBack = second.map readBack := by
  constructor
  · intro same
    have read := congrArg unescape? same
    rw [unescape?_escape, unescape?_escape] at read
    exact Option.some.inj read
  · intro same
    rw [← escape_map_readBack first, same, escape_map_readBack]

/-- A caret is not told from the control byte 30. -/
theorem escape_not_injective :
    ¬ ∀ first second : Bytes, escape first = escape second → first = second := by
  intro injective
  have same : [30] = [mark] := injective [30] [mark] rfl
  exact absurd same (by decide)

end DeviceTestbed.Caret
