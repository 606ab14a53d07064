import DeviceTestbed.Text.Bytes

/-!
Buffers by their bytes: what is read through a window, and what is stored over a part of them. A
window reads zero bytes behind the end of a buffer.
-/

namespace DeviceTestbed.Bytes

variable {offset length count : Nat} {patch buffer before field : Bytes}

theorem getElem?_overlay (patch buffer : Bytes) (index : Nat) :
    (overlay patch buffer)[index]? =
      if index < patch.length ∧ index < buffer.length then patch[index]? else buffer[index]? := by
  induction patch generalizing buffer index with
  | nil => simp [overlay]
  | cons byte patch ih =>
    cases buffer with
    | nil => simp [overlay]
    | cons first buffer =>
      cases index with
      | zero => simp [overlay]
      | succ index => simp [overlay, ih]

theorem getElem?_overlayAt (offset : Nat) (patch buffer : Bytes) (index : Nat) :
    (overlayAt offset patch buffer)[index]? =
      if offset ≤ index ∧ index < offset + patch.length ∧ index < buffer.length then
        patch[index - offset]?
      else buffer[index]? := by
  simp only [overlayAt, List.getElem?_append, List.length_take, List.getElem?_take,
    getElem?_overlay, List.getElem?_drop, List.length_drop]
  by_cases inside : index < buffer.length
  · by_cases before : index < offset
    · have outside : ¬ offset ≤ index := by omega
      simp only [Nat.lt_min, before, inside, outside, and_self, false_and, if_true, if_false]
    · have reached : offset ≤ index := by omega
      have place : min offset buffer.length = offset := by omega
      have back : offset + (index - offset) = index := by omega
      have below : index - offset < patch.length ↔ index < offset + patch.length := by omega
      have left : index - offset < buffer.length - offset := by omega
      simp only [place, before, if_false, back, below, left, reached, inside, and_true, true_and]
  · have nothing : buffer[index]? = none := List.getElem?_eq_none (by omega)
    have behind : buffer[offset + (index - min offset buffer.length)]? = none :=
      List.getElem?_eq_none (by omega)
    have short : ¬ index < min offset buffer.length := by omega
    have none : ¬ index - min offset buffer.length < buffer.length - offset := by omega
    simp only [short, none, inside, and_false, if_false, nothing, behind]

theorem take_overlayAt (before : count ≤ offset) :
    (overlayAt offset patch buffer).take count = buffer.take count := by
  apply List.ext_getElem?
  intro index
  simp only [List.getElem?_take, getElem?_overlayAt]
  by_cases taken : index < count
  · have outside : ¬ offset ≤ index := by omega
    simp only [outside, false_and, if_false]
  · simp only [taken, if_false]

theorem drop_overlayAt (behind : offset + patch.length ≤ count) :
    (overlayAt offset patch buffer).drop count = buffer.drop count := by
  apply List.ext_getElem?
  intro index
  have outside : ¬ count + index < offset + patch.length := by omega
  simp only [List.getElem?_drop, getElem?_overlayAt, outside, false_and, and_false, if_false]

theorem overlayAt_take (within : offset + patch.length ≤ count) :
    overlayAt offset patch (buffer.take count) = (overlayAt offset patch buffer).take count := by
  apply List.ext_getElem?
  intro index
  simp only [List.getElem?_take, getElem?_overlayAt, List.length_take, Nat.lt_min]
  by_cases taken : index < count
  · simp only [taken, if_true, true_and]
  · have outside : ¬ index < offset + patch.length := by omega
    simp only [taken, outside, false_and, and_false, if_false]

theorem take_take_append {rest : Bytes} (fits : rest.length = buffer.length - count) :
    (buffer.take count ++ rest).take count = buffer.take count := by
  by_cases within : count ≤ buffer.length
  · exact List.take_left' (List.length_take_of_le within)
  · have nothing : rest = [] := List.eq_nil_of_length_eq_zero (by omega)
    rw [nothing, List.append_nil, List.take_take, Nat.min_self]

theorem drop_take_append {rest : Bytes} (fits : rest.length = buffer.length - count) :
    (buffer.take count ++ rest).drop count = rest := by
  by_cases within : count ≤ buffer.length
  · exact List.drop_left' (List.length_take_of_le within)
  · have nothing : rest = [] := List.eq_nil_of_length_eq_zero (by omega)
    rw [nothing, List.append_nil]
    exact List.drop_of_length_le (List.length_take_le _ _)

theorem getElem?_window (offset length : Nat) (buffer : Bytes) (index : Nat) :
    (window offset length buffer)[index]? =
      if index < length then some (buffer[offset + index]?.getD 0) else none := by
  simp only [window, List.getElem?_append, List.length_take, List.length_drop,
    List.getElem?_take, List.getElem?_drop, List.getElem?_replicate, Nat.lt_min]
  by_cases read : index < length
  · by_cases inside : offset + index < buffer.length
    · have left : index < buffer.length - offset := by omega
      simp only [read, left, and_self, if_true, List.getElem?_eq_getElem inside, Option.getD_some]
    · have nothing : buffer[offset + index]? = none := List.getElem?_eq_none (by omega)
      have short : ¬ index < buffer.length - offset := by omega
      have filled : index - min length (buffer.length - offset) <
          length - min length (buffer.length - offset) := by omega
      simp only [read, short, and_false, if_false, filled, if_true, nothing, Option.getD_none]
  · have outside : ¬ index - min length (buffer.length - offset) <
        length - min length (buffer.length - offset) := by omega
    simp only [read, false_and, if_false, outside]

theorem window_congr {first second : Bytes}
    (same : ∀ index < length, first[offset + index]?.getD 0 = second[offset + index]?.getD 0) :
    window offset length first = window offset length second := by
  apply List.ext_getElem?
  intro index
  simp only [getElem?_window]
  by_cases read : index < length
  · simp only [read, if_true, same index read]
  · simp only [read, if_false]

theorem window_take (within : offset + length ≤ count) :
    window offset length (buffer.take count) = window offset length buffer := by
  apply window_congr
  intro index read
  have taken : offset + index < count := by omega
  simp only [List.getElem?_take, taken, if_true]

theorem window_eq_zero (zero : ∀ index < length, buffer[offset + index]?.getD 0 = 0) :
    window offset length buffer = List.replicate length 0 := by
  apply List.ext_getElem?
  intro index
  simp only [getElem?_window, List.getElem?_replicate]
  by_cases read : index < length
  · simp only [read, if_true, zero index read]
  · simp only [read, if_false]

theorem window_field (starts : before.length = offset) (long : field.length = length)
    (after : Bytes) : window offset length (before ++ (field ++ after)) = field := by
  subst starts long
  simp [window]

theorem overlayAt_field (starts : before.length = offset) (long : field.length = patch.length)
    (after : Bytes) :
    overlayAt offset patch (before ++ (field ++ after)) = before ++ (patch ++ after) := by
  subst starts
  have within : patch.length ≤ (field ++ after).length := by simp [long]
  rw [overlayAt, List.take_left, List.drop_left, overlay_eq, List.take_of_length_le within,
    List.drop_left' long]

theorem overlay_overlay (patch buffer : Bytes) :
    overlay patch (overlay patch buffer) = overlay patch buffer := by
  induction patch generalizing buffer with
  | nil => rfl
  | cons byte patch ih =>
    cases buffer with
    | nil => rfl
    | cons first buffer => rw [overlay, overlay, ih]

theorem littleEndianValue_zero (width : Nat) :
    littleEndianValue (List.replicate width 0) = 0 := by
  induction width with
  | zero => rfl
  | succ width ih => simp [List.replicate_succ, littleEndianValue, ih]

end DeviceTestbed.Bytes
