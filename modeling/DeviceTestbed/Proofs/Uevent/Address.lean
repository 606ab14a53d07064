import DeviceTestbed.Uevent.Socket
import DeviceTestbed.Proofs.Text.Numeral
import DeviceTestbed.Proofs.Text.Pieces

/-!
Every listener has a path of its own below the root of the testbed. A path without a zero byte that
fits into a local address is what is read back from it, so the addresses are their own as well.
-/

namespace DeviceTestbed.Uevent

def eventName (descriptor : Descriptor) : Name :=
  Bytes.ofAscii ("event".toList ++ Numeral.signedDecimal descriptor)

variable {root path : Path} {address : LocalAddress}

theorem eventPath_eq (root : Path) (descriptor : Descriptor) :
    eventPath root descriptor = root ++ Path.slash :: eventName descriptor :=
  rfl

theorem isVisible_eventText (descriptor : Descriptor) :
    ∀ character ∈ "event".toList ++ Numeral.signedDecimal descriptor, IsVisible character := by
  intro character member
  rcases List.mem_append.mp member with word | number
  · have visible : ∀ letter ∈ "event".toList, IsVisible letter := by simp [IsVisible]
    exact visible character word
  · exact Numeral.isVisible_signedDecimal descriptor character number

theorem eventName_injective : Function.Injective eventName := by
  intro first second same
  have ascii (descriptor : Descriptor) := isAscii_of_visible (isVisible_eventText descriptor)
  have texts := (Bytes.ofAscii_inj (ascii first) (ascii second)).mp same
  exact Numeral.signedDecimal_injective (List.append_cancel_left texts)

theorem eventPath_injective (root : Path) : Function.Injective (eventPath root) :=
  fun _ _ same => eventName_injective (List.cons.inj (List.append_cancel_left same)).2

theorem isWhole_eventName (descriptor : Descriptor) :
    IsWhole (· == Path.slash) (eventName descriptor) := by
  have noSlash : '/' ∉ "event".toList ++ Numeral.signedDecimal descriptor := by
    rw [List.mem_append, not_or]
    exact ⟨by decide, Numeral.slash_not_mem_signedDecimal descriptor⟩
  have ascii := isAscii_of_visible (isVisible_eventText descriptor)
  intro byte member
  refine beq_eq_false_iff_ne.mpr ?_
  rintro rfl
  exact noSlash ((Bytes.mem_ofAscii ascii (by decide)).mp member)

theorem zero_not_mem_eventPath (clean : 0 ∉ root) (descriptor : Descriptor) :
    0 ∉ eventPath root descriptor := by
  rw [eventPath_eq, List.mem_append, List.mem_cons, not_or, not_or]
  refine ⟨clean, by decide, fun member => ?_⟩
  exact absurd (Bytes.lt_of_mem_ofAscii (isVisible_eventText descriptor) member) (by decide)

/-! Local addresses. -/

namespace LocalAddress

theorem ofPath?_eq_some :
    ofPath? path = some address ↔
      path.length < pathRoom ∧
        address = { path := path ++ List.replicate (pathRoom - path.length) 0 } := by
  rw [ofPath?]
  split
  · rename_i fits
    simp only [Option.some.injEq, fits, true_and, eq_comm]
  · rename_i far
    simp only [reduceCtorEq, far, false_and]

theorem exists_ofPath? : (∃ address, ofPath? path = some address) ↔ path.length < pathRoom := by
  simp only [ofPath?_eq_some, exists_and_left, exists_eq, and_true]

theorem path_of_stored (stored : ofPath? path = some address) :
    address.path = Bytes.overlay path (List.replicate pathRoom 0) := by
  obtain ⟨fits, rfl⟩ := ofPath?_eq_some.mp stored
  rw [Bytes.overlay_eq, List.length_replicate, List.take_of_length_le (Nat.le_of_lt fits),
    List.drop_replicate]

theorem toPath_of_stored (clean : 0 ∉ path) (stored : ofPath? path = some address) :
    address.toPath = path := by
  obtain ⟨fits, rfl⟩ := ofPath?_eq_some.mp stored
  have inside : ∀ byte ∈ path, decide (byte ≠ 0) = true := fun byte member =>
    decide_eq_true fun zero => clean (zero ▸ member)
  have room : pathRoom - path.length ≠ 0 := by omega
  rw [toPath, List.takeWhile_append_of_pos inside, List.takeWhile_replicate]
  simp

theorem encode_eq (address : LocalAddress) : address.encode = 1 :: 0 :: address.path :=
  rfl

end LocalAddress

theorem toPath_ne_of_stored {first second : Descriptor} {own other : LocalAddress}
    (clean : 0 ∉ root) (different : first ≠ second)
    (stored : LocalAddress.ofPath? (eventPath root first) = some own)
    (otherStored : LocalAddress.ofPath? (eventPath root second) = some other) :
    own.toPath ≠ other.toPath := by
  rw [LocalAddress.toPath_of_stored (zero_not_mem_eventPath clean first) stored,
    LocalAddress.toPath_of_stored (zero_not_mem_eventPath clean second) otherStored]
  exact (eventPath_injective root).ne different

end DeviceTestbed.Uevent
