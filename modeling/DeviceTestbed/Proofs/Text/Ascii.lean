import DeviceTestbed.Text.Blank
import DeviceTestbed.Text.Utf8

/-!
Text of ASCII characters takes one byte per character and is read back as it was written. The
visible characters among them are no white space.
-/

namespace DeviceTestbed

def IsAscii (text : List Char) : Prop :=
  ∀ character ∈ text, character.toNat < 0x80

instance (text : List Char) : Decidable (IsAscii text) :=
  List.decidableBAll _ text

def IsVisible (character : Char) : Prop :=
  0x20 < character.toNat ∧ character.toNat < 0x7F

theorem IsVisible.not_isBlank {character : Char} (visible : IsVisible character) :
    isBlank character = false := by
  obtain ⟨lower, upper⟩ := visible
  simp only [isBlank, Bool.or_eq_false_iff, Bool.and_eq_false_iff, decide_eq_false_iff_not,
    beq_eq_false_iff_ne]
  omega

theorem isAscii_of_visible {text : List Char} (visible : ∀ character ∈ text, IsVisible character) :
    IsAscii text := by
  intro character member
  have upper := (visible character member).2
  omega

theorem Bytes.ofAscii_append (first second : List Char) :
    Bytes.ofAscii (first ++ second) = Bytes.ofAscii first ++ Bytes.ofAscii second :=
  List.map_append

theorem Bytes.toNat_ofAscii {character : Char} (ascii : character.toNat < 0x80) :
    (UInt8.ofNat character.toNat).toNat = character.toNat := by
  rw [UInt8.toNat_ofNat']
  omega

theorem Bytes.mem_ofAscii {text : List Char} (ascii : IsAscii text) {character : Char}
    (small : character.toNat < 0x80) :
    UInt8.ofNat character.toNat ∈ Bytes.ofAscii text ↔ character ∈ text := by
  rw [Bytes.ofAscii, List.mem_map]
  constructor
  · rintro ⟨other, inText, same⟩
    have codes := congrArg UInt8.toNat same
    rw [Bytes.toNat_ofAscii (ascii other inText), Bytes.toNat_ofAscii small] at codes
    exact Char.toNat_inj.mp codes ▸ inText
  · exact fun inText => ⟨character, inText, rfl⟩

theorem Bytes.lt_of_mem_ofAscii {text : List Char}
    (visible : ∀ character ∈ text, IsVisible character) {byte : UInt8}
    (member : byte ∈ Bytes.ofAscii text) : 0x20 < byte := by
  obtain ⟨character, inText, rfl⟩ := List.mem_map.mp member
  obtain ⟨lower, upper⟩ := visible character inText
  rw [UInt8.lt_iff_toNat_lt, Bytes.toNat_ofAscii (by omega)]
  exact lower

namespace Utf8

theorem scan_ofAscii {text : List Char} (ascii : IsAscii text) (rest : Bytes) :
    scan none (Bytes.ofAscii text ++ rest) = text.map some ++ scan none rest := by
  induction text with
  | nil => rfl
  | cons character text ih =>
    have small : character.toNat < 0x80 := ascii character List.mem_cons_self
    have same := Bytes.toNat_ofAscii small
    have byteSmall : UInt8.ofNat character.toNat < 0x80 := by
      rw [UInt8.lt_iff_toNat_lt, same]
      exact small
    have others : IsAscii text := fun other member => ascii other (List.mem_cons_of_mem _ member)
    calc scan none (Bytes.ofAscii (character :: text) ++ rest)
        = some (Char.ofNat (UInt8.ofNat character.toNat).toNat) ::
            scan none (Bytes.ofAscii text ++ rest) := scan_ascii _ _ byteSmall
      _ = some character :: (text.map some ++ scan none rest) := by
          rw [same, Char.ofNat_toNat, ih others]

theorem mapM_some (text : List Char) : (text.map some).mapM id = some text := by
  induction text with
  | nil => rfl
  | cons character text ih => simp [List.mapM_cons, ih]

theorem decode?_ofAscii {text : List Char} (ascii : IsAscii text) :
    decode? (Bytes.ofAscii text) = some text := by
  have scanned := scan_ofAscii ascii []
  rw [List.append_nil, scan, List.append_nil] at scanned
  rw [decode?, scanned, mapM_some]

theorem encode_ascii {text : List Char} (ascii : IsAscii text) :
    encode text = Bytes.ofAscii text := by
  induction text with
  | nil => rfl
  | cons character text ih =>
    have small : character.val.toNat ≤ 0x7F := by
      have bound : character.toNat < 0x80 := ascii character List.mem_cons_self
      exact Nat.le_of_lt_succ bound
    have single : String.utf8EncodeChar character = [UInt8.ofNat character.toNat] := by
      rw [String.utf8EncodeChar, if_pos small]
      rfl
    have others := ih fun other member => ascii other (List.mem_cons_of_mem _ member)
    rw [encode] at others
    rw [encode, List.flatMap_cons, single, others]
    rfl

end Utf8

theorem Bytes.ofAscii_inj {text other : List Char} (ascii : IsAscii text)
    (otherAscii : IsAscii other) :
    Bytes.ofAscii text = Bytes.ofAscii other ↔ text = other := by
  refine ⟨fun same => ?_, congrArg Bytes.ofAscii⟩
  have read := Utf8.decode?_ofAscii ascii
  rw [same, Utf8.decode?_ofAscii otherAscii] at read
  exact (Option.some.inj read).symm

end DeviceTestbed
