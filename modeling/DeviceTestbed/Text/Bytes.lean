/-!
Byte strings. Paths, file contents, socket names and ioctl arguments are all lists of bytes.
-/

namespace DeviceTestbed

abbrev Bytes := List UInt8

def pieces {α : Type} (separator : α → Bool) : List α → List (List α)
  | [] => [[]]
  | value :: rest =>
    if separator value then [] :: pieces separator rest
    else match pieces separator rest with
      | [] => [[value]]
      | piece :: more => (value :: piece) :: more

namespace Bytes

def ofAscii (text : List Char) : Bytes :=
  text.map fun character => UInt8.ofNat character.toNat

def littleEndian : Nat → Nat → Bytes
  | 0, _ => []
  | width + 1, value => UInt8.ofNat value :: littleEndian width (value / 256)

def littleEndianValue : Bytes → Nat
  | [] => 0
  | byte :: rest => byte.toNat + 256 * littleEndianValue rest

def overlay : Bytes → Bytes → Bytes
  | byte :: patch, _ :: buffer => byte :: overlay patch buffer
  | _, buffer => buffer

/-- `patch` stored over `buffer` from `offset` on, dropping what lies past the end. -/
def overlayAt (offset : Nat) (patch buffer : Bytes) : Bytes :=
  buffer.take offset ++ overlay patch (buffer.drop offset)

def scatter (data : Bytes) : List Bytes → List Bytes
  | [] => []
  | buffer :: rest => overlay data buffer :: scatter (data.drop buffer.length) rest

def window (offset length : Nat) (buffer : Bytes) : Bytes :=
  let found := (buffer.drop offset).take length
  found ++ List.replicate (length - found.length) 0

def after? (start : Bytes) (bytes : Bytes) : Option Bytes :=
  if start.isPrefixOf bytes then some (bytes.drop start.length) else none

theorem length_littleEndian (width value : Nat) : (littleEndian width value).length = width := by
  induction width generalizing value with
  | zero => rfl
  | succ width ih => simp [littleEndian, ih]

theorem overlay_eq (patch buffer : Bytes) :
    overlay patch buffer = patch.take buffer.length ++ buffer.drop patch.length := by
  induction patch generalizing buffer with
  | nil => simp [overlay]
  | cons byte patch ih => cases buffer <;> simp [overlay, ih]

theorem length_overlay (patch buffer : Bytes) : (overlay patch buffer).length = buffer.length := by
  simp only [overlay_eq, List.length_append, List.length_take, List.length_drop]
  omega

theorem length_overlayAt (offset : Nat) (patch buffer : Bytes) :
    (overlayAt offset patch buffer).length = buffer.length := by
  simp only [overlayAt, List.length_append, List.length_take, length_overlay, List.length_drop]
  omega

end Bytes

end DeviceTestbed
