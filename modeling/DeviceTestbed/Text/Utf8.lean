import DeviceTestbed.Text.Bytes

/-!
UTF-8. A scan over the bytes gives every well-formed character, and one `none` for every longest
stretch that begins a character and breaks off. Strict decoding refuses such stretches, lenient
decoding shows each of them as U+FFFD.
-/

namespace DeviceTestbed.Utf8

/-- A character of which some bytes were seen. The next byte lies between `low` and `high`, and
`owed` more follow it. -/
structure Pending where
  owed : Nat
  low : UInt8
  high : UInt8
  value : Nat

def lead (byte : UInt8) : List (Option Char) × Option Pending :=
  if byte < 0x80 then ([some (Char.ofNat byte.toNat)], none)
  else if byte < 0xC2 then ([none], none)
  else if byte < 0xE0 then ([], some ⟨0, 0x80, 0xBF, byte.toNat - 0xC0⟩)
  else if byte = 0xE0 then ([], some ⟨1, 0xA0, 0xBF, 0⟩)
  else if byte = 0xED then ([], some ⟨1, 0x80, 0x9F, 0xD⟩)
  else if byte < 0xF0 then ([], some ⟨1, 0x80, 0xBF, byte.toNat - 0xE0⟩)
  else if byte = 0xF0 then ([], some ⟨2, 0x90, 0xBF, 0⟩)
  else if byte < 0xF4 then ([], some ⟨2, 0x80, 0xBF, byte.toNat - 0xF0⟩)
  else if byte = 0xF4 then ([], some ⟨2, 0x80, 0x8F, 4⟩)
  else ([none], none)

/-- One byte: what it completes, and the character it leaves unfinished. -/
def advance : Option Pending → UInt8 → List (Option Char) × Option Pending
  | none, byte => lead byte
  | some pending, byte =>
    if pending.low ≤ byte ∧ byte ≤ pending.high then
      let value := pending.value * 64 + (byte.toNat - 0x80)
      match pending.owed with
      | 0 => ([some (Char.ofNat value)], none)
      | owed + 1 => ([], some ⟨owed, 0x80, 0xBF, value⟩)
    else (none :: (lead byte).1, (lead byte).2)

def scan : Option Pending → Bytes → List (Option Char)
  | none, [] => []
  | some _, [] => [none]
  | pending, byte :: rest => (advance pending byte).1 ++ scan (advance pending byte).2 rest

def decode? (bytes : Bytes) : Option (List Char) :=
  (scan none bytes).mapM id

/-- The characters of any byte string, with U+FFFD where it is not well-formed. -/
def lenient (bytes : Bytes) : List Char :=
  (scan none bytes).map fun found => found.getD '\uFFFD'

def encode (text : List Char) : Bytes :=
  text.flatMap String.utf8EncodeChar

def display (bytes : Bytes) : String :=
  String.ofList (lenient bytes)

theorem scan_ascii (byte : UInt8) (rest : Bytes) (ascii : byte < 0x80) :
    scan none (byte :: rest) = some (Char.ofNat byte.toNat) :: scan none rest := by
  simp [scan, advance, lead, ascii]

end DeviceTestbed.Utf8
