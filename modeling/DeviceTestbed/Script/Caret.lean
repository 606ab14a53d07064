import DeviceTestbed.Text.Bytes

/-!
Caret notation, which keeps control bytes out of a line of text.
-/

namespace DeviceTestbed.Caret

def mark : UInt8 := 0x5E

/-- A control byte is written as a caret and the byte 64 above it, a caret as two. -/
def escapeByte (byte : UInt8) : Bytes :=
  if byte < 32 then [mark, byte + 64]
  else if byte = mark then [mark, mark]
  else [byte]

def escape (bytes : Bytes) : Bytes :=
  bytes.flatMap escapeByte

/-- What a caret and the byte behind it stand for. Two carets are read as one, although the control
byte 30 is written so too. -/
def unescapePair (byte : UInt8) : Option UInt8 :=
  if byte = mark then some mark
  else if 64 ≤ byte ∧ byte < 96 then some (byte - 64)
  else none

/-- Refuses control bytes and a caret that no fitting byte follows. -/
def unescape? : Bytes → Option Bytes
  | [] => some []
  | byte :: rest =>
    if byte = mark then
      match rest with
      | [] => none
      | next :: rest => do
        let meant ← unescapePair next
        let bytes ← unescape? rest
        pure (meant :: bytes)
    else if byte < 32 then none
    else (unescape? rest).map (byte :: ·)

end DeviceTestbed.Caret
