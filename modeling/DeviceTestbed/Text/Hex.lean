import DeviceTestbed.Text.Bytes
import DeviceTestbed.Text.Numeral

/-!
Bytes as pairs of hexadecimal digits. Both cases are read, lower case is written.
-/

namespace DeviceTestbed.Hex

inductive Fault where
  | oddLength
  | invalidCharacter (byte : UInt8) (position : Nat)
  deriving DecidableEq, Repr

def digit (value : Nat) : Char :=
  Nat.digitChar value

def encode (bytes : Bytes) : List Char :=
  bytes.flatMap fun byte => [digit (byte.toNat / 16), digit (byte.toNat % 16)]

def digit? (byte : UInt8) : Option Nat :=
  Numeral.digit? 16 (Char.ofNat byte.toNat)

def decodePairs (position : Nat) : Bytes → Except Fault Bytes
  | high :: low :: rest =>
    match digit? high, digit? low with
    | none, _ => .error (.invalidCharacter high position)
    | some _, none => .error (.invalidCharacter low (position + 1))
    | some first, some second =>
      (decodePairs (position + 2) rest).map (UInt8.ofNat (16 * first + second) :: ·)
  | _ => .ok []

/-- The bytes that the digits spell. An odd number of them is reported before any other fault. -/
def decode (digits : Bytes) : Except Fault Bytes :=
  if digits.length % 2 = 1 then .error .oddLength else decodePairs 0 digits

end DeviceTestbed.Hex
