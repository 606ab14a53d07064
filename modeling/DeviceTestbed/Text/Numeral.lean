/-!
Numbers as text: digits of any base up to 36, read from the left within a limit, with the cause
when the text is not such a number.
-/

namespace DeviceTestbed.Numeral

inductive Fault where
  | empty
  | invalidDigit
  | tooLarge
  | tooSmall
  deriving DecidableEq, Repr

def Fault.message : Fault → String
  | .empty => "cannot parse integer from empty string"
  | .invalidDigit => "invalid digit found in string"
  | .tooLarge => "number too large to fit in target type"
  | .tooSmall => "number too small to fit in target type"

def digit? (base : Nat) (character : Char) : Option Nat :=
  let code := character.toNat
  let value :=
    if 48 ≤ code ∧ code ≤ 57 then some (code - 48)
    else if 97 ≤ code ∧ code ≤ 122 then some (code - 87)
    else if 65 ≤ code ∧ code ≤ 90 then some (code - 55)
    else none
  value.filter fun value => value < base

/-- Digits added behind the number `value`, which may not pass `limit` on the way. A digit that is
none is reported before the limit it would break. -/
def extend (base limit : Nat) (beyond : Fault) (value : Nat) : List Char → Except Fault Nat
  | [] => .ok value
  | character :: rest =>
    match digit? base character with
    | none => .error .invalidDigit
    | some digit =>
      if value * base + digit ≤ limit then extend base limit beyond (value * base + digit) rest
      else .error beyond

def magnitude (base limit : Nat) (beyond : Fault) : List Char → Except Fault Nat
  | [] => .error .invalidDigit
  | text => extend base limit beyond 0 text

def natural (base limit : Nat) : List Char → Except Fault Nat
  | [] => .error .empty
  | '+' :: text => magnitude base limit .tooLarge text
  | text => magnitude base limit .tooLarge text

def integer (limit : Nat) : List Char → Except Fault Int
  | [] => .error .empty
  | '+' :: text => (magnitude 10 limit .tooLarge text).map Int.ofNat
  | '-' :: text => (magnitude 10 (limit + 1) .tooSmall text).map fun value => -Int.ofNat value
  | text => (magnitude 10 limit .tooLarge text).map Int.ofNat

def largestWord : Nat := 0xFFFFFFFFFFFFFFFF

def decimal (value : Nat) : List Char :=
  Nat.toDigits 10 value

def hexadecimal (value : Nat) : List Char :=
  Nat.toDigits 16 value

def signedDecimal : Int → List Char
  | .ofNat value => decimal value
  | .negSucc value => '-' :: decimal (value + 1)

end DeviceTestbed.Numeral
