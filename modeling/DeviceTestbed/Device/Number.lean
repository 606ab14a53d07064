import DeviceTestbed.Files.Basic
import DeviceTestbed.Text.Blank
import DeviceTestbed.Text.Numeral
import DeviceTestbed.Text.Utf8

/-!
Device numbers. A testbed keeps the number of each device node as the target of a symbolic link
that reads `major:minor`.
-/

namespace DeviceTestbed

abbrev DeviceNumber := UInt64

namespace DeviceNumber

/-- The low 32 bits of both numbers are kept, in four parts that fill the word: from bit 0 the low
eight bits of the minor number, from bit 8 the low twelve of the major number, from bit 20 the other
24 of the minor number, and from bit 44 the other twenty of the major number. -/
def make (major minor : UInt64) : DeviceNumber :=
  UInt64.ofNat (minor.toNat % 0x100 + major.toNat % 0x1000 * 0x100 +
    minor.toNat / 0x100 % 0x1000000 * 0x100000 +
    major.toNat / 0x1000 % 0x100000 * 0x100000000000)

def major (device : DeviceNumber) : Nat :=
  device.toNat / 0x100 % 0x1000 + device.toNat / 0x100000000000 * 0x1000

def minor (device : DeviceNumber) : Nat :=
  device.toNat % 0x100 + device.toNat / 0x100000 % 0x1000000 * 0x100

def limit : Nat := 0x7FFFFFFFFFFFFFFF

def takeSign : List Char → Bool × List Char
  | '-' :: text => (true, text)
  | '+' :: text => (false, text)
  | text => (false, text)

/-- The base that the beginning of a number tells: 16 after `0x`, 8 after another leading zero
unless nothing follows it, else 10. -/
def takeBase : List Char → Nat × List Char
  | '0' :: 'x' :: digits => (16, digits)
  | '0' :: 'X' :: digits => (16, digits)
  | '0' :: digits => if digits.isEmpty then (10, ['0']) else (8, digits)
  | digits => (10, digits)

def isDigit (base : Nat) (character : Char) : Bool :=
  (Numeral.digit? base character).isSome

/-- The digits at the beginning of a text. An octal number may end with its leading zero. -/
def takeDigits (base : Nat) (text : List Char) : Option (Nat × List Char) :=
  let digits := text.takeWhile (isDigit base)
  if digits.isEmpty then if base = 8 then some (0, text) else none
  else match Numeral.magnitude base limit .tooLarge digits with
    | .ok value => some (value, text.dropWhile (isDigit base))
    | .error _ => none

/-- A number after white space, with an optional sign, and the text behind it. -/
def takeNumber (text : List Char) : Option (Int × List Char) :=
  let (negative, unsigned) := takeSign (trimStart text)
  let (base, digits) := takeBase unsigned
  (takeDigits base digits).map fun (value, rest) =>
    (if negative then -Int.ofNat value else Int.ofNat value, rest)

/-- Reads `major:minor`; what follows the second number does not matter. Negative numbers count from
the top of the 64-bit range. -/
def parse (text : List Char) : Option (UInt64 × UInt64) :=
  match takeNumber text with
  | some (major, ':' :: rest) =>
    (takeNumber rest).map fun (minor, _) => (UInt64.ofInt major, UInt64.ofInt minor)
  | _ => none

def linkPath (root : Path) (node : Name) : Path :=
  Path.join (Path.join root (Bytes.ofAscii "dev/.node".toList))
    (node.map fun byte => if byte = Path.slash then 0x5F else byte)

def ofNode (files : Files) (root : Path) (node : Name) : DeviceNumber :=
  match files.readLink (linkPath root node) with
  | .error _ => 0
  | .ok target =>
    match parse (Utf8.lenient target) with
    | none => 0
    | some (major, minor) => make major minor

end DeviceNumber

end DeviceTestbed
