import DeviceTestbed.Text.Bytes

/-!
Device control requests and their arguments. A request word tells the size of the buffer that its
argument points to, and which side fills it.
-/

namespace DeviceTestbed

abbrev Request := UInt64

namespace Request

/-- Bits 30 and 31: 1 if the caller fills the buffer, 2 if the device does, 3 if both do. -/
def direction (request : Request) : Nat :=
  request.toNat / 0x40000000 % 4

/-- Bits 16 to 29: the length of the buffer, 0 if the argument is a plain integer. -/
def size (request : Request) : Nat :=
  request.toNat / 0x10000 % 0x4000

def reads (request : Request) : Bool :=
  2 ≤ request.direction

def dataLength (request : Request) : Nat :=
  if request.size = 0 then 8 else request.size

end Request

/-- The argument of a request: a word, which as a pointer leads nowhere, or the address of a
buffer. -/
inductive Argument where
  | word (value : UInt64)
  | buffer (address : UInt64) (bytes : Bytes)
  deriving DecidableEq, Repr

namespace Argument

def null : Argument := .word 0

def value : Argument → UInt64
  | .word value => value
  | .buffer address _ => address

def buffer? : Argument → Option Bytes
  | .word _ => none
  | .buffer _ bytes => some bytes

def store (data : Bytes) : Argument → Argument
  | .word value => .word value
  | .buffer address bytes => .buffer address (Bytes.overlay data bytes)

end Argument

end DeviceTestbed
