import DeviceTestbed.Descriptor.Table
import DeviceTestbed.Files.Path
import DeviceTestbed.Text.Numeral

/-!
Sockets for kernel device events. A listener gets a local datagram socket instead, bound to an
address of its own in the testbed.
-/

namespace DeviceTestbed.Uevent

def localFamily : Int := 1

def netlinkFamily : Int := 16

def eventProtocol : Int := 15

def isListener (domain protocol : Int) : Bool :=
  domain = netlinkFamily && protocol = eventProtocol

def datagram : UInt32 := 2

def closeOnExec : UInt32 := 0o2000000

def nonBlocking : UInt32 := 0o4000

/-- A datagram socket with the creation flags of the type that was asked for. -/
def replacementType (type : Int) : Int :=
  (datagram ||| (UInt32.ofInt type &&& (closeOnExec ||| nonBlocking))).toNat

def eventPath (root : Path) (descriptor : Descriptor) : Path :=
  root ++ Bytes.ofAscii ("/event".toList ++ Numeral.signedDecimal descriptor)

def pathRoom : Nat := 108

/-- A local address as the system takes it: the path with zero bytes behind it. -/
structure LocalAddress where
  path : Bytes
  deriving DecidableEq, Repr

namespace LocalAddress

def ofPath? (path : Path) : Option LocalAddress :=
  if path.length < pathRoom then
    some { path := path ++ List.replicate (pathRoom - path.length) 0 }
  else none

def encode (address : LocalAddress) : Bytes :=
  Bytes.littleEndian 2 localFamily.toNat ++ address.path

def toPath (address : LocalAddress) : Path :=
  address.path.takeWhile (· ≠ 0)

end LocalAddress

abbrev SocketTable := DescriptorTable Unit

def SocketTable.register (table : SocketTable) (descriptor : Descriptor) :
    Except DescriptorTable.Fault Unit × SocketTable :=
  table.track descriptor (.ok ()) id

end DeviceTestbed.Uevent
