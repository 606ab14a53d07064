import DeviceTestbed.Device.Status
import DeviceTestbed.Ioctl.Request
import DeviceTestbed.Uevent.Message

/-!
The calls that a program makes and the library stands between: what the program asks for, what the
real function replies, and what the program gets back.
-/

namespace DeviceTestbed

structure StatusFunction where
  link : Bool := false
  wide : Bool := false
  version : Option Int := none
  deriving DecidableEq, Repr

structure StreamFunction where
  wide : Bool := false
  /-- What the stream is opened for. A null pointer is handed on like any other. -/
  mode : Option Bytes := none
  deriving DecidableEq, Repr

instance : Coe Bool StreamFunction := ⟨fun wide => { wide }⟩

inductive PathFunction where
  | openDirectory
  | openStream (function : StreamFunction)
  | makeDirectory (mode : Nat)
  | access (mode : Int)
  | readLink (buffer : Option Bytes) (size : Nat)
  /-- `buffer` tells whether there is one for the status. -/
  | status (function : StatusFunction) (buffer : Bool)
  | openFile (wide : Bool) (flags : Int) (mode : Nat)
  deriving DecidableEq, Repr

structure Stream where
  descriptor : Descriptor
  deriving DecidableEq, Repr

/-- A call with its arguments, buffers with what they hold before it. Missing paths, streams,
buffers, addresses and messages are null pointers. -/
inductive Call where
  | onPath (function : PathFunction) (path : Option Path)
  | close (descriptor : Descriptor)
  | closeStream (stream : Option Stream)
  | read (descriptor : Descriptor) (buffer : Option Bytes) (count : Nat)
  | write (descriptor : Descriptor) (buffer : Option Bytes) (count : Nat)
  | readStream (stream : Option Stream) (buffer : Option Bytes) (size count : Nat)
  | writeStream (stream : Option Stream) (buffer : Option Bytes) (size count : Nat)
  | readLine (stream : Option Stream) (buffer : Option Bytes) (size : Int)
  | socket (domain type protocol : Int)
  | bind (descriptor : Descriptor) (address : Option Bytes)
  | receive (descriptor : Descriptor) (message : Option Uevent.Message) (flags : Int)
  | ioctl (descriptor : Descriptor) (request : Request) (argument : Argument)
  deriving DecidableEq, Repr

/-- How the system treats what the library does on its own during one call. -/
structure Conditions where
  /-- How many bytes its files can still take, if there is a limit. -/
  room : Option Nat := none
  /-- The error number that its own calls may leave though they succeed; 0 leaves the old one. -/
  disturbance : Int := 0
  deriving DecidableEq, Repr

/-- What a real function does when it is called. Each function uses the parts that it has a buffer
for. -/
structure Reply where
  result : Int := 0
  errno : Int := 0
  data : Bytes := []
  status : FileStatus := {}
  /-- The device number of a file that was opened, if it can be told. -/
  device : Option DeviceNumber := none
  /-- The sender's address, and the lengths that it leaves in the message header. -/
  name : Bytes := []
  nameLength : Nat := 0
  /-- What the buffers of a message receive, while `data` are its control messages. -/
  payload : Bytes := []
  controlLength : Nat := 0
  messageFlags : Int := 0
  conditions : Conditions := {}
  deriving DecidableEq, Repr

inductive Output where
  | nothing
  | buffer (bytes : Option Bytes)
  | status (status : FileStatus)
  | message (message : Option Uevent.Message)
  | argument (argument : Argument)
  deriving DecidableEq, Repr

structure Answer where
  result : Int
  output : Output := .nothing
  deriving DecidableEq, Repr

def Reply.fill (reply : Reply) (buffer : Option Bytes) : Option Bytes :=
  buffer.map (Bytes.overlay reply.data)

namespace PathFunction

def failure : PathFunction → Int
  | .openDirectory => 0
  | .openStream _ => 0
  | _ => -1

def untouched : PathFunction → Output
  | .readLink buffer _ => .buffer buffer
  | .status _ _ => .status {}
  | _ => .nothing

def filled (reply : Reply) : PathFunction → Output
  | .readLink buffer _ => .buffer (reply.fill buffer)
  | .status _ buffer => .status (if buffer then reply.status else {})
  | _ => .nothing

end PathFunction

namespace Uevent.Message

def receive (message : Message) (reply : Reply) : Message where
  name := message.name.map (Bytes.overlay reply.name)
  nameLength := reply.nameLength
  vectors := Bytes.scatter reply.payload message.vectors
  control := reply.fill message.control
  controlLength := reply.controlLength
  flags := reply.messageFlags

end Uevent.Message

end DeviceTestbed
