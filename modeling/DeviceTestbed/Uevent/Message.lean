import DeviceTestbed.Uevent.Socket

/-!
Messages received by a listener. They come from a local sender and are made to look as if the
kernel had sent them: the sender's address becomes the kernel's, and the credentials become those
of the root user.
-/

namespace DeviceTestbed.Uevent

/-- A message header with the buffers that it points to. A missing buffer is `none`; the lengths are
those that the header states. -/
structure Message where
  name : Option Bytes := none
  nameLength : Nat := 0
  vectors : List Bytes := []
  control : Option Bytes := none
  controlLength : Nat := 0
  flags : Int := 0
  deriving DecidableEq, Repr

def eventGroup : Nat := 2

/-- The address of the kernel: family, padding, process 0, and the group. -/
def kernelAddress : Bytes :=
  Bytes.littleEndian 2 netlinkFamily.toNat ++ Bytes.littleEndian 2 0 ++ Bytes.littleEndian 4 0 ++
    Bytes.littleEndian 4 eventGroup

/-- The length of a control message's header: its length in eight bytes, level and type in four
each. -/
def headerLength : Nat := 16

def align (length : Nat) : Nat :=
  (length + 7) / 8 * 8

theorem le_align (length : Nat) : length ≤ align length := by
  simp only [align]
  omega

def messageLength (control : Bytes) : Nat :=
  Bytes.littleEndianValue (Bytes.window 0 8 control)

def isCredentials (control : Bytes) : Bool :=
  Bytes.littleEndianValue (Bytes.window 8 4 control) = 1 &&
    Bytes.littleEndianValue (Bytes.window 12 4 control) = 2

/-- Credentials are process, user and group in four bytes each. The last two become zero. -/
def clearOwner (control : Bytes) : Bytes :=
  Bytes.overlayAt (headerLength + 4) (List.replicate 8 0) control

def disguiseFirst (control : Bytes) : Bytes :=
  if isCredentials control then clearOwner control else control

/-- Goes through the control messages. A message that is shorter than its header is the last one,
and so is one that leaves no room for another header within `limit`. These are the only bounds that
the system library is taken to check: that the stated length of the next message fits is not looked
at. The next message is read after the one before it was changed, because credentials may reach into
it. -/
def disguiseAll (limit : Nat) (control : Bytes) : Bytes :=
  if limit < headerLength then control
  else
    let changed := disguiseFirst control
    let step := align (messageLength control)
    if messageLength control < headerLength then changed
    else changed.take step ++ disguiseAll (limit - step) (changed.drop step)
termination_by limit
decreasing_by
  have grown := le_align (messageLength control)
  simp only [headerLength] at *
  omega

namespace Message

/-- The sender's address is replaced if the caller gave room for all of the kernel's. -/
def disguiseName (message : Message) (room : Nat) : Message :=
  match message.name with
  | none => message
  | some name =>
    if kernelAddress.length ≤ room then
      { message with
        name := some (Bytes.overlay kernelAddress name)
        nameLength := kernelAddress.length }
    else message

def disguiseControl (message : Message) : Message :=
  { message with
    control := message.control.map fun control => disguiseAll message.controlLength control }

/-- Makes the kernel the sender. `room` is the room for a name that the caller stated before the
message was received. -/
def disguise (message : Message) (room : Nat) : Message :=
  (message.disguiseName room).disguiseControl

end Message

end DeviceTestbed.Uevent
