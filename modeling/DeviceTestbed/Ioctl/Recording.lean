import DeviceTestbed.Ioctl.Replay

/-!
Recording the device control calls of one device. Calls on the active descriptor are collected in a
tree; when that descriptor is closed, the record file is written anew from the tree.
-/

namespace DeviceTestbed

structure RecordTarget where
  device : UInt64
  file : Option Path
  deriving DecidableEq, Repr

structure Recording where
  active : Option Descriptor := none
  output : Option (Path × NodeId) := none
  tree : Option Tree := none
  deriving DecidableEq, Repr

namespace Recording

inductive Fault where
  | fileUnset
  | withTestbed
  | file (path : Path) (fault : FileFault)
  | tree (path : Path) (fault : Tree.Fault)
  deriving DecidableEq, Repr

def Fault.onFile? : Fault → Option FileFault
  | .file _ fault => some fault
  | .tree _ (.stream (.file fault)) => some fault
  | _ => none

def Fault.message : Fault → String
  | .fileUnset => "$DEVBED_IOCTL_RECORD_FILE not set"
  | .withTestbed => "$DEVBED_DIR cannot be used while recording"
  | .file path fault =>
    "failed to open ioctl record file " ++ Utf8.display path ++ ": " ++ fault.message
  | .tree path fault => "ioctl record file " ++ Utf8.display path ++ ": " ++ fault.message

def openOutput (recording : Recording) (files : Files) (path : Path) :
    Except Fault Recording × Files :=
  match files.openWrite path with
  | .error fault => (.error (.file path fault), files)
  | .ok (id, opened) =>
    match Replay.readTree opened id with
    | .error fault => (.error (.tree path fault), opened)
    | .ok tree => (.ok { recording with tree, output := some (path, id) }, opened)

/-- Makes a descriptor the active one. The record file is opened the first time. A fault leaves the
descriptor active all the same. -/
def activate (recording : Recording) (files : Files) (descriptor : Descriptor)
    (target : RecordTarget) (testbed : Bool) : Option Fault × Recording × Files :=
  let activated := { recording with active := some descriptor }
  if recording.output.isSome then (none, activated, files)
  else match target.file with
    | none => (some .fileUnset, activated, files)
    | some path =>
      if testbed then (some .withTestbed, activated, files)
      else match activated.openOutput files path with
        | (.error fault, opened) => (some fault, activated, opened)
        | (.ok started, opened) => (none, started, opened)

def record (recording : Recording) (descriptor : Descriptor) (request : Request)
    (argument : Argument) (result : Int32) : Recording :=
  if recording.active = some descriptor then
    match Node.capture request argument result with
    | none => recording
    | some node =>
      { recording with tree := some ((recording.tree.getD Tree.empty).insert node) }
  else recording

/-- Writes the record file anew, once a tree was collected and the file was opened. The file is
emptied first. If the disk has no room for all of the text, the file keeps what was written until
then. -/
def save (recording : Recording) (files : Files) (room : Option Nat) :
    Except Fault Unit × Files :=
  match recording.tree, recording.output with
  | some tree, some (path, id) =>
    match files.truncate id with
    | .error fault => (.error (.tree path (.stream (.file fault))), files)
    | .ok emptied =>
      let (written, sink) := tree.writeTo { room }
      (written.mapError fun _ => .tree path (.stream (.file .noSpace)),
        emptied.append id sink.taken)
  | _, _ => (.ok (), files)

/-- Ends recording if the descriptor is the active one, and tells whether it was. Recording ends
even if the file cannot be written. -/
def close (recording : Recording) (files : Files) (descriptor : Descriptor)
    (room : Option Nat := none) : Except Fault Bool × Recording × Files :=
  if recording.active = some descriptor then
    let (saved, written) := recording.save files room
    (saved.map fun _ => true, { recording with active := none }, written)
  else (.ok false, recording, files)

end Recording

end DeviceTestbed
