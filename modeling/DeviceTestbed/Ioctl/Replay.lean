import DeviceTestbed.Descriptor.Table
import DeviceTestbed.Files.Access
import DeviceTestbed.Ioctl.Tree

/-!
Device control calls answered from a recording. Every descriptor has its own place in the tree, so
a dialogue of equal requests with changing answers plays back in order.
-/

namespace DeviceTestbed

/-- The replay state of one descriptor. Without a tree nothing is answered. -/
structure Replay where
  tree : Option Tree := none
  last : Option Nat := none
  deriving DecidableEq, Repr

namespace Replay

inductive Reason where
  | withoutNodes
  | unreadable (fault : Tree.Fault)
  deriving DecidableEq, Repr

def Reason.message : Reason → String
  | .withoutNodes => "empty or invalid format"
  | .unreadable fault => fault.message

structure Fault where
  path : Path
  reason : Reason
  deriving DecidableEq, Repr

def Fault.message (fault : Fault) : String :=
  "failed to load ioctl record file " ++ Utf8.display fault.path ++ ": " ++ fault.reason.message

def readTree (files : Files) (id : NodeId) : Except Tree.Fault (Option Tree) :=
  match files.read id with
  | .error fault => .error (.stream (.file fault))
  | .ok text => Tree.read text

/-- A recording that cannot be opened means that there is nothing to replay. -/
def load (files : Files) (path : Path) : Except Fault Replay :=
  match files.openRead path with
  | .error _ => .ok {}
  | .ok id =>
    match readTree files id with
    | .ok (some tree) => .ok { tree := some tree }
    | .ok none => .error { path, reason := .withoutNodes }
    | .error fault => .error { path, reason := .unreadable fault }

def respond (replay : Replay) (request : Request) (argument : Argument) :
    Option (Int32 × Argument) × Replay :=
  match replay.tree with
  | none => (none, replay)
  | some tree =>
    match tree.answer? replay.last request argument with
    | none => (none, replay)
    | some (node, place) =>
      (some (node.result, node.fill argument), { replay with last := some place })

/-- The recording for a device path stands at the same path below `ioctl` in the testbed. -/
def path (root device : Path) : Path :=
  Path.join root (Bytes.ofAscii "ioctl".toList) ++ device

end Replay

abbrev ReplayTable := DescriptorTable Replay

namespace ReplayTable

inductive Fault where
  | recording (fault : Replay.Fault)
  | table (fault : DescriptorTable.Fault)
  deriving DecidableEq, Repr

def Fault.message : Fault → String
  | .recording fault => fault.message
  | .table fault => fault.message

def attach (table : ReplayTable) (files : Files) (descriptor : Descriptor) (root device : Path) :
    Except Fault ReplayTable :=
  match Replay.load files (Replay.path root device) with
  | .error fault => .error (.recording fault)
  | .ok replay =>
    match table.restart descriptor replay with
    | .error fault => .error (.table fault)
    | .ok table => .ok table

def wrapOpen (table : ReplayTable) (files : Files) (descriptor : Descriptor) (root device : Path) :
    Except Fault Unit × ReplayTable :=
  table.track descriptor ((Replay.load files (Replay.path root device)).mapError .recording) .table

def respond (table : ReplayTable) (descriptor : Descriptor) (request : Request)
    (argument : Argument) : Option (Int32 × Argument) × ReplayTable :=
  match table.get? descriptor with
  | none => (none, table)
  | some replay =>
    ((replay.respond request argument).1,
      table.modify descriptor fun _ => (replay.respond request argument).2)

end ReplayTable

end DeviceTestbed
