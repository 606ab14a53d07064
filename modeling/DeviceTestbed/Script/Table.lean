import DeviceTestbed.Descriptor.Table
import DeviceTestbed.Files.Access
import DeviceTestbed.Script.Recorder
import DeviceTestbed.Text.Utf8

/-!
The traces of all recorded descriptors. Each trace is written to a file of its own handle, at the
place where that handle stands.
-/

namespace DeviceTestbed

structure Trace where
  recorder : Recorder
  file : NodeId
  offset : Nat := 0
  deriving DecidableEq, Repr

namespace Trace

/-- Writes at the place where the trace stands as much as there is room for. -/
def record (trace : Trace) (files : Files) (kind : Operation) (bytes : Bytes) (now : Nat)
    (room : Option Nat := none) : Option FileFault × Trace × Files :=
  let (complete, recorder, sink) :=
    trace.recorder.record kind bytes now { room := files.roomFor trace.file room }
  (if complete then none else some .noSpace,
    { trace with recorder, offset := trace.offset + sink.taken.length },
    files.writeAt trace.file trace.offset sink.taken)

end Trace

abbrev TraceTable := DescriptorTable Trace

namespace TraceTable

inductive Fault where
  | file (path : Path) (fault : FileFault)
  | table (fault : DescriptorTable.Fault)
  deriving DecidableEq, Repr

def Fault.message : Fault → String
  | .file path fault =>
    "failed to open script record file " ++ Utf8.display path ++ ": " ++ fault.message
  | .table fault => fault.message

/-- Starts a trace, emptying the file. The file is emptied even if the table is full. -/
def start (table : TraceTable) (files : Files) (descriptor : Descriptor) (path : Path)
    (now : Nat) : Except Fault TraceTable × Files :=
  match files.create path with
  | .error fault => (.error (.file path fault), files)
  | .ok (id, created) =>
    match table.restart descriptor { recorder := { time := now }, file := id } with
    | .error fault => (.error (.table fault), created)
    | .ok table => (.ok table, created)

def create (files : Files) (path : Path) (now : Nat) : Except Fault Trace × Files :=
  match files.create path with
  | .error fault => (.error (.file path fault), files)
  | .ok (id, created) => (.ok { recorder := { time := now }, file := id }, created)

def recordOpen (table : TraceTable) (files : Files) (descriptor : Descriptor) (path : Path)
    (now : Nat) : Except Fault Unit × TraceTable × Files :=
  let (fresh, created) := create files path now
  let (outcome, after) := table.track descriptor fresh .table
  (outcome, after, created)

def record (table : TraceTable) (files : Files) (descriptor : Descriptor) (kind : Operation)
    (bytes : Bytes) (now : Nat) (room : Option Nat := none) :
    Option FileFault × TraceTable × Files :=
  match table.get? descriptor with
  | none => (none, table, files)
  | some trace =>
    let (fault, moved, written) := trace.record files kind bytes now room
    (fault, table.modify descriptor fun _ => moved, written)

end TraceTable

end DeviceTestbed
