import DeviceTestbed.Script.Caret
import DeviceTestbed.Sink
import DeviceTestbed.Text.Numeral

/-!
Timed traces of reads and writes. A record is a line with the kind of operation, the milliseconds
since the last operation, and the bytes in caret notation. Operations of one kind in one millisecond
share a record.
-/

namespace DeviceTestbed

inductive Operation where
  | read
  | write
  deriving DecidableEq, Repr

def Operation.tag : Operation → Char
  | .read => 'r'
  | .write => 'w'

/-- Where a trace stands: the time and the kind of the last operation, or the start. -/
structure Recorder where
  time : Nat
  kind : Option Operation := none
  deriving DecidableEq, Repr

namespace Recorder

def header (kind : Operation) (delay : Nat) : Bytes :=
  Bytes.ofAscii (kind.tag :: ' ' :: Numeral.decimal delay ++ [' '])

/-- Whether an operation goes on in the current record. A clock that steps back counts as one that
stands still. -/
def continues (recorder : Recorder) (kind : Operation) (now : Nat) : Bool :=
  now - recorder.time = 0 && recorder.kind == some kind

def opening (recorder : Recorder) (kind : Operation) (now : Nat) : Bytes :=
  if recorder.continues kind now then []
  else (if recorder.kind.isSome then [0x0A] else []) ++ header kind (now - recorder.time)

/-- What an operation adds to the trace, nothing for one without bytes. -/
def chunk (recorder : Recorder) (kind : Operation) (bytes : Bytes) (now : Nat) : Bytes :=
  if bytes.isEmpty then [] else recorder.opening kind now ++ Caret.escape bytes

def advance (recorder : Recorder) (kind : Operation) (bytes : Bytes) (now : Nat) : Recorder :=
  if bytes.isEmpty then recorder else { time := now, kind := some kind }

/-- Records an operation. The recorder moves on even if the output does not take all of it. -/
def record (recorder : Recorder) (kind : Operation) (bytes : Bytes) (now : Nat) (sink : Sink) :
    Bool × Recorder × Sink :=
  let (taken, sink) := sink.write (recorder.chunk kind bytes now)
  (taken, recorder.advance kind bytes now, sink)

end Recorder

end DeviceTestbed
