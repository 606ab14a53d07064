import DeviceTestbed.Text.Bytes

/-!
Outputs that take bytes until their room is used up. A write that fits in part is taken in part.
-/

namespace DeviceTestbed

/-- An output without a `room` takes all bytes. -/
structure Sink where
  room : Option Nat := none
  /-- What was taken of each write, the last one first. -/
  stretches : List Bytes := []
  deriving DecidableEq, Repr

namespace Sink

def taken (sink : Sink) : Bytes :=
  sink.stretches.reverse.flatten

def fitting (sink : Sink) (bytes : Bytes) : Bytes :=
  match sink.room with
  | none => bytes
  | some room => bytes.take room

/-- Whether all of `bytes` was taken, and the output afterwards. -/
def write (sink : Sink) (bytes : Bytes) : Bool × Sink :=
  (sink.room.all fun room => bytes.length ≤ room,
    { room := sink.room.map fun room => room - bytes.length
      stretches := sink.fitting bytes :: sink.stretches })

theorem taken_write (sink : Sink) (bytes : Bytes) :
    (sink.write bytes).2.taken = sink.taken ++ sink.fitting bytes := by
  simp [write, taken]

theorem fitting_of_write {sink : Sink} {bytes : Bytes} (whole : (sink.write bytes).1 = true) :
    sink.fitting bytes = bytes := by
  cases limited : sink.room with
  | none => simp [fitting, limited]
  | some room =>
    have fits : bytes.length ≤ room := by simpa [write, limited] using whole
    simpa [fitting, limited] using List.take_of_length_le fits

theorem taken_write_write (sink : Sink) (first second : Bytes) :
    ((sink.write first).2.write second).2.taken = (sink.write (first ++ second)).2.taken := by
  rw [taken_write, taken_write, taken_write, List.append_assoc]
  cases limited : sink.room with
  | none => simp [fitting, write, limited]
  | some room => simp [fitting, write, limited, List.take_append]

theorem write_append (sink : Sink) (first second : Bytes) :
    (sink.write (first ++ second)).1 =
      ((sink.write first).1 && ((sink.write first).2.write second).1) := by
  cases limited : sink.room with
  | none => simp [write, limited]
  | some room =>
    have both : first.length + second.length ≤ room ↔
        first.length ≤ room ∧ second.length ≤ room - first.length := by omega
    simp [write, limited, both]

theorem taken_write_of_full {sink : Sink} {first : Bytes} (full : (sink.write first).1 = false)
    (second : Bytes) : ((sink.write first).2.write second).2.taken = (sink.write first).2.taken := by
  rw [taken_write (sink.write first).2]
  cases limited : sink.room with
  | none => simp [write, limited] at full
  | some room =>
    have used : room - first.length = 0 := by
      simp only [write, limited, Option.all_some, decide_eq_false_iff_not] at full
      omega
    simp [fitting, write, limited, used]

end Sink

end DeviceTestbed
