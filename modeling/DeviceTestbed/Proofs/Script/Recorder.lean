import DeviceTestbed.Script.Recorder

/-!
Recording a sequence of transfers, and the text that this adds up to.
-/

namespace DeviceTestbed

structure Transfer where
  kind : Operation
  bytes : Bytes
  time : Nat
  deriving DecidableEq, Repr

namespace Recorder

/-- Whether the output took each transfer whole, and the recorder and the output at the end. -/
def recordAll (recorder : Recorder) (sink : Sink) : List Transfer → List Bool × Recorder × Sink
  | [] => ([], recorder, sink)
  | transfer :: rest =>
    let (taken, next, written) := recorder.record transfer.kind transfer.bytes transfer.time sink
    let (others, last, full) := next.recordAll written rest
    (taken :: others, last, full)

def text (recorder : Recorder) : List Transfer → Bytes
  | [] => []
  | transfer :: rest =>
    recorder.chunk transfer.kind transfer.bytes transfer.time ++
      (recorder.advance transfer.kind transfer.bytes transfer.time).text rest

theorem chunk_ne_nil (recorder : Recorder) (kind : Operation) {bytes : Bytes}
    (filled : bytes.isEmpty = false) (now : Nat) : recorder.chunk kind bytes now ≠ [] := by
  cases bytes with
  | nil => cases filled
  | cons byte rest =>
    have written : Caret.escapeByte byte ≠ [] := by
      unfold Caret.escapeByte
      split
      · simp
      · split <;> simp
    simp [chunk, Caret.escape, written]

def advanceAll (recorder : Recorder) (transfers : List Transfer) : Recorder :=
  transfers.foldl (fun recorder transfer =>
    recorder.advance transfer.kind transfer.bytes transfer.time) recorder

theorem recorder_recordAll (recorder : Recorder) (sink : Sink) (transfers : List Transfer) :
    (recorder.recordAll sink transfers).2.1 = recorder.advanceAll transfers := by
  induction transfers generalizing recorder sink with
  | nil => rfl
  | cons transfer rest ih =>
    simp only [recordAll, record]
    apply ih

theorem text_append (recorder : Recorder) (first second : List Transfer) :
    recorder.text (first ++ second) =
      recorder.text first ++ (recorder.advanceAll first).text second := by
  induction first generalizing recorder with
  | nil => rfl
  | cons transfer rest ih =>
    rw [List.cons_append, text, text, ih, List.append_assoc]
    rfl

theorem taken_recordAll (recorder : Recorder) (sink : Sink) (transfers : List Transfer) :
    (recorder.recordAll sink transfers).2.2.taken =
      (sink.write (recorder.text transfers)).2.taken := by
  induction transfers generalizing recorder sink with
  | nil =>
    have nothing : sink.fitting [] = [] := by
      unfold Sink.fitting
      split <;> simp
    rw [text, Sink.taken_write, nothing, List.append_nil]
    rfl
  | cons transfer rest ih =>
    simp only [recordAll, record]
    rw [ih, Sink.taken_write_write]
    rfl

theorem room_recordAll (recorder : Recorder) (sink : Sink) (transfers : List Transfer) :
    (recorder.recordAll sink transfers).2.2.room =
      sink.room.map fun room => room - (recorder.text transfers).length := by
  induction transfers generalizing recorder sink with
  | nil => cases limited : sink.room <;> simp [recordAll, text, limited]
  | cons transfer rest ih =>
    simp only [recordAll, record, text, ih, List.length_append]
    cases limited : sink.room with
    | none => simp [Sink.write, limited]
    | some room =>
      simp only [Sink.write, limited, Option.map_some, Option.some.injEq]
      omega

theorem forall_recordAll (recorder : Recorder) (sink : Sink) (transfers : List Transfer) :
    (∀ taken ∈ (recorder.recordAll sink transfers).1, taken = true) ↔
      (sink.write (recorder.text transfers)).1 = true := by
  induction transfers generalizing recorder sink with
  | nil => simp [recordAll, text, Sink.write]
  | cons transfer rest ih =>
    simp only [recordAll, record, List.forall_mem_cons, ih, text, Sink.write_append,
      Bool.and_eq_true]

theorem recordAll_unlimited {sink : Sink} (unlimited : sink.room = none) (recorder : Recorder)
    (transfers : List Transfer) :
    (∀ taken ∈ (recorder.recordAll sink transfers).1, taken = true) ∧
      (recorder.recordAll sink transfers).2.2.taken = sink.taken ++ recorder.text transfers := by
  constructor
  · rw [forall_recordAll]
    simp [Sink.write, unlimited]
  · rw [taken_recordAll, Sink.taken_write, Sink.fitting, unlimited]

theorem text_filter (recorder : Recorder) (transfers : List Transfer) :
    recorder.text (transfers.filter fun transfer => !transfer.bytes.isEmpty) =
      recorder.text transfers := by
  induction transfers generalizing recorder with
  | nil => rfl
  | cons transfer rest ih =>
    by_cases empty : transfer.bytes.isEmpty = true
    · simp [text, chunk, advance, empty, ih]
    · simp [text, empty, ih]

end Recorder

end DeviceTestbed
