import DeviceTestbed.Proofs.Script.Caret
import DeviceTestbed.Proofs.Script.Recorder

/-!
Bytes that arrive in pieces at one time. Only the first piece with content can begin a record, so a
trace does not tell how they were cut.
-/

namespace DeviceTestbed

namespace Transfer

def piecewise (kind : Operation) (pieces : List Bytes) (time : Nat) : List Transfer :=
  pieces.map fun bytes => { kind, bytes, time }

end Transfer

namespace Recorder

variable (recorder : Recorder) (kind : Operation) (now : Nat)

theorem advance_append (first second : Bytes) :
    (recorder.advance kind first now).advance kind second now =
      recorder.advance kind (first ++ second) now := by
  cases first with
  | nil => rfl
  | cons byte first => cases second <;> rfl

theorem opening_advance {bytes : Bytes} (present : bytes ≠ []) :
    (recorder.advance kind bytes now).opening kind now = [] := by
  have filled : bytes.isEmpty = false := by simpa using present
  simp [advance, filled, opening, continues]

theorem chunk_append (first second : Bytes) :
    recorder.chunk kind first now ++ (recorder.advance kind first now).chunk kind second now =
      recorder.chunk kind (first ++ second) now := by
  cases first with
  | nil => rfl
  | cons byte first =>
    have goesOn : (recorder.advance kind (byte :: first) now).opening kind now = [] :=
      opening_advance _ _ _ (List.cons_ne_nil _ _)
    cases second with
    | nil => simp [chunk]
    | cons next second =>
      simp only [chunk, goesOn, List.cons_append, List.isEmpty_cons, Bool.false_eq_true, if_false,
        List.nil_append, List.append_assoc, ← Caret.escape_append]

theorem advanceAll_piecewise (pieces : List Bytes) :
    recorder.advanceAll (Transfer.piecewise kind pieces now) =
      recorder.advance kind pieces.flatten now := by
  induction pieces generalizing recorder with
  | nil => rfl
  | cons bytes pieces ih =>
    calc recorder.advanceAll (Transfer.piecewise kind (bytes :: pieces) now)
        = (recorder.advance kind bytes now).advanceAll (Transfer.piecewise kind pieces now) := rfl
      _ = (recorder.advance kind bytes now).advance kind pieces.flatten now := ih _
      _ = recorder.advance kind (bytes :: pieces).flatten now := advance_append _ _ _ _ _

theorem text_piecewise (pieces : List Bytes) :
    recorder.text (Transfer.piecewise kind pieces now) =
      recorder.chunk kind pieces.flatten now := by
  induction pieces generalizing recorder with
  | nil => rfl
  | cons bytes pieces ih =>
    calc recorder.text (Transfer.piecewise kind (bytes :: pieces) now)
        = recorder.chunk kind bytes now ++
            (recorder.advance kind bytes now).text (Transfer.piecewise kind pieces now) := rfl
      _ = recorder.chunk kind bytes now ++
            (recorder.advance kind bytes now).chunk kind pieces.flatten now := by rw [ih]
      _ = recorder.chunk kind (bytes :: pieces).flatten now := chunk_append _ _ _ _ _

/-- Bytes that are recorded in pieces at one time leave the output and the recorder as all of them
recorded at once do, whatever the recorder was doing and however much room the output has. All
pieces succeed just if the whole does. -/
theorem record_in_pieces (sink : Sink) (pieces : List Bytes) :
    let cut := recorder.recordAll sink (Transfer.piecewise kind pieces now)
    let whole := recorder.record kind pieces.flatten now sink
    cut.2.2.taken = whole.2.2.taken ∧ cut.2.2.room = whole.2.2.room ∧ cut.2.1 = whole.2.1 ∧
      ((∀ taken ∈ cut.1, taken = true) ↔ whole.1 = true) := by
  intro cut whole
  have written := text_piecewise recorder kind now pieces
  refine ⟨?_, ?_, ?_, ?_⟩
  · rw [taken_recordAll, written]
    rfl
  · rw [room_recordAll, written]
    rfl
  · rw [recorder_recordAll, advanceAll_piecewise]
    rfl
  · rw [forall_recordAll, written]
    rfl

end Recorder

end DeviceTestbed
