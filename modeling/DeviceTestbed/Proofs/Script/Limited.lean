import DeviceTestbed.Proofs.Script.Recorder

/-!
Recording to an output that runs full. It is left with the first bytes of the trace, cut anywhere,
and the recorder does not notice.
-/

namespace DeviceTestbed

namespace Recorder

variable (recorder : Recorder)

/-- Whether a step succeeds is told by the output as the steps before have left it. -/
theorem getElem?_recordAll (sink : Sink) {transfers : List Transfer} {step : Nat}
    {transfer : Transfer} (here : transfers[step]? = some transfer) :
    (recorder.recordAll sink transfers).1[step]? =
      some ((recorder.recordAll sink (transfers.take step)).2.2.write
        ((recorder.advanceAll (transfers.take step)).chunk
          transfer.kind transfer.bytes transfer.time)).1 := by
  induction transfers generalizing recorder sink step with
  | nil => cases here
  | cons first rest ih =>
    cases step with
    | zero =>
      obtain rfl := Option.some.inj here
      rfl
    | succ step =>
      rw [List.getElem?_cons_succ] at here
      simp only [recordAll, record, List.getElem?_cons_succ, List.take_succ_cons]
      rw [ih _ _ here]
      rfl

theorem text_take_succ {transfers : List Transfer} {step : Nat} {transfer : Transfer}
    (here : transfers[step]? = some transfer) :
    recorder.text (transfers.take (step + 1)) = recorder.text (transfers.take step) ++
      (recorder.advanceAll (transfers.take step)).chunk
        transfer.kind transfer.bytes transfer.time := by
  rw [List.take_add_one, here, text_append]
  simp [text]

/-- An output with room for some bytes takes just the first ones of the text that an output without
limit gets. A step succeeds just if it has nothing to write or the text up to its own end fits. The
recorder goes on as if everything had been taken. -/
theorem recordAll_limited (room : Nat) (transfers : List Transfer) :
    let unlimited := recorder.recordAll {}
    let limited := recorder.recordAll { room := some room }
    (limited transfers).2.2.taken = (unlimited transfers).2.2.taken.take room ∧
      (∀ step transfer, transfers[step]? = some transfer →
        (limited transfers).1[step]? = some (decide (transfer.bytes = [] ∨
          (unlimited (transfers.take (step + 1))).2.2.taken.length ≤ room))) ∧
      ∀ count, (limited (transfers.take count)).2.1 = (unlimited (transfers.take count)).2.1 := by
  intro unlimited limited
  have whole (done : List Transfer) : (unlimited done).2.2.taken = recorder.text done := by
    rw [taken_recordAll, Sink.taken_write]
    rfl
  refine ⟨?_, ?_, ?_⟩
  · rw [whole, taken_recordAll, Sink.taken_write]
    rfl
  · intro step transfer here
    have left : (limited (transfers.take step)).2.2.room =
        some (room - (recorder.text (transfers.take step)).length) :=
      recorder.room_recordAll _ _
    rw [getElem?_recordAll _ _ here, whole, recorder.text_take_succ here, List.length_append]
    simp only [Sink.write, limited] at left ⊢
    rw [left, Option.all_some]
    refine congrArg some (decide_eq_decide.mpr ?_)
    cases empty : transfer.bytes with
    | nil => simp [chunk]
    | cons byte rest =>
      -- In a full output the room that is left is zero, and zero does not tell how much was asked
      -- for before. That something is written here is what rules this out.
      have written : (recorder.advanceAll (transfers.take step)).chunk transfer.kind (byte :: rest)
          transfer.time ≠ [] := chunk_ne_nil _ _ rfl _
      have present := List.length_pos_iff.mpr written
      simp only [reduceCtorEq, false_or]
      omega
  · intro count
    rw [recorder_recordAll, recorder_recordAll]

/-- The output is full between the two characters that stand for a line feed. -/
theorem recordAll_limited_inside_pair :
    let ascii (text : String) := Bytes.ofAscii text.toList
    let transfers : List Transfer :=
      [⟨.write, ascii "AT\n", 5⟩, ⟨.read, [], 9⟩, ⟨.read, ascii "ok", 9⟩]
    let unlimited := recordAll { time := 5 } {} transfers
    let limited := recordAll { time := 5 } { room := some 7 } transfers
    unlimited.2.2.taken = ascii "w 0 AT^J\nr 4 ok" ∧ limited.2.2.taken = ascii "w 0 AT^" ∧
      limited.1[0]? = some false ∧ limited.1[1]? = some true ∧ limited.1[2]? = some false ∧
      limited.2.1 = { time := 9, kind := some .read } := by
  intro ascii transfers unlimited limited
  obtain ⟨taken, steps, same⟩ := recordAll_limited { time := 5 } 7 transfers
  have written : unlimited.2.2.taken = ascii "w 0 AT^J\nr 4 ok" := by decide
  refine ⟨written, taken.trans ?_, (steps 0 _ rfl).trans ?_, (steps 1 _ rfl).trans ?_,
    (steps 2 _ rfl).trans ?_, (same 3).trans ?_⟩ <;> decide

end Recorder

end DeviceTestbed
