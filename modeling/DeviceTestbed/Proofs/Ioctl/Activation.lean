import DeviceTestbed.Proofs.Ioctl.Recording

/-!
When an activation succeeds. As long as none did, one in a testbed is refused. The first that
succeeds leaves the record file open, and from then on nothing is refused any more, in a testbed or
not.
-/

namespace DeviceTestbed.Recording

/-- What a run from the beginning was asked and answered, and where it leads. The files may be
changed by others at any time. -/
inductive Runs : List (Step × Reply) → Session → Prop
  | start (files : Files) : Runs [] { recording := {}, files }
  | step {history : List (Step × Reply)} {session : Session} (before : Runs history session)
      (step : Step) :
      Runs (history ++ [(step, (session.perform step).1)]) (session.perform step).2
  | others {history : List (Step × Reply)} {session : Session} (before : Runs history session)
      (files : Files) : Runs history { session with files }

def Begins (answered : Step × Reply) : Prop :=
  ∃ descriptor target, answered = (.activate descriptor target false, .activated none)

def Begun (history : List (Step × Reply)) : Prop :=
  ∃ answered ∈ history, Begins answered

theorem begun_concat {history : List (Step × Reply)} {answered : Step × Reply} :
    Begun (history ++ [answered]) ↔ Begun history ∨ Begins answered := by
  simp only [Begun, List.mem_append, List.mem_singleton]
  constructor
  · rintro ⟨known, earlier | rfl, begins⟩
    · exact .inl ⟨known, earlier, begins⟩
    · exact .inr begins
  · rintro (⟨known, earlier, begins⟩ | begins)
    · exact ⟨known, .inl earlier, begins⟩
    · exact ⟨answered, .inr rfl, begins⟩

/-! What each step does to the open file. -/

theorem activate_in_testbed_of_unopened {recording : Recording} (unopened : recording.output = none)
    (files : Files) (descriptor : Descriptor) (target : RecordTarget) :
    recording.activate files descriptor target true =
      (some (if target.file.isNone then .fileUnset else .withTestbed),
        { recording with active := some descriptor }, files) := by
  simp only [activate, unopened]
  cases target.file with
  | none => rfl
  | some path => rfl

theorem output_activate {recording : Recording} (unopened : recording.output = none)
    (files : Files) (descriptor : Descriptor) (target : RecordTarget) (testbed : Bool) :
    (recording.activate files descriptor target testbed).2.1.output.isSome = true ↔
      (recording.activate files descriptor target testbed).1 = none := by
  obtain ⟨fault, fails⟩ | ⟨path, id, opened, found, -, -, -, -, succeeds⟩ :=
    activate_cases unopened files descriptor target testbed
  · simp [fails, unopened]
  · simp [succeeds]

theorem output_record (recording : Recording) (descriptor : Descriptor) (request : Request)
    (argument : Argument) (result : Int32) :
    (recording.record descriptor request argument result).output = recording.output := by
  unfold record
  split
  · split <;> rfl
  · rfl

theorem output_close (recording : Recording) (files : Files) (descriptor : Descriptor)
    (room : Option Nat) :
    (recording.close files descriptor room).2.1.output = recording.output := by
  unfold close
  split <;> rfl

theorem output_perform (session : Session) (step : Step) :
    (session.perform step).2.recording.output.isSome = true ↔
      session.recording.output.isSome = true ∨ Begins (step, (session.perform step).1) := by
  cases step with
  | activate descriptor target testbed =>
    cases output : session.recording.output with
    | some place =>
      simp only [Session.perform, activate_later output, output, Option.isSome_some, true_or]
    | none =>
      have opened := output_activate output session.files descriptor target testbed
      simp only [Session.perform, opened, Option.isSome_none, Bool.false_eq_true, false_or]
      constructor
      · intro succeeded
        cases testbed with
        | true => simp [activate_in_testbed_of_unopened output] at succeeded
        | false => exact ⟨descriptor, target, by rw [succeeded]⟩
      · rintro ⟨other, wanted, same⟩
        exact Reply.activated.inj (Prod.mk.inj same).2
  | record descriptor request argument result =>
    simp [Session.perform, output_record, Begins]
  | close descriptor room =>
    simp [Session.perform, output_close, Begins]

theorem output_of_runs {history : List (Step × Reply)} {session : Session}
    (runs : Runs history session) :
    session.recording.output.isSome = true ↔ Begun history := by
  induction runs with
  | start files => simp [Begun]
  | step before step ih => rw [output_perform, begun_concat, ih]
  | others before files ih => exact ih

/-- In a testbed an activation succeeds just if one succeeded before outside of it, however the
recording was used since. Otherwise it is refused: no record file is named, or there is a testbed.
Either way the descriptor becomes the active one, and nothing else changes. -/
theorem activate_in_testbed {history : List (Step × Reply)} {session : Session}
    (runs : Runs history session) (descriptor : Descriptor) (target : RecordTarget) :
    ∃ fault, session.perform (.activate descriptor target true) =
        (.activated fault,
          { session with recording := { session.recording with active := some descriptor } }) ∧
      (fault = none ↔ Begun history) ∧
      ∀ known, fault = some known →
        target.file = none ∧ known = .fileUnset ∨ target.file ≠ none ∧ known = .withTestbed := by
  rw [← output_of_runs runs]
  cases output : session.recording.output with
  | some place =>
    refine ⟨none, ?_, by simp, nofun⟩
    rw [Session.perform, activate_later output]
  | none =>
    refine ⟨some (if target.file.isNone then .fileUnset else .withTestbed), ?_, by simp, ?_⟩
    · rw [Session.perform, activate_in_testbed_of_unopened output]
    · intro known same
      obtain rfl := Option.some.inj same
      cases target.file <;> simp

theorem activate_in_testbed_of_begun :
    let target : RecordTarget := { device := 0, file := some (Bytes.ofAscii "rec".toList) }
    let start : Session := { recording := {}, files := Files.initial }
    let refused := start.perform (.activate 5 target true)
    let begun := refused.2.perform (.activate 5 target false)
    let closed := begun.2.perform (.close 5 none)
    refused.1 = .activated (some .withTestbed) ∧ begun.1 = .activated none ∧
      (closed.2.perform (.activate 6 target true)).1 = .activated none := by
  intro target start refused begun closed
  have starts : Runs [] start := .start Files.initial
  have runs := ((starts.step (.activate 5 target true)).step (.activate 5 target false)).step
    (.close 5 none)
  have succeeds : begun.1 = .activated none := rfl
  obtain ⟨fault, outcome, allowed, why⟩ := activate_in_testbed starts 5 target
  obtain ⟨later, again, known, -⟩ := activate_in_testbed runs 6 target
  refine ⟨?_, succeeds, ?_⟩
  · have notBegun : fault ≠ none := by
      rw [Ne, allowed]
      rintro ⟨answered, member, -⟩
      cases member
    obtain ⟨reason, rfl⟩ := Option.ne_none_iff_exists'.mp notBegun
    obtain ⟨unset, -⟩ | ⟨-, rfl⟩ := why reason rfl
    · cases unset
    · exact congrArg Prod.fst outcome
  · have begins : Begins (.activate 5 target false, begun.1) := ⟨5, target, by rw [succeeds]⟩
    obtain rfl := known.mpr ⟨_, by simp [begun, refused], begins⟩
    exact congrArg Prod.fst again

/-- A recording that began outside of a testbed goes on within one. -/
theorem activation_goes_on_in_testbed :
    ¬ ∀ history session, Runs history session → ∀ descriptor target,
      (session.perform (.activate descriptor target true)).1 ≠ .activated none := by
  intro claim
  let target : RecordTarget := { device := 0, file := some (Bytes.ofAscii "rec".toList) }
  have begun := (Runs.start Files.initial).step (.activate 5 target false)
  have closed := begun.step (.close 5 none)
  exact claim _ _ closed 6 target rfl

end DeviceTestbed.Recording
