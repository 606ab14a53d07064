import DeviceTestbed.Proofs.Ioctl.Activation

/-!
An activation that fails makes its descriptor the active one and does nothing else. It may have
opened the record file by then, but a file that this created is empty, and nothing is wrong with an
empty file. Until an activation succeeds, calls are collected with nowhere to write them.
-/

namespace DeviceTestbed.Recording

theorem activate_of_failed {recording started : Recording} {files opened : Files}
    {descriptor : Descriptor} {target : RecordTarget} {testbed : Bool} {fault : Fault}
    (failed :
      recording.activate files descriptor target testbed = (some fault, started, opened)) :
    recording.output = none ∧ started = { recording with active := some descriptor } ∧
      opened = files := by
  cases output : recording.output with
  | some place => simp [activate_later output] at failed
  | none =>
    obtain ⟨cause, fails⟩ | ⟨path, id, after, found, -, -, -, -, succeeds⟩ :=
      activate_cases output files descriptor target testbed
    · rw [fails] at failed
      cases failed
      exact ⟨rfl, by rw [output], rfl⟩
    · rw [succeeds] at failed
      cases failed

/-! Runs without an activation that succeeds. -/

def Session.performAll (session : Session) : List Step → List Reply × Session
  | [] => ([], session)
  | step :: steps =>
    let performed := session.perform step
    let rest := performed.2.performAll steps
    (performed.1 :: rest.1, rest.2)

def unopened (history : List Step) : Recording where
  active := activeAfter history
  tree := Tree.ofNodes? (collected [] (captures history))

theorem close_unopened (history : List Step) (files : Files) (descriptor : Descriptor)
    (room : Option Nat) :
    (unopened history).close files descriptor room =
      (.ok (decide (StillActive history descriptor)),
        unopened (history ++ [.close descriptor room]), files) := by
  have ended : ((unopened history).close files descriptor room).2.1 =
      unopened (history ++ [.close descriptor room]) := by
    rw [close_recording rfl, unopened, unopened, captures_concat_close]
  rw [← ended]
  by_cases still : StillActive history descriptor
  · have active : (unopened history).active = some descriptor := activeAfter_eq_some.mpr still
    rw [close_of_active active, save_of_missing (.inr rfl), decide_eq_true still]
    rfl
  · have other : (unopened history).active ≠ some descriptor := mt activeAfter_eq_some.mp still
    rw [close, if_neg other, decide_eq_false still]

theorem perform_unopened {history : List Step} {files : Files} {step : Step}
    (fails : (Session.perform { recording := unopened history, files } step).1 ≠ .activated none) :
    (Session.perform { recording := unopened history, files } step).2 =
      { recording := unopened (history ++ [step]), files } := by
  cases step with
  | activate descriptor target testbed =>
    cases outcome : (unopened history).activate files descriptor target testbed with
    | mk result left =>
      cases result with
      | none => simp [Session.perform, outcome] at fails
      | some fault =>
        obtain ⟨-, active, kept⟩ := activate_of_failed outcome
        simp only [Session.perform, outcome, active, kept]
        rw [unopened, unopened, activeAfter_concat, captures_concat_activate]
        rfl
  | record descriptor request argument result =>
    rw [Session.perform, record_eq rfl rfl, unopened, unopened, activeAfter_concat]
    rfl
  | close descriptor room =>
    simp only [Session.perform, close_unopened]

theorem unopened_of_runs {history : List (Step × Reply)} {session : Session}
    (runs : Runs history session)
    (fails : ∀ answered ∈ history, answered.2 ≠ .activated none) :
    session.recording = unopened (history.map Prod.fst) := by
  induction runs with
  | start files => rfl
  | @step history session before step ih =>
    obtain ⟨earlier, last⟩ := List.forall_mem_append.mp fails
    obtain ⟨recording, files⟩ := session
    obtain rfl := ih earlier
    rw [perform_unopened (last _ List.mem_cons_self), List.map_append]
    rfl
  | others before files ih => exact ih fails

theorem performAll_unopened {history : List Step} {files : Files} {steps : List Step}
    (fails : ∀ reply ∈ (Session.performAll { recording := unopened history, files } steps).1,
      reply ≠ .activated none) :
    (Session.performAll { recording := unopened history, files } steps).2 =
      { recording := unopened (history ++ steps), files } := by
  induction steps generalizing history with
  | nil => rw [List.append_nil]; rfl
  | cons step steps ih =>
    obtain ⟨first, later⟩ := List.forall_mem_cons.mp fails
    have next := perform_unopened first
    simp only [Session.performAll, next] at later ⊢
    rw [ih later, ← List.append_cons]

/-- When an activation fails, no file was open, and the descriptor becomes the active one; the
files, the tree and everything else are as before. As long as no activation has succeeded, no file
changes whatever is done. Calls on the active descriptor are collected all the same, and closing it
succeeds. -/
theorem failed_activation_is_harmless {history : List (Step × Reply)} {session : Session}
    (runs : Runs history session) :
    (∀ descriptor target testbed fault,
      let attempt := session.perform (.activate descriptor target testbed)
      attempt.1 = .activated (some fault) →
        session.recording.output = none ∧
          attempt.2 = { session with
            recording := { session.recording with active := some descriptor } }) ∧
    ((∀ answered ∈ history, answered.2 ≠ .activated none) →
      ∀ steps, (∀ reply ∈ (session.performAll steps).1, reply ≠ .activated none) →
        let after := (session.performAll steps).2
        let performed := history.map Prod.fst ++ steps
        after.files = session.files ∧
          after.recording =
            { active := activeAfter performed
              output := none
              tree := Tree.ofNodes? (collected [] (captures performed)) } ∧
          ∀ descriptor room, (after.perform (.close descriptor room)).1 =
            .closed (.ok (decide (StillActive performed descriptor)))) := by
  constructor
  · intro descriptor target testbed fault attempt failed
    obtain ⟨output, active, kept⟩ := activate_of_failed (Prod.ext (Reply.activated.inj failed) rfl)
    exact ⟨output, by simp only [attempt, Session.perform, active, kept]⟩
  · intro none steps fails after performed
    obtain ⟨recording, files⟩ := session
    obtain rfl := unopened_of_runs runs none
    have reached : after = { recording := unopened performed, files } := performAll_unopened fails
    rw [reached]
    refine ⟨rfl, rfl, ?_⟩
    intro descriptor room
    simp only [Session.perform, close_unopened]

/-- The record file cannot be read as a tree. A call is collected, and the file is not written. -/
theorem failed_activation_is_harmless_of_malformed :
    let path := Bytes.ofAscii "rec".toList
    let files := Files.ofFixtures [.file path (Bytes.ofAscii "0x".toList)]
    let target : RecordTarget := { device := 0, file := some path }
    let start : Session := { recording := {}, files }
    let steps := [.activate 5 target false, .record 5 0x7803 (.word 7) (-1)]
    let after := (start.performAll steps).2
    (start.perform (.activate 5 target false)).2 =
        { recording := { active := some 5 }, files } ∧
      after.files = files ∧ after.recording.tree.isSome = true ∧
      (after.perform (.close 5 none)).1 = .closed (.ok true) := by
  intro path files target start steps after
  have refused : (activate {} files 5 target false).1.isSome = true := by decide +kernel
  obtain ⟨fault, refused⟩ := Option.isSome_iff_exists.mp refused
  clear_value files
  have starts : Runs [] start := .start files
  obtain ⟨fails, idle⟩ := failed_activation_is_harmless starts
  have reply : (start.perform (.activate 5 target false)).1 = .activated (some fault) := by
    rw [Session.perform, refused]
  have replies : (start.performAll steps).1 = [.activated (some fault), .recorded] := by
    simp only [steps, Session.performAll, reply]
    rfl
  have without : ∀ reply ∈ (start.performAll steps).1, reply ≠ .activated none := by
    simp [replies]
  obtain ⟨kept, recorded, closed⟩ := idle (List.forall_mem_nil _) steps without
  refine ⟨(fails 5 target false fault reply).2, kept, ?_, ?_⟩
  · rw [recorded]
    decide
  · have still : StillActive steps 5 := by decide
    exact (closed 5 none).trans
      (congrArg (fun active => Reply.closed (.ok active)) (decide_eq_true still))

end DeviceTestbed.Recording
