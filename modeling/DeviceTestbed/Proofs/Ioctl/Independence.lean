import DeviceTestbed.Proofs.Ioctl.Replay

/-!
Descriptors replay independently. Whatever is done with other descriptors in between, be they opened
on the same device, what is done with one of them has the results that it has alone.
-/

namespace DeviceTestbed.ReplayTable

inductive Action where
  | attach (root device : Path)
  | respond (request : Request) (argument : Argument)
  | release
  | drop
  deriving DecidableEq, Repr

structure Step where
  descriptor : Descriptor
  action : Action
  deriving DecidableEq, Repr

/-- What a step tells its caller. An answer comes with the argument as it is left, which is as it
was given if nothing answers the call. -/
inductive Result where
  | done
  | released (tracked : Bool)
  | answered (result : Option Int32) (argument : Argument)
  | refused (fault : Fault)
  deriving DecidableEq, Repr

def Result.isFull : Result → Bool
  | .refused (.table (.full _ _)) => true
  | _ => false

def perform (files : Files) (table : ReplayTable) (step : Step) : Result × ReplayTable :=
  match step.action with
  | .attach root device =>
    match table.attach files step.descriptor root device with
    | .ok attached => (.done, attached)
    | .error fault => (.refused fault, table)
  | .respond request argument =>
    let (answer, moved) := table.respond step.descriptor request argument
    (.answered (answer.map Prod.fst) ((answer.map Prod.snd).getD argument), moved)
  | .release =>
    match table.release step.descriptor with
    | .ok (state, released) => (.released state.isSome, released)
    | .error fault => (.refused (.table fault), table)
  | .drop => (.done, table.drop step.descriptor)

def run (files : Files) (table : ReplayTable) : List Step → List (Step × Result) × ReplayTable
  | [] => ([], table)
  | step :: rest =>
    let (result, next) := table.perform files step
    let (results, last) := next.run files rest
    ((step, result) :: results, last)

variable {files : Files} {table alone : ReplayTable} {descriptor : Descriptor}

theorem get?_perform_ne {step : Step} (different : descriptor ≠ step.descriptor) :
    (table.perform files step).2.get? descriptor = table.get? descriptor := by
  unfold perform
  split
  · split
    · rename_i attached
      exact get?_attach_ne attached different
    · rfl
  · exact table.get?_respond_ne _ _ different
  · rw [DescriptorTable.release_eq]
    exact table.get?_drop_ne different
  · exact table.get?_drop_ne different

/-! The table that only one descriptor is put into, beside the one for all. -/

structure Agrees (descriptor : Descriptor) (table alone : ReplayTable) : Prop where
  state : alone.get? descriptor = table.get? descriptor
  others : ∀ other, other ≠ descriptor → alone.get? other = none
  room : 0 < alone.limit

theorem Agrees.size_drop (agrees : Agrees descriptor table alone) :
    (alone.drop descriptor).size = 0 := by
  refine Mapping.size_eq_zero_of_absent fun other => ?_
  change ((alone.drop descriptor).get? other).isSome = false
  by_cases same : other = descriptor
  · rw [same, DescriptorTable.get?_drop_self]
    rfl
  · rw [DescriptorTable.get?_drop_ne alone same, agrees.others other same]
    rfl

theorem Agrees.attach {root device : Path} {attached : ReplayTable}
    (agrees : Agrees descriptor table alone)
    (done : table.attach files descriptor root device = .ok attached) :
    ∃ other, alone.attach files descriptor root device = .ok other ∧
      Agrees descriptor attached other := by
  obtain ⟨replay, loaded, restarted⟩ := attach_eq_ok.mp done
  have fits : (alone.drop descriptor).size < alone.limit := agrees.size_drop ▸ agrees.room
  have aside := DescriptorTable.restart_eq fits replay
  refine ⟨_, attach_eq_ok.mpr ⟨replay, loaded, aside⟩, ?_, ?_, agrees.room⟩
  · rw [DescriptorTable.get?_restart_self aside, DescriptorTable.get?_restart_self restarted]
  · intro other different
    rw [DescriptorTable.get?_restart_ne aside different, agrees.others other different]

theorem Agrees.drop (agrees : Agrees descriptor table alone) :
    Agrees descriptor (table.drop descriptor) (alone.drop descriptor) where
  state := by rw [DescriptorTable.get?_drop_self, DescriptorTable.get?_drop_self]
  others := by
    intro other different
    rw [DescriptorTable.get?_drop_ne alone different, agrees.others other different]
  room := agrees.room

theorem Agrees.respond (agrees : Agrees descriptor table alone) (request : Request)
    (argument : Argument) :
    (alone.respond descriptor request argument).1 = (table.respond descriptor request argument).1 ∧
      Agrees descriptor (table.respond descriptor request argument).2
        (alone.respond descriptor request argument).2 := by
  refine ⟨by rw [answer_respond, answer_respond, agrees.state], ?_, ?_, ?_⟩
  · rw [get?_respond_self, get?_respond_self, agrees.state]
  · intro other different
    rw [get?_respond_ne alone request argument different, agrees.others other different]
  · exact (alone.limit_respond request argument descriptor).symm ▸ agrees.room

theorem Agrees.perform {step : Step} (agrees : Agrees step.descriptor table alone)
    (roomy : (table.perform files step).1.isFull = false) :
    (alone.perform files step).1 = (table.perform files step).1 ∧
      Agrees step.descriptor (table.perform files step).2 (alone.perform files step).2 := by
  obtain ⟨descriptor, action⟩ := step
  unfold ReplayTable.perform at roomy ⊢
  cases action with
  | attach root device =>
    dsimp only at agrees roomy ⊢
    cases attached : table.attach files descriptor root device with
    | ok after =>
      obtain ⟨other, aside, still⟩ := agrees.attach attached
      rw [aside]
      exact ⟨rfl, still⟩
    | error fault =>
      rw [attached] at roomy
      cases fault with
      | recording fault =>
        rw [attach_eq_recording.mpr (attach_eq_recording.mp attached)]
        exact ⟨rfl, agrees⟩
      | table fault =>
        rw [eq_full_of_attach attached] at roomy
        contradiction
  | respond request argument =>
    obtain ⟨same, still⟩ := agrees.respond request argument
    dsimp only
    rw [same]
    exact ⟨rfl, still⟩
  | release =>
    simp only [DescriptorTable.release_eq, agrees.state]
    exact ⟨trivial, agrees.drop⟩
  | drop => exact ⟨rfl, agrees.drop⟩

theorem Agrees.of_other (agrees : Agrees descriptor table alone) (files : Files) {step : Step}
    (different : descriptor ≠ step.descriptor) :
    Agrees descriptor (table.perform files step).2 alone where
  state := agrees.state.trans (get?_perform_ne different).symm
  others := agrees.others
  room := agrees.room

theorem Agrees.run {steps : List Step} (agrees : Agrees descriptor table alone)
    (roomy : ∀ done ∈ (table.run files steps).1, done.1.descriptor = descriptor →
      done.2.isFull = false) :
    (alone.run files (steps.filter fun step => step.descriptor = descriptor)).1 =
        (table.run files steps).1.filter (fun done => done.1.descriptor = descriptor) ∧
      Agrees descriptor (table.run files steps).2
        (alone.run files (steps.filter fun step => step.descriptor = descriptor)).2 := by
  induction steps generalizing table alone with
  | nil => exact ⟨rfl, agrees⟩
  | cons step rest ih =>
    have later := fun done member => roomy done (List.mem_cons_of_mem _ member)
    by_cases own : step.descriptor = descriptor
    · subst own
      obtain ⟨same, still⟩ := agrees.perform (roomy _ List.mem_cons_self rfl)
      obtain ⟨results, final⟩ := ih still later
      simp only [List.filter_cons, decide_true, ↓reduceIte, ReplayTable.run, same, results]
      exact ⟨trivial, final⟩
    · have still := agrees.of_other files (Ne.symm own)
      obtain ⟨results, final⟩ := ih still later
      simp only [List.filter_cons, own, decide_false, Bool.false_eq_true, ↓reduceIte,
        ReplayTable.run, results]
      exact ⟨trivial, final⟩

/-- In any run from the empty table, what is done with a descriptor has the results, and leaves the
arguments, that it has if nothing is done with any other descriptor, as long as the table has room
for it whenever it is put in. -/
theorem results_of_descriptor (files : Files) (steps : List Step) (descriptor : Descriptor)
    (roomy : ∀ done ∈ (run files {} steps).1, done.1.descriptor = descriptor →
      done.2.isFull = false) :
    (run files {} steps).1.filter (fun done => done.1.descriptor = descriptor) =
      (run files {} (steps.filter fun step => step.descriptor = descriptor)).1 := by
  have start : Agrees descriptor ({} : ReplayTable) {} := ⟨rfl, fun _ _ => rfl, by decide⟩
  exact (start.run roomy).1.symm

theorem results_of_descriptor_sharing_file :
    let ascii (text : String) := Bytes.ofAscii text.toList
    let files := Files.ofFixtures
      [.file (ascii "t/ioctl/dev/a") (ascii "0x7803 1 0700000000000000\n0x7803 2 0700000000000000"),
        .file (ascii "t/ioctl/dev/bad") (ascii "0x7803")]
    let attach (descriptor : Descriptor) (device : String) : Step :=
      ⟨descriptor, .attach (ascii "t") (ascii device)⟩
    let ask (descriptor : Descriptor) : Step := ⟨descriptor, .respond 0x7803 (.word 7)⟩
    let steps := [attach 3 "/dev/a", attach 4 "/dev/a", ask 3, ask 4, attach 3 "/dev/bad", ask 3,
      attach 4 "/dev/a", ask 4, ask 3, ⟨4, .release⟩, ask 4, ⟨3, .drop⟩, ⟨3, .release⟩]
    let results := (run files {} steps).1
    (∀ done ∈ results, done.1.descriptor = 3 → done.2.isFull = false) ∧
      results.filter (fun done => done.1.descriptor = 3) =
        (run files {} (steps.filter fun step => step.descriptor = 3)).1 ∧
      (results.map Prod.snd).filterMap (fun
          | .answered result _ => some result
          | _ => none) =
        [some 1, some 1, some 2, some 1, some 1, none] := by
  intro ascii files attach ask steps results
  have roomy : ∀ done ∈ results, done.1.descriptor = 3 → done.2.isFull = false := by
    decide +kernel
  exact ⟨roomy, results_of_descriptor files steps 3 roomy, by decide +kernel⟩

end DeviceTestbed.ReplayTable
