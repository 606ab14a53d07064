import DeviceTestbed.Client.Entry
import DeviceTestbed.Proofs.Descriptor.Table
import DeviceTestbed.Proofs.Outcome

/-!
Which parts of the state bookkeeping changes when it succeeds. It makes no real calls, and
whatever it runs into on the way, the error number is put back.
-/

namespace DeviceTestbed.Client

variable {client after : Client}

theorem quietlyTry_eq_ok {work : Client → Except Halt Client}
    (done : client.quietlyTry work = .ok after) :
    ∃ worked, work client = .ok worked ∧ after = { worked with errno := client.errno } := by
  unfold quietlyTry at done
  cases outcome : work client with
  | error halt =>
    rw [outcome] at done
    cases done
  | ok worked =>
    rw [outcome] at done
    exact ⟨worked, rfl, (Except.ok.inj done).symm⟩

theorem quietlyTry_eq_error {work : Client → Except Halt Client} {halt : Halt}
    (failed : client.quietlyTry work = .error halt) : work client = .error halt := by
  unfold quietlyTry at failed
  cases outcome : work client with
  | error known =>
    rw [outcome] at failed
    exact congrArg Except.error (Except.error.inj failed)
  | ok worked =>
    rw [outcome] at failed
    cases failed

theorem quietlyTry_bind_eq_ok {work : Client → Except Halt Client} {given answer : Answer}
    {next : Client → Client}
    (done : (client.quietlyTry work >>= fun worked => pure (given, next worked)) =
      .ok (answer, after)) :
    ∃ worked, work client = .ok worked ∧ answer = given ∧
      after = next { worked with errno := client.errno } := by
  obtain ⟨reached, quiet, last⟩ := Outcome.bind_eq_ok.mp done
  obtain ⟨worked, work, rfl⟩ := quietlyTry_eq_ok quiet
  obtain ⟨rfl, rfl⟩ := Prod.mk.inj (Except.ok.inj last)
  exact ⟨worked, work, rfl, rfl⟩

theorem quietlyTry_bind_eq_error {work : Client → Except Halt Client} {given : Answer}
    {next : Client → Client} {halt : Halt}
    (failed : (client.quietlyTry work >>= fun worked => pure (given, next worked)) =
      .error halt) : work client = .error halt := by
  rcases Outcome.bind_eq_error.mp failed with quiet | ⟨after, -, last⟩
  · exact quietlyTry_eq_error quiet
  · cases last

theorem release_of_negative {descriptor : Descriptor} (negative : descriptor < 0) :
    client.release descriptor = .ok client :=
  if_pos negative

theorem release_of_valid {descriptor : Descriptor} (valid : ¬ descriptor < 0) :
    client.release descriptor =
      let (closed, recording, files) :=
        client.recording.close client.files descriptor client.conditions.room
      let warned := client.warning (Warning.ofClosed descriptor closed)
      .ok { client.forget descriptor with
        recording, files, errno := warned.errno, warnings := warned.warnings } := by
  rw [release, if_neg valid]
  simp only [DescriptorTable.release_eq]
  rfl

theorem exists_release (client : Client) (descriptor : Descriptor) :
    ∃ released, client.release descriptor = .ok released := by
  by_cases negative : descriptor < 0
  · exact ⟨_, release_of_negative negative⟩
  · exact ⟨_, release_of_valid negative⟩

theorem eq_of_startReplay {descriptor : Descriptor} {path : Path}
    (started : client.startReplay descriptor path = .ok after) :
    ∃ errno replays, after = { client with errno, replays } := by
  unfold startReplay at started
  split at started
  · exact ⟨_, _, (Except.ok.inj started).symm⟩
  · split at started
    · exact ⟨_, _, (Except.ok.inj started).symm⟩
    · split at started
      · exact ⟨_, _, (Except.ok.inj started).symm⟩
      · cases started
      · cases started

theorem eq_of_configure {known : Configuration}
    (configured : client.configure = .ok (known, after)) :
    after = { client with configuration := some known } := by
  unfold configure at configured
  split at configured
  · rename_i read
    obtain ⟨rfl, rfl⟩ := Prod.mk.inj (Except.ok.inj configured)
    rw [← read]
  · split at configured
    · cases configured
    · obtain ⟨rfl, rfl⟩ := Prod.mk.inj (Except.ok.inj configured)
      rfl

theorem eq_of_startRecording {descriptor : Descriptor} {device : DeviceNumber}
    {target : Option RecordTarget}
    (started : client.startRecording descriptor device target = .ok after) :
    ∃ files errno recording, after = { client with files, errno, recording } := by
  cases target with
  | none => exact ⟨_, _, _, (Except.ok.inj started).symm⟩
  | some target =>
    simp only [startRecording] at started
    split at started
    · exact ⟨_, _, _, (Except.ok.inj started).symm⟩
    · split at started
      · exact ⟨_, _, _, (Except.ok.inj started).symm⟩
      · cases started

theorem eq_of_startTrace {descriptor : Descriptor} {path : Option Path}
    (started : client.startTrace descriptor path = .ok after) :
    ∃ files errno traces, after = { client with files, errno, traces } := by
  cases path with
  | none => exact ⟨_, _, _, (Except.ok.inj started).symm⟩
  | some path =>
    simp only [startTrace] at started
    split at started
    · exact ⟨_, _, _, (Except.ok.inj started).symm⟩
    · cases started
    · cases started

theorem startObserving_cases {descriptor : Descriptor} {device : Option DeviceNumber}
    (started : client.startObserving descriptor device = .ok after) :
    (∃ errno configuration, after = { client with errno, configuration }) ∨
      ∃ (known : Configuration) (number : DeviceNumber) (recorded : Client),
        startRecording { client with configuration := some known } descriptor number known.ioctl =
          .ok recorded ∧
        recorded.startTrace descriptor (known.scriptFile? number) = .ok after := by
  obtain ⟨⟨known, configured⟩, read, observed⟩ := Outcome.bind_eq_ok.mp started
  obtain rfl := eq_of_configure read
  dsimp only at observed
  split at observed
  · exact .inl ⟨_, _, (Except.ok.inj observed).symm⟩
  cases device with
  | none => exact .inl ⟨_, _, (Except.ok.inj observed).symm⟩
  | some number =>
    dsimp only at observed
    split at observed
    · exact .inl ⟨_, _, (Except.ok.inj observed).symm⟩
    · obtain ⟨recorded, first, second⟩ := Outcome.bind_eq_ok.mp observed
      exact .inr ⟨known, number, recorded, first, second⟩

theorem eq_of_startObserving {descriptor : Descriptor} {device : Option DeviceNumber}
    (started : client.startObserving descriptor device = .ok after) :
    ∃ files errno traces recording configuration,
      after = { client with files, errno, traces, recording, configuration } := by
  obtain ⟨_, _, rfl⟩ | ⟨known, number, recorded, first, second⟩ := startObserving_cases started
  · exact ⟨_, _, _, _, _, rfl⟩
  · obtain ⟨_, _, _, rfl⟩ := eq_of_startRecording first
    obtain ⟨_, _, _, rfl⟩ := eq_of_startTrace second
    exact ⟨_, _, _, _, _, rfl⟩

theorem opened_cases {descriptor : Descriptor} {path : Option Path} {redirected : Bool}
    {device : Option DeviceNumber}
    (done : client.opened descriptor path redirected device = .ok after) :
    after = client ∨
      (∃ named, (client.forget descriptor).startReplay descriptor named = .ok after) ∨
      (client.forget descriptor).startObserving descriptor device = .ok after := by
  unfold opened at done
  split at done
  · exact .inl (Except.ok.inj done).symm
  split at done
  · cases done
  split at done
  · exact .inr (.inl ⟨_, done⟩)
  · exact .inr (.inr done)

theorem eq_of_opened {descriptor : Descriptor} {path : Option Path} {redirected : Bool}
    {device : Option DeviceNumber}
    (done : client.opened descriptor path redirected device = .ok after) :
    ∃ files errno sockets replays traces recording configuration,
      after =
        { client with files, errno, sockets, replays, traces, recording, configuration } := by
  obtain rfl | ⟨named, replayed⟩ | observed := opened_cases done
  · exact ⟨_, _, _, _, _, _, _, rfl⟩
  · obtain ⟨_, _, rfl⟩ := eq_of_startReplay replayed
    exact ⟨_, _, _, _, _, _, _, rfl⟩
  · obtain ⟨_, _, _, _, _, rfl⟩ := eq_of_startObserving observed
    exact ⟨_, _, _, _, _, _, _, rfl⟩

theorem descriptorOf_eq (client : Client) (stream : Stream) :
    ∃ errno, client.descriptorOf stream = (stream.descriptor, { client with errno }) := by
  unfold descriptorOf
  split <;> exact ⟨_, rfl⟩

theorem trace_eq (client : Client) (descriptor : Descriptor) (kind : Operation) (length : Nat)
    (buffer : Option Bytes) :
    ∃ files traces warnings,
      client.trace descriptor kind length buffer = { client with files, traces, warnings } := by
  unfold trace
  split
  · exact ⟨_, _, _, rfl⟩
  · split <;> exact ⟨_, _, _, rfl⟩

end DeviceTestbed.Client
