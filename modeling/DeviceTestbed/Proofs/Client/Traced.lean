import DeviceTestbed.Client.Run
import DeviceTestbed.Proofs.Client.Entry
import DeviceTestbed.Proofs.Files.Frame

/-!
What one step does to the traces and to the files: it starts a trace, adds an operation to one, or
leaves them alone. Besides, only the open record file is written to.
-/

namespace DeviceTestbed

/-! The record file. -/

namespace Recording

def IsOutput (recording : Recording) (id : NodeId) : Prop :=
  ∃ path, recording.output = some (path, id)

theorem spares_save (recording : Recording) {files : Files} (sound : files.Sound)
    (room : Option Nat) :
    files.Spares (recording.save files room).2 recording.IsOutput := by
  unfold save
  split
  · rename_i path id _ output
    cases truncated : files.truncate id with
    | error fault => exact .refl sound _
    | ok emptied =>
      have emptying := Files.spares_truncate sound truncated
      refine (emptying.trans (Files.spares_append emptying.sound id _)).mono ?_
      rintro _ _ rfl
      exact ⟨path, output⟩
  · exact .refl sound _

theorem spares_close (recording : Recording) {files : Files} (sound : files.Sound)
    (descriptor : Descriptor) (room : Option Nat) :
    files.Spares (recording.close files descriptor room).2.2 recording.IsOutput := by
  unfold close
  split
  · exact recording.spares_save sound room
  · exact .refl sound _

theorem spares_activate {recording after : Recording} {files opened : Files} (sound : files.Sound)
    {descriptor : Descriptor} {target : RecordTarget} {testbed : Bool} {fault : Option Fault}
    (done : recording.activate files descriptor target testbed = (fault, after, opened)) :
    files.Spares opened fun _ => False := by
  have spared {outcome : Except Fault Recording} {started : Recording} {path : Path}
      (reached : started.openOutput files path = (outcome, opened)) :
      files.Spares opened fun _ => False := by
    unfold openOutput at reached
    split at reached
    · obtain ⟨-, rfl⟩ := Prod.mk.inj reached
      exact .refl sound _
    · rename_i written
      obtain ⟨spares, -⟩ := Files.spares_openWrite sound written
      split at reached <;>
      · obtain ⟨-, rfl⟩ := Prod.mk.inj reached
        exact spares
  simp only [activate] at done
  split at done
  · obtain ⟨-, -, rfl⟩ := done
    exact .refl sound _
  split at done
  · obtain ⟨-, -, rfl⟩ := done
    exact .refl sound _
  split at done
  · obtain ⟨-, -, rfl⟩ := done
    exact .refl sound _
  split at done
  all_goals
    rename_i reached
    obtain ⟨-, -, rfl⟩ := done
    exact spared reached

end Recording

theorem DescriptorTable.get?_of_get?_drop {State : Type} {table : DescriptorTable State}
    {descriptor other : Descriptor} {state : State}
    (found : (table.drop descriptor).get? other = some state) : table.get? other = some state := by
  by_cases same : other = descriptor
  · rw [same, get?_drop_self] at found
    contradiction
  · rwa [get?_drop_ne table same] at found

inductive TraceTable.Change (recording : Recording) (clock : Nat) (before : TraceTable)
    (files : Files) (after : TraceTable) (written : Files) (warnings : List Warning) : Prop where
  | kept (spares : files.Spares written recording.IsOutput)
      (traces : ∀ {descriptor trace}, after.get? descriptor = some trace →
        before.get? descriptor = some trace)
  | started (descriptor : Descriptor) (id : NodeId) (spares : files.Spares written (· = id))
      (has : written.Has id) (empty : written.isRegular id = true → written.content id = [])
      (puts : before.Puts after descriptor { recorder := { time := clock }, file := id })
  | moved (descriptor : Descriptor) (trace : Trace) (kind : Operation) (bytes : Bytes)
      (room : Option Nat) (found : before.get? descriptor = some trace)
      (same : written = (trace.record files kind bytes clock room).2.2)
      (puts : before.Puts after descriptor (trace.record files kind bytes clock room).2.1)
      (warned : ∀ fault, (trace.record files kind bytes clock room).1 = some fault →
        .trace descriptor fault ∈ warnings)

namespace Client

def Changes (client after : Client) : Prop :=
  client.traces.Change client.recording client.clock client.files after.traces after.files
    after.warnings

variable {client after : Client} {reply : Reply} {answer : Answer}

theorem change_of_same (sound : client.files.Sound) (files : after.files = client.files)
    (traces : after.traces = client.traces) : client.Changes after :=
  .kept (files ▸ .refl sound _) fun found => traces ▸ found

theorem change_of_removed (sound : client.files.Sound) {path : Path}
    (files : after.files = (client.files.remove path).toOption.getD client.files)
    (traces : after.traces = client.traces) : client.Changes after := by
  cases removed : client.files.remove path with
  | error fault =>
    rw [removed] at files
    exact change_of_same sound files traces
  | ok left =>
    rw [removed] at files
    obtain rfl : after.files = left := files
    exact .kept ((Files.spares_remove sound removed).mono fun _ _ => False.elim)
      fun found => traces ▸ found

theorem change_of_dropped (sound : client.files.Sound) {descriptor : Descriptor}
    (files : after.files = client.files) (traces : after.traces = client.traces.drop descriptor) :
    client.Changes after :=
  .kept (files ▸ .refl sound _) fun found => DescriptorTable.get?_of_get?_drop (traces ▸ found)

theorem change_release {descriptor : Descriptor}
    (released : client.release descriptor = .ok after) (sound : client.files.Sound) :
    client.Changes after := by
  by_cases negative : descriptor < 0
  · rw [release_of_negative negative] at released
    obtain rfl := Except.ok.inj released
    exact change_of_same sound rfl rfl
  · rw [release_of_valid negative] at released
    obtain rfl := Except.ok.inj released
    exact .kept (client.recording.spares_close sound descriptor client.conditions.room)
      DescriptorTable.get?_of_get?_drop

theorem spares_startRecording {descriptor : Descriptor} {device : DeviceNumber}
    {target : Option RecordTarget}
    (started : client.startRecording descriptor device target = .ok after)
    (sound : client.files.Sound) :
    client.files.Spares after.files (fun _ => False) ∧ after.traces = client.traces ∧
      after.clock = client.clock := by
  cases target with
  | none =>
    obtain rfl := Except.ok.inj started
    exact ⟨.refl sound _, rfl, rfl⟩
  | some target =>
    simp only [startRecording] at started
    split at started
    · obtain rfl := Except.ok.inj started
      exact ⟨.refl sound _, rfl, rfl⟩
    · split at started
      · rename_i done
        obtain rfl := Except.ok.inj started
        exact ⟨Recording.spares_activate sound done, rfl, rfl⟩
      · cases started

theorem change_startTrace {ready : Client}
    (files : client.files.Spares ready.files fun _ => False) (clock : ready.clock = client.clock)
    (traces : ∀ {descriptor trace}, ready.traces.get? descriptor = some trace →
      client.traces.get? descriptor = some trace)
    {descriptor : Descriptor} {path : Option Path}
    (started : ready.startTrace descriptor path = .ok after) : client.Changes after := by
  cases path with
  | none =>
    obtain rfl := Except.ok.inj started
    exact .kept (files.mono fun _ _ => False.elim) traces
  | some path =>
    simp only [startTrace, TraceTable.start] at started
    split at started
    · rename_i table written outcome
      obtain rfl := Except.ok.inj started
      split at outcome
      · cases outcome
      · rename_i id created done
        split at outcome
        · cases outcome
        · rename_i restarted
          obtain ⟨same, rfl⟩ := Prod.mk.inj outcome
          obtain rfl := Except.ok.inj same
          obtain ⟨spares, has, empty⟩ := Files.spares_create files.sound done
          rw [clock] at restarted
          have puts := DescriptorTable.puts_restart restarted
          exact .started descriptor id ((files.mono fun _ _ => False.elim).trans spares) has empty
            ⟨puts.own, fun different found => traces (puts.others different found)⟩
    · cases started
    · cases started

theorem change_opened {descriptor : Descriptor} {path : Option Path} {redirected : Bool}
    {device : Option DeviceNumber}
    (done : client.opened descriptor path redirected device = .ok after)
    (sound : client.files.Sound) :
    client.Changes after := by
  obtain rfl | ⟨named, replayed⟩ | observed := opened_cases done
  · exact change_of_same sound rfl rfl
  · obtain ⟨_, _, rfl⟩ := eq_of_startReplay replayed
    exact change_of_dropped sound rfl rfl
  · obtain ⟨_, _, rfl⟩ | ⟨known, number, recorded, first, second⟩ :=
      startObserving_cases observed
    · exact change_of_dropped sound rfl rfl
    · obtain ⟨files, traces, clock⟩ := spares_startRecording first sound
      refine change_startTrace files clock ?_ second
      intro other trace found
      rw [traces] at found
      exact DescriptorTable.get?_of_get?_drop found

theorem change_trace (client : Client) (sound : client.files.Sound) (descriptor : Descriptor)
    (kind : Operation) (length : Nat) (buffer : Option Bytes) :
    client.Changes (client.trace descriptor kind length buffer) := by
  unfold trace
  split
  · exact change_of_same sound rfl rfl
  split
  · exact change_of_same sound rfl rfl
  · simp only [quietly, TraceTable.record]
    split
    · exact change_of_same sound rfl rfl
    · rename_i trace found
      refine .moved descriptor trace kind _ _ found rfl (DescriptorTable.puts_modify found) ?_
      intro fault failed
      simp [warning, failed]

theorem change_traceStream (client : Client) (sound : client.files.Sound) (stream : Option Stream)
    (kind : Operation) (result : Int) (length : Nat) (buffer : Option Bytes) :
    client.Changes (client.traceStream stream kind result length buffer) := by
  cases stream with
  | none => exact change_of_same sound rfl rfl
  | some stream =>
    obtain ⟨errno, described⟩ := client.descriptorOf_eq stream
    simp only [traceStream, described]
    split
    · exact change_of_same sound rfl rfl
    · exact change_trace { client with errno } sound _ _ _ _

theorem onPath_openFile (client : Client) (wide : Bool) (flags : Int) (mode : Nat)
    (path : Option Path) (reply : Reply) :
    (∃ answer, client.onPath (.openFile wide flags mode) path reply =
        .ok (answer, { client with errno := nameTooLong })) ∨
      ∃ call redirected, client.onPath (.openFile wide flags mode) path reply =
        ((client.callReal call reply).quietlyTry fun client =>
          client.opened reply.result path redirected reply.device) >>= fun after =>
            pure ({ result := reply.result }, after) := by
  have same (outcome : Except Redirection.TooLong (Option Path))
      (redirected : (client.redirect path).1 = outcome) :
      client.redirect path = (outcome, client) :=
    Prod.ext redirected (client.redirect_snd path)
  cases redirected : (client.redirect path).1 with
  | error fault =>
    rw [onPath, same _ redirected]
    exact .inl ⟨_, rfl⟩
  | ok shadow =>
    rw [onPath, same _ redirected]
    exact .inr ⟨_, _, rfl⟩

theorem change_onPath (sound : client.files.Sound) {function : PathFunction} {path : Option Path}
    (done : client.onPath function path reply = .ok (answer, after)) : client.Changes after := by
  by_cases isOpen : ∃ wide flags mode, function = .openFile wide flags mode
  · obtain ⟨wide, flags, mode, rfl⟩ := isOpen
    obtain ⟨_, same⟩ | ⟨_, _, same⟩ := client.onPath_openFile wide flags mode path reply
    · obtain ⟨-, rfl⟩ := Prod.mk.inj (Except.ok.inj (done.symm.trans same))
      exact change_of_same sound rfl rfl
    · rw [same] at done
      obtain ⟨worked, work, -, rfl⟩ := quietlyTry_bind_eq_ok done
      exact (change_opened work sound :)
  · have notOpen (wide : Bool) (flags : Int) (mode : Nat) : function ≠ .openFile wide flags mode :=
      fun same => isOpen ⟨wide, flags, mode, same⟩
    obtain ⟨given, errno, calls, same⟩ := onPath_of_not_open notOpen client path reply
    obtain ⟨-, rfl⟩ := Prod.mk.inj (Except.ok.inj (done.symm.trans same))
    exact change_of_same sound rfl rfl

theorem change_close (sound : client.files.Sound) {descriptor : Descriptor}
    (done : client.close descriptor reply = .ok (answer, after)) : client.Changes after := by
  obtain ⟨worked, work, -, rfl⟩ := quietlyTry_bind_eq_ok done
  exact (change_release work sound :)

theorem change_closeStream (sound : client.files.Sound) {stream : Option Stream}
    (done : client.closeStream stream reply = .ok (answer, after)) : client.Changes after := by
  cases stream with
  | none =>
    obtain ⟨-, rfl⟩ := Prod.mk.inj (Except.ok.inj done)
    exact change_of_same sound rfl rfl
  | some stream =>
    obtain ⟨errno, described⟩ := client.descriptorOf_eq stream
    simp only [closeStream, described] at done
    obtain ⟨worked, work, -, rfl⟩ := quietlyTry_bind_eq_ok done
    exact (change_release work sound :)

theorem change_socket (sound : client.files.Sound) {domain type protocol : Int}
    (done : client.socket domain type protocol reply = .ok (answer, after)) :
    client.Changes after := by
  unfold socket at done
  dsimp only at done
  split at done
  · obtain ⟨-, rfl⟩ := Prod.mk.inj (Except.ok.inj done)
    exact change_of_same sound rfl rfl
  · obtain ⟨worked, work, -, rfl⟩ := quietlyTry_bind_eq_ok done
    split at work
    · split at work
      · obtain rfl := Except.ok.inj work
        exact change_of_dropped sound rfl rfl
      · cases work
    · obtain rfl := Except.ok.inj work
      exact change_of_dropped sound rfl rfl

theorem change_bind (sound : client.files.Sound) (descriptor : Descriptor)
    (address : Option Bytes) : client.Changes (client.bind descriptor address reply).2 := by
  obtain ⟨_, -, -, -, bound⟩ | ⟨_, _, -, -, -, bound⟩ | ⟨-, bound⟩ :=
    client.bind_cases descriptor address reply
  · rw [bound]
    exact change_of_same sound rfl rfl
  · rw [bound]
    exact change_of_removed sound rfl rfl
  · rw [bound]
    exact change_of_same sound rfl rfl

theorem change_ioctl (sound : client.files.Sound) (descriptor : Descriptor) (request : Request)
    (argument : Argument) :
    client.Changes (client.ioctl descriptor request argument reply).2 := by
  unfold ioctl
  split
  · exact change_of_same sound rfl rfl
  · dsimp only
    split <;> exact change_of_same sound rfl rfl

theorem change_perform (sound : client.files.Sound) {call : Call}
    (done : client.perform reply call = .ok (answer, after)) : client.Changes after := by
  cases call with
  | onPath function path => exact change_onPath sound done
  | close descriptor => exact change_close sound done
  | closeStream stream => exact change_closeStream sound done
  | socket domain type protocol => exact change_socket sound done
  | read descriptor buffer count =>
    obtain ⟨-, rfl⟩ := Prod.mk.inj (Except.ok.inj done)
    exact change_trace (client.callReal (.read descriptor buffer count) reply) sound _ _ _ _
  | write descriptor buffer count =>
    obtain ⟨-, rfl⟩ := Prod.mk.inj (Except.ok.inj done)
    exact change_trace (client.callReal (.write descriptor buffer count) reply) sound _ _ _ _
  | readStream stream buffer size count =>
    obtain ⟨-, rfl⟩ := Prod.mk.inj (Except.ok.inj done)
    exact change_traceStream (client.callReal (.readStream stream buffer size count) reply) sound
      _ _ _ _ _
  | writeStream stream buffer size count =>
    obtain ⟨-, rfl⟩ := Prod.mk.inj (Except.ok.inj done)
    exact change_traceStream (client.callReal (.writeStream stream buffer size count) reply) sound
      _ _ _ _ _
  | readLine stream buffer size =>
    obtain ⟨-, rfl⟩ := Prod.mk.inj (Except.ok.inj done)
    exact change_traceStream (client.callReal (.readLine stream buffer size) reply) sound
      _ _ _ _ _
  | bind descriptor address =>
    obtain ⟨-, rfl⟩ := Prod.mk.inj (Except.ok.inj done)
    exact change_bind sound descriptor address
  | receive descriptor message flags =>
    obtain ⟨-, rfl⟩ := Prod.mk.inj (Except.ok.inj done)
    exact change_of_same sound rfl rfl
  | ioctl descriptor request argument =>
    obtain ⟨-, rfl⟩ := Prod.mk.inj (Except.ok.inj done)
    exact change_ioctl sound descriptor request argument

theorem change_step (sound : client.files.Sound) {event : Event} {given : Option Answer}
    (done : client.step event = .ok (given, after)) :
    client.Changes after ∨ ∃ fixture, event = .install fixture ∧
      after = { client with files := client.files.install fixture } := by
  cases event with
  | setVariable name value =>
    obtain ⟨-, rfl⟩ := Prod.mk.inj (Except.ok.inj done)
    cases value <;> exact .inl (change_of_same sound rfl rfl)
  | setClock time =>
    obtain ⟨-, rfl⟩ := Prod.mk.inj (Except.ok.inj done)
    exact .inl (change_of_same sound rfl rfl)
  | install fixture =>
    obtain ⟨-, rfl⟩ := Prod.mk.inj (Except.ok.inj done)
    exact .inr ⟨fixture, rfl, rfl⟩
  | remove path =>
    obtain ⟨-, rfl⟩ := Prod.mk.inj (Except.ok.inj done)
    exact .inl (change_of_removed sound rfl rfl)
  | call errno call reply =>
    obtain ⟨⟨answer, reached⟩, performed, last⟩ := Outcome.bind_eq_ok.mp done
    obtain ⟨-, rfl⟩ := Prod.mk.inj (Except.ok.inj last)
    have called : (client.entering errno reply.conditions).Changes reached :=
      change_perform sound performed
    exact .inl called

/-! Steps that end the program. -/

def LeavesOrEmpties (files last : Files) : Prop :=
  files.Spares last fun id => last.isRegular id = true → last.content id = []

theorem halted_startRecording {descriptor : Descriptor} {device : DeviceNumber}
    {target : Option RecordTarget} {halt : Halt}
    (failed : client.startRecording descriptor device target = .error halt)
    (sound : client.files.Sound) : LeavesOrEmpties client.files halt.files := by
  cases target with
  | none => cases failed
  | some target =>
    simp only [startRecording] at failed
    split at failed
    · cases failed
    · split at failed
      · cases failed
      · rename_i done
        obtain rfl := Except.error.inj failed
        exact (Recording.spares_activate sound done).mono fun _ _ => False.elim

theorem halted_startTrace {descriptor : Descriptor} {path : Option Path} {halt : Halt}
    (failed : client.startTrace descriptor path = .error halt) (sound : client.files.Sound) :
    LeavesOrEmpties client.files halt.files := by
  cases path with
  | none => cases failed
  | some path =>
    simp only [startTrace, TraceTable.start] at failed
    split at failed
    · cases failed
    all_goals
      rename_i outcome
      obtain rfl := Except.error.inj failed
      split at outcome
      · obtain ⟨-, rfl⟩ := Prod.mk.inj outcome
        exact .refl sound _
      · rename_i created
        obtain ⟨spares, -, empty⟩ := Files.spares_create sound created
        split at outcome
        · obtain ⟨-, rfl⟩ := Prod.mk.inj outcome
          refine spares.mono ?_
          rintro _ _ rfl
          exact empty
        · cases outcome

theorem halted_opened {descriptor : Descriptor} {path : Option Path} {redirected : Bool}
    {device : Option DeviceNumber} {halt : Halt}
    (failed : client.opened descriptor path redirected device = .error halt)
    (sound : client.files.Sound) : LeavesOrEmpties client.files halt.files := by
  unfold opened at failed
  split at failed
  · cases failed
  split at failed
  · obtain rfl := Except.error.inj failed
    exact .refl sound _
  split at failed
  · unfold startReplay at failed
    split at failed
    · cases failed
    split at failed
    · cases failed
    split at failed
    · cases failed
    all_goals
      obtain rfl := Except.error.inj failed
      exact .refl sound _
  · rcases Outcome.bind_eq_error.mp failed with unread | ⟨⟨known, configured⟩, read, observed⟩
    · unfold configure at unread
      split at unread
      · cases unread
      · split at unread
        · obtain rfl := Except.error.inj unread
          exact .refl sound _
        · cases unread
    obtain rfl := eq_of_configure read
    dsimp only at observed
    split at observed
    · cases observed
    cases device with
    | none => cases observed
    | some device =>
      dsimp only at observed
      split at observed
      · cases observed
      rcases Outcome.bind_eq_error.mp observed with first | ⟨recorded, first, second⟩
      · exact (halted_startRecording first sound :)
      · obtain ⟨spares, -, -⟩ := spares_startRecording first sound
        exact (spares.mono fun _ _ => False.elim).trans (halted_startTrace second spares.sound)

theorem halted_onPath (sound : client.files.Sound) {function : PathFunction} {path : Option Path}
    {halt : Halt} (failed : client.onPath function path reply = .error halt) :
    LeavesOrEmpties client.files halt.files := by
  by_cases isOpen : ∃ wide flags mode, function = .openFile wide flags mode
  · obtain ⟨wide, flags, mode, rfl⟩ := isOpen
    obtain ⟨_, same⟩ | ⟨_, _, same⟩ := client.onPath_openFile wide flags mode path reply
    · cases failed.symm.trans same
    · rw [same] at failed
      exact (halted_opened (quietlyTry_bind_eq_error failed) sound :)
  · have notOpen (wide : Bool) (flags : Int) (mode : Nat) : function ≠ .openFile wide flags mode :=
      fun same => isOpen ⟨wide, flags, mode, same⟩
    obtain ⟨given, errno, calls, same⟩ := onPath_of_not_open notOpen client path reply
    cases failed.symm.trans same

theorem halted_socket (sound : client.files.Sound) {domain type protocol : Int} {halt : Halt}
    (failed : client.socket domain type protocol reply = .error halt) :
    LeavesOrEmpties client.files halt.files := by
  unfold socket at failed
  dsimp only at failed
  split at failed
  · cases failed
  have work := quietlyTry_bind_eq_error failed
  split at work
  · split at work
    · cases work
    · obtain rfl := Except.error.inj work
      exact .refl sound _
  · cases work

theorem halted_perform {call : Call} {halt : Halt}
    (failed : client.perform reply call = .error halt) (sound : client.files.Sound) :
    LeavesOrEmpties client.files halt.files := by
  cases call with
  | onPath function path => exact halted_onPath sound failed
  | close descriptor =>
    obtain ⟨released, done⟩ := client.exists_release descriptor
    cases done.symm.trans (quietlyTry_bind_eq_error failed)
  | closeStream stream =>
    cases stream with
    | none => cases failed
    | some stream =>
      obtain ⟨released, done⟩ := exists_release _ stream.descriptor
      cases done.symm.trans (quietlyTry_bind_eq_error failed)
  | socket domain type protocol => exact halted_socket sound failed
  | _ => cases failed

theorem halted_step (sound : client.files.Sound) {event : Event} {halt : Halt}
    (failed : client.step event = .error halt) : LeavesOrEmpties client.files halt.files := by
  cases event with
  | call errno call reply =>
    rcases Outcome.bind_eq_error.mp failed with performed | ⟨answered, -, last⟩
    · exact (halted_perform performed sound :)
    · cases last
  | _ => cases failed

end Client

end DeviceTestbed
