import DeviceTestbed.Proofs.Client.Forwarding

/-!
A library that nothing is asked of: a program makes the same calls and gets the same answers as it
would without the library, and nothing is kept about its descriptors.
-/

namespace DeviceTestbed

/-! The program without the library. -/

/-- What a program gets back if nothing stands between it and the real function. -/
def Call.answer (reply : Reply) : Call → Answer
  | .onPath function _ => { result := reply.result, output := function.filled reply }
  | .read _ buffer _ => { result := reply.result, output := .buffer (reply.fill buffer) }
  | .readStream _ buffer _ _ => { result := reply.result, output := .buffer (reply.fill buffer) }
  | .readLine _ buffer _ => { result := reply.result, output := .buffer (reply.fill buffer) }
  | .receive _ message _ =>
    { result := reply.result
      output := .message (message.map fun message => message.receive reply) }
  | .ioctl _ _ argument =>
    { result := reply.result, output := .argument (argument.store reply.data) }
  | _ => { result := reply.result }

structure Program where
  files : Files
  environment : Environment := {}
  clock : Nat := 0
  calls : List Call := []

namespace Program

def step (program : Program) : Event → Option Answer × Program
  | .setVariable name none =>
    (none, { program with environment := program.environment.erase name })
  | .setVariable name (some value) =>
    (none, { program with environment := program.environment.insert name value })
  | .setClock time => (none, { program with clock := time })
  | .install fixture => (none, { program with files := program.files.install fixture })
  | .remove path =>
    (none, { program with files := (program.files.remove path).toOption.getD program.files })
  | .call _ call reply => (some (call.answer reply), { program with calls := [call] })

def run (program : Program) : List Event → Program
  | [] => program
  | event :: rest => (program.step event).2.run rest

end Program

def Client.program (client : Client) : Program where
  files := client.files
  environment := client.environment
  clock := client.clock
  calls := client.calls

structure Environment.AsksNothing (environment : Environment) : Prop where
  testbed : ∀ root, environment.get? "DEVBED_DIR" = some root → root = []
  ioctl : ∀ value, environment.get? Configuration.ioctlDevice = some value →
    Configuration.parseDevice Configuration.ioctlDevice value = .ok 0
  scripts : environment.get? (Configuration.scriptDevice 0) = none

namespace Environment.AsksNothing

variable {environment : Environment}

theorem testbed?_eq_none (asksNothing : environment.AsksNothing) : environment.testbed? = none := by
  unfold testbed?
  cases set : environment.get? "DEVBED_DIR" with
  | none => rfl
  | some root =>
    obtain rfl := asksNothing.testbed root set
    rfl

theorem read_eq (asksNothing : environment.AsksNothing) :
    Configuration.read environment = .ok {} := by
  have noTarget : Configuration.readIoctl environment = .ok none := by
    unfold Configuration.readIoctl
    split
    · rfl
    · rename_i value set
      rw [asksNothing.ioctl value set]
      rfl
  have noScripts : Configuration.scriptIndices environment = [] := by
    have absent : environment.contains (Configuration.scriptDevice 0) = false :=
      congrArg Option.isSome asksNothing.scripts
    unfold Configuration.scriptIndices
    cases environment.size with
    | zero => rfl
    | succ size => rw [List.range_succ_eq_map, List.takeWhile_cons_of_neg (by simp [absent])]
  rw [Configuration.read, noTarget, noScripts]
  rfl

end Environment.AsksNothing

namespace Client

structure IsIdle (client : Client) : Prop where
  sockets : client.sockets.isEmpty = true
  replays : client.replays.isEmpty = true
  traces : client.traces.isEmpty = true
  recording : client.recording = {}
  configuration : ∀ known, client.configuration = some known → known.isEmpty = true

theorem isIdle_start (files : Files) (environment : Environment) (clock : Nat) (errno : Int) :
    IsIdle { files, environment, clock, errno } :=
  ⟨rfl, rfl, rfl, rfl, nofun⟩

/-- The call went to the real function as it was, and of the client no more has changed than its
error number and what it has read of the environment. -/
def PassesOn (client : Client) (call : Call) (reply : Reply)
    (outcome : Except Halt (Answer × Client)) : Prop :=
  ∃ errno configuration,
    outcome = .ok (call.answer reply,
      { client with errno, configuration, calls := client.calls ++ [call] }) ∧
    ∀ known, configuration = some known → known.isEmpty = true

variable {client : Client} {reply : Reply}

namespace IsIdle

theorem with_errno_calls (idle : client.IsIdle) (errno : Int) (calls : List Call) :
    IsIdle { client with errno, calls } :=
  ⟨idle.sockets, idle.replays, idle.traces, idle.recording, idle.configuration⟩

theorem entering (idle : client.IsIdle) (errno : Int) (conditions : Conditions) :
    (client.entering errno conditions).IsIdle :=
  ⟨idle.sockets, idle.replays, idle.traces, idle.recording, idle.configuration⟩

theorem forget_eq (idle : client.IsIdle) (descriptor : Descriptor) :
    client.forget descriptor = client.noting none := by
  rw [forget, DescriptorTable.drop_of_isEmpty idle.sockets,
    DescriptorTable.drop_of_isEmpty idle.replays, DescriptorTable.drop_of_isEmpty idle.traces]
  rfl

theorem release_eq (idle : client.IsIdle) (descriptor : Descriptor) :
    ∃ errno, client.release descriptor = .ok { client with errno } := by
  by_cases negative : descriptor < 0
  · exact ⟨_, release_of_negative negative⟩
  · have closed : client.recording.close client.files descriptor client.conditions.room =
        (.ok false, client.recording, client.files) := by
      rw [idle.recording]
      rfl
    refine ⟨client.errnoAfter none, ?_⟩
    simp only [release_of_valid negative, idle.forget_eq, closed, Warning.ofClosed, warning,
      Option.bind_none, Option.toList_none, List.append_nil]
    rfl

theorem trace_eq (idle : client.IsIdle) (descriptor : Descriptor) (kind : Operation)
    (length : Nat) (buffer : Option Bytes) :
    client.trace descriptor kind length buffer = client := by
  cases buffer with
  | none => rfl
  | some buffer =>
    have untraced := DescriptorTable.contains_of_isEmpty idle.traces descriptor
    exact if_pos (.inr (.inr untraced))

theorem traceStream_eq (idle : client.IsIdle) (stream : Option Stream) (kind : Operation)
    (result : Int) (length : Nat) (buffer : Option Bytes) :
    ∃ errno, client.traceStream stream kind result length buffer = { client with errno } := by
  cases stream with
  | none => exact ⟨_, rfl⟩
  | some stream =>
    obtain ⟨errno, described⟩ := client.descriptorOf_eq stream
    simp only [traceStream, described]
    split
    · exact ⟨_, rfl⟩
    · exact ⟨errno, (idle.with_errno_calls errno client.calls).trace_eq _ _ _ _⟩

theorem configure_eq (idle : client.IsIdle) (asksNothing : client.environment.AsksNothing) :
    ∃ known, client.configure = .ok (known, { client with configuration := some known }) ∧
      known.isEmpty = true := by
  unfold configure
  split
  · rename_i known read
    exact ⟨known, by rw [← read], idle.configuration known read⟩
  · rw [asksNothing.read_eq]
    exact ⟨{}, rfl, rfl⟩

theorem opened_eq (idle : client.IsIdle) (asksNothing : client.environment.AsksNothing)
    {descriptor : Descriptor} {path : Option Path} (named : path = none → descriptor < 0)
    (device : Option DeviceNumber) :
    ∃ errno configuration,
      client.opened descriptor path false device = .ok { client with errno, configuration } ∧
      ∀ known, configuration = some known → known.isEmpty = true := by
  by_cases negative : descriptor < 0
  · exact ⟨client.errno, client.configuration, if_pos negative, idle.configuration⟩
  · cases path with
    | none => exact absurd (named rfl) negative
    | some path =>
      have stillIdle : (client.noting none).IsIdle := idle.with_errno_calls _ client.calls
      obtain ⟨known, configured, empty⟩ := stillIdle.configure_eq asksNothing
      refine ⟨client.errnoAfter none, some known, ?_, fun _ same => Option.some.inj same ▸ empty⟩
      simp only [opened, if_neg negative, idle.forget_eq, startObserving, configured]
      exact if_pos empty

end IsIdle

theorem redirect_of_noTestbed (noTestbed : client.testbed? = none) (path : Option Path) :
    client.redirect path = (.ok none, client) := by
  cases path with
  | none => rfl
  | some path => rw [redirect_eq, noTestbed, Redirection.shadow]

theorem IsIdle.passesOn (idle : client.IsIdle) {call : Call}
    {outcome : Except Halt (Answer × Client)} (errno : Int)
    (done : outcome =
      .ok (call.answer reply, { client with errno, calls := client.calls ++ [call] })) :
    client.PassesOn call reply outcome :=
  ⟨errno, client.configuration, done, idle.configuration⟩

/-! The entry points. -/

theorem passesOn_openFile (idle : client.IsIdle) (asksNothing : client.environment.AsksNothing)
    (wide : Bool) (flags : Int) (mode : Nat) {path : Option Path}
    (refused : path = none → reply.result < 0) :
    client.PassesOn (.onPath (.openFile wide flags mode) path) reply
      (client.onPath (.openFile wide flags mode) path reply) := by
  let called := client.callReal (.onPath (.openFile wide flags mode) path) reply
  obtain ⟨_, configuration, done, empty⟩ :=
    (idle.with_errno_calls called.errno called.calls).opened_eq asksNothing refused reply.device
  refine ⟨called.errno, configuration, ?_, empty⟩
  rw [onPath, redirect_of_noTestbed asksNothing.testbed?_eq_none]
  exact Outcome.bind_eq_ok.mpr ⟨_, congrArg (Except.map _) done, rfl⟩

theorem passesOn_status (idle : client.IsIdle) (asksNothing : client.environment.AsksNothing)
    (function : StatusFunction) (buffer : Bool) (path : Option Path) :
    client.PassesOn (.onPath (.status function buffer) path) reply
      (client.onPath (.status function buffer) path reply) := by
  let called := client.callReal (.onPath (.status function buffer) path) reply
  have unchanged : called.statusOf path none buffer reply =
      (if buffer then reply.status else {}, called) := by
    unfold statusOf
    cases buffer <;> cases path <;> simp
  refine idle.passesOn (reply.errnoAfter client.errno) ?_
  rw [onPath, redirect_of_noTestbed asksNothing.testbed?_eq_none]
  let answered (given : FileStatus × Client) : Except Halt (Answer × Client) :=
    .ok ({ result := reply.result, output := .status given.1 }, given.2)
  exact congrArg answered unchanged

theorem passesOn_onPath (idle : client.IsIdle) (asksNothing : client.environment.AsksNothing)
    {function : PathFunction} {path : Option Path}
    (refused : ∀ wide flags mode, function = .openFile wide flags mode → path = none →
      reply.result < 0) :
    client.PassesOn (.onPath function path) reply (client.onPath function path reply) := by
  cases function with
  | openFile wide flags mode =>
    exact passesOn_openFile idle asksNothing wide flags mode (refused wide flags mode rfl)
  | status function buffer => exact passesOn_status idle asksNothing function buffer path
  | _ =>
    refine idle.passesOn (reply.errnoAfter client.errno) ?_
    rw [onPath, redirect_of_noTestbed asksNothing.testbed?_eq_none]
    rfl

theorem passesOn_close (idle : client.IsIdle) (descriptor : Descriptor) :
    client.PassesOn (.close descriptor) reply (client.close descriptor reply) := by
  obtain ⟨_, released⟩ := idle.release_eq descriptor
  refine idle.passesOn (reply.errnoAfter client.errno) ?_
  rw [close, quietlyTry, released]
  rfl

theorem passesOn_closeStream (idle : client.IsIdle) (stream : Option Stream) :
    client.PassesOn (.closeStream stream) reply (client.closeStream stream reply) := by
  cases stream with
  | none => exact ⟨_, _, rfl, idle.configuration⟩
  | some stream =>
    obtain ⟨errno, described⟩ := client.descriptorOf_eq stream
    let asked : Client := { client with errno }
    have stillIdle : asked.IsIdle := idle.with_errno_calls errno client.calls
    obtain ⟨_, released⟩ := stillIdle.release_eq stream.descriptor
    refine idle.passesOn (reply.errnoAfter errno) ?_
    simp only [closeStream, described]
    rw [quietlyTry, released]
    rfl

theorem passesOn_trace (idle : client.IsIdle) {call : Call} {output : Output}
    (answer : call.answer reply = { result := reply.result, output }) (descriptor : Descriptor)
    (kind : Operation) (length : Nat) (buffer : Option Bytes) :
    client.PassesOn call reply
      (.ok ({ result := reply.result, output },
        (client.callReal call reply).trace descriptor kind length buffer)) := by
  let called := client.callReal call reply
  have stillIdle : called.IsIdle := idle.with_errno_calls _ _
  refine idle.passesOn (reply.errnoAfter client.errno) ?_
  rw [stillIdle.trace_eq, answer]
  rfl

theorem passesOn_traceStream (idle : client.IsIdle) {call : Call} {output : Output}
    (answer : call.answer reply = { result := reply.result, output }) (stream : Option Stream)
    (kind : Operation) (length : Nat) (buffer : Option Bytes) :
    client.PassesOn call reply
      (.ok ({ result := reply.result, output },
        (client.callReal call reply).traceStream stream kind reply.result length buffer)) := by
  let called := client.callReal call reply
  have stillIdle : called.IsIdle := idle.with_errno_calls _ _
  obtain ⟨errno, same⟩ := stillIdle.traceStream_eq stream kind reply.result length buffer
  refine idle.passesOn errno ?_
  rw [same, answer]
  rfl

theorem passesOn_socket (idle : client.IsIdle) {domain protocol : Int} (type : Int)
    (noListener : Uevent.isListener domain protocol = false) :
    client.PassesOn (.socket domain type protocol) reply
      (client.socket domain type protocol reply) := by
  let called := client.callReal (.socket domain type protocol) reply
  have stillIdle : called.IsIdle := idle.with_errno_calls _ _
  refine idle.passesOn (reply.errnoAfter client.errno) ?_
  simp only [socket, noListener, Bool.false_eq_true, ↓reduceIte]
  split
  · rfl
  · have done : called.quietlyTry (fun client => .ok (client.forget reply.result)) =
        .ok called := by
      rw [quietlyTry, stillIdle.forget_eq]
      rfl
    exact Outcome.bind_eq_ok.mpr ⟨called, done, rfl⟩

theorem passesOn_bind (idle : client.IsIdle) (descriptor : Descriptor) (address : Option Bytes) :
    client.PassesOn (.bind descriptor address) reply
      (.ok (client.bind descriptor address reply)) := by
  refine idle.passesOn (reply.errnoAfter client.errno) ?_
  rw [bind, DescriptorTable.get?_of_isEmpty idle.sockets descriptor]
  rfl

theorem passesOn_receive (idle : client.IsIdle) (descriptor : Descriptor)
    (message : Option Uevent.Message) (flags : Int) :
    client.PassesOn (.receive descriptor message flags) reply
      (.ok (client.receive descriptor message flags reply)) := by
  have untracked := DescriptorTable.contains_of_isEmpty idle.sockets descriptor
  refine idle.passesOn (reply.errnoAfter client.errno) ?_
  simp only [receive, callReal, untracked, Bool.false_eq_true, and_false, ↓reduceIte]
  rfl

theorem passesOn_ioctl (idle : client.IsIdle) (descriptor : Descriptor) (request : Request)
    (argument : Argument) :
    client.PassesOn (.ioctl descriptor request argument) reply
      (.ok (client.ioctl descriptor request argument reply)) := by
  have unanswered : client.replays.respond descriptor request argument =
      (none, client.replays) := by
    rw [ReplayTable.respond, DescriptorTable.get?_of_isEmpty idle.replays]
  have unrecorded (after : Argument) (result : Int32) :
      client.recording.record descriptor request after result = client.recording := by
    rw [idle.recording]
    rfl
  refine idle.passesOn (reply.errnoAfter client.errno) ?_
  simp only [ioctl, unanswered, quietly, callReal, noting, unrecorded, ite_self]
  rfl

theorem passesOn_perform (idle : client.IsIdle) (asksNothing : client.environment.AsksNothing)
    {call : Call}
    (noListener : ∀ domain type protocol, call = .socket domain type protocol →
      ¬ (domain = Uevent.netlinkFamily ∧ protocol = Uevent.eventProtocol))
    (refused : ∀ wide flags mode, call = .onPath (.openFile wide flags mode) none →
      reply.result < 0) :
    client.PassesOn call reply (client.perform reply call) := by
  cases call with
  | onPath function path =>
    refine passesOn_onPath idle asksNothing ?_
    rintro wide flags mode rfl rfl
    exact refused wide flags mode rfl
  | close descriptor => exact passesOn_close idle descriptor
  | closeStream stream => exact passesOn_closeStream idle stream
  | read descriptor buffer count => exact passesOn_trace idle rfl _ _ _ _
  | write descriptor buffer count => exact passesOn_trace idle rfl _ _ _ _
  | readStream stream buffer size count => exact passesOn_traceStream idle rfl _ _ _ _
  | writeStream stream buffer size count => exact passesOn_traceStream idle rfl _ _ _ _
  | readLine stream buffer size => exact passesOn_traceStream idle rfl _ _ _ _
  | socket domain type protocol =>
    refine passesOn_socket idle type ?_
    simpa [Uevent.isListener] using noListener domain type protocol rfl
  | bind descriptor address => exact passesOn_bind idle descriptor address
  | receive descriptor message flags => exact passesOn_receive idle descriptor message flags
  | ioctl descriptor request argument => exact passesOn_ioctl idle descriptor request argument

/-! Steps and runs. -/

def Mirrors (outcome : Except Halt (Option Answer × Client)) (plain : Option Answer × Program) :
    Prop :=
  ∃ after, outcome = .ok (plain.1, after) ∧ after.program = plain.2 ∧ after.IsIdle

theorem PassesOn.mirrors {outcome : Except Halt (Answer × Client)} {call : Call} {errno : Int}
    {conditions : Conditions}
    (passesOn : (client.entering errno conditions).PassesOn call reply outcome)
    (idle : client.IsIdle) :
    Mirrors (outcome >>= fun (answer, after) => pure (some answer, after))
      (some (call.answer reply), { client.program with calls := [call] }) := by
  obtain ⟨left, configuration, rfl, empty⟩ := passesOn
  exact ⟨_, rfl, rfl, idle.sockets, idle.replays, idle.traces, idle.recording, empty⟩

end Client

def Event.AsksListener : Event → Prop
  | .call _ (.socket domain _ protocol) _ =>
    domain = Uevent.netlinkFamily ∧ protocol = Uevent.eventProtocol
  | _ => False

/-- A file gets opened without a path. The real functions refuse that. -/
def Event.OpensUnnamed : Event → Prop
  | .call _ (.onPath (.openFile _ _ _) none) reply => 0 ≤ reply.result
  | _ => False

namespace Client

variable {client : Client}

theorem mirrors_step (idle : client.IsIdle) (asksNothing : client.environment.AsksNothing)
    {event : Event} (noListener : ¬ event.AsksListener) (named : ¬ event.OpensUnnamed) :
    Mirrors (client.step event) (client.program.step event) := by
  have stillIdle (files : Files) (environment : Environment) (clock : Nat) :
      IsIdle { client with files, environment, clock } :=
    ⟨idle.sockets, idle.replays, idle.traces, idle.recording, idle.configuration⟩
  cases event with
  | setVariable name value => cases value <;> exact ⟨_, rfl, rfl, stillIdle _ _ _⟩
  | setClock time => exact ⟨_, rfl, rfl, stillIdle _ _ _⟩
  | install fixture => exact ⟨_, rfl, rfl, stillIdle _ _ _⟩
  | remove path => exact ⟨_, rfl, rfl, stillIdle _ _ _⟩
  | call errno call reply =>
    have passesOn : (client.entering errno reply.conditions).PassesOn call reply
        ((client.entering errno reply.conditions).perform reply call) := by
      refine passesOn_perform (idle.entering errno reply.conditions) asksNothing ?_ ?_
      · rintro domain type protocol rfl
        exact noListener
      · rintro wide flags mode rfl
        exact Int.not_le.mp named
    exact passesOn.mirrors idle

theorem mirrors_run {start : Client} (idle : start.IsIdle) {events : List Event}
    (asksNothing : ∀ count,
      (start.program.run (events.take count)).environment.AsksNothing)
    (noListener : ∀ event ∈ events, ¬ event.AsksListener)
    (named : ∀ event ∈ events, ¬ event.OpensUnnamed) :
    ∃ client, start.run events = .ok client ∧ client.program = start.program.run events ∧
      client.IsIdle := by
  induction events generalizing start with
  | nil => exact ⟨start, rfl, rfl, idle⟩
  | cons event rest ih =>
    obtain ⟨next, done, same, stillIdle⟩ := mirrors_step idle (asksNothing 0)
      (noListener event List.mem_cons_self) (named event List.mem_cons_self)
    have later (count : Nat) :
        (next.program.run (rest.take count)).environment.AsksNothing := by
      rw [same]
      exact asksNothing (count + 1)
    obtain ⟨last, ran, mirrored, lastIdle⟩ := ih stillIdle later
      (fun event among => noListener event (List.mem_cons_of_mem _ among))
      (fun event among => named event (List.mem_cons_of_mem _ among))
    rw [same] at mirrored
    exact ⟨last, Outcome.bind_eq_ok.mpr ⟨_, done, ran⟩, mirrored, lastIdle⟩

end Client

/-- A program that asks nothing of the library runs as it would run without it: it is never ended,
every call goes to the real function as it is, with the result and the buffers as they are left
there, no file is touched, and nothing is kept about any descriptor. -/
theorem transparent_when_unasked {start : Client} (idle : start.IsIdle) {events : List Event}
    (asksNothing : ∀ count,
      (start.program.run (events.take count)).environment.AsksNothing)
    (noListener : ∀ event ∈ events, ¬ event.AsksListener)
    (named : ∀ event ∈ events, ¬ event.OpensUnnamed) (count : Nat) :
    ∃ client, start.run (events.take count) = .ok client ∧ client.IsIdle ∧
      client.program = start.program.run (events.take count) ∧
      ∀ event, events[count]? = some event →
        ∃ after, client.step event = .ok ((client.program.step event).1, after) ∧
          after.program = (client.program.step event).2 ∧ after.IsIdle := by
  have part (earlier : Nat) :
      (events.take count).take earlier = events.take (min earlier count) :=
    List.take_take
  have stillAsksNothing (earlier : Nat) :
      (start.program.run ((events.take count).take earlier)).environment.AsksNothing :=
    part earlier ▸ asksNothing _
  obtain ⟨client, ran, same, stillIdle⟩ := Client.mirrors_run idle stillAsksNothing
    (fun event among => noListener event (List.mem_of_mem_take among))
    (fun event among => named event (List.mem_of_mem_take among))
  refine ⟨client, ran, stillIdle, same, ?_⟩
  intro event next
  have among : event ∈ events := List.mem_of_getElem? next
  have unasked : client.program.environment.AsksNothing := same ▸ asksNothing count
  exact Client.mirrors_step stillIdle unasked (noListener event among) (named event among)

theorem transparent_when_unasked_of_zero_device :
    let environment : Environment :=
      (Mapping.insert {} "DEVBED_DIR" []).insert "DEVBED_IOCTL_RECORD_DEV"
        (Bytes.ofAscii " 0".toList)
    let start : Client := { files := Files.initial, environment }
    let opening (path : Option Path) (result : Int) : Event :=
      .call 0 (.onPath (.openFile false 0 0) path) { result, device := some 7 }
    let request : Call := .ioctl 3 0x80045500 (.buffer 0x1000 [1, 2, 3, 4])
    let events : List Event :=
      [opening (some (Bytes.ofAscii "/dev/x".toList)) 3, opening none (-1),
        .call 0 (.socket 16 2 0) { result := 4 }, .call 0 request { data := [5, 6] }]
    ∃ client after, start.run (events.take 3) = .ok client ∧
      client.step (.call 0 request { data := [5, 6] }) =
        .ok (some { result := 0, output := .argument (.buffer 0x1000 [5, 6, 3, 4]) }, after) ∧
      after.calls = [request] ∧ after.IsIdle := by
  intro environment start opening request events
  have asksNothing : environment.AsksNothing := by
    refine ⟨?_, ?_, rfl⟩
    · intro root set
      exact (Option.some.inj set).symm
    · intro value set
      obtain rfl := Option.some.inj set
      rfl
  have stillAsksNothing (count : Nat) :
      (start.program.run (events.take count)).environment.AsksNothing := by
    match count with
    | 0 | 1 | 2 | 3 => exact asksNothing
    | _ + 4 =>
      rw [List.take_of_length_le (Nat.le_add_left 4 _)]
      exact asksNothing
  have noListener : ∀ event ∈ events, ¬ event.AsksListener := by
    simp [events, opening, request, Event.AsksListener, Uevent.eventProtocol]
  have named : ∀ event ∈ events, ¬ event.OpensUnnamed := by
    simp [events, opening, request, Event.OpensUnnamed]
  obtain ⟨client, ran, -, same, next⟩ := transparent_when_unasked
    (Client.isIdle_start Files.initial environment 0 0) stillAsksNothing noListener named 3
  obtain ⟨after, called, left, idle⟩ := next _ rfl
  exact ⟨client, after, ran, called, congrArg Program.calls left, idle⟩

end DeviceTestbed
