import DeviceTestbed.Client.Run
import DeviceTestbed.Proofs.Client.Entry

/-!
When a recording that cannot be replayed ends the program. The recording for a device path stands
at a place of its own, where there may be nothing, a file or a directory. Where there is nothing,
nothing is replayed; a file has to hold a node; and a directory is never a recording, though one
stands there as soon as a device further down has a recording.
-/

namespace DeviceTestbed

namespace Replay

inductive Unfit (files : Files) (id : NodeId) : Reason → Prop where
  | directory (isDirectory : files.isDirectory id = true) :
      Unfit files id (.unreadable (.stream (.file .isDirectory)))
  | withoutNodes (isFile : files.isDirectory id = false)
      (read : Tree.read (files.content id) = .ok none) : Unfit files id .withoutNodes
  | malformed (isFile : files.isDirectory id = false) {cause : Tree.Fault}
      (read : Tree.read (files.content id) = .error cause) : Unfit files id (.unreadable cause)

section Load

variable {files : Files} {id : NodeId} {path : Path}

def Reason.outcome : Reason → Except Tree.Fault (Option Tree)
  | .withoutNodes => .ok none
  | .unreadable cause => .error cause

theorem unfit_iff {reason : Reason} :
    Unfit files id reason ↔ readTree files id = reason.outcome := by
  cases isDirectory : files.isDirectory id with
  | true =>
    rw [readTree_of_directory isDirectory]
    constructor
    · intro unfit
      cases unfit with
      | directory _ => rfl
      | withoutNodes isFile read => simp [isDirectory] at isFile
      | malformed isFile read => simp [isDirectory] at isFile
    · intro same
      cases reason with
      | withoutNodes => cases same
      | unreadable cause =>
        obtain rfl := Except.error.inj same
        exact .directory isDirectory
  | false =>
    rw [readTree_of_file isDirectory]
    constructor
    · intro unfit
      cases unfit with
      | directory isOne => simp [isDirectory] at isOne
      | withoutNodes _ read => exact read
      | malformed _ read => exact read
    · intro read
      cases reason with
      | withoutNodes => exact .withoutNodes isDirectory read
      | unreadable cause => exact .malformed isDirectory read

/-- A path that leads nowhere makes no fault: what is unfit stands at the place itself. -/
theorem load_eq_error {fault : Fault} :
    load files path = .error fault ↔
      fault.path = path ∧ ∃ id, files.openRead path = .ok id ∧ Unfit files id fault.reason := by
  obtain ⟨place, reason⟩ := fault
  unfold load
  cases opened : files.openRead path with
  | error missing => simp
  | ok id =>
    simp only [unfit_iff, Except.ok.injEq, exists_eq_left']
    rcases read : readTree files id with cause | _ | tree
    · cases reason <;> simp [Reason.outcome, eq_comm]
    · cases reason <;> simp [Reason.outcome, eq_comm]
    · cases reason <;> simp [Reason.outcome]

theorem load_of_directory (opened : files.openRead path = .ok id)
    (isDirectory : files.isDirectory id = true) :
    load files path = .error { path, reason := .unreadable (.stream (.file .isDirectory)) } :=
  load_eq_error.mpr ⟨rfl, id, opened, .directory isDirectory⟩

end Load

end Replay

namespace Client

variable {α β : Type} {client : Client} {fault : Replay.Fault}

def EndsFor (outcome : Except Halt α) (fault : Replay.Fault) : Prop :=
  ∃ files, outcome = .error { cause := .replay fault, files }

theorem not_endsFor_ok (value : α) : ¬ EndsFor (.ok value) fault := by
  rintro ⟨files, same⟩
  cases same

theorem not_endsFor_halt {cause : Fatal} (other : ∀ fault, cause ≠ .replay fault) :
    ¬ EndsFor (client.halt cause) fault := by
  rintro ⟨files, same⟩
  have causes := congrArg Halt.cause (Except.error.inj same)
  exact other fault causes

theorem endsFor_bind {first : Except Halt α} {next : α → Except Halt β} :
    EndsFor (first >>= next) fault ↔
      EndsFor first fault ∨ ∃ reached, first = .ok reached ∧ EndsFor (next reached) fault := by
  simp only [EndsFor, Outcome.bind_eq_error]
  constructor
  · rintro ⟨files, failed | ⟨reached, done, failed⟩⟩
    · exact .inl ⟨files, failed⟩
    · exact .inr ⟨reached, done, files, failed⟩
  · rintro (⟨files, failed⟩ | ⟨reached, done, files, failed⟩)
    · exact ⟨files, .inl failed⟩
    · exact ⟨files, .inr ⟨reached, done, failed⟩⟩

theorem endsFor_bind_ok {first : Except Halt α} {next : α → β} :
    EndsFor (first >>= fun reached => .ok (next reached)) fault ↔ EndsFor first fault := by
  rw [endsFor_bind]
  constructor
  · rintro (failed | ⟨reached, done, failed⟩)
    · exact failed
    · exact absurd failed (not_endsFor_ok _)
  · exact .inl

theorem endsFor_quietlyTry {work : Client → Except Halt Client} :
    EndsFor (client.quietlyTry work) fault ↔ EndsFor (work client) fault := by
  unfold quietlyTry
  cases work client with
  | ok after => exact iff_of_false (not_endsFor_ok _) (not_endsFor_ok _)
  | error halt => simp [EndsFor, Except.map]

theorem endsFor_startReplay {descriptor : Descriptor} {path : Path} :
    EndsFor (client.startReplay descriptor path) fault ↔
      ∃ root, client.testbed? = some root ∧ Bytes.ofAscii "/dev/".toList <+: path ∧
        Replay.load client.files (Replay.path root path) = .error fault := by
  cases testbed : client.testbed? with
  | none =>
    simp only [startReplay, testbed]
    exact iff_of_false (not_endsFor_ok _) (by simp)
  | some root =>
    simp only [startReplay, testbed, Option.some.injEq, exists_eq_left']
    by_cases device : Bytes.ofAscii "/dev/".toList <+: path
    · have attaches : client.replays.attach client.files descriptor root path =
            .error (.recording fault) ↔
          Replay.load client.files (Replay.path root path) = .error fault :=
        ReplayTable.attach_eq_recording
      rw [if_neg (mt (after?_isNone _ _).mp (not_not_intro device)), and_iff_right device,
        ← attaches]
      cases attached : client.replays.attach client.files descriptor root path with
      | ok replays => exact iff_of_false (not_endsFor_ok _) (by simp)
      | error known =>
        cases known with
        | recording known => simp [EndsFor, halt]
        | table known => exact iff_of_false (not_endsFor_halt (by simp)) (by simp)
    · rw [if_pos ((after?_isNone _ _).mpr device)]
      exact iff_of_false (not_endsFor_ok _) fun known => device known.1

theorem not_endsFor_configure : ¬ EndsFor client.configure fault := by
  unfold configure
  split
  · exact not_endsFor_ok _
  · split
    · rintro ⟨files, same⟩
      cases same
    · exact not_endsFor_ok _

theorem not_endsFor_startRecording {descriptor : Descriptor} {device : DeviceNumber}
    {target : Option RecordTarget} :
    ¬ EndsFor (client.startRecording descriptor device target) fault := by
  cases target with
  | none => exact not_endsFor_ok _
  | some target =>
    simp only [startRecording]
    split
    · exact not_endsFor_ok _
    · split
      · exact not_endsFor_ok _
      · exact not_endsFor_halt (by simp)

theorem not_endsFor_startTrace {descriptor : Descriptor} {path : Option Path} :
    ¬ EndsFor (client.startTrace descriptor path) fault := by
  cases path with
  | none => exact not_endsFor_ok _
  | some path =>
    simp only [startTrace]
    split
    · exact not_endsFor_ok _
    · exact not_endsFor_halt (by simp)
    · exact not_endsFor_halt (by simp)

theorem not_endsFor_startObserving {descriptor : Descriptor} {device : Option DeviceNumber} :
    ¬ EndsFor (client.startObserving descriptor device) fault := by
  intro failed
  rcases endsFor_bind.mp failed with unread | ⟨⟨known, configured⟩, -, observed⟩
  · exact not_endsFor_configure unread
  dsimp only at observed
  split at observed
  · exact not_endsFor_ok _ observed
  cases device with
  | none => exact not_endsFor_ok _ observed
  | some number =>
    dsimp only at observed
    split at observed
    · exact not_endsFor_ok _ observed
    · rcases endsFor_bind.mp observed with first | ⟨recorded, -, second⟩
      · exact not_endsFor_startRecording first
      · exact not_endsFor_startTrace second

theorem endsFor_opened {descriptor : Descriptor} {path : Path} {redirected : Bool}
    {device : Option DeviceNumber} :
    EndsFor (client.opened descriptor (some path) redirected device) fault ↔
      0 ≤ descriptor ∧ redirected = true ∧ ∃ root, client.testbed? = some root ∧
        Bytes.ofAscii "/dev/".toList <+: path ∧
        Replay.load client.files (Replay.path root path) = .error fault := by
  unfold opened
  by_cases negative : descriptor < 0
  · rw [if_pos negative]
    exact iff_of_false (not_endsFor_ok _) fun known => Int.not_lt.mpr known.1 negative
  rw [if_neg negative, and_iff_right (Int.not_lt.mp negative)]
  cases redirected with
  | false => exact iff_of_false not_endsFor_startObserving (by simp)
  | true =>
    simp only [if_true, true_and]
    exact endsFor_startReplay

theorem not_endsFor_opened_null {descriptor : Descriptor} {redirected : Bool}
    {device : Option DeviceNumber} :
    ¬ EndsFor (client.opened descriptor none redirected device) fault := by
  unfold opened
  split
  · exact not_endsFor_ok _
  · exact not_endsFor_halt (by simp)

structure OpensProvided (files : Files) (environment : Environment) (call : Call) (reply : Reply)
    (root path : Path) : Prop where
  opens : ∃ wide flags mode, call = .onPath (.openFile wide flags mode) (some path)
  succeeds : 0 ≤ reply.result
  testbed : environment.testbed? = some root
  device : Bytes.ofAscii "/dev/".toList <+: path
  provided : ∃ shadow, Redirection.shadow files (some root) path = .ok (some shadow)

def OpensUnloaded (client : Client) (call : Call) (reply : Reply) (fault : Replay.Fault) : Prop :=
  ∃ root path, OpensProvided client.files client.environment call reply root path ∧
    Replay.load client.files (Replay.path root path) = .error fault

section Perform

variable {reply : Reply}

theorem endsFor_openFile {wide : Bool} {flags : Int} {mode : Nat} {path : Path}
    {shadow : Option Path}
    (found : Redirection.shadow client.files client.testbed? path = .ok shadow) :
    EndsFor (client.onPath (.openFile wide flags mode) (some path) reply) fault ↔
      0 ≤ reply.result ∧ shadow.isSome = true ∧ ∃ root, client.testbed? = some root ∧
        Bytes.ofAscii "/dev/".toList <+: path ∧
        Replay.load client.files (Replay.path root path) = .error fault := by
  rw [onPath, redirect_eq, found]
  exact endsFor_bind_ok.trans (endsFor_quietlyTry.trans endsFor_opened)

theorem endsFor_onPath {function : PathFunction} {path : Option Path} :
    EndsFor (client.onPath function path reply) fault ↔
      client.OpensUnloaded (.onPath function path) reply fault := by
  constructor
  · intro failed
    by_cases isOpen : ∃ wide flags mode, function = .openFile wide flags mode
    · obtain ⟨wide, flags, mode, rfl⟩ := isOpen
      cases path with
      | none =>
        rw [onPath] at failed
        exact absurd (endsFor_quietlyTry.mp (endsFor_bind_ok.mp failed)) not_endsFor_opened_null
      | some path =>
        cases found : Redirection.shadow client.files client.testbed? path with
        | error tooLong =>
          rw [onPath, redirect_eq, found] at failed
          exact absurd failed (not_endsFor_ok _)
        | ok shadow =>
          obtain ⟨succeeds, redirected, root, testbed, device, unloaded⟩ :=
            (endsFor_openFile found).mp failed
          obtain ⟨shadow, rfl⟩ := Option.isSome_iff_exists.mp redirected
          rw [testbed] at found
          exact ⟨root, path,
            ⟨⟨wide, flags, mode, rfl⟩, succeeds, testbed, device, shadow, found⟩, unloaded⟩
    · have notOpen (wide : Bool) (flags : Int) (mode : Nat) :
          function ≠ .openFile wide flags mode := fun same => isOpen ⟨wide, flags, mode, same⟩
      obtain ⟨answer, errno, calls, same⟩ := onPath_of_not_open notOpen client path reply
      rw [same] at failed
      exact absurd failed (not_endsFor_ok _)
  · rintro ⟨root, named, opens, unloaded⟩
    obtain ⟨wide, flags, mode, same⟩ := opens.opens
    obtain ⟨rfl, rfl⟩ := Call.onPath.inj same
    obtain ⟨shadow, found⟩ := opens.provided
    rw [← opens.testbed] at found
    apply (endsFor_openFile found).mpr
    exact ⟨opens.succeeds, rfl, root, opens.testbed, opens.device, unloaded⟩

theorem not_endsFor_release (descriptor : Descriptor) :
    ¬ EndsFor (client.release descriptor) fault := by
  obtain ⟨released, done⟩ := client.exists_release descriptor
  rw [done]
  exact not_endsFor_ok _

theorem not_endsFor_socket {domain type protocol : Int} :
    ¬ EndsFor (client.socket domain type protocol reply) fault := by
  unfold socket
  dsimp only
  split
  · exact not_endsFor_ok _
  · intro failed
    have work := endsFor_quietlyTry.mp (endsFor_bind_ok.mp failed)
    split at work
    · split at work
      · exact not_endsFor_ok _ work
      · exact not_endsFor_halt (by simp) work
    · exact not_endsFor_ok _ work

theorem endsFor_perform {call : Call} :
    EndsFor (client.perform reply call) fault ↔ client.OpensUnloaded call reply fault := by
  have notOpen (notPath : ∀ function path, call ≠ .onPath function path) :
      ¬ client.OpensUnloaded call reply fault := by
    rintro ⟨root, path, opens, -⟩
    obtain ⟨wide, flags, mode, same⟩ := opens.opens
    exact notPath _ _ same
  cases call with
  | onPath function path => exact endsFor_onPath
  | close descriptor =>
    refine iff_of_false ?_ (notOpen (by simp))
    intro failed
    exact not_endsFor_release _ (endsFor_quietlyTry.mp (endsFor_bind_ok.mp failed))
  | closeStream stream =>
    refine iff_of_false ?_ (notOpen (by simp))
    cases stream with
    | none => exact not_endsFor_ok _
    | some stream =>
      intro failed
      exact not_endsFor_release _ (endsFor_quietlyTry.mp (endsFor_bind_ok.mp failed))
  | socket domain type protocol =>
    exact iff_of_false not_endsFor_socket (notOpen (by simp))
  | _ => exact iff_of_false (not_endsFor_ok _) (notOpen (by simp))

end Perform

theorem endsFor_step {event : Event} :
    EndsFor (client.step event) fault ↔
      ∃ number call reply, event = .call number call reply ∧
        client.OpensUnloaded call reply fault := by
  cases event with
  | call number call reply =>
    have performed : EndsFor (client.step (.call number call reply)) fault ↔
        client.OpensUnloaded call reply fault :=
      endsFor_bind_ok.trans endsFor_perform
    rw [performed]
    constructor
    · intro unloaded
      exact ⟨number, call, reply, rfl, unloaded⟩
    · rintro ⟨_, _, _, same, unloaded⟩
      cases same
      exact unloaded
  | _ => exact iff_of_false (not_endsFor_ok _) (by simp)

theorem run_eq_error {start : Client} {events : List Event} {halt : Halt} :
    start.run events = .error halt ↔
      ∃ earlier event later client, events = earlier ++ event :: later ∧
        start.run earlier = .ok client ∧ client.step event = .error halt := by
  induction events generalizing start with
  | nil =>
    constructor
    · nofun
    · rintro ⟨earlier, event, later, client, same, -⟩
      simp at same
  | cons first rest ih =>
    simp only [run, Outcome.bind_eq_error]
    constructor
    · rintro (failed | ⟨⟨answer, next⟩, stepped, failed⟩)
      · exact ⟨[], first, rest, start, rfl, rfl, failed⟩
      · obtain ⟨earlier, event, later, client, rfl, ran, failed⟩ := ih.mp failed
        refine ⟨first :: earlier, event, later, client, rfl, ?_, failed⟩
        exact Outcome.bind_eq_ok.mpr ⟨_, stepped, ran⟩
    · rintro ⟨earlier, event, later, client, same, ran, failed⟩
      cases earlier with
      | nil =>
        obtain ⟨rfl, rfl⟩ := List.cons.inj same
        cases ran
        exact .inl failed
      | cons head earlier =>
        obtain ⟨rfl, rfl⟩ := List.cons.inj same
        obtain ⟨⟨answer, next⟩, stepped, ran⟩ := Outcome.bind_eq_ok.mp ran
        exact .inr ⟨⟨answer, next⟩, stepped,
          ih.mpr ⟨earlier, event, later, client, rfl, ran, failed⟩⟩

theorem endsFor_run {start : Client} {events : List Event} :
    EndsFor (start.run events) fault ↔
      ∃ earlier number call reply later client,
        events = earlier ++ .call number call reply :: later ∧
        start.run earlier = .ok client ∧ client.OpensUnloaded call reply fault := by
  constructor
  · rintro ⟨files, ended⟩
    obtain ⟨earlier, event, later, client, rfl, ran, failed⟩ := run_eq_error.mp ended
    obtain ⟨number, call, reply, rfl, unloaded⟩ := endsFor_step.mp ⟨files, failed⟩
    exact ⟨earlier, number, call, reply, later, client, rfl, ran, unloaded⟩
  · rintro ⟨earlier, number, call, reply, later, client, rfl, ran, unloaded⟩
    obtain ⟨files, failed⟩ := endsFor_step.mpr ⟨number, call, reply, rfl, unloaded⟩
    exact ⟨files, run_eq_error.mpr ⟨earlier, _, later, client, rfl, ran, failed⟩⟩

end Client

/-- Loading a recording fails just for a directory at its place, and for a file that cannot be read
as a tree or holds no node. A program is ended for a recording just when it opens a device path that
the testbed provides, and such a directory or file stands at the place of its recording. -/
theorem ends_for_unfit_recording (files : Files) (path : Path) (start : Client)
    (events : List Event) (fault : Replay.Fault) :
    (Replay.load files path = .error fault ↔
      fault.path = path ∧
        ∃ id, files.openRead path = .ok id ∧ Replay.Unfit files id fault.reason) ∧
    (Client.EndsFor (start.run events) fault ↔
      ∃ earlier number call reply later client root device,
        events = earlier ++ .call number call reply :: later ∧
        start.run earlier = .ok client ∧
        Client.OpensProvided client.files client.environment call reply root device ∧
        fault.path = Replay.path root device ∧
        ∃ id, client.files.openRead fault.path = .ok id ∧
          Replay.Unfit client.files id fault.reason) := by
  refine ⟨Replay.load_eq_error, ?_⟩
  rw [Client.endsFor_run]
  constructor
  · rintro ⟨earlier, number, call, reply, later, client, same, ran, root, device, opens, unloaded⟩
    obtain ⟨place, id, opened, unfit⟩ := Replay.load_eq_error.mp unloaded
    rw [← place] at opened
    exact ⟨earlier, number, call, reply, later, client, root, device, same, ran, opens, place, id,
      opened, unfit⟩
  · rintro ⟨earlier, number, call, reply, later, client, root, device, same, ran, opens, place, id,
      opened, unfit⟩
    rw [place] at opened
    exact ⟨earlier, number, call, reply, later, client, same, ran, root, device, opens,
      Replay.load_eq_error.mpr ⟨place, id, opened, unfit⟩⟩

/-- The directory of a device with a recording is opened: every recording in the testbed is fit to
be replayed, and the program is ended nevertheless. -/
theorem opening_directory_ends_program :
    let device := Bytes.ofAscii "bed/dev/bus/usb/001".toList
    let recording := Bytes.ofAscii "bed/ioctl/dev/bus/usb/001".toList
    let text := Bytes.ofAscii "0x80047801 0 2a000000\n".toList
    let files := Files.ofFixtures [.file device [], .file recording text]
    let root := Bytes.ofAscii "bed".toList
    let environment : Environment := Mapping.insert {} "DEVBED_DIR" root
    let client : Client := { files, environment }
    let path := Bytes.ofAscii "/dev/bus".toList
    let opening : Call := .onPath (.openFile false 0 0) (some path)
    files.dump = [(device, []), (recording, text)] ∧
      (∃ tree, Tree.read text = .ok (some tree)) ∧
      Client.EndsFor (client.step (.call 0 opening { result := 1000 }))
        { path := Replay.path root path, reason := .unreadable (.stream (.file .isDirectory)) } := by
  intro device recording text files root environment client path opening
  have read : (Tree.read text).toOption.any Option.isSome = true := by decide +kernel
  have shadowed : (Redirection.shadow files (some root) path).toOption.any Option.isSome = true := by
    decide +kernel
  have stands : (files.openRead (Replay.path root path)).toOption.any files.isDirectory = true := by
    decide +kernel
  refine ⟨by decide +kernel, ?_, ?_⟩
  · obtain ⟨found, read, holdsNode⟩ := Outcome.any_toOption.mp read
    obtain ⟨tree, rfl⟩ := Option.isSome_iff_exists.mp holdsNode
    exact ⟨tree, read⟩
  · obtain ⟨found, provided, isSome⟩ := Outcome.any_toOption.mp shadowed
    obtain ⟨shadow, rfl⟩ := Option.isSome_iff_exists.mp isSome
    obtain ⟨id, opened, isDirectory⟩ := Outcome.any_toOption.mp stands
    have testbed : environment.testbed? = some root := by decide +kernel
    have isDevice : Bytes.ofAscii "/dev/".toList <+: path := by decide +kernel
    have opens : Client.OpensProvided files environment opening { result := 1000 } root path :=
      ⟨⟨false, 0, 0, rfl⟩, by decide, testbed, isDevice, shadow, provided⟩
    -- The files themselves are not looked at any more.
    clear_value files environment
    have unloaded := Replay.load_of_directory opened isDirectory
    exact Client.endsFor_step.mpr ⟨0, opening, _, rfl, root, path, opens, unloaded⟩

end DeviceTestbed
