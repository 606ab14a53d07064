import DeviceTestbed.Proofs.Client.Bookkeeping
import DeviceTestbed.Proofs.Ioctl.Replay

/-!
The tables of listeners, replays and traces, and what the steps of an entry point do to them: a
descriptor that was handed out ends up in the tables that its origin asks for. The program ends on
the way for no other fault of a table than that it is full.
-/

namespace DeviceTestbed

/-- What happened to a descriptor number: it was handed out for a socket, for a path that leads into
the testbed or for any other path, or it was closed. -/
inductive Origin where
  | socket (domain protocol : Int)
  | redirected (path : Path)
  | opened (device : Option DeviceNumber)
  | closed
  deriving DecidableEq

namespace Origin

def IsListener : Origin → Prop
  | .socket domain protocol => domain = Uevent.netlinkFamily ∧ protocol = Uevent.eventProtocol
  | _ => False

def IsReplayed : Origin → Prop
  | .redirected path => Bytes.ofAscii "/dev/".toList <+: path
  | _ => False

def IsTraced (configuration : Option Configuration) : Origin → Prop
  | .opened (some device) =>
    device ≠ 0 ∧
      ∃ known, configuration = some known ∧ ∃ target ∈ known.scripts, target.device = device
  | _ => False

end Origin

/-! What is known of descriptors. -/

structure Registries where
  sockets : Uevent.SocketTable
  replays : ReplayTable
  traces : TraceTable
  configuration : Option Configuration

def Client.registries (client : Client) : Registries where
  sockets := client.sockets
  replays := client.replays
  traces := client.traces
  configuration := client.configuration

namespace Registries

structure Keeps (before after : Registries) : Prop where
  sockets : before.sockets.Keeps after.sockets
  replays : before.replays.Keeps after.replays
  traces : before.traces.Keeps after.traces
  configuration : after.configuration = before.configuration

structure Moves (before after : Registries) (descriptor : Descriptor) (origin : Origin) : Prop where
  sockets : before.sockets.Moves after.sockets descriptor origin.IsListener
  replays : before.replays.Moves after.replays descriptor origin.IsReplayed
  traces : before.traces.Moves after.traces descriptor (origin.IsTraced after.configuration)
  configuration : ∀ known, before.configuration = some known → after.configuration = some known
  configured : ∀ device, origin = .opened device → after.configuration.isSome = true

theorem Keeps.refl (registries : Registries) : registries.Keeps registries :=
  ⟨.refl _, .refl _, .refl _, rfl⟩

end Registries

theorem TraceTable.moves_start {table after : TraceTable} {files written : Files}
    {descriptor : Descriptor} {path : Path} {now : Nat}
    (started : table.start files descriptor path now = (.ok after, written)) :
    table.Moves after descriptor True := by
  unfold start at started
  split at started
  · cases started
  · split at started
    · cases started
    · rename_i restarted
      rw [← Except.ok.inj (Prod.mk.inj started).1]
      exact DescriptorTable.moves_restart restarted

theorem TraceTable.eq_full_of_start {table : TraceTable} {files written : Files}
    {descriptor : Descriptor} {path : Path} {now : Nat} {fault : DescriptorTable.Fault}
    (failed : table.start files descriptor path now = (.error (.table fault), written)) :
    fault = .full descriptor table.limit := by
  unfold start at failed
  split at failed
  · cases failed
  · split at failed
    · rename_i full
      rw [← Fault.table.inj (Except.error.inj (Prod.mk.inj failed).1)]
      exact DescriptorTable.eq_full_of_restart full
    · cases failed

/-! How work ends: with a client that is as told, or early, and then not because a table lost track
of its descriptors. -/

def Ends {α : Type} (outcome : Except Halt α) (good : α → Prop) : Prop :=
  match outcome with
  | .ok value => good value
  | .error halt =>
    ∀ fault, halt.cause = .table fault → ∃ descriptor limit, fault = .full descriptor limit

theorem Ends.bind {α β : Type} {outcome : Except Halt α} {next : α → Except Halt β}
    {good : α → Prop} {fine : β → Prop} (ends : Ends outcome good)
    (onward : ∀ value, good value → Ends (next value) fine) : Ends (outcome >>= next) fine := by
  cases outcome with
  | ok value => exact onward value ends
  | error halt => exact ends

theorem Ends.imp {α : Type} {outcome : Except Halt α} {good fine : α → Prop}
    (ends : Ends outcome good) (weaker : ∀ value, good value → fine value) : Ends outcome fine := by
  cases outcome with
  | ok value => exact weaker value ends
  | error halt => exact ends

namespace Client

theorem ends_full {good : Client → Prop} (client : Client) (descriptor : Descriptor) (limit : Nat) :
    Ends (client.halt (.table (.full descriptor limit))) good := by
  intro fault same
  exact ⟨descriptor, limit, (Fatal.table.inj same).symm⟩

theorem forget_moves (client : Client) (descriptor : Descriptor) :
    client.registries.Moves (client.forget descriptor).registries descriptor .closed where
  sockets := client.sockets.moves_drop descriptor
  replays := client.replays.moves_drop descriptor
  traces := client.traces.moves_drop descriptor
  configuration := fun _ known => known
  configured := nofun

theorem ends_release {client : Client} {descriptor : Descriptor} (valid : 0 ≤ descriptor) :
    Ends (client.release descriptor) fun after =>
      client.registries.Moves after.registries descriptor .closed := by
  rw [release_of_valid (Int.not_lt.mpr valid)]
  exact client.forget_moves descriptor

theorem after?_isNone (start bytes : Bytes) :
    (Bytes.after? start bytes).isNone = true ↔ ¬ start <+: bytes := by
  rw [Bytes.after?]
  split
  · rename_i found
    simpa using List.isPrefixOf_iff_prefix.mp found
  · rename_i missing
    simpa using mt List.isPrefixOf_iff_prefix.mpr missing

section Opening

variable {before : Registries} {client : Client} {descriptor : Descriptor}

theorem ends_startReplay (forgotten : before.Moves client.registries descriptor .closed)
    (testbed : client.testbed?.isSome = true) (path : Path) :
    Ends (client.startReplay descriptor path) fun after =>
      before.Moves after.registries descriptor (.redirected path) := by
  obtain ⟨root, found⟩ := Option.isSome_iff_exists.mp testbed
  simp only [startReplay, found]
  by_cases device : Bytes.ofAscii "/dev/".toList <+: path
  · rw [if_neg (mt (after?_isNone _ _).mp (not_not_intro device))]
    cases attached : client.replays.attach client.files descriptor root path with
    | ok replays =>
      have moved := (forgotten.replays.trans (ReplayTable.moves_attach attached)).congr
        (iff_of_true trivial device)
      exact ⟨forgotten.sockets, moved, forgotten.traces, forgotten.configuration, nofun⟩
    | error fault =>
      cases fault with
      | recording fault => nofun
      | table fault =>
        rw [ReplayTable.eq_full_of_attach attached]
        exact ends_full _ _ _
  · rw [if_pos ((after?_isNone _ _).mpr device)]
    have untouched := forgotten.replays.congr (iff_of_false id device)
    exact ⟨forgotten.sockets, untouched, forgotten.traces, forgotten.configuration, nofun⟩

theorem ends_configure (client : Client) :
    Ends client.configure fun (known, after) =>
      after.registries = { client.registries with configuration := some known } ∧
        ∀ earlier, client.configuration = some earlier → earlier = known := by
  unfold configure
  cases read : client.configuration with
  | some configuration =>
    refine ⟨?_, fun earlier same => (Option.some.inj same).symm⟩
    rw [← read]
    rfl
  | none =>
    cases Configuration.read client.environment with
    | error fault => nofun
    | ok configuration => exact ⟨rfl, nofun⟩

theorem ends_startRecording (client : Client) (descriptor : Descriptor) (device : DeviceNumber)
    (target : Option RecordTarget) :
    Ends (client.startRecording descriptor device target) fun after =>
      after.registries = client.registries := by
  cases target with
  | none => rfl
  | some target =>
    simp only [startRecording]
    split
    · rfl
    · split
      · rfl
      · intro fault same
        cases same

theorem ends_startTrace (client : Client) (descriptor : Descriptor) (path : Option Path) :
    Ends (client.startTrace descriptor path) fun after =>
      ∃ traces, after.registries = { client.registries with traces } ∧
        if path.isSome then client.traces.Moves traces descriptor True
        else traces = client.traces := by
  cases path with
  | none => exact ⟨_, rfl, rfl⟩
  | some path =>
    simp only [startTrace]
    split
    · rename_i started
      exact ⟨_, rfl, TraceTable.moves_start started⟩
    · intro fault same
      cases same
    · rename_i failed
      rw [TraceTable.eq_full_of_start failed]
      exact ends_full _ _ _

theorem scriptFile?_isSome (configuration : Configuration) (device : DeviceNumber) :
    (configuration.scriptFile? device).isSome = true ↔
      ∃ target ∈ configuration.scripts, target.device = device := by
  simp [Configuration.scriptFile?]

theorem moves_opened (forgotten : before.Moves client.registries descriptor .closed)
    {known : Configuration} {device : Option DeviceNumber} {traces : TraceTable}
    {after : Registries}
    (earlier : ∀ configuration, client.configuration = some configuration → configuration = known)
    (same : after = { client.registries with configuration := some known, traces })
    (traced :
      before.traces.Moves traces descriptor ((Origin.opened device).IsTraced (some known))) :
    before.Moves after descriptor (.opened device) := by
  subst same
  refine ⟨forgotten.sockets, forgotten.replays, traced, ?_, fun _ _ => rfl⟩
  intro configuration read
  rw [earlier configuration (forgotten.configuration configuration read)]

theorem ends_startObserving (forgotten : before.Moves client.registries descriptor .closed)
    (device : Option DeviceNumber) :
    Ends (client.startObserving descriptor device) fun after =>
      before.Moves after.registries descriptor (.opened device) := by
  refine Ends.bind client.ends_configure ?_
  rintro ⟨known, configured⟩ ⟨same, earlier⟩
  have unobserved (untraced : ¬ (Origin.opened device).IsTraced (some known)) :=
    moves_opened forgotten earlier same (forgotten.traces.congr (iff_of_false id untraced))
  dsimp only
  by_cases empty : known.isEmpty = true
  · rw [if_pos empty]
    have none : known.scripts = [] := by
      rw [Configuration.isEmpty, Bool.and_eq_true] at empty
      exact List.isEmpty_iff.mp empty.2
    apply unobserved
    cases device <;> simp [Origin.IsTraced, none]
  · rw [if_neg empty]
    cases device with
    | none => exact unobserved id
    | some device =>
      dsimp only
      by_cases zero : device = 0
      · rw [if_pos zero]
        exact unobserved fun traced => traced.1 zero
      · rw [if_neg zero]
        refine Ends.bind (configured.ends_startRecording descriptor device known.ioctl) ?_
        intro recorded still
        refine (recorded.ends_startTrace descriptor (known.scriptFile? device)).imp ?_
        rintro after ⟨traces, kept, outcome⟩
        rw [still, same] at kept
        have tracesSame : recorded.traces = client.traces :=
          congrArg Registries.traces (still.trans same)
        refine moves_opened forgotten earlier kept ?_
        have wanted : (Origin.opened (some device)).IsTraced (some known) ↔
            (known.scriptFile? device).isSome = true := by
          simp [Origin.IsTraced, zero, scriptFile?_isSome]
        split at outcome
        · rename_i file
          rw [tracesSame] at outcome
          exact (forgotten.traces.trans outcome).congr (iff_of_true trivial (wanted.mpr file))
        · rename_i noFile
          rw [outcome, tracesSame]
          exact forgotten.traces.congr (iff_of_false id (mt wanted.mp noFile))

theorem ends_opened (client : Client) {descriptor : Descriptor} (valid : 0 ≤ descriptor)
    (path : Path) (redirected : Bool) (device : Option DeviceNumber)
    (testbed : redirected = true → client.testbed?.isSome = true) :
    Ends (client.opened descriptor (some path) redirected device) fun after =>
      client.registries.Moves after.registries descriptor
        (if redirected then .redirected path else .opened device) := by
  have forgotten := client.forget_moves descriptor
  simp only [opened, if_neg (Int.not_lt.mpr valid)]
  cases redirected with
  | true => exact ends_startReplay forgotten (testbed rfl) path
  | false => exact ends_startObserving forgotten device

end Opening

end Client

end DeviceTestbed
