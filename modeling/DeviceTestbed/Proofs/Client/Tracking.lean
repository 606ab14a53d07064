import DeviceTestbed.Proofs.Client.History
import DeviceTestbed.Proofs.Descriptor.Tracking

/-!
Replays, listeners and traces are tracked in place, after the file that they need was read or
created. So a descriptor is tracked with a fresh state, or its table is as it was.
-/

namespace DeviceTestbed

/-! In place or not. -/

theorem ReplayTable.attach_eq_wrapOpen (table : ReplayTable) (files : Files)
    (descriptor : Descriptor) (root device : Path) :
    table.attach files descriptor root device =
      (table.wrapOpen files descriptor root device).1.map
        fun _ => (table.wrapOpen files descriptor root device).2 := by
  unfold wrapOpen
  cases loaded : Replay.load files (Replay.path root device) with
  | error fault => simp [attach, loaded, Except.mapError, DescriptorTable.track, Except.map]
  | ok replay =>
    have ready : (Except.ok replay).mapError Fault.recording = .ok replay := rfl
    rw [attach_of_load loaded, ready, DescriptorTable.track_ok]
    cases table.restart descriptor replay <;> rfl

theorem TraceTable.start_eq_recordOpen (table : TraceTable) (files : Files)
    (descriptor : Descriptor) (path : Path) (now : Nat) :
    let opened := table.recordOpen files descriptor path now
    table.start files descriptor path now = (opened.1.map fun _ => opened.2.1, opened.2.2) := by
  unfold start recordOpen create
  cases files.create path with
  | error fault => rfl
  | ok opened =>
    simp only [DescriptorTable.track_ok]
    cases table.restart descriptor { recorder := { time := now }, file := opened.1 } <;> rfl

theorem Uevent.SocketTable.restart_eq_register (table : SocketTable) (descriptor : Descriptor) :
    table.restart descriptor () =
      (table.register descriptor).1.map fun _ => (table.register descriptor).2 := by
  rw [register, DescriptorTable.track_ok]
  cases table.restart descriptor () <;> rfl

theorem Client.reached_of_run {start client : Client} {events : List Event}
    (sockets : start.sockets = {}) (replays : start.replays = {}) (traces : start.traces = {})
    (ran : start.run events = .ok client) :
    client.sockets.Reached ∧ client.replays.Reached ∧ client.traces.Reached := by
  have ends := faithful_run (faithful_start sockets replays traces) events
  rw [ran] at ends
  have reached {State : Type} {table : DescriptorTable State} {tracked : Descriptor → Prop}
      (tracks : table.Tracks tracked) : table.Reached :=
    DescriptorTable.reached_iff.mpr ⟨tracks.limit, tracks.room⟩
  exact ⟨reached ends.sockets, reached ends.replays, reached ends.traces⟩

/-- Tables that are in use start to track a descriptor as a whole or not at all, whatever files
there are and whatever is still known of the number. -/
theorem starts_to_track_atomically {replays : ReplayTable} {sockets : Uevent.SocketTable}
    {traces : TraceTable} (replaysReached : replays.Reached) (socketsReached : sockets.Reached)
    (tracesReached : traces.Reached) (files : Files) (descriptor : Descriptor) :
    (∀ root device, replays.StartsAtomically descriptor
      ((Replay.load files (Replay.path root device)).mapError .recording) .table
      (replays.wrapOpen files descriptor root device)) ∧
    sockets.StartsAtomically descriptor (.ok ()) id (sockets.register descriptor) ∧
    ∀ path now,
      let opened := traces.recordOpen files descriptor path now
      traces.StartsAtomically descriptor (TraceTable.create files path now).1 .table
        (opened.1, opened.2.1) := by
  refine ⟨?_, ?_, ?_⟩
  · intro root device
    apply replaysReached.startsAtomically descriptor
    · intro first second same
      exact ReplayTable.Fault.table.inj same
    · intro fault failed
      obtain ⟨cause, -, other⟩ := Outcome.mapError_eq_error.mp failed
      cases other
  · exact socketsReached.startsAtomically descriptor Function.injective_id nofun
  · intro path now
    apply tracesReached.startsAtomically descriptor
    · intro first second same
      exact TraceTable.Fault.table.inj same
    · intro fault failed
      unfold TraceTable.create at failed
      cases created : files.create path <;> simp [created] at failed

/-- A recording that cannot be read, a trace without a directory, and a table full of listeners. -/
theorem starts_to_track_atomically_of_stale :
    let ascii (text : String) := Bytes.ofAscii text.toList
    let files := Files.ofFixtures [.file (ascii "t/ioctl/dev/a") (ascii "0x")]
    let replays : ReplayTable := { states := { entries := [(5, { last := some 0 })] } }
    let traces : TraceTable :=
      { states := { entries := [(5, { recorder := { time := 1 }, file := 9 })] } }
    let wrapped := replays.wrapOpen files 5 (ascii "t") (ascii "/dev/a")
    let recorded := traces.recordOpen files 5 (ascii "missing/x") 7
    (wrapped.1.toOption = none ∧ wrapped.2 = replays) ∧
      (recorded.1.toOption = none ∧ recorded.2.1 = traces) ∧
      ∃ sockets : Uevent.SocketTable, sockets.size = 1024 ∧
        sockets.register 2000 = (.error (.full 2000 1024), sockets) := by
  intro ascii files replays traces wrapped recorded
  have unreadable : wrapped.1.toOption = none := by decide +kernel
  have missing : recorded.1.toOption = none := by decide +kernel
  clear_value files
  have failed {Error : Type} {outcome : Except Error Unit} (none : outcome.toOption = none) :
      ∃ error, outcome = .error error := by
    cases outcome with
    | ok done => cases none
    | error error => exact ⟨error, rfl⟩
  have replaysReached : replays.Reached := DescriptorTable.reached_of_entries _ (by decide)
  have tracesReached : traces.Reached := DescriptorTable.reached_of_entries _ (by decide)
  obtain ⟨sockets, socketsReached, size, numbers⟩ :=
    DescriptorTable.exists_reached_below () (Nat.le_refl 1024)
  have starts := starts_to_track_atomically replaysReached socketsReached tracesReached files
  have absent : sockets.contains 2000 = false :=
    eq_false_of_ne_true (mt (numbers 2000).mp (by decide))
  have full : (Uevent.SocketTable.register sockets 2000).1 = .error (.full 2000 1024) := by
    refine (starts 2000).2.1.full_iff.mpr ⟨⟨(), rfl⟩, absent, ?_⟩
    rw [DescriptorTable.ncard_others absent, size]
  obtain ⟨replay, -, trace⟩ := starts 5
  obtain ⟨fault, unread⟩ := failed unreadable
  obtain ⟨cause, unmade⟩ := failed missing
  have kept : wrapped.2 = replays := (replay (ascii "t") (ascii "/dev/a")).unchanged fault unread
  have same : recorded.2.1 = traces := (trace (ascii "missing/x") 7).unchanged cause unmade
  exact ⟨⟨unreadable, kept⟩, ⟨missing, same⟩, sockets, size,
    Prod.ext full ((starts 2000).2.1.unchanged _ full)⟩

end DeviceTestbed
