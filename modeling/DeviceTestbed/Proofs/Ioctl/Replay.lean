import DeviceTestbed.Ioctl.Replay
import DeviceTestbed.Proofs.Descriptor.Table
import DeviceTestbed.Proofs.Outcome

/-!
What attaching a recording to a descriptor and answering a call on it do to the table of replays:
the state of that descriptor changes, and no other. Attaching fails for the recording or for a
full table.
-/

namespace DeviceTestbed

namespace Replay

variable {files : Files} {id : NodeId}

theorem readTree_of_directory (isDirectory : files.isDirectory id = true) :
    readTree files id = .error (.stream (.file .isDirectory)) := by
  rw [readTree, Files.read, if_pos isDirectory]

theorem readTree_of_file (isFile : files.isDirectory id = false) :
    readTree files id = Tree.read (files.content id) := by
  simp only [readTree, Files.read, isFile, Bool.false_eq_true, if_false]

theorem read_of_readTree {found : Option Tree} (done : readTree files id = .ok found) :
    Tree.read (files.content id) = .ok found := by
  cases isDirectory : files.isDirectory id with
  | true =>
    rw [readTree_of_directory isDirectory] at done
    cases done
  | false => rwa [readTree_of_file isDirectory] at done

end Replay

namespace ReplayTable

variable {files : Files} {table : ReplayTable} {descriptor other : Descriptor}

section Attach

variable {root device : Path} {attached : ReplayTable}

theorem attach_of_load {replay : Replay}
    (loaded : Replay.load files (Replay.path root device) = .ok replay) :
    table.attach files descriptor root device =
      (table.restart descriptor replay).mapError .table := by
  rw [attach, loaded]
  dsimp only
  cases table.restart descriptor replay <;> rfl

theorem attach_eq_ok :
    table.attach files descriptor root device = .ok attached ↔
      ∃ replay, Replay.load files (Replay.path root device) = .ok replay ∧
        table.restart descriptor replay = .ok attached := by
  cases loaded : Replay.load files (Replay.path root device) with
  | error fault => simp [attach, loaded]
  | ok replay =>
    rw [attach_of_load loaded, Outcome.mapError_eq_ok]
    simp

theorem attach_eq_recording {fault : Replay.Fault} :
    table.attach files descriptor root device = .error (.recording fault) ↔
      Replay.load files (Replay.path root device) = .error fault := by
  cases loaded : Replay.load files (Replay.path root device) with
  | error fault => simp [attach, loaded]
  | ok replay =>
    rw [attach_of_load loaded, Outcome.mapError_eq_error]
    simp

theorem eq_full_of_attach {fault : DescriptorTable.Fault}
    (failed : table.attach files descriptor root device = .error (.table fault)) :
    fault = .full descriptor table.limit := by
  cases loaded : Replay.load files (Replay.path root device) with
  | error fault => simp [attach, loaded] at failed
  | ok replay =>
    rw [attach_of_load loaded, Outcome.mapError_eq_error] at failed
    obtain ⟨full, restarted, same⟩ := failed
    rw [← Fault.table.inj same]
    exact DescriptorTable.eq_full_of_restart restarted

theorem moves_attach (done : table.attach files descriptor root device = .ok attached) :
    table.Moves attached descriptor True := by
  obtain ⟨replay, -, restarted⟩ := attach_eq_ok.mp done
  exact DescriptorTable.moves_restart restarted

theorem get?_attach_ne (done : table.attach files descriptor root device = .ok attached)
    (different : other ≠ descriptor) : attached.get? other = table.get? other := by
  obtain ⟨replay, -, restarted⟩ := attach_eq_ok.mp done
  exact DescriptorTable.get?_restart_ne restarted different

end Attach

section Respond

variable (table) (request : Request) (argument : Argument)

theorem answer_respond (descriptor : Descriptor) :
    (table.respond descriptor request argument).1 =
      (table.get? descriptor).bind fun replay => (replay.respond request argument).1 := by
  unfold respond
  cases table.get? descriptor <;> rfl

theorem get?_respond_self (descriptor : Descriptor) :
    (table.respond descriptor request argument).2.get? descriptor =
      (table.get? descriptor).map fun replay => (replay.respond request argument).2 := by
  unfold respond
  cases found : table.get? descriptor with
  | none => exact found
  | some replay => simp [DescriptorTable.get?_modify, found]

theorem get?_respond_ne (different : other ≠ descriptor) :
    (table.respond descriptor request argument).2.get? other = table.get? other := by
  unfold respond
  cases table.get? descriptor with
  | none => rfl
  | some replay => simp [DescriptorTable.get?_modify, different]

theorem limit_respond (descriptor : Descriptor) :
    (table.respond descriptor request argument).2.limit = table.limit := by
  unfold respond
  cases table.get? descriptor <;> rfl

end Respond

end ReplayTable

end DeviceTestbed
