import DeviceTestbed.Ioctl.Recording
import DeviceTestbed.Proofs.Files.Open
import DeviceTestbed.Proofs.Ioctl.Replay
import DeviceTestbed.Proofs.Ioctl.Tree
import Mathlib.Data.List.Induction

/-!
What a recording holds and what is left in its file, over any run of activations, recorded calls and
closes. Whatever happens to descriptors on the way, each close of the active one leaves the file as
the text of all nodes so far: those it held at first, then every other node where it first occurred.
-/

namespace DeviceTestbed

namespace Tree

def ofNodes? (nodes : List Node) : Option Tree :=
  if nodes.isEmpty then none else some { nodes }

theorem ofNodes?_of_ne_nil {nodes : List Node} (present : nodes ≠ []) :
    ofNodes? nodes = some { nodes } := by
  cases nodes with
  | nil => contradiction
  | cons node rest => rfl

theorem getD_ofNodes? (nodes : List Node) : (ofNodes? nodes).getD Tree.empty = { nodes } := by
  cases nodes <;> rfl

theorem insert_nodes_ne_nil (tree : Tree) (node : Node) : (tree.insert node).nodes ≠ [] := by
  rw [insert]
  split
  · rename_i known
    exact List.ne_nil_of_mem known
  · simp

end Tree

namespace Recording

def collected (known captured : List Node) : List Node :=
  known ++ (captured.filter fun node => node ∉ known).eraseDups

theorem eraseDups_concat (nodes : List Node) (node : Node) :
    (nodes ++ [node]).eraseDups = nodes.eraseDups ++ if node ∈ nodes then [] else [node] := by
  rw [List.eraseDups_append]
  by_cases repeated : node ∈ nodes <;> simp [List.removeAll, repeated, List.eraseDups_cons]

theorem collected_concat (known captured : List Node) (node : Node) :
    collected known (captured ++ [node]) = (Tree.insert ⟨collected known captured⟩ node).nodes := by
  rw [collected, List.filter_append]
  by_cases held : node ∈ known
  · simp [Tree.insert, collected, held]
  · have kept : [node].filter (fun node => node ∉ known) = [node] := by simp [held]
    rw [kept, eraseDups_concat]
    by_cases repeated : node ∈ captured
    · simp [Tree.insert, collected, held, repeated]
    · simp [Tree.insert, collected, held, repeated]

/-! What each operation does. -/

theorem openOutput_cases (recording : Recording) (files : Files) (path : Path) :
    (∃ fault, recording.openOutput files path = (.error fault, files)) ∨
    ∃ id opened found, files.openWrite path = .ok (id, opened) ∧
      Tree.read (opened.content id) = .ok found ∧
      recording.openOutput files path =
        (.ok { recording with tree := found, output := some (path, id) }, opened) := by
  unfold openOutput
  cases place : files.openWrite path with
  | error refused => exact .inl ⟨_, rfl⟩
  | ok result =>
    obtain ⟨id, opened⟩ := result
    cases onFile : Replay.readTree opened id with
    | error cause =>
      obtain ⟨rfl, -⟩ | ⟨regular, empty⟩ := Files.openWrite_cases place
      · exact .inl ⟨.tree path cause, by simp only [onFile]⟩
      · rw [Replay.readTree_of_file (Files.isDirectory_of_isRegular regular), empty] at onFile
        cases onFile
    | ok found =>
      exact .inr ⟨id, opened, found, rfl, Replay.read_of_readTree onFile, by simp only [onFile]⟩

theorem activate_cases {recording : Recording} (unopened : recording.output = none)
    (files : Files) (descriptor : Descriptor) (target : RecordTarget) (testbed : Bool) :
    (∃ fault, recording.activate files descriptor target testbed =
      (some fault, { recording with active := some descriptor }, files)) ∨
    ∃ path id opened found, testbed = false ∧ target.file = some path ∧
      files.openWrite path = .ok (id, opened) ∧ Tree.read (opened.content id) = .ok found ∧
      recording.activate files descriptor target testbed =
        (none, { active := some descriptor, output := some (path, id), tree := found }, opened) := by
  cases file : target.file with
  | none => exact .inl ⟨.fileUnset, by simp [activate, unopened, file]⟩
  | some path =>
    cases testbed with
    | true => exact .inl ⟨.withTestbed, by simp [activate, unopened, file]⟩
    | false =>
      obtain ⟨fault, outcome⟩ | ⟨id, opened, found, place, onFile, outcome⟩ :=
        openOutput_cases { recording with active := some descriptor } files path
      · rw [unopened] at outcome
        exact .inl ⟨fault, by simp [activate, unopened, file, outcome]⟩
      · refine .inr ⟨path, id, opened, found, rfl, rfl, place, onFile, ?_⟩
        rw [unopened] at outcome
        simp [activate, unopened, file, outcome]

theorem activate_first {recording started : Recording} {files opened : Files}
    {descriptor : Descriptor} {target : RecordTarget} {testbed : Bool}
    (unopened : recording.output = none)
    (activated : recording.activate files descriptor target testbed = (none, started, opened)) :
    ∃ path id found, target.file = some path ∧ files.openWrite path = .ok (id, opened) ∧
      Tree.read (opened.content id) = .ok found ∧
      started = { active := some descriptor, output := some (path, id), tree := found } := by
  obtain ⟨fault, fails⟩ | ⟨path, id, after, found, -, file, place, onFile, succeeds⟩ :=
    activate_cases unopened files descriptor target testbed
  · rw [fails] at activated
    cases activated
  · rw [succeeds] at activated
    cases activated
    exact ⟨path, id, found, file, place, onFile, rfl⟩

theorem activate_later {recording : Recording} {path : Path} {id : NodeId}
    (output : recording.output = some (path, id)) (files : Files) (descriptor : Descriptor)
    (target : RecordTarget) (testbed : Bool) :
    recording.activate files descriptor target testbed =
      (none, { recording with active := some descriptor }, files) := by
  simp [activate, output]

theorem isRegular_save (recording : Recording) (files : Files) (room : Option Nat) (id : NodeId) :
    (recording.save files room).2.isRegular id = files.isRegular id := by
  unfold save
  split
  · rename_i tree path output _ _
    cases regular : files.isRegular output with
    | true =>
      rw [Files.truncate_of_isRegular regular]
      exact (Files.isRegular_replace _ _ _ _).trans (Files.isRegular_replace _ _ _ _)
    | false => rw [Files.truncate_of_not_isRegular regular]
  · rfl

theorem save_of_missing {recording : Recording}
    (missing : recording.tree = none ∨ recording.output = none) (files : Files)
    (room : Option Nat) : recording.save files room = (.ok (), files) := by
  unfold save
  split
  · rename_i tree path id held output
    rw [held, output] at missing
    simp at missing
  · rfl

theorem close_of_active {recording : Recording} {descriptor : Descriptor}
    (active : recording.active = some descriptor) (files : Files) (room : Option Nat) :
    recording.close files descriptor room =
      ((recording.save files room).1.map fun _ => true, { recording with active := none },
        (recording.save files room).2) :=
  if_pos active

theorem isRegular_close (recording : Recording) (files : Files) (descriptor : Descriptor)
    (room : Option Nat) (id : NodeId) :
    (recording.close files descriptor room).2.2.isRegular id = files.isRegular id := by
  unfold close
  split
  · exact isRegular_save recording files room id
  · rfl

/-! Runs of calls. -/

inductive Step where
  | activate (descriptor : Descriptor) (target : RecordTarget) (testbed : Bool)
  | record (descriptor : Descriptor) (request : Request) (argument : Argument) (result : Int32)
  /-- Without a `room` the disk takes everything. -/
  | close (descriptor : Descriptor) (room : Option Nat)

inductive Reply where
  | activated (fault : Option Fault)
  | recorded
  | closed (outcome : Except Fault Bool)

structure Session where
  recording : Recording
  files : Files

def Session.perform (session : Session) : Step → Reply × Session
  | .activate descriptor target testbed =>
    let activated := session.recording.activate session.files descriptor target testbed
    (.activated activated.1, { recording := activated.2.1, files := activated.2.2 })
  | .record descriptor request argument result =>
    (.recorded, { session with
      recording := session.recording.record descriptor request argument result })
  | .close descriptor room =>
    let closed := session.recording.close session.files descriptor room
    (.closed closed.1, { recording := closed.2.1, files := closed.2.2 })

def Step.Leaves (descriptor : Descriptor) : Step → Prop
  | .activate _ _ _ => False
  | .record _ _ _ _ => True
  | .close closed _ => closed ≠ descriptor

def StillActive (history : List Step) (descriptor : Descriptor) : Prop :=
  ∃ before target testbed after,
    history = before ++ .activate descriptor target testbed :: after ∧
      ∀ step ∈ after, step.Leaves descriptor

theorem stillActive_nil (descriptor : Descriptor) : ¬ StillActive [] descriptor := by
  rintro ⟨before, target, testbed, after, nothing, -⟩
  simp at nothing

theorem stillActive_concat {history : List Step} {step : Step} {descriptor : Descriptor} :
    StillActive (history ++ [step]) descriptor ↔
      (∃ target testbed, step = .activate descriptor target testbed) ∨
        StillActive history descriptor ∧ step.Leaves descriptor := by
  constructor
  · rintro ⟨before, target, testbed, after, split, left⟩
    rcases List.eq_nil_or_concat after with rfl | ⟨between, last, rfl⟩
    · obtain ⟨-, same⟩ := List.append_inj' split rfl
      exact .inl ⟨target, testbed, List.singleton_inj.mp same⟩
    · rw [List.concat_eq_append, ← List.cons_append, ← List.append_assoc] at split
      obtain ⟨earlier, same⟩ := List.append_inj' split rfl
      obtain rfl := List.singleton_inj.mp same
      refine .inr ⟨⟨before, target, testbed, between, earlier, ?_⟩, left step (by simp)⟩
      intro other member
      exact left other (by simp [member])
  · rintro (⟨target, testbed, rfl⟩ | ⟨⟨before, target, testbed, after, rfl, left⟩, leaves⟩)
    · exact ⟨history, target, testbed, [], rfl, by simp⟩
    · refine ⟨before, target, testbed, after ++ [step], by simp, ?_⟩
      intro other member
      rcases List.mem_append.mp member with earlier | last
      · exact left other earlier
      · rw [List.mem_singleton.mp last]
        exact leaves

def Step.activeAfter (active : Option Descriptor) : Step → Option Descriptor
  | .activate descriptor _ _ => some descriptor
  | .record _ _ _ _ => active
  | .close descriptor _ => if active = some descriptor then none else active

def activeAfter (history : List Step) : Option Descriptor :=
  history.foldl Step.activeAfter none

theorem activeAfter_concat (history : List Step) (step : Step) :
    activeAfter (history ++ [step]) = step.activeAfter (activeAfter history) := by
  rw [activeAfter, List.foldl_append]
  rfl

theorem activeAfter_eq_some {history : List Step} {descriptor : Descriptor} :
    activeAfter history = some descriptor ↔ StillActive history descriptor := by
  induction history using List.reverseRecOn with
  | nil => simp [activeAfter, stillActive_nil]
  | append_singleton history step ih =>
    rw [activeAfter_concat, stillActive_concat, ← ih]
    cases step with
    | activate other target testbed => simp [Step.Leaves, Step.activeAfter]
    | record other request argument result => simp [Step.Leaves, Step.activeAfter]
    | close other room =>
      by_cases active : activeAfter history = some other
      · simp [Step.Leaves, Step.activeAfter, active]
      · have different (same : activeAfter history = some descriptor) : other ≠ descriptor := by
          rintro rfl
          exact active same
        simpa [Step.Leaves, Step.activeAfter, active] using different

instance (history : List Step) (descriptor : Descriptor) :
    Decidable (StillActive history descriptor) :=
  decidable_of_iff _ activeAfter_eq_some

def captured (history : List Step) : Step → Option Node
  | .record descriptor request argument result =>
    if StillActive history descriptor then Node.capture request argument result else none
  | _ => none

def capturesSince (history : List Step) : List Step → List Node
  | [] => []
  | step :: rest => (captured history step).toList ++ capturesSince (history ++ [step]) rest

def captures (history : List Step) : List Node :=
  capturesSince [] history

theorem capturesSince_concat (history steps : List Step) (step : Step) :
    capturesSince history (steps ++ [step]) =
      capturesSince history steps ++ (captured (history ++ steps) step).toList := by
  induction steps generalizing history with
  | nil => simp [capturesSince]
  | cons first rest ih => simp [capturesSince, ih]

theorem captures_concat (history : List Step) (step : Step) :
    captures (history ++ [step]) = captures history ++ (captured history step).toList :=
  capturesSince_concat [] history step

theorem captures_concat_activate (history : List Step) (descriptor : Descriptor)
    (target : RecordTarget) (testbed : Bool) :
    captures (history ++ [.activate descriptor target testbed]) = captures history :=
  (captures_concat history _).trans (List.append_nil _)

theorem captures_concat_close (history : List Step) (descriptor : Descriptor) (room : Option Nat) :
    captures (history ++ [.close descriptor room]) = captures history :=
  (captures_concat history _).trans (List.append_nil _)

inductive Reaches (id : NodeId) (first : Step) (started : Session) : List Step → Session → Prop
  | start : Reaches id first started [first] started
  | step {history : List Step} {session : Session}
      (before : Reaches id first started history session) (step : Step) :
      Reaches id first started (history ++ [step]) (session.perform step).2
  | others {history : List Step} {session : Session} {files : Files}
      (before : Reaches id first started history session)
      (regular : files.isRegular id = session.files.isRegular id)
      (content : files.content id = session.files.content id) :
      Reaches id first started history { session with files }

/-- What a run leaves: the recording is determined by the nodes the file held at first and the nodes
captured since, and as long as these are none, the file is as it was. -/
structure Holds (path : Path) (id : NodeId) (opened : Files) (known : List Node)
    (history : List Step) (session : Session) : Prop where
  recording : session.recording =
    { active := activeAfter history
      output := some (path, id)
      tree := Tree.ofNodes? (collected known (captures history)) }
  regular : session.files.isRegular id = opened.isRegular id
  untouched : collected known (captures history) = [] →
    session.files.content id = opened.content id

section Steps

variable {path : Path} {id : NodeId} {opened : Files} {known : List Node} {history : List Step}
  {session : Session}

theorem record_eq {recording : Recording} (active : recording.active = activeAfter history)
    (tree : recording.tree = Tree.ofNodes? (collected known (captures history)))
    (descriptor : Descriptor) (request : Request) (argument : Argument) (result : Int32) :
    recording.record descriptor request argument result =
      { recording with
        tree := Tree.ofNodes? (collected known
          (captures (history ++ [.record descriptor request argument result]))) } := by
  have unchanged : recording =
      { recording with
        active := activeAfter history
        tree := Tree.ofNodes? (collected known (captures history)) } := by
    rw [← active, ← tree]
  rw [captures_concat, captured, record, active, tree]
  simp only [activeAfter_eq_some]
  by_cases still : StillActive history descriptor
  · rw [if_pos still, if_pos still]
    cases Node.capture request argument result with
    | none => simpa using unchanged
    | some node =>
      rw [Option.toList_some, collected_concat,
        Tree.ofNodes?_of_ne_nil (Tree.insert_nodes_ne_nil _ _), Tree.getD_ofNodes?]
  · rw [if_neg still, if_neg still]
    simpa using unchanged

theorem collected_eq_nil_of_concat {step : Step}
    (empty : collected known (captures (history ++ [step])) = []) :
    collected known (captures history) = [] := by
  rw [captures_concat] at empty
  cases adds : captured history step with
  | none =>
    rw [adds] at empty
    simpa using empty
  | some node =>
    rw [adds, Option.toList_some, collected_concat] at empty
    exact absurd empty (Tree.insert_nodes_ne_nil _ _)

theorem Holds.active_eq (holds : Holds path id opened known history session)
    (descriptor : Descriptor) :
    session.recording.active = some descriptor ↔ StillActive history descriptor := by
  rw [holds.recording]
  exact activeAfter_eq_some

/-- The ends of a close while these nodes are collected: of a descriptor that is not the active one,
without anything to write, with a file that cannot be emptied, and with one that takes the text of
the nodes or, on a disk without enough room, the beginning of it. -/
inductive CloseEnds (path : Path) (id : NodeId) (opened : Files) (nodes : List Node)
    (history : List Step) (before : Files) (descriptor : Descriptor) (room : Option Nat) :
    Except Fault Bool → Files → Prop
  | inactive (other : ¬ StillActive history descriptor) :
      CloseEnds path id opened nodes history before descriptor room (.ok false) before
  | empty (still : StillActive history descriptor) (empty : nodes = []) :
      CloseEnds path id opened nodes history before descriptor room (.ok true) before
  | irregular (still : StillActive history descriptor) (present : nodes ≠ [])
      (irregular : opened.isRegular id = false) :
      CloseEnds path id opened nodes history before descriptor room
        (.error (.tree path (.stream (.file .notRegular)))) before
  | written {after : Files} (still : StillActive history descriptor) (present : nodes ≠ [])
      (regular : opened.isRegular id = true)
      (fits : ∀ limit ∈ room, (Tree.render { nodes }).length ≤ limit)
      (content : after.content id = Tree.render { nodes }) :
      CloseEnds path id opened nodes history before descriptor room (.ok true) after
  | cut {after : Files} {limit : Nat} (still : StillActive history descriptor)
      (present : nodes ≠ []) (regular : opened.isRegular id = true) (limited : room = some limit)
      (short : limit < (Tree.render { nodes }).length)
      (content : after.content id = (Tree.render { nodes }).take limit) :
      CloseEnds path id opened nodes history before descriptor room
        (.error (.tree path (.stream (.file .noSpace)))) after

theorem save_of_regular {recording : Recording} {files : Files} {tree : Tree}
    (held : recording.tree = some tree) (output : recording.output = some (path, id))
    (regular : files.isRegular id = true) (room : Option Nat) :
    (recording.save files room).1 =
        (if ∀ limit ∈ room, tree.render.length ≤ limit then .ok ()
          else .error (.tree path (.stream (.file .noSpace)))) ∧
      (recording.save files room).2.content id = Sink.fitting { room } tree.render := by
  obtain ⟨finished, taken⟩ := tree.writeTo_eq room
  simp only [save, held, output, Files.truncate_of_isRegular regular, finished, taken]
  refine ⟨?_, Files.content_append_store regular _⟩
  split <;> rfl

theorem Holds.closeEnds (holds : Holds path id opened known history session)
    (descriptor : Descriptor) (room : Option Nat) :
    CloseEnds path id opened (collected known (captures history)) history session.files descriptor
      room (session.recording.close session.files descriptor room).1
      (session.recording.close session.files descriptor room).2.2 := by
  by_cases still : StillActive history descriptor
  swap
  · rw [close, if_neg (mt (holds.active_eq descriptor).mp still)]
    exact .inactive still
  rw [close_of_active ((holds.active_eq descriptor).mpr still)]
  have output : session.recording.output = some (path, id) := by rw [holds.recording]
  by_cases empty : collected known (captures history) = []
  · have missing : session.recording.tree = none := by
      rw [holds.recording, empty]
      rfl
    rw [save_of_missing (.inl missing)]
    exact .empty still empty
  have held : session.recording.tree = some ⟨collected known (captures history)⟩ := by
    rw [holds.recording]
    exact Tree.ofNodes?_of_ne_nil empty
  cases regular : opened.isRegular id with
  | false =>
    have refused := Files.truncate_of_not_isRegular (holds.regular.trans regular)
    simp only [save, held, output, refused]
    exact .irregular still empty regular
  | true =>
    obtain ⟨finished, content⟩ := save_of_regular held output (holds.regular.trans regular) room
    simp only [finished]
    by_cases fits :
        ∀ limit ∈ room, (Tree.render ⟨collected known (captures history)⟩).length ≤ limit
    · rw [if_pos fits]
      refine .written still empty regular fits (content.trans ?_)
      cases room with
      | none => rfl
      | some limit => exact List.take_of_length_le (fits limit rfl)
    · rw [if_neg fits]
      cases room with
      | none => exact absurd nofun fits
      | some limit => exact .cut still empty regular rfl (by simpa using fits) content

theorem close_recording {recording : Recording} (active : recording.active = activeAfter history)
    (files : Files) (descriptor : Descriptor) (room : Option Nat) :
    (recording.close files descriptor room).2.1 =
      { recording with active := activeAfter (history ++ [.close descriptor room]) } := by
  rw [close, activeAfter_concat, Step.activeAfter, active]
  by_cases still : activeAfter history = some descriptor
  · rw [if_pos still, if_pos still]
  · rw [if_neg still, if_neg still, ← active]

theorem Holds.activate (holds : Holds path id opened known history session)
    (descriptor : Descriptor) (target : RecordTarget) (testbed : Bool) :
    Holds path id opened known (history ++ [.activate descriptor target testbed])
      (session.perform (.activate descriptor target testbed)).2 := by
  have output : session.recording.output = some (path, id) := by rw [holds.recording]
  rw [Session.perform, activate_later output]
  refine ⟨?_, holds.regular, fun empty => holds.untouched (collected_eq_nil_of_concat empty)⟩
  rw [activeAfter_concat, captures_concat_activate, holds.recording]
  rfl

theorem Holds.record (holds : Holds path id opened known history session)
    (descriptor : Descriptor) (request : Request) (argument : Argument) (result : Int32) :
    Holds path id opened known (history ++ [.record descriptor request argument result])
      (session.perform (.record descriptor request argument result)).2 := by
  refine ⟨?_, holds.regular, fun empty => holds.untouched (collected_eq_nil_of_concat empty)⟩
  rw [Session.perform, record_eq (by rw [holds.recording]) (by rw [holds.recording]),
    activeAfter_concat, holds.recording]
  rfl

theorem Holds.close (holds : Holds path id opened known history session)
    (descriptor : Descriptor) (room : Option Nat) :
    Holds path id opened known (history ++ [.close descriptor room])
      (session.perform (.close descriptor room)).2 := by
  have same := captures_concat_close history descriptor room
  dsimp only [Session.perform]
  refine ⟨?_, ?_, ?_⟩
  · rw [close_recording (by rw [holds.recording]), same, holds.recording]
  · rw [isRegular_close]
    exact holds.regular
  · intro empty
    rw [same] at empty
    have ends := holds.closeEnds descriptor room
    rw [empty] at ends
    generalize session.recording.close session.files descriptor room = closed at ends ⊢
    obtain ⟨outcome, recording, after⟩ := closed
    dsimp only at ends ⊢
    cases ends with
    | inactive => exact holds.untouched empty
    | empty => exact holds.untouched empty
    | irregular _ present => contradiction
    | written _ present => contradiction
    | cut _ present => contradiction

theorem Holds.perform (holds : Holds path id opened known history session) (step : Step) :
    Holds path id opened known (history ++ [step]) (session.perform step).2 := by
  cases step with
  | activate descriptor target testbed => exact holds.activate descriptor target testbed
  | record descriptor request argument result =>
    exact holds.record descriptor request argument result
  | close descriptor room => exact holds.close descriptor room

end Steps

def Follows (id : NodeId) (history : List Step) (session : Session) : Prop :=
  ∃ recording started files opened first target testbed path,
    Recording.output recording = none ∧
    recording.activate files first target testbed = (none, started, opened) ∧
    started.output = some (path, id) ∧
    Reaches id (.activate first target testbed) { recording := started, files := opened } history
      session

end Recording

end DeviceTestbed
