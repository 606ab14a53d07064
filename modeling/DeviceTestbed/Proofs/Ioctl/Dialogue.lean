import DeviceTestbed.Proofs.Ioctl.Recording
import Mathlib.Data.List.Forall2
import Mathlib.Data.List.Nodup

/-!
A recorded dialogue is played back. While it plays, the search for the next node always begins at
the node of the next call, which answers it; after the last node it begins at the first one again.
-/

namespace DeviceTestbed

structure Exchange where
  request : Request
  before : Argument
  after : Argument
  result : Int32

namespace Exchange

/-- A plain word stays what it was, and a buffer is long enough for the request and changes in its
first bytes only if the device fills it. -/
inductive Completed : Exchange → Prop
  | word {request : Request} {value : UInt64} {result : Int32} (sizeless : request.size = 0) :
      Completed ⟨request, .word value, .word value, result⟩
  | buffer {request : Request} {address : UInt64} {given left : Bytes} {result : Int32}
      (sized : 0 < request.size) (enough : request.size ≤ given.length)
      (sameLength : left.length = given.length)
      (unread : request.reads = false → left.take request.size = given.take request.size) :
      Completed ⟨request, .buffer address given, .buffer address left, result⟩

def capture (exchange : Exchange) : Option Node :=
  Node.capture exchange.request exchange.after exchange.result

/-- The answer is the recorded result, with the recorded bytes in the buffer if the device fills it,
and with the argument as it is given otherwise. -/
def IsAnsweredBy (exchange : Exchange) (answer : Option (Int32 × Argument)) : Prop :=
  ∃ left, answer = some (exchange.result, left) ∧
    if 0 < exchange.request.size ∧ exchange.request.reads then
      left.buffer?.map (List.take exchange.request.size) =
        exchange.after.buffer?.map (List.take exchange.request.size)
    else left = exchange.before

def node (exchange : Exchange) : Node where
  request := exchange.request
  result := exchange.result
  data := (Node.argumentData? exchange.request exchange.after).getD []

theorem Completed.capture_eq {exchange : Exchange} (completed : exchange.Completed) :
    exchange.capture = some exchange.node := by
  cases completed with
  | word sizeless =>
    simp [capture, Node.capture, node, Node.argumentData?, sizeless]
  | buffer sized enough sameLength unread =>
    have notSizeless := Nat.ne_of_gt sized
    simp [capture, Node.capture, node, Node.argumentData?, notSizeless, Argument.buffer?]

theorem Completed.wellFormed {exchange : Exchange} (completed : exchange.Completed) :
    exchange.node.WellFormed := by
  refine Node.wellFormed_of_capture ?_ completed.capture_eq
  cases completed with
  | word sizeless => exact .inl sizeless
  | buffer sized enough sameLength unread => exact enough.trans_eq sameLength.symm

theorem Completed.answers {exchange : Exchange} (completed : exchange.Completed) :
    exchange.node.answers exchange.request exchange.before = true := by
  cases completed with
  | word sizeless => simp [Node.answers, node, Node.argumentData?, sizeless]
  | @buffer request address given left result sized enough sameLength unread =>
    have notSizeless := Nat.ne_of_gt sized
    cases reads : request.reads with
    | true =>
      simp [Node.answers, node, Node.argumentData?, notSizeless, sized, reads, Argument.buffer?]
    | false =>
      simp [Node.answers, node, Node.argumentData?, notSizeless, Argument.buffer?, unread reads]

theorem Completed.isAnsweredBy {exchange : Exchange} (completed : exchange.Completed) :
    exchange.IsAnsweredBy (some (exchange.result, exchange.node.fill exchange.before)) := by
  refine ⟨exchange.node.fill exchange.before, rfl, ?_⟩
  by_cases filled : 0 < exchange.request.size ∧ exchange.request.reads = true
  · rw [if_pos filled]
    cases completed with
    | word sizeless => exact absurd filled.1 (by simp [sizeless])
    | @buffer request address given left result sized enough sameLength unread =>
      have notSizeless := Nat.ne_of_gt sized
      have patchLength : (left.take request.size).length = request.size := by
        rw [List.length_take, sameLength]
        omega
      have taken : (Bytes.overlay (left.take request.size) given).take request.size =
          left.take request.size := by
        have fits : (left.take request.size).length ≤ given.length :=
          patchLength.trans_le enough
        rw [Bytes.overlay_eq, List.take_of_length_le fits]
        exact List.take_left' patchLength
      simp [Node.fill, node, filled, Node.argumentData?, notSizeless, Argument.buffer?,
        Argument.store, taken]
  · rw [if_neg filled, Node.fill, if_neg]
    intro fills
    rw [Bool.and_eq_true, decide_eq_true_eq] at fills
    exact filled fills

theorem map_capture {dialogue : List Exchange}
    (completed : ∀ exchange ∈ dialogue, exchange.Completed) :
    dialogue.map capture = (dialogue.map node).map some := by
  rw [List.map_map]
  exact List.map_congr_left fun exchange member => (completed exchange member).capture_eq

theorem wellFormed_nodes {dialogue : List Exchange}
    (completed : ∀ exchange ∈ dialogue, exchange.Completed) :
    Tree.WellFormed { nodes := dialogue.map node } := by
  intro recorded member
  obtain ⟨exchange, inDialogue, rfl⟩ := List.mem_map.mp member
  exact (completed exchange inDialogue).wellFormed

end Exchange

/-! Recording. -/

namespace Recording

def recordAll (recording : Recording) (descriptor : Descriptor) (dialogue : List Exchange) :
    Recording :=
  dialogue.foldl (fun recording exchange =>
    recording.record descriptor exchange.request exchange.after exchange.result) recording

theorem recordAll_eq {recording : Recording} {descriptor : Descriptor} {dialogue : List Exchange}
    {known : List Node} (active : recording.active = some descriptor)
    (completed : ∀ exchange ∈ dialogue, exchange.Completed)
    (distinct : (known ++ dialogue.map Exchange.node).Nodup)
    (tree : recording.tree = Tree.ofNodes? known) :
    recording.recordAll descriptor dialogue =
      { recording with tree := Tree.ofNodes? (known ++ dialogue.map Exchange.node) } := by
  induction dialogue generalizing recording known with
  | nil =>
    rw [List.map_nil, List.append_nil, ← tree]
    rfl
  | cons exchange rest ih =>
    have captured := (completed exchange List.mem_cons_self).capture_eq
    have fresh : exchange.node ∉ known := by
      intro member
      exact (List.nodup_append.mp distinct).2.2 _ member _ (by simp) rfl
    have recorded : recording.record descriptor exchange.request exchange.after exchange.result =
        { recording with tree := Tree.ofNodes? (known ++ [exchange.node]) } := by
      rw [Exchange.capture] at captured
      rw [record, if_pos active, captured, tree, Tree.getD_ofNodes?,
        Tree.ofNodes?_of_ne_nil (by simp)]
      simp only [Tree.insert, fresh, ↓reduceIte]
    rw [List.map_cons, List.append_cons known exchange.node (rest.map Exchange.node)] at distinct
    rw [List.map_cons, List.append_cons known exchange.node (rest.map Exchange.node),
      recordAll, List.foldl_cons, recorded, ← recordAll]
    exact @ih { recording with tree := Tree.ofNodes? (known ++ [exchange.node]) } _ active
      (fun other member => completed other (List.mem_cons_of_mem _ member)) distinct rfl

end Recording

/-! Playing back. -/

namespace Replay

def respondAll (replay : Replay) : List (Request × Argument) →
    List (Option (Int32 × Argument)) × Replay
  | [] => ([], replay)
  | (request, argument) :: calls =>
    let (answer, next) := replay.respond request argument
    let (answers, last) := next.respondAll calls
    (answer :: answers, last)

structure ComesTo (replay : Replay) (dialogue done : List Exchange) : Prop where
  tree : replay.tree = some { nodes := dialogue.map Exchange.node }
  place : Tree.startAfter dialogue.length replay.last = done.length % dialogue.length

theorem cycle_eq_cons (done rest : List Exchange) (exchange : Exchange) :
    ∃ others, Tree.cycle { nodes := (done ++ exchange :: rest).map Exchange.node } done.length =
      (exchange.node, done.length) :: others := by
  have known : ((done.map Exchange.node).zipIdx 0).length = done.length := by simp
  rw [Tree.cycle, List.map_append, List.zipIdx_append, List.drop_left' known, List.map_cons,
    List.zipIdx_cons, List.length_map, Nat.zero_add]
  exact ⟨_, rfl⟩

theorem respond_of_comesTo {done rest : List Exchange} {exchange : Exchange} {replay : Replay}
    (completed : exchange.Completed)
    (comesTo : replay.ComesTo (done ++ exchange :: rest) done) :
    exchange.IsAnsweredBy (replay.respond exchange.request exchange.before).1 ∧
      (replay.respond exchange.request exchange.before).2.ComesTo (done ++ exchange :: rest)
        (done ++ [exchange]) := by
  have inside : done.length < (done ++ exchange :: rest).length := by simp
  have place := comesTo.place
  rw [Nat.mod_eq_of_lt inside] at place
  obtain ⟨others, cycle⟩ := cycle_eq_cons done rest exchange
  have found : Tree.answer? { nodes := (done ++ exchange :: rest).map Exchange.node } replay.last
      exchange.request exchange.before = some (exchange.node, done.length) := by
    rw [Tree.answer?, Tree.size, List.length_map, place, cycle]
    exact List.find?_cons_of_pos completed.answers
  simp only [respond, comesTo.tree, found]
  refine ⟨completed.isAnsweredBy, rfl, ?_⟩
  have next : (done ++ [exchange]).length = done.length + 1 := List.length_append
  rw [Tree.startAfter, next]

def calls (dialogue : List Exchange) : List (Request × Argument) :=
  dialogue.map fun exchange => (exchange.request, exchange.before)

theorem respondAll_append (replay : Replay) (first second : List (Request × Argument)) :
    replay.respondAll (first ++ second) =
      ((replay.respondAll first).1 ++ ((replay.respondAll first).2.respondAll second).1,
        ((replay.respondAll first).2.respondAll second).2) := by
  induction first generalizing replay with
  | nil => rfl
  | cons call rest ih => simp only [List.cons_append, respondAll, ih]

theorem respondAll_rest {done rest : List Exchange} {replay : Replay}
    (completed : ∀ exchange ∈ rest, exchange.Completed)
    (comesTo : replay.ComesTo (done ++ rest) done) :
    List.Forall₂ Exchange.IsAnsweredBy rest (replay.respondAll (calls rest)).1 ∧
      (replay.respondAll (calls rest)).2.ComesTo (done ++ rest) (done ++ rest) := by
  induction rest generalizing done replay with
  | nil =>
    refine ⟨.nil, ?_⟩
    rw [List.append_nil] at comesTo ⊢
    exact comesTo
  | cons exchange rest ih =>
    obtain ⟨answered, next⟩ := respond_of_comesTo (completed exchange List.mem_cons_self) comesTo
    rw [List.append_cons] at next ⊢
    obtain ⟨others, after⟩ :=
      ih (fun other member => completed other (List.mem_cons_of_mem _ member)) next
    exact ⟨.cons answered others, after⟩

theorem ComesTo.again {dialogue : List Exchange} {replay : Replay}
    (ended : replay.ComesTo dialogue dialogue) : replay.ComesTo dialogue [] := by
  refine ⟨ended.tree, ?_⟩
  rw [ended.place, Nat.mod_self]
  exact (Nat.zero_mod _).symm

theorem respondAll_rounds {dialogue : List Exchange} {replay : Replay}
    (completed : ∀ exchange ∈ dialogue, exchange.Completed)
    (comesTo : replay.ComesTo dialogue []) (rounds : Nat) :
    List.Forall₂ Exchange.IsAnsweredBy (List.replicate rounds dialogue).flatten
      (replay.respondAll (calls (List.replicate rounds dialogue).flatten)).1 := by
  induction rounds generalizing replay with
  | zero => exact .nil
  | succ rounds ih =>
    have begun : replay.ComesTo ([] ++ dialogue) [] := comesTo
    obtain ⟨answered, ended⟩ := respondAll_rest completed begun
    rw [List.replicate_succ, List.flatten_cons, calls, List.map_append, ← calls, ← calls,
      respondAll_append]
    exact List.rel_append answered (ih ended.again)

theorem load_of_read {files : Files} {path : Path} {id : NodeId} {tree : Tree}
    (opened : files.openRead path = .ok id) (onFile : files.read id = .ok tree.render)
    (wellFormed : tree.WellFormed) (nonempty : tree.nodes ≠ []) :
    load files path = .ok { tree := some tree } := by
  have present : tree.nodes.isEmpty = false := by simpa using nonempty
  have found : readTree files id = .ok (some tree) := by
    simp only [readTree, onFile, Tree.read_render wellFormed, present, Bool.false_eq_true,
      ↓reduceIte]
  simp only [load, opened, found]

end Replay

namespace Recording

theorem close_recordAll {recording started : Recording} {files opened : Files}
    {descriptor : Descriptor} {target : RecordTarget} {testbed : Bool} {path : Path}
    {dialogue : List Exchange} (unopened : recording.output = none)
    (file : target.file = some path) (nothing : files.HoldsNothing path)
    (activated : recording.activate files descriptor target testbed = (none, started, opened))
    (nonempty : dialogue ≠ []) (completed : ∀ exchange ∈ dialogue, exchange.Completed)
    (distinct : (dialogue.map Exchange.capture).Nodup) :
    ∃ id ended saved, started.output = some (path, id) ∧
      (started.recordAll descriptor dialogue).close opened descriptor = (.ok true, ended, saved) ∧
      saved.content id = Tree.render { nodes := dialogue.map Exchange.node } := by
  obtain ⟨known, id, found, sameFile, openedFile, onFile, rfl⟩ := activate_first unopened activated
  obtain rfl : path = known := Option.some.inj (file.symm.trans sameFile)
  obtain ⟨regular, empty⟩ := Files.openWrite_of_holdsNothing nothing openedFile
  obtain rfl : none = found := by
    rw [empty] at onFile
    exact Except.ok.inj onFile
  have distinctNodes : ([] ++ dialogue.map Exchange.node).Nodup := by
    rw [Exchange.map_capture completed] at distinct
    exact distinct.of_map
  have present : [] ++ dialogue.map Exchange.node ≠ [] := by simpa using nonempty
  let full : Recording :=
    { active := some descriptor
      output := some (path, id)
      tree := some { nodes := dialogue.map Exchange.node } }
  have recorded : Recording.recordAll { active := some descriptor, output := some (path, id) }
      descriptor dialogue = full := by
    have all := @recordAll_eq { active := some descriptor, output := some (path, id) } _ _ _
      rfl completed distinctNodes rfl
    rwa [Tree.ofNodes?_of_ne_nil present, List.nil_append] at all
  obtain ⟨finished, content⟩ :=
    save_of_regular (show full.tree = some _ from rfl) (show full.output = some (path, id) from rfl)
      regular none
  rw [if_pos nofun] at finished
  refine ⟨id, { full with active := none }, (full.save opened none).2, rfl, ?_, content⟩
  rw [recorded, close_of_active rfl, finished]
  rfl

end Recording

/-- A dialogue that was recorded on a file that held nothing is played back faithfully from what the
recording left there: each call gets its recorded answer, however often the dialogue is repeated. -/
theorem replay_answers_as_recorded {recording started : Recording} {files opened : Files}
    {descriptor : Descriptor} {target : RecordTarget} {testbed : Bool} {path : Path}
    {dialogue : List Exchange} (unopened : recording.output = none)
    (file : target.file = some path) (nothing : files.HoldsNothing path)
    (activated : recording.activate files descriptor target testbed = (none, started, opened))
    (nonempty : dialogue ≠ []) (completed : ∀ exchange ∈ dialogue, exchange.Completed)
    (distinct : (dialogue.map Exchange.capture).Nodup) :
    ∃ id ended saved, started.output = some (path, id) ∧
      (started.recordAll descriptor dialogue).close opened descriptor = (.ok true, ended, saved) ∧
      ∀ later other copy, Files.openRead later other = .ok copy →
        later.read copy = .ok (saved.content id) →
        ∃ replay, Replay.load later other = .ok replay ∧
          ∀ rounds, List.Forall₂ Exchange.IsAnsweredBy (List.replicate rounds dialogue).flatten
            (replay.respondAll (Replay.calls (List.replicate rounds dialogue).flatten)).1 := by
  obtain ⟨id, ended, saved, output, closed, text⟩ :=
    Recording.close_recordAll unopened file nothing activated nonempty completed distinct
  refine ⟨id, ended, saved, output, closed, ?_⟩
  intro later other copy openedCopy onCopy
  rw [text] at onCopy
  have present : dialogue.map Exchange.node ≠ [] := by simpa using nonempty
  let loaded : Replay := { tree := some { nodes := dialogue.map Exchange.node } }
  have begun : loaded.ComesTo dialogue [] := ⟨rfl, (Nat.zero_mod _).symm⟩
  exact ⟨loaded,
    Replay.load_of_read openedCopy onCopy (Exchange.wellFormed_nodes completed) present,
    Replay.respondAll_rounds completed begun⟩

theorem replay_answers_as_recorded_mixed :
    let path := Bytes.ofAscii "rec".toList
    let target : RecordTarget := { device := 0, file := some path }
    let query (result : Int32) (filled : Bytes) : Exchange :=
      ⟨0x80047801, .buffer 0x1000 [0, 0, 0, 0, 9], .buffer 0x1000 (filled ++ [9]), result⟩
    let dialogue : List Exchange :=
      [query 0 [1, 0, 0, 0], ⟨0x7803, .word 7, .word 7, -1⟩, query 0 [2, 0, 0, 0],
        ⟨0x40027802, .buffer 0x1000 [5, 6], .buffer 0x1000 [5, 6], 3⟩]
    let activated := Recording.activate {} Files.initial 5 target false
    let closed := (activated.2.1.recordAll 5 dialogue).close activated.2.2 5
    activated.1 = none ∧ (dialogue.map Exchange.capture).Nodup ∧
      (closed.1 = .ok true ∧ ∃ replay, Replay.load closed.2.2 path = .ok replay ∧
        ∀ rounds, List.Forall₂ Exchange.IsAnsweredBy (List.replicate rounds dialogue).flatten
          (replay.respondAll (Replay.calls (List.replicate rounds dialogue).flatten)).1) := by
  intro path target query dialogue activated closed
  have nothing : Files.initial.HoldsNothing path := by
    intro id found
    cases found
  have completed : ∀ exchange ∈ dialogue, exchange.Completed := by
    have asked (result : Int32) (filled : Bytes) (short : filled.length = 4) :
        (query result filled).Completed :=
      .buffer (by decide) (by decide) (by simp [short]) (fun unread => by cases unread)
    have set : Exchange.Completed
        ⟨0x40027802, .buffer 0x1000 [5, 6], .buffer 0x1000 [5, 6], 3⟩ :=
      .buffer (by decide) (by decide) rfl (fun _ => rfl)
    simp only [dialogue, List.forall_mem_cons, List.not_mem_nil, false_implies, implies_true,
      and_true]
    exact ⟨asked 0 _ rfl, .word (by decide), asked 0 _ rfl, set⟩
  have distinct : (dialogue.map Exchange.capture).Nodup := by decide +kernel
  have began : activated.1 = none := rfl
  have begun : Recording.activate {} Files.initial 5 target false =
      (none, activated.2.1, activated.2.2) := Prod.ext began rfl
  have place : activated.2.1.output = some (path, 5) := rfl
  have openedAgain : closed.2.2.openRead path = .ok 5 ∧ closed.2.2.isDirectory 5 = false := by
    simp only [closed, activated, dialogue, query, target, path]
    decide +kernel
  obtain ⟨id, ended, saved, output, outcome, replays⟩ :=
    replay_answers_as_recorded rfl rfl nothing begun (List.cons_ne_nil _ _) completed distinct
  rw [place] at output
  obtain rfl : 5 = id := (Prod.mk.inj (Option.some.inj output)).2
  have same : closed = (.ok true, ended, saved) := outcome
  rw [same] at openedAgain
  have onFile : saved.read 5 = .ok (saved.content 5) := by rw [Files.read, openedAgain.2]; rfl
  refine ⟨began, distinct, by rw [same], ?_⟩
  rw [same]
  exact replays saved path 5 openedAgain.1 onFile

end DeviceTestbed
