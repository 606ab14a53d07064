import DeviceTestbed.Proofs.Ioctl.Dialogue
import DeviceTestbed.Proofs.Ioctl.Search

/-!
A request that is made again and again. The nodes that match it answer in cyclic order, whatever
else is asked that no node answers, so each of them has its turn.
-/

namespace DeviceTestbed

/-! Cyclic order. -/

def cyclicFrom (start : Nat) (places : List Nat) : List Nat :=
  places.filter (start ≤ ·) ++ places.filter (· < start)

theorem cyclicFrom_append {start : Nat} {early late : List Nat}
    (before : ∀ place ∈ early, place < start) (behind : ∀ place ∈ late, start ≤ place) :
    cyclicFrom start (early ++ late) = late ++ early := by
  have earlyLow : early.filter (start ≤ ·) = [] := by
    rw [List.filter_eq_nil_iff]
    intro place member
    have low := before place member
    simpa using low
  have earlyKept : early.filter (· < start) = early := by
    rw [List.filter_eq_self]
    intro place member
    simpa using before place member
  have lateKept : late.filter (start ≤ ·) = late := by
    rw [List.filter_eq_self]
    intro place member
    simpa using behind place member
  have lateHigh : late.filter (· < start) = [] := by
    rw [List.filter_eq_nil_iff]
    intro place member
    have high := behind place member
    simpa using high
  simp only [cyclicFrom, List.filter_append, earlyLow, earlyKept, lateKept, lateHigh,
    List.nil_append, List.append_nil]

theorem exists_split {places : List Nat} (ascending : places.Pairwise (· < ·)) (start : Nat) :
    ∃ early late, places = early ++ late ∧ (∀ place ∈ early, place < start) ∧
      ∀ place ∈ late, start ≤ place := by
  induction places with
  | nil => exact ⟨[], [], rfl, nofun, nofun⟩
  | cons first rest ih =>
    obtain ⟨least, later⟩ := List.pairwise_cons.mp ascending
    by_cases low : first < start
    · obtain ⟨early, late, rfl, before, behind⟩ := ih later
      exact ⟨first :: early, late, rfl, List.forall_mem_cons.mpr ⟨low, before⟩, behind⟩
    · refine ⟨[], first :: rest, rfl, nofun, ?_⟩
      intro place member
      rcases List.mem_cons.mp member with rfl | inRest
      · omega
      · have above := least place inRest
        omega

theorem cyclicFrom_succ {places rest : List Nat} (ascending : places.Pairwise (· < ·))
    {start first : Nat} (order : cyclicFrom start places = first :: rest) :
    cyclicFrom (first + 1) places = rest ++ [first] := by
  obtain ⟨early, late, rfl, before, behind⟩ := exists_split ascending start
  rw [cyclicFrom_append before behind] at order
  cases late with
  | nil =>
    rw [List.nil_append] at order
    subst order
    rw [List.append_nil, ← List.singleton_append]
    have above := (List.pairwise_cons.mp (List.append_nil _ ▸ ascending)).1
    apply cyclicFrom_append
    · intro place member
      rw [List.mem_singleton.mp member]
      omega
    · intro place member
      exact above place member
  | cons next late =>
    rw [List.cons_append] at order
    obtain ⟨rfl, same⟩ := List.cons.inj order
    obtain ⟨-, lateAscending, apart⟩ := List.pairwise_append.mp ascending
    rw [← same, List.append_cons early, List.append_assoc late]
    apply cyclicFrom_append
    · intro place member
      rcases List.mem_append.mp member with inEarly | same
      · have below := apart place inEarly next List.mem_cons_self
        omega
      · rw [List.mem_singleton.mp same]
        omega
    · intro place member
      exact (List.pairwise_cons.mp lateAscending).1 place member

theorem perm_cyclicFrom (start : Nat) (places : List Nat) :
    (cyclicFrom start places).Perm places := by
  have split := List.filter_append_perm (start ≤ ·) places
  have below : (fun place => decide (place < start)) = fun place => !decide (start ≤ place) := by
    funext place
    simp [← decide_not]
  rwa [← below] at split

def TakenIn (order taken : List Nat) : Prop :=
  ∀ turn < taken.length, taken[turn]? = order[turn % order.length]?

theorem TakenIn.cons {first : Nat} {rest taken : List Nat}
    (later : TakenIn (rest ++ [first]) taken) : TakenIn (first :: rest) (first :: taken) := by
  intro turn within
  cases turn with
  | zero => simp
  | succ turn =>
    have next := later turn (by simpa using within)
    have rotated : rest ++ [first] = (first :: rest).rotate 1 := by simp
    rw [List.getElem?_cons_succ, next, rotated, List.length_rotate,
      List.getElem?_rotate (Nat.mod_lt _ (by simp)), Nat.mod_add_mod]

theorem TakenIn.window {order taken : List Nat} (inOrder : TakenIn order taken) {start : Nat}
    (within : start + order.length ≤ taken.length) :
    (taken.drop start).take order.length = order.rotate start := by
  apply List.ext_getElem?
  intro turn
  by_cases inWindow : turn < order.length
  · rw [List.getElem?_take_of_lt inWindow, List.getElem?_drop, inOrder _ (by omega),
      List.getElem?_rotate inWindow, Nat.add_comm]
  · rw [List.getElem?_eq_none, List.getElem?_eq_none]
    · rw [List.length_rotate]
      omega
    · rw [List.length_take]
      omega

instance (node : Node) (request : Request) (argument : Argument) :
    Decidable (node.Matches request argument) :=
  decidable_of_iff _ Node.answers_iff

namespace Tree

variable {tree : Tree} {last : Option Nat} {request : Request} {argument : Argument}

def matching (tree : Tree) (request : Request) (argument : Argument) : List Nat :=
  (tree.nodes.zipIdx.filter fun (node, _) => node.answers request argument).map Prod.snd

theorem mem_matching {place : Nat} :
    place ∈ tree.matching request argument ↔
      ∃ node, tree.nodes[place]? = some node ∧ node.Matches request argument := by
  simp only [matching, List.mem_map, List.mem_filter, Prod.exists, List.mk_mem_zipIdx_iff_getElem?,
    Node.answers_iff]
  constructor
  · rintro ⟨node, known, ⟨here, matching⟩, rfl⟩
    exact ⟨node, here, matching⟩
  · rintro ⟨node, here, matching⟩
    exact ⟨node, place, ⟨here, matching⟩, rfl⟩

theorem ascending_matching : (tree.matching request argument).Pairwise (· < ·) := by
  have numbered : (tree.nodes.zipIdx.map Prod.snd).Pairwise (· < ·) := by
    rw [List.zipIdx_map_snd]
    exact List.pairwise_lt_range'
  exact numbered.sublist (List.filter_sublist.map Prod.snd)

theorem lt_of_mem_matching {place : Nat} (member : place ∈ tree.matching request argument) :
    place < tree.size := by
  obtain ⟨node, here, -⟩ := mem_matching.mp member
  exact (List.getElem?_eq_some_iff.mp here).1

theorem exists_mem_matching :
    tree.matching request argument ≠ [] ↔ ∃ node ∈ tree.nodes, node.Matches request argument := by
  constructor
  · intro nonempty
    obtain ⟨place, member⟩ := List.exists_mem_of_ne_nil _ nonempty
    obtain ⟨node, here, matching⟩ := mem_matching.mp member
    exact ⟨node, List.mem_of_getElem? here, matching⟩
  · rintro ⟨node, member, matching⟩
    obtain ⟨place, here⟩ := List.mem_iff_getElem?.mp member
    exact List.ne_nil_of_mem (mem_matching.mpr ⟨node, here, matching⟩)

def HasPlace (tree : Tree) (last : Option Nat) : Prop :=
  ∀ place, last = some place → place < tree.size

theorem next_le_of_hasPlace (known : tree.HasPlace last) : next last ≤ tree.size := by
  cases last with
  | none => exact Nat.zero_le _
  | some last => exact known last rfl

theorem cycle_matching (start : Nat) :
    ((tree.cycle start).filter fun (node, _) => node.answers request argument).map Prod.snd =
      cyclicFrom start (tree.matching request argument) := by
  have split : tree.matching request argument =
      ((tree.nodes.zipIdx.take start).filter fun (node, _) =>
        node.answers request argument).map Prod.snd ++
      ((tree.nodes.zipIdx.drop start).filter fun (node, _) =>
        node.answers request argument).map Prod.snd := by
    rw [← List.map_append, ← List.filter_append, List.take_append_drop]
    rfl
  rw [split, cyclicFrom_append, cycle, List.filter_append, List.map_append]
  · intro place member
    obtain ⟨entry, kept, rfl⟩ := List.mem_map.mp member
    obtain ⟨step, here⟩ := List.mem_iff_getElem?.mp (List.mem_of_mem_filter kept)
    rw [List.getElem?_take] at here
    split at here
    · rename_i within
      rw [List.getElem?_zipIdx] at here
      obtain ⟨node, -, rfl⟩ := Option.map_eq_some_iff.mp here
      omega
    · cases here
  · intro place member
    obtain ⟨entry, kept, rfl⟩ := List.mem_map.mp member
    obtain ⟨step, here⟩ := List.mem_iff_getElem?.mp (List.mem_of_mem_filter kept)
    rw [List.getElem?_drop, List.getElem?_zipIdx] at here
    obtain ⟨node, -, rfl⟩ := Option.map_eq_some_iff.mp here
    omega

theorem cyclicFrom_startAfter (known : tree.HasPlace last) :
    cyclicFrom (startAfter tree.size last) (tree.matching request argument) =
      cyclicFrom (next last) (tree.matching request argument) := by
  rw [startAfter_eq]
  rcases Nat.lt_or_eq_of_le (next_le_of_hasPlace known) with inside | atEnd
  · rw [Nat.mod_eq_of_lt inside]
  · -- Behind the last node the search begins at the first one, and all places are before it.
    have below : cyclicFrom tree.size (tree.matching request argument ++ []) = _ :=
      cyclicFrom_append (fun _ => lt_of_mem_matching) nofun
    have behind : cyclicFrom 0 ([] ++ tree.matching request argument) = _ :=
      cyclicFrom_append nofun fun place _ => Nat.zero_le place
    rw [List.append_nil, List.nil_append] at below
    rw [List.nil_append, List.append_nil] at behind
    rw [atEnd, Nat.mod_self, below, behind]

theorem answer?_of_order (known : tree.HasPlace last) {first : Nat} {rest : List Nat}
    (order : cyclicFrom (next last) (tree.matching request argument) = first :: rest) :
    ∃ node, tree.nodes[first]? = some node ∧ node.Matches request argument ∧
      tree.answer? last request argument = some (node, first) := by
  rw [← cyclicFrom_startAfter known, ← cycle_matching] at order
  obtain ⟨⟨node, place⟩, others, filtered, rfl, -⟩ := List.map_eq_cons_iff.mp order
  have found : tree.answer? last request argument = some (node, place) := by
    rw [answer?, ← List.head?_filter, filtered]
    rfl
  obtain ⟨step, search, rfl⟩ := answer?_eq_some.mp found
  exact ⟨node, search.met, search.matching, found⟩

end Tree

/-- A call of this request with this argument, or with any buffer if the device fills it. -/
def Repeats (request : Request) (argument : Argument) (call : Request × Argument) : Prop :=
  call.1 = request ∧ (call.2 = argument ∨
    0 < request.size ∧ request.reads = true ∧ call.2.buffer?.isSome = true)

instance (request : Request) (argument : Argument) (call : Request × Argument) :
    Decidable (Repeats request argument call) :=
  inferInstanceAs (Decidable (_ ∧ (_ ∨ _)))

namespace Repeats

variable {request : Request} {argument : Argument} {call : Request × Argument} {node : Node}

theorem matches_iff (repeats : Repeats request argument call)
    (matching : node.Matches request argument) (other : Node) :
    other.Matches call.1 call.2 ↔ other.Matches request argument := by
  obtain ⟨asked, given⟩ := call
  obtain ⟨rfl, same | ⟨sized, reads, isBuffer⟩⟩ := repeats
  · rw [same]
  · have notSizeless : asked.size ≠ 0 := Nat.ne_of_gt sized
    obtain ⟨bytes, buffered⟩ := Option.isSome_iff_exists.mp isBuffer
    obtain ⟨sizeless, -⟩ | ⟨-, known, knownBuffer, -⟩ := matching.2
    · contradiction
    · simp [Node.Matches, notSizeless, reads, buffered, knownBuffer]

theorem matching_eq (repeats : Repeats request argument call)
    (matching : node.Matches request argument) (tree : Tree) :
    tree.matching call.1 call.2 = tree.matching request argument := by
  unfold Tree.matching
  congr 2
  funext ⟨other, place⟩
  rw [Bool.eq_iff_iff, Node.answers_iff, Node.answers_iff]
  exact repeats.matches_iff matching other

end Repeats

namespace Replay

structure Response where
  request : Request
  argument : Argument
  before : Replay
  answer : Option (Int32 × Argument)
  after : Replay

def Response.place? (response : Response) : Option Nat :=
  response.answer.bind fun _ => response.after.last

def responses (replay : Replay) : List (Request × Argument) → List Response
  | [] => []
  | (request, argument) :: calls =>
    let (answer, after) := replay.respond request argument
    { request, argument, before := replay, answer, after } :: after.responses calls

def taken (replay : Replay) (calls : List (Request × Argument)) : List Nat :=
  (replay.responses calls).filterMap Response.place?

/-! What one call does. -/

theorem respond_of_unmatched {replay : Replay} {request : Request} {argument : Argument}
    (unmatched : ∀ tree, replay.tree = some tree →
      ∀ node ∈ tree.nodes, ¬ node.Matches request argument) :
    replay.respond request argument = (none, replay) := by
  unfold respond
  cases played : replay.tree with
  | none => rfl
  | some tree =>
    have unanswered : tree.answer? replay.last request argument = none :=
      Tree.answer?_eq_none.mpr (unmatched tree played)
    simp only [unanswered]

theorem respond_of_order {replay : Replay} {tree : Tree} {request : Request} {argument : Argument}
    {call : Request × Argument} {sample : Node} (played : replay.tree = some tree)
    (known : tree.HasPlace replay.last) (matching : sample.Matches request argument)
    (repeats : Repeats request argument call) {first : Nat} {rest : List Nat}
    (order : cyclicFrom (Tree.next replay.last) (tree.matching request argument) = first :: rest) :
    ∃ node, tree.nodes[first]? = some node ∧ node.Matches call.1 call.2 ∧
      replay.respond call.1 call.2 =
        (some (node.result, node.fill call.2), { replay with last := some first }) := by
  rw [← repeats.matching_eq matching] at order
  obtain ⟨node, atFirst, answers, found⟩ := Tree.answer?_of_order known order
  refine ⟨node, atFirst, answers, ?_⟩
  simp only [respond, played, found]

/-! What calls that repeat one request are answered, among others that nothing answers. -/

/-- The matching nodes answer in cyclic order, one for each of the calls that repeat the request. -/
structure TakesTurns (replay : Replay) (tree : Tree) (request : Request) (argument : Argument)
    (calls : List (Request × Argument)) : Prop where
  answered : ∀ response ∈ replay.responses calls,
    Repeats request argument (response.request, response.argument) →
    ∃ place node, tree.nodes[place]? = some node ∧
      response.answer = some (node.result, node.fill response.argument) ∧
      response.after = { response.before with last := some place }
  passedOver : ∀ response ∈ replay.responses calls,
    (∀ node ∈ tree.nodes, ¬ node.Matches response.request response.argument) →
    response.answer = none ∧ response.after = response.before
  count : (replay.taken calls).length = calls.countP fun call => Repeats request argument call
  inOrder : TakenIn (cyclicFrom (Tree.next replay.last) (tree.matching request argument))
    (replay.taken calls)

/-- Among as many answers in a row as there are matching nodes, each of these has one. -/
theorem TakesTurns.onceEach {replay : Replay} {tree : Tree} {request : Request}
    {argument : Argument} {calls : List (Request × Argument)}
    (turns : replay.TakesTurns tree request argument calls) {first : Nat}
    (within : first + (tree.matching request argument).length ≤ (replay.taken calls).length) :
    (((replay.taken calls).drop first).take (tree.matching request argument).length).Perm
      (tree.matching request argument) := by
  have order := perm_cyclicFrom (Tree.next replay.last) (tree.matching request argument)
  rw [← order.length_eq] at within ⊢
  rw [turns.inOrder.window within]
  exact (List.rotate_perm _ _).trans order

theorem TakesTurns.answered_first {replay : Replay} {tree : Tree} {request : Request}
    {argument : Argument} {call : Request × Argument} {calls : List (Request × Argument)}
    {place : Nat} {rest : List Nat} {node : Node} (here : tree.nodes[place]? = some node)
    (order : cyclicFrom (Tree.next replay.last) (tree.matching request argument) = place :: rest)
    (outcome : replay.respond call.1 call.2 =
      (some (node.result, node.fill call.2), { replay with last := some place }))
    (repeats : Repeats request argument call) (answers : node.Matches call.1 call.2)
    (later : TakesTurns { replay with last := some place } tree request argument calls) :
    replay.TakesTurns tree request argument (call :: calls) := by
  obtain ⟨answered, passedOver, count, inOrder⟩ := later
  refine ⟨?_, ?_, ?_, ?_⟩ <;> simp only [taken, responses, outcome]
  · refine List.forall_mem_cons.mpr ⟨fun _ => ?_, answered⟩
    exact ⟨place, node, here, rfl, rfl⟩
  · refine List.forall_mem_cons.mpr ⟨fun unmatched => ?_, passedOver⟩
    exact absurd answers (unmatched node (List.mem_of_getElem? here))
  · rw [List.countP_cons_of_pos (by simpa using repeats), ← count]
    rfl
  · rw [order]
    rw [Tree.next, cyclicFrom_succ Tree.ascending_matching order] at inOrder
    exact inOrder.cons

theorem TakesTurns.passed_over_first {replay : Replay} {tree : Tree} {request : Request}
    {argument : Argument} {call : Request × Argument} {calls : List (Request × Argument)}
    (outcome : replay.respond call.1 call.2 = (none, replay))
    (other : ¬ Repeats request argument call)
    (later : replay.TakesTurns tree request argument calls) :
    replay.TakesTurns tree request argument (call :: calls) := by
  obtain ⟨answered, passedOver, count, inOrder⟩ := later
  refine ⟨?_, ?_, ?_, ?_⟩ <;> simp only [taken, responses, outcome]
  · exact List.forall_mem_cons.mpr ⟨fun repeats => absurd repeats other, answered⟩
  · exact List.forall_mem_cons.mpr ⟨fun _ => ⟨rfl, rfl⟩, passedOver⟩
  · rw [List.countP_cons_of_neg (by simpa using other), ← count]
    rfl
  · exact inOrder

theorem takesTurns_of_meant {replay : Replay} {tree : Tree} {request : Request}
    {argument : Argument} {sample : Node} (played : replay.tree = some tree)
    (known : tree.HasPlace replay.last) (member : sample ∈ tree.nodes)
    (matching : sample.Matches request argument) {calls : List (Request × Argument)}
    (meant : ∀ call ∈ calls, Repeats request argument call ∨
      ∀ node ∈ tree.nodes, ¬ node.Matches call.1 call.2) :
    replay.TakesTurns tree request argument calls := by
  -- For any last answer, as each one moves it: the order from behind it is the order so far with
  -- its head put at the end.
  induction calls generalizing replay with
  | nil => exact ⟨nofun, nofun, rfl, nofun⟩
  | cons call calls ih =>
    obtain ⟨first, later⟩ := List.forall_mem_cons.mp meant
    rcases first with repeats | unmatched
    · cases order : cyclicFrom (Tree.next replay.last) (tree.matching request argument) with
      | nil =>
        have present := perm_cyclicFrom (Tree.next replay.last) (tree.matching request argument)
        rw [order, List.nil_perm] at present
        exact absurd present (Tree.exists_mem_matching.mpr ⟨sample, member, matching⟩)
      | cons place rest =>
        obtain ⟨node, here, answers, outcome⟩ :=
          respond_of_order played known matching repeats order
        have inside : tree.HasPlace (some place) := by
          rintro _ ⟨⟩
          exact (List.getElem?_eq_some_iff.mp here).1
        apply TakesTurns.answered_first here order outcome repeats answers
        exact @ih { replay with last := some place } played inside later
    · have outcome : replay.respond call.1 call.2 = (none, replay) := by
        apply respond_of_unmatched
        intro other same
        obtain rfl := Option.some.inj (played.symm.trans same)
        exact unmatched
      apply TakesTurns.passed_over_first outcome _ (ih played known later)
      intro repeats
      exact unmatched sample member ((repeats.matches_iff matching sample).mpr matching)

/-! Replays that loading and answering calls lead to. -/

def Sound (replay : Replay) : Prop :=
  ∀ place, replay.last = some place →
    ∃ tree node, replay.tree = some tree ∧ tree.nodes[place]? = some node

theorem sound_of_load {files : Files} {path : Path} {replay : Replay}
    (loaded : load files path = .ok replay) : replay.Sound := by
  unfold load at loaded
  split at loaded
  · obtain rfl := Except.ok.inj loaded
    exact nofun
  · split at loaded
    · obtain rfl := Except.ok.inj loaded
      exact nofun
    · cases loaded
    · cases loaded

theorem Sound.respond {replay : Replay} (sound : replay.Sound) (request : Request)
    (argument : Argument) : (replay.respond request argument).2.Sound := by
  unfold Replay.respond
  split
  · exact sound
  · rename_i tree played
    split
    · exact sound
    · rename_i node place found
      rintro _ ⟨⟩
      obtain ⟨step, search, rfl⟩ := Tree.answer?_eq_some.mp found
      exact ⟨tree, node, played, search.met⟩

theorem Sound.respondAll {replay : Replay} (sound : replay.Sound)
    (calls : List (Request × Argument)) : (replay.respondAll calls).2.Sound := by
  induction calls generalizing replay with
  | nil => exact sound
  | cons call calls ih => exact ih (sound.respond call.1 call.2)

theorem Sound.hasPlace {replay : Replay} (sound : replay.Sound) {tree : Tree}
    (played : replay.tree = some tree) : tree.HasPlace replay.last := by
  intro place last
  obtain ⟨known, node, same, here⟩ := sound place last
  obtain rfl := Option.some.inj (played.symm.trans same)
  exact (List.getElem?_eq_some_iff.mp here).1

/-- After any calls to a replay that was loaded, calls that repeat a request which some nodes match,
among others that nothing answers, are answered by these nodes in cyclic order from behind the node
that answered last. So each of them has its turn once in as many answers as there are such nodes. -/
theorem requests_take_turns {files : Files} {path : Path} {start : Replay}
    (loaded : load files path = .ok start) (earlier : List (Request × Argument)) :
    let replay := (start.respondAll earlier).2
    (∀ place, replay.last = some place →
      ∃ tree node, replay.tree = some tree ∧ tree.nodes[place]? = some node) ∧
    (∀ request argument,
      (∀ tree, replay.tree = some tree → ∀ node ∈ tree.nodes, ¬ node.Matches request argument) →
      replay.respond request argument = (none, replay)) ∧
    ∀ tree request argument, replay.tree = some tree →
      (∃ node ∈ tree.nodes, node.Matches request argument) →
      ∀ calls, (∀ call ∈ calls, Repeats request argument call ∨
          ∀ node ∈ tree.nodes, ¬ node.Matches call.1 call.2) →
        let places := tree.matching request argument
        replay.TakesTurns tree request argument calls ∧
          ∀ first, first + places.length ≤ (replay.taken calls).length →
            (((replay.taken calls).drop first).take places.length).Perm places := by
  intro replay
  have sound : replay.Sound := (sound_of_load loaded).respondAll earlier
  refine ⟨sound, fun _ _ => respond_of_unmatched, ?_⟩
  rintro tree request argument played ⟨node, member, matching⟩ calls meant
  intro places
  have turns : replay.TakesTurns tree request argument calls :=
    takesTurns_of_meant played (sound.hasPlace played) member matching meant
  exact ⟨turns, fun first within => turns.onceEach within⟩

/-- Three of four nodes match, and the first of them answered last. What is in the buffers does not
matter. -/
theorem requests_take_turns_of_filled :
    let ascii (text : String) := Bytes.ofAscii text.toList
    let files := Files.ofFixtures [.file (ascii "bed/ioctl/dev/a") (ascii
      "0x80027801 3 0102\n0x7803 4 0700000000000000\n0x80027801 5 0304\n0x80027801 6 0506")]
    let ask (bytes : Bytes) : Request × Argument := (0x80027801, .buffer 0x1000 bytes)
    let calls := [ask [9, 9], (0x7803, .word 8), ask [1, 2, 3], ask [3, 4], ask [0, 0]]
    ∃ start, load files (ascii "bed/ioctl/dev/a") = .ok start ∧
      let replay := (start.respondAll [ask [0, 0]]).2
      (replay.responses calls).map (·.answer) =
        [some (5, .buffer 0x1000 [3, 4]), none, some (6, .buffer 0x1000 [5, 6, 3]),
          some (3, .buffer 0x1000 [1, 2]), some (5, .buffer 0x1000 [3, 4])] ∧
      (((replay.taken calls).drop 1).take 3).Perm [0, 2, 3] := by
  intro ascii files ask calls
  let nodes : List Node := [
    { request := 0x80027801, result := 3, data := [1, 2] },
    { request := 0x7803, result := 4, data := [7, 0, 0, 0, 0, 0, 0, 0] },
    { request := 0x80027801, result := 5, data := [3, 4] },
    { request := 0x80027801, result := 6, data := [5, 6] }]
  have loaded : load files (ascii "bed/ioctl/dev/a") = .ok { tree := some { nodes } } := by
    decide +kernel
  obtain ⟨-, -, turns⟩ := requests_take_turns loaded [ask [0, 0]]
  have meant : ∀ call ∈ calls, Repeats 0x80027801 (.buffer 0x1000 [9, 9]) call ∨
      ∀ node ∈ nodes, ¬ node.Matches call.1 call.2 := by
    decide +kernel
  obtain ⟨-, window⟩ := turns { nodes } 0x80027801 (.buffer 0x1000 [9, 9]) rfl
    ⟨nodes[0], by decide, rfl, .inr ⟨by decide, _, rfl, .inl (by decide)⟩⟩ calls meant
  have places : Tree.matching { nodes } 0x80027801 (.buffer 0x1000 [9, 9]) = [0, 2, 3] := by
    decide +kernel
  rw [places] at window
  exact ⟨_, loaded, by decide +kernel, window 1 (by decide +kernel)⟩

end Replay

end DeviceTestbed
