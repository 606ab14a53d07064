import DeviceTestbed.Ioctl.Replay
import DeviceTestbed.Proofs.Ioctl.Tree
import Mathlib.Data.List.Rotate

/-!
The search for the node that answers a call. It meets every node once, in cyclic order from the one
behind the node that answered last, and ends at the first that matches. The tree stays as it is, and
of the argument no more changes than what the device fills.
-/

namespace DeviceTestbed

namespace Node

/-- The node is of this request, and its data is the argument: the eight bytes of the word if the
request has no size, and otherwise the first bytes of a buffer, which do not matter if the device
fills them. -/
def Matches (node : Node) (request : Request) (argument : Argument) : Prop :=
  node.request = request ∧
    (request.size = 0 ∧ node.data = Bytes.littleEndian 8 argument.value.toNat ∨
      0 < request.size ∧ ∃ bytes, argument.buffer? = some bytes ∧
        (request.reads = true ∨ bytes.take request.size = node.data))

theorem answers_iff {node : Node} {request : Request} {argument : Argument} :
    node.answers request argument = true ↔ node.Matches request argument := by
  unfold answers Matches
  rw [Bool.and_eq_true, beq_iff_eq]
  refine and_congr_right fun _ => ?_
  by_cases sizeless : request.size = 0
  · simp [argumentData?, sizeless]
  · have sized := Nat.pos_of_ne_zero sizeless
    cases argument with
    | word value => simp [argumentData?, sizeless, Argument.buffer?]
    | buffer address bytes =>
      simp [argumentData?, sizeless, sized, Argument.buffer?, eq_comm (a := node.data)]

def filled (data : Bytes) (request : Request) : Argument → Argument
  | .word value => .word value
  | .buffer address bytes =>
    .buffer address
      (if 0 < request.size ∧ request.reads then data ++ bytes.drop request.size else bytes)

theorem length_data {node : Node} {request : Request} {argument : Argument}
    (wellFormed : node.WellFormed) (matching : node.Matches request argument)
    (sized : 0 < request.size) : node.data.length = request.size := by
  rw [wellFormed, matching.1, Request.dataLength, if_neg (Nat.ne_of_gt sized)]

theorem fill_eq_filled {node : Node} {request : Request} {argument : Argument}
    (wellFormed : node.WellFormed) (fits : argument.Fits request)
    (matching : node.Matches request argument) :
    node.fill argument = filled node.data request argument := by
  obtain rfl : node.request = request := matching.1
  simp only [fill, Bool.and_eq_true, decide_eq_true_eq]
  by_cases fills : 0 < node.request.size ∧ node.request.reads = true
  · rw [if_pos fills]
    cases argument with
    | word value => rfl
    | buffer address bytes =>
      have length := length_data wellFormed matching fills.1
      have enough : node.request.size ≤ bytes.length := fits
      rw [filled, if_pos fills, Argument.store, Bytes.overlay_eq, length,
        List.take_of_length_le (length.trans_le enough)]
  · rw [if_neg fills]
    cases argument with
    | word value => rfl
    | buffer address bytes => rw [filled, if_neg fills]

end Node

namespace Tree

variable {tree : Tree}

/-! The nodes in cyclic order. -/

def next : Option Nat → Nat
  | none => 0
  | some last => last + 1

theorem startAfter_eq (count : Nat) (last : Option Nat) :
    startAfter count last = next last % count := by
  cases last with
  | none => exact (Nat.zero_mod count).symm
  | some last => rfl

theorem length_cycle (start : Nat) : (tree.cycle start).length = tree.size := by
  simp only [cycle, List.length_append, List.length_drop, List.length_take, List.length_zipIdx,
    size]
  omega

def met? (tree : Tree) (last : Option Nat) (step : Nat) : Option Node :=
  tree.nodes[(next last + step) % tree.size]?

section

variable {last : Option Nat} {step : Nat}

theorem getElem?_cycle (within : step < tree.size) :
    (tree.cycle (startAfter tree.size last))[step]? =
      (tree.met? last step).map fun node => (node, (next last + step) % tree.size) := by
  have nonempty : 0 < tree.size := Nat.zero_lt_of_lt within
  have length : tree.nodes.zipIdx.length = tree.size := List.length_zipIdx
  have rotated : tree.cycle (startAfter tree.size last) =
      tree.nodes.zipIdx.rotate (startAfter tree.size last) := by
    rw [cycle, List.rotate_eq_drop_append_take]
    rw [length, startAfter_eq]
    exact Nat.le_of_lt (Nat.mod_lt _ nonempty)
  rw [rotated, List.getElem?_rotate (length.symm ▸ within), length, startAfter_eq, Nat.add_mod_mod,
    Nat.add_comm step, List.getElem?_zipIdx, Nat.zero_add, met?]

theorem getElem?_cycle_eq_some {node : Node} {place : Nat} :
    (tree.cycle (startAfter tree.size last))[step]? = some (node, place) ↔
      step < tree.size ∧ tree.met? last step = some node ∧
        place = (next last + step) % tree.size := by
  by_cases within : step < tree.size
  · rw [getElem?_cycle within, Option.map_eq_some_iff]
    simp [within, eq_comm]
  · have outside : (tree.cycle (startAfter tree.size last))[step]? = none :=
      List.getElem?_eq_none ((length_cycle _).trans_le (Nat.not_lt.mp within))
    simp [outside, within]

end

/-! The node that is found. -/

structure FirstMatch (tree : Tree) (last : Option Nat) (request : Request) (argument : Argument)
    (step : Nat) (node : Node) : Prop where
  within : step < tree.size
  met : tree.met? last step = some node
  matching : node.Matches request argument
  first : ∀ earlier < step, ∀ other, tree.met? last earlier = some other →
    ¬ other.Matches request argument

section

variable {last : Option Nat} {request : Request} {argument : Argument}

theorem answer?_eq_some {node : Node} {place : Nat} :
    tree.answer? last request argument = some (node, place) ↔
      ∃ step, tree.FirstMatch last request argument step node ∧
        place = (next last + step) % tree.size := by
  rw [answer?, List.find?_eq_some_iff_getElem]
  constructor
  · rintro ⟨answers, step, inCycle, here, unmet⟩
    obtain ⟨within, met, atPlace⟩ :=
      getElem?_cycle_eq_some.mp (List.getElem?_eq_some_iff.mpr ⟨inCycle, here⟩)
    refine ⟨step, ⟨within, met, Node.answers_iff.mp answers, ?_⟩, atPlace⟩
    intro earlier before other metEarlier
    obtain ⟨_, there⟩ := List.getElem?_eq_some_iff.mp
      (getElem?_cycle_eq_some.mpr ⟨before.trans within, metEarlier, rfl⟩)
    have passedOver := unmet earlier before
    simpa [there, ← Node.answers_iff] using passedOver
  · rintro ⟨step, found, atPlace⟩
    obtain ⟨inCycle, here⟩ :=
      List.getElem?_eq_some_iff.mp (getElem?_cycle_eq_some.mpr ⟨found.within, found.met, atPlace⟩)
    refine ⟨Node.answers_iff.mpr found.matching, step, inCycle, here, fun earlier before => ?_⟩
    obtain ⟨_, metEarlier, _⟩ :=
      getElem?_cycle_eq_some.mp (List.getElem?_eq_getElem (before.trans inCycle))
    have passedOver := found.first earlier before _ metEarlier
    simpa [← Node.answers_iff] using passedOver

theorem answer?_eq_none :
    tree.answer? last request argument = none ↔
      ∀ node ∈ tree.nodes, ¬ node.Matches request argument := by
  rw [answer?, List.find?_eq_none]
  simp only [← Node.answers_iff]
  constructor
  · intro unmatched node member
    obtain ⟨place, here⟩ := List.mem_iff_getElem?.mp member
    have numbered : (node, place) ∈ tree.nodes.zipIdx := List.mk_mem_zipIdx_iff_getElem?.mpr here
    rw [← List.take_append_drop (startAfter tree.size last) tree.nodes.zipIdx] at numbered
    refine unmatched (node, place) (List.mem_append.mpr ?_)
    exact (List.mem_append.mp numbered).symm
  · rintro unmatched ⟨node, place⟩ met
    refine unmatched node ?_
    have here : (node, place) ∈ tree.nodes.zipIdx :=
      (List.mem_append.mp met).elim List.mem_of_mem_drop List.mem_of_mem_take
    exact List.fst_mem_of_mem_zipIdx here

theorem exists_firstMatch_iff :
    (∃ step node, tree.FirstMatch last request argument step node) ↔
      ∃ node ∈ tree.nodes, node.Matches request argument := by
  constructor
  · rintro ⟨step, node, found⟩
    exact ⟨node, List.mem_of_getElem? found.met, found.matching⟩
  · rintro ⟨node, member, matching⟩
    cases found : tree.answer? last request argument with
    | none => exact absurd matching (answer?_eq_none.mp found node member)
    | some answer =>
      obtain ⟨step, first, -⟩ := answer?_eq_some.mp found
      exact ⟨step, _, first⟩

/-- In a tree that reading and capturing lead to, a call is answered by the first match in cyclic
order from behind the node that answered last, if any node matches. Where the device fills a
buffer, just as many bytes as the request tells become the node's data. The tree stays. -/
theorem respond_in_cyclic_order (obtained : Obtained tree) (last : Option Nat)
    (fits : argument.Fits request) :
    let replay : Replay := { tree := some tree, last }
    ((∃ step node, tree.FirstMatch last request argument step node) ↔
      ∃ node ∈ tree.nodes, node.Matches request argument) ∧
    (∀ step node, tree.FirstMatch last request argument step node →
      let place := (next last + step) % tree.size
      tree.nodes[place]? = some node ∧
        tree.answer? last request argument = some (node, place) ∧
        replay.respond request argument =
          (some (node.result, Node.filled node.data request argument),
            { tree := some tree, last := some place }) ∧
        (0 < request.size → node.data.length = request.size)) ∧
    ((∀ node ∈ tree.nodes, ¬ node.Matches request argument) →
      tree.answer? last request argument = none ∧
        replay.respond request argument = (none, replay)) := by
  intro replay
  refine ⟨exists_firstMatch_iff, fun step node found => ?_, fun unmatched => ?_⟩
  · intro place
    have member : node ∈ tree.nodes := List.mem_of_getElem? found.met
    have wellFormed : node.WellFormed := obtained.wellFormed node member
    have answered : tree.answer? last request argument = some (node, place) :=
      answer?_eq_some.mpr ⟨step, found, rfl⟩
    refine ⟨found.met, answered, ?_, ?_⟩
    · rw [← Node.fill_eq_filled wellFormed fits found.matching]
      simp only [Replay.respond, replay, answered]
    · exact Node.length_data wellFormed found.matching
  · have unanswered : tree.answer? last request argument = none := answer?_eq_none.mpr unmatched
    exact ⟨unanswered, by simp only [Replay.respond, replay, unanswered]⟩

/-- The search begins behind the second of three nodes and comes to the first one again, past a node
of another request. The two bytes at the end of the buffer are not part of the argument. -/
theorem respond_in_cyclic_order_of_wrapped :
    let text := Bytes.ofAscii
      "0x80027801 3 0102
0x40027801 4 0102
0x80037801 5 010203
".toList
    let nodes : List Node := [
      { request := 0x80027801, result := 3, data := [1, 2] },
      { request := 0x40027801, result := 4, data := [1, 2] },
      { request := 0x80037801, result := 5, data := [1, 2, 3] }]
    let argument : Argument := .buffer 0x1000 [7, 8, 9, 10]
    Tree.read text = .ok (some { nodes }) ∧ argument.Fits 0x80027801 ∧
      Replay.respond { tree := some { nodes }, last := some 1 } 0x80027801 argument =
        (some (3, .buffer 0x1000 [1, 2, 9, 10]), { tree := some { nodes }, last := some 0 }) := by
  intro text nodes argument
  have read : Tree.read text = .ok (some { nodes }) := by decide +kernel
  have fits : argument.Fits 0x80027801 := show Request.size _ ≤ _ by decide
  obtain ⟨-, onMatch, -⟩ := respond_in_cyclic_order (Obtained.read read) (some 1) fits
  have found : FirstMatch { nodes } (some 1) 0x80027801 argument 1 nodes[0] :=
    { within := by decide
      met := by decide
      matching := ⟨rfl, .inr ⟨by decide, _, rfl, .inl (by decide)⟩⟩
      first := by
        intro earlier before other met
        obtain rfl : earlier = 0 := Nat.lt_one_iff.mp before
        obtain rfl : nodes[2] = other := Option.some.inj met
        exact fun matching => absurd matching.1 (by decide) }
  exact ⟨read, fits, (onMatch 1 _ found).2.2.1.trans (by decide)⟩

end

end Tree

end DeviceTestbed
