import DeviceTestbed.Proofs.Ioctl.Tree

/-!
A tree file that was cut off is never taken for another tree. A line that breaks off is refused,
since its data is shorter than its request calls for, so what is read are whole lines only.
-/

namespace DeviceTestbed

section

variable {first second third : List Char}

theorem fields_take_whole (whole : IsWhole isBlank third) (size : Nat) :
    fields (third.take size) = [] ∨ fields (third.take size) = [third.take size] := by
  by_cases nothing : third.take size = []
  · rw [nothing]
    exact .inl rfl
  · exact .inr (fields_whole (whole.take size) nothing)

theorem fields_take_three (firstWhole : IsWhole isBlank first) (firstPresent : first ≠ [])
    (secondWhole : IsWhole isBlank second) (secondPresent : second ≠ [])
    (thirdWhole : IsWhole isBlank third) {size : Nat}
    (short : size < (first ++ ' ' :: (second ++ ' ' :: third)).length) :
    (fields ((first ++ ' ' :: (second ++ ' ' :: third)).take size)).length ≤ 2 ∨
      ∃ left < third.length,
        fields ((first ++ ' ' :: (second ++ ' ' :: third)).take size) =
          [first, second, third.take left] := by
  simp only [List.length_append, List.length_cons] at short
  rw [fields_take firstWhole firstPresent]
  split
  · have few := length_fields_whole (firstWhole.take size)
    exact .inl (by omega)
  rename_i pastFirst
  rw [fields_take secondWhole secondPresent]
  split
  · have few := length_fields_whole (secondWhole.take (size - first.length - 1))
    rw [List.length_cons]
    exact .inl (by omega)
  rename_i pastSecond
  rcases fields_take_whole thirdWhole (size - first.length - 1 - second.length - 1) with
    nothing | some
  · rw [nothing]
    exact .inl (Nat.le_refl 2)
  · rw [some]
    exact .inr ⟨_, by omega, rfl⟩

end

namespace Node

theorem ofFields_take_line {node : Node} (wellFormed : node.WellFormed) {size : Nat}
    (short : size < node.line.length) :
    ∃ fault, ofFields (fields (node.line.take size)) = .error fault := by
  cases parsed : ofFields (fields (node.line.take size)) with
  | error fault => exact ⟨fault, rfl⟩
  | ok found =>
    exfalso
    obtain ⟨requestField, resultField, dataField, three, onRequest, -, onData, fitting⟩ :=
      ofFields_eq_ok.mp parsed
    have visible := Hex.isVisible_encode node.data
    rw [line_eq] at short three
    rcases fields_take_three (isWhole_of_visible (isVisible_requestField node.request))
        (List.cons_ne_nil _ _)
        (isWhole_of_visible (Numeral.isVisible_signedDecimal node.result.toInt))
        (signedDecimal_ne_nil _) (isWhole_of_visible visible) short with few | ⟨left, less, same⟩
    · rw [three] at few
      exact absurd few (by simp)
    · rw [same] at three
      obtain ⟨rfl, rfl, rfl⟩ : _ ∧ _ ∧ _ := by simpa using three
      -- The request is whole, so that it tells the length that the data should have.
      have sameRequest := (parseRequest_hexadecimal node.request).symm.trans onRequest
      have ascii : IsAscii ((Hex.encode node.data).take left) :=
        isAscii_of_visible fun character member => visible character (List.mem_of_mem_take member)
      have length := length_of_parseData ascii onData
      rw [fitting, ← Except.ok.inj sameRequest, ← wellFormed, ← Hex.length_encode,
        List.length_take] at length
      omega

end Node

namespace Tree

theorem readLine_error {text : List Char} (ascii : IsAscii text) {character : Char}
    {rest : List Char} (begins : text = character :: rest) (visible : isBlank character = false)
    (noComment : character ≠ '#') {fault : Node.Fault}
    (refused : Node.ofFields (fields text) = .error fault) (number : Nat) :
    readLine number (Bytes.ofAscii text) = .error (.line number fault) := by
  have trimmed : trim text = character :: trimEnd rest := by rw [begins, trim_cons visible]
  have notPassedOver : ((trim text).isEmpty || isComment (trim text)) = false := by
    simp [trimmed, isComment, noComment]
  rw [← fields_trim] at refused
  simp only [readLine, Utf8.decode?_ofAscii ascii, notPassedOver, refused, Bool.false_eq_true,
    ↓reduceIte]

theorem readLine_comment {text : List Char} (ascii : IsAscii text) {rest : List Char}
    (begins : text = '#' :: rest) (number : Nat) :
    readLine number (Bytes.ofAscii text) = .ok none := by
  have trimmed : trim text = '#' :: trimEnd rest := by
    rw [begins, trim_cons (by decide)]
  have passedOver : ((trim text).isEmpty || isComment (trim text)) = true := by
    simp [trimmed, isComment]
  simp only [readLine, Utf8.decode?_ofAscii ascii, passedOver, ↓reduceIte]

theorem isAscii_take {text : List Char} (ascii : IsAscii text) (size : Nat) :
    IsAscii (text.take size) :=
  fun character member => ascii character (List.mem_of_mem_take member)

theorem readLine_take_heading (number size : Nat) :
    readLine number ((Bytes.ofAscii heading).take size) = .ok none := by
  rw [Bytes.ofAscii, ← List.map_take, ← Bytes.ofAscii]
  cases size with
  | zero => exact readLine_nil number
  | succ size => exact readLine_comment (isAscii_take isAscii_heading _) rfl number

theorem readLine_take_line (number : Nat) {node : Node} (wellFormed : node.WellFormed)
    (size : Nat) :
    readLine number ((Bytes.ofAscii node.line).take size) = .ok none ∨
      readLine number ((Bytes.ofAscii node.line).take size) = .ok (some node) ∨
      ∃ fault, readLine number ((Bytes.ofAscii node.line).take size) =
        .error (.line number fault) := by
  rw [Bytes.ofAscii, ← List.map_take, ← Bytes.ofAscii]
  cases size with
  | zero => exact .inl (readLine_nil number)
  | succ size =>
    by_cases short : size + 1 < node.line.length
    · obtain ⟨fault, refused⟩ := Node.ofFields_take_line wellFormed short
      exact .inr (.inr ⟨fault, readLine_error (isAscii_take (Node.isAscii_line node) _) rfl
        (by decide) (by decide) refused number⟩)
    · rw [List.take_of_length_le (Nat.not_lt.mp short)]
      exact .inr (.inl (readLine_line number wellFormed))

theorem read_of_pieces {text rest : Bytes} {nodes : List Node}
    (wellFormed : ∀ node ∈ nodes, node.WellFormed)
    (cut : pieces (· == 0x0A) text = Bytes.ofAscii heading ::
      (nodes.map (fun node => Bytes.ofAscii node.line) ++ [rest])) :
    read text = (readLine (nodes.length + 2) rest).map fun (found : Option Node) =>
      if (nodes ++ found.toList).isEmpty then none
      else some ({ nodes := nodes ++ found.toList } : Tree) := by
  rw [read, cut, readLines, readLine_heading, readLines_nodes_append 2 wellFormed,
    Nat.add_comm 2 nodes.length]
  cases last : readLine (nodes.length + 2) rest with
  | error fault =>
    rw [readLines, last]
    rfl
  | ok found =>
    rw [readLines, last]
    change Except.ok (if (nodes ++ (found.toList ++ [])).isEmpty then none
      else some ({ nodes := nodes ++ (found.toList ++ []) } : Tree)) = _
    rw [List.append_nil]
    rfl

theorem read_take_render {tree : Tree} (wellFormed : tree.WellFormed) (size : Nat) :
    ∃ count,
      read (tree.render.take size) =
          .ok (if (tree.nodes.take count).isEmpty then none
            else some { nodes := tree.nodes.take count }) ∨
        ∃ fault, read (tree.render.take size) = .error (.line (count + 2) fault) := by
  have lineFeed : ((0x0A : UInt8) == 0x0A) = true := rfl
  obtain ⟨count, bound, length, cut⟩ :=
    pieces_take_terminated (· == 0x0A) lineFeed tree.isWhole_line size
  rw [← render_eq] at cut
  -- The pieces are `count` whole lines, the heading among them, and the beginning of the next line.
  cases count with
  | zero =>
    have none : readLine 1 ((Bytes.ofAscii heading).take length) = .ok none :=
      readLine_take_heading 1 length
    refine ⟨0, .inl ?_⟩
    rw [read, cut]
    change readLines 1 [(Bytes.ofAscii heading).take length] >>= _ = _
    rw [readLines, none]
    rfl
  | succ count =>
    have inside : count ≤ tree.nodes.length := by simpa using bound
    have firstNodes : ∀ node ∈ tree.nodes.take count, node.WellFormed :=
      fun node member => wellFormed node (List.mem_of_mem_take member)
    rw [List.take_succ_cons, ← List.map_take, List.getElem?_cons_succ, List.getElem?_map] at cut
    have read := read_of_pieces firstNodes cut
    rw [List.length_take_of_le inside] at read
    cases next : tree.nodes[count]? with
    | none =>
      refine ⟨count, .inl ?_⟩
      rw [read, next, Option.map_none, Option.getD_none, List.take_nil, readLine_nil]
      simp [Except.map]
    | some node =>
      rw [next, Option.map_some, Option.getD_some] at read
      have known := wellFormed node (List.mem_of_getElem? next)
      rcases readLine_take_line (count + 2) known length with nothing | whole | ⟨fault, refused⟩
      · refine ⟨count, .inl ?_⟩
        rw [read, nothing]
        simp [Except.map]
      · refine ⟨count + 1, .inl ?_⟩
        rw [read, whole, List.take_add_one, next]
        rfl
      · refine ⟨count, .inr ⟨fault, ?_⟩⟩
        rw [read, refused]
        rfl

theorem writeTo_limited (tree : Tree) (room : Nat) :
    (tree.writeTo { room := some room }).2.taken = tree.render.take room ∧
      (tree.writeTo { room := some room }).1 =
        if room < tree.render.length then .error .full else .ok () := by
  obtain ⟨finished, taken⟩ := tree.writeTo_eq (some room)
  refine ⟨taken, ?_⟩
  rw [finished]
  by_cases short : room < tree.render.length
  · rw [if_pos short, if_neg]
    simpa using short
  · rw [if_neg short, if_pos]
    simpa using short

/-- An output with room for some bytes takes just the first ones of a tree's text, and writing fails
if that is not all of it. What is read from them is a fault, nothing, or the first nodes of the
tree, never a node that the tree does not have in that place. -/
theorem read_of_truncated {tree : Tree} (wellFormed : tree.WellFormed) (room : Nat) :
    let whole := (tree.writeTo {}).2.taken
    let written := tree.writeTo { room := some room }
    written.2.taken = whole.take room ∧
      written.1 = (if room < whole.length then .error .full else .ok ()) ∧
      ((∃ number fault, read written.2.taken = .error (.line number fault)) ∨
        read written.2.taken = .ok none ∨
        ∃ (found : Tree) (count : Nat), read written.2.taken = .ok (some found) ∧
          found.nodes = tree.nodes.take count) ∧
      ∀ found : Tree, read written.2.taken = .ok (some found) →
        ∀ (place : Nat) (node : Node),
          found.nodes[place]? = some node → tree.nodes[place]? = some node := by
  intro whole written
  have text : whole = tree.render :=
    (writeLines_unlimited (show ({} : Sink).room = none from rfl) tree.lines).2
  obtain ⟨beginning, outcome⟩ : written.2.taken = tree.render.take room ∧ _ :=
    tree.writeTo_limited room
  rw [text, beginning]
  refine ⟨rfl, outcome, ?_⟩
  obtain ⟨count, first | ⟨fault, refused⟩⟩ := read_take_render wellFormed room
  · rw [first]
    constructor
    · split
      · exact .inr (.inl rfl)
      · exact .inr (.inr ⟨_, count, rfl, rfl⟩)
    · intro found accepted place node inFound
      split at accepted
      · cases accepted
      · rw [← Option.some.inj (Except.ok.inj accepted), List.getElem?_take] at inFound
        split at inFound
        · exact inFound
        · cases inFound
  · rw [refused]
    exact ⟨.inl ⟨_, fault, rfl⟩, nofun⟩

theorem read_of_truncated_inside_data :
    let captured : Node := { request := 0x80047801, result := -5, data := [0x2A, 0, 0, 0] }
    let last : Node := { request := 0x7803, result := 0, data := [7, 0, 0, 0, 0, 0, 0, 0] }
    let tree : Tree := { nodes := [captured, last] }
    let inside := tree.writeTo { room := some 56 }
    let between := tree.writeTo { room := some 43 }
    tree.WellFormed ∧
      inside.2.taken = (tree.writeTo {}).2.taken.take 56 ∧ inside.1 = .error .full ∧
      read inside.2.taken = .error (.line 3 (.wrongLength 0x7803 2)) ∧
      between.2.taken = (tree.writeTo {}).2.taken.take 43 ∧
      read between.2.taken = .ok (some { nodes := [captured] }) ∧
      ∀ (place : Nat) (node : Node),
        [captured][place]? = some node → [captured, last][place]? = some node := by
  intro captured last tree inside between
  have wellFormed : tree.WellFormed := by decide
  have partly : read between.2.taken = .ok (some { nodes := [captured] }) := by decide +kernel
  obtain ⟨first, -, -, -⟩ := read_of_truncated wellFormed 56
  obtain ⟨second, -, -, same⟩ := read_of_truncated wellFormed 43
  exact ⟨wellFormed, first, by decide +kernel, by decide +kernel, second, partly,
    same { nodes := [captured] } partly⟩

end Tree

end DeviceTestbed
