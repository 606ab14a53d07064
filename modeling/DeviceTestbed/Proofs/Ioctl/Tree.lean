import DeviceTestbed.Ioctl.Tree
import DeviceTestbed.Proofs.Ioctl.Node

/-!
The text of a tree is read back as the same tree, with its nodes in order and repeated ones kept.
This holds as long as every node is well-formed, which reading and capturing both see to.
-/

namespace DeviceTestbed.Tree

def WellFormed (tree : Tree) : Prop :=
  ∀ node ∈ tree.nodes, node.WellFormed

instance (tree : Tree) : Decidable tree.WellFormed :=
  inferInstanceAs (Decidable (∀ node ∈ tree.nodes, node.WellFormed))

theorem WellFormed.empty : Tree.empty.WellFormed := by
  intro node member
  exact absurd member List.not_mem_nil

theorem WellFormed.insert {tree : Tree} {node : Node} (all : tree.WellFormed)
    (fresh : node.WellFormed) : (tree.insert node).WellFormed := by
  rw [Tree.insert]
  split
  · exact all
  · intro other member
    rcases List.mem_append.mp member with known | added
    · exact all other known
    · rw [List.mem_singleton.mp added]
      exact fresh

theorem wellFormed_of_readLine {number : Nat} {line : Bytes} {node : Node}
    (found : readLine number line = .ok (some node)) : node.WellFormed := by
  simp only [readLine] at found
  split at found
  · contradiction
  · split at found
    · cases found
    · split at found
      · rename_i parsed
        rw [← Option.some.inj (Except.ok.inj found)]
        exact Node.wellFormed_of_ofFields parsed
      · contradiction

theorem wellFormed_of_readLines {number : Nat} {lines : List Bytes} {nodes : List Node}
    (found : readLines number lines = .ok nodes) : ∀ node ∈ nodes, node.WellFormed := by
  induction lines generalizing number nodes with
  | nil =>
    rw [← Except.ok.inj found]
    intro node member
    exact absurd member List.not_mem_nil
  | cons line lines ih =>
    obtain ⟨first, onLine, afterLine⟩ := Outcome.bind_eq_ok.mp found
    obtain ⟨others, onOthers, afterOthers⟩ := Outcome.bind_eq_ok.mp afterLine
    rw [← Outcome.pure_eq_ok.mp afterOthers]
    intro node member
    rcases List.mem_append.mp member with here | later
    · rw [Option.mem_toList.mp here] at onLine
      exact wellFormed_of_readLine onLine
    · exact ih onOthers node later

theorem wellFormed_of_read {text : Bytes} {tree : Tree} (found : read text = .ok (some tree)) :
    tree.WellFormed := by
  obtain ⟨nodes, onLines, given⟩ := Outcome.bind_eq_ok.mp found
  have same := Outcome.pure_eq_ok.mp given
  split at same
  · contradiction
  · rw [← Option.some.inj same]
    exact wellFormed_of_readLines onLines

/-! Reading the lines that were written. -/

theorem readLine_line (number : Nat) {node : Node} (wellFormed : node.WellFormed) :
    readLine number (Bytes.ofAscii node.line) = .ok (some node) := by
  have decoded := Utf8.decode?_ofAscii (Node.isAscii_line node)
  have notPassedOver : (node.line.isEmpty || isComment node.line) = false := rfl
  simp only [readLine, decoded, Node.trim_line wellFormed, notPassedOver, Bool.false_eq_true,
    ↓reduceIte, Node.fields_line wellFormed, Node.ofFields_line wellFormed]

theorem isAscii_heading : IsAscii heading := by decide

theorem readLine_heading (number : Nat) : readLine number (Bytes.ofAscii heading) = .ok none := by
  have decoded := Utf8.decode?_ofAscii isAscii_heading
  have passedOver : ((trim heading).isEmpty || isComment (trim heading)) = true := by decide
  simp only [readLine, decoded, passedOver, ↓reduceIte]

theorem readLines_nodes_append (number : Nat) {nodes : List Node}
    (wellFormed : ∀ node ∈ nodes, node.WellFormed) (rest : List Bytes) :
    readLines number (nodes.map (fun node => Bytes.ofAscii node.line) ++ rest) =
      (readLines (number + nodes.length) rest).map (nodes ++ ·) := by
  induction nodes generalizing number with
  | nil =>
    change readLines number rest = (readLines number rest).map id
    cases readLines number rest <;> rfl
  | cons node nodes ih =>
    have others :=
      ih (number + 1) fun other member => wellFormed other (List.mem_cons_of_mem _ member)
    have first := readLine_line number (wellFormed node List.mem_cons_self)
    rw [Nat.add_right_comm] at others
    rw [List.map_cons, List.cons_append, readLines, first, others, List.length_cons,
      ← Nat.add_assoc]
    cases readLines (number + nodes.length + 1) rest <;> rfl

theorem readLine_nil (number : Nat) : readLine number [] = .ok none := rfl

theorem readLines_nodes (number : Nat) {nodes : List Node}
    (wellFormed : ∀ node ∈ nodes, node.WellFormed) :
    readLines number (nodes.map (fun node => Bytes.ofAscii node.line) ++ [[]]) = .ok nodes := by
  rw [readLines_nodes_append number wellFormed]
  exact congrArg Except.ok (List.append_nil nodes)

theorem isWhole_ofAscii {text : List Char} (ascii : IsAscii text) (noLineFeed : '\n' ∉ text) :
    IsWhole (· == 0x0A) (Bytes.ofAscii text) := by
  intro byte member
  obtain ⟨character, inText, rfl⟩ := List.mem_map.mp member
  have same := Bytes.toNat_ofAscii (ascii character inText)
  have different : character ≠ '\n' := fun equal => noLineFeed (equal ▸ inText)
  rw [beq_eq_false_iff_ne]
  intro lineFeed
  apply different
  rw [lineFeed] at same
  exact Char.toNat_inj.mp same.symm

theorem render_eq (tree : Tree) :
    tree.render = (Bytes.ofAscii heading ::
      tree.nodes.map fun node => Bytes.ofAscii node.line).flatMap (· ++ [0x0A]) := by
  have ended (line : List Char) : terminated line = Bytes.ofAscii line ++ [0x0A] :=
    Bytes.ofAscii_append line ['\n']
  rw [render, lines, ended, List.flatMap_cons, List.flatMap_map, List.flatten_cons,
    List.flatMap_def]
  simp only [ended]

theorem isWhole_line (tree : Tree) :
    ∀ line ∈ Bytes.ofAscii heading :: tree.nodes.map (fun node => Bytes.ofAscii node.line),
      IsWhole (· == 0x0A) line := by
  intro line member
  rcases List.mem_cons.mp member with rfl | nodeLine
  · exact isWhole_ofAscii isAscii_heading (by decide)
  · obtain ⟨node, -, rfl⟩ := List.mem_map.mp nodeLine
    exact isWhole_ofAscii (Node.isAscii_line node) (Node.lineFeed_not_mem_line node)

theorem pieces_render (tree : Tree) :
    pieces (· == 0x0A) tree.render = Bytes.ofAscii heading ::
      (tree.nodes.map (fun node => Bytes.ofAscii node.line) ++ [[]]) := by
  rw [render_eq, pieces_terminated _ rfl tree.isWhole_line, List.cons_append]

theorem read_render {tree : Tree} (wellFormed : tree.WellFormed) :
    read tree.render = .ok (if tree.nodes.isEmpty then none else some tree) := by
  rw [read, pieces_render, readLines, readLine_heading, readLines_nodes 2 wellFormed]
  rfl

/-! Writing. -/

theorem writeLines_eq (sink : Sink) (lines : List Bytes) :
    (writeLines sink lines).1 =
        (if (sink.write lines.flatten).1 then .ok () else .error .full) ∧
      (writeLines sink lines).2.taken = (sink.write lines.flatten).2.taken := by
  induction lines generalizing sink with
  | nil => cases room : sink.room <;> simp [writeLines, Sink.write, Sink.taken, Sink.fitting, room]
  | cons line lines ih =>
    obtain ⟨finished, later⟩ := ih (sink.write line).2
    rw [List.flatten_cons, Sink.write_append, ← Sink.taken_write_write]
    cases whole : (sink.write line).1 with
    | true =>
      have step : writeLines sink (line :: lines) = writeLines (sink.write line).2 lines := by
        rw [writeLines, ← Prod.eta (sink.write line), whole]
      rw [step, Bool.true_and]
      exact ⟨finished, later⟩
    | false =>
      have stop : writeLines sink (line :: lines) = (.error .full, (sink.write line).2) := by
        rw [writeLines, ← Prod.eta (sink.write line), whole]
      rw [stop, Sink.taken_write_of_full whole]
      exact ⟨rfl, rfl⟩

theorem writeLines_unlimited {sink : Sink} (unlimited : sink.room = none) (lines : List Bytes) :
    (writeLines sink lines).1 = .ok () ∧
      (writeLines sink lines).2.taken = sink.taken ++ lines.flatten := by
  obtain ⟨finished, written⟩ := writeLines_eq sink lines
  rw [finished, written, Sink.taken_write]
  simp [Sink.write, Sink.fitting, unlimited]

theorem writeTo_eq (tree : Tree) (room : Option Nat) :
    (tree.writeTo { room }).1 =
        (if ∀ limit ∈ room, tree.render.length ≤ limit then .ok () else .error .full) ∧
      (tree.writeTo { room }).2.taken = Sink.fitting { room } tree.render := by
  obtain ⟨finished, taken⟩ := writeLines_eq { room } tree.lines
  constructor
  · rw [writeTo, finished]
    cases room <;> simp [Sink.write, render]
  · rw [writeTo, taken, Sink.taken_write]
    rfl

/-- The trees that reading and capturing lead to. -/
inductive Obtained : Tree → Prop
  | empty : Obtained Tree.empty
  | read {text : Bytes} {tree : Tree} (found : Tree.read text = .ok (some tree)) : Obtained tree
  | insert {tree : Tree} {request : Request} {argument : Argument} {result : Int32} {node : Node}
      (before : Obtained tree) (fits : argument.Fits request)
      (captured : Node.capture request argument result = some node) : Obtained (tree.insert node)

theorem Obtained.wellFormed {tree : Tree} (obtained : Obtained tree) : tree.WellFormed := by
  induction obtained with
  | empty => exact WellFormed.empty
  | read found => exact wellFormed_of_read found
  | insert _ fits captured ih => exact ih.insert (Node.wellFormed_of_capture fits captured)

theorem nodes_ne_nil_of_read {text : Bytes} {tree : Tree} (found : read text = .ok (some tree)) :
    tree.nodes.isEmpty = false := by
  obtain ⟨nodes, -, given⟩ := Outcome.bind_eq_ok.mp found
  have same := Outcome.pure_eq_ok.mp given
  split at same
  · contradiction
  · rename_i present
    rw [← Option.some.inj same]
    simpa using present

/-- In every tree that reading and capturing lead to, each node has as many data bytes as its
request calls for, and what is written for the tree is read back as that tree. So the text written
for a tree that was read is canonical, whatever text it was read from. -/
theorem read_render_of_obtained :
    (∀ tree, Obtained tree →
      (∀ node ∈ tree.nodes,
        node.data.length = if node.request.size = 0 then 8 else node.request.size) ∧
      (tree.writeTo {}).1 = .ok () ∧ (tree.writeTo {}).2.taken = tree.render ∧
      read tree.render = .ok (if tree.nodes = [] then none else some tree)) ∧
    ∀ text tree, read text = .ok (some tree) →
      read tree.render = .ok (some tree) ∧
        (read tree.render).map (Option.map render) = .ok (some tree.render) := by
  constructor
  · intro tree obtained
    obtain ⟨finished, written⟩ :=
      writeLines_unlimited (show ({} : Sink).room = none from rfl) tree.lines
    refine ⟨obtained.wellFormed, finished, written, ?_⟩
    simpa using read_render obtained.wellFormed
  · intro text tree found
    have same := read_render (wellFormed_of_read found)
    rw [nodes_ne_nil_of_read found] at same
    refine ⟨same, ?_⟩
    rw [same]
    rfl

theorem read_render_of_repeated_and_captured :
    let text := Bytes.ofAscii
      "# x\n\n 0x80047801 -2147483648 2A000000\r\n0x80047801 -2147483648 2a000000".toList
    let node : Node :=
      { request := 0x80047801, result := -2147483648, data := [0x2A, 0, 0, 0] }
    let added : Node := { request := 0x7803, result := -5, data := [7, 0, 0, 0, 0, 0, 0, 0] }
    read text = .ok (some { nodes := [node, node] }) ∧
      Node.capture 0x7803 (.word 7) (-5) = some added ∧
      read (render { nodes := [node, node, added] }) = .ok (some { nodes := [node, node, added] }) ∧
      read (render { nodes := [node, node] }) = .ok (some { nodes := [node, node] }) := by
  intro text node added
  have found : read text = .ok (some { nodes := [node, node] }) := by decide +kernel
  have captured : Node.capture 0x7803 (.word 7) (-5) = some added := by decide
  have fits : (Argument.word 7).Fits 0x7803 := .inl (by decide)
  obtain ⟨onObtained, onText⟩ := read_render_of_obtained
  have inserted := onObtained _ (Obtained.insert (Obtained.read found) fits captured)
  exact ⟨found, captured, inserted.2.2.2, (onText text _ found).1⟩

end DeviceTestbed.Tree
