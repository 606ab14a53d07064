import DeviceTestbed.Proofs.Ioctl.Tree
import DeviceTestbed.Proofs.Text.Fields
import DeviceTestbed.Proofs.Text.Spelling
import Mathlib.Data.List.Forall2
import Mathlib.Data.List.ReduceOption

/-!
The grammar of recordings. Reading accepts just the texts whose lines are blank, comments or nodes,
and otherwise reports the first line that is none of them.
-/

namespace DeviceTestbed

namespace Node

def IsRequest (field : List Char) (request : Request) : Prop :=
  ∃ number, field = '0' :: 'x' :: number ∧ Numeral.SpellsNatural 16 number request.toNat

structure IsLine (text : List Char) (node : Node) : Prop where
  hasFields : ∃ before request gap result other data after,
    text = before ++ request ++ gap ++ result ++ other ++ data ++ after ∧
      IsGap before ∧ (IsGap gap ∧ gap ≠ []) ∧ (IsGap other ∧ other ≠ []) ∧ IsGap after ∧
      IsRequest request node.request ∧ Numeral.SpellsInteger result node.result.toInt ∧
      Hex.Spells data node.data
  length : node.data.length = if node.request.size = 0 then 8 else node.request.size

theorem parseRequest_eq_ok {field : List Char} {request : Request} :
    parseRequest field = .ok request ↔ IsRequest field request := by
  have reading (digits : List Char) : Numeral.natural 16 Numeral.largestWord digits =
      .ok request.toNat ↔ Numeral.SpellsNatural 16 digits request.toNat := by
    rw [Numeral.natural_eq_ok (by decide)]
    exact and_iff_left (Nat.le_of_lt_succ request.toNat_lt)
  unfold parseRequest IsRequest
  split
  · rename_i digits
    constructor
    · intro parsed
      split at parsed
      · rename_i value read
        have known : request.toNat = value := by
          obtain ⟨-, within⟩ := (Numeral.natural_eq_ok (by decide)).mp read
          rw [← Except.ok.inj parsed]
          exact UInt64.toNat_ofNat_of_lt' (Nat.lt_succ_of_le within)
        rw [← known] at read
        exact ⟨digits, rfl, (reading digits).mp read⟩
      · contradiction
    · rintro ⟨number, same, spelled⟩
      cases same
      simp only [(reading digits).mpr spelled, UInt64.ofNat_toNat]
  · rename_i unmarked
    constructor
    · nofun
    · rintro ⟨number, rfl, -⟩
      exact absurd rfl (unmarked number)

theorem parseResult_eq_ok {field : List Char} {result : Int32} :
    parseResult field = .ok result ↔ Numeral.SpellsInteger field result.toInt := by
  have lower : -((0x7FFFFFFF : Nat) + 1 : Int) ≤ result.toInt := result.le_toInt
  have upper : result.toInt ≤ (0x7FFFFFFF : Nat) := result.toInt_le
  unfold parseResult
  constructor
  · intro parsed
    split at parsed
    · rename_i value read
      obtain ⟨spelled, least, most⟩ := Numeral.integer_eq_ok.mp read
      rw [← Except.ok.inj parsed, Int32.toInt_ofInt_of_le least (by omega)]
      exact spelled
    · contradiction
  · intro spelled
    simp only [Numeral.integer_eq_ok.mpr ⟨spelled, lower, upper⟩, Int32.ofInt_toInt]

theorem parseData_eq_ok {field : List Char} {data : Bytes} :
    parseData field = .ok data ↔ Hex.Spells field data := by
  rw [parseData, ← Hex.decode_eq_ok]
  cases Hex.decode (Utf8.encode field) <;> simp

theorem IsRequest.isVisible {field : List Char} {request : Request}
    (isRequest : IsRequest field request) : ∀ character ∈ field, IsVisible character := by
  obtain ⟨number, rfl, spelled⟩ := isRequest
  have later : ∀ character ∈ 'x' :: number, IsVisible character :=
    List.forall_mem_cons.mpr ⟨⟨by decide, by decide⟩, spelled.isVisible (by decide)⟩
  exact List.forall_mem_cons.mpr ⟨⟨by decide, by decide⟩, later⟩

theorem ofFields_fields_eq_ok {text : List Char} {node : Node} :
    ofFields (fields text) = .ok node ↔ IsLine text node := by
  rw [ofFields_eq_ok]
  constructor
  · rintro ⟨request, result, data, same, onRequest, onResult, onData, wellFormed⟩
    obtain ⟨-, -, -, before, gap, other, after, rfl, isBefore, isGap, isOther, isAfter⟩ :=
      fields_eq_three.mp same
    refine ⟨⟨before, request, gap, result, other, data, after, rfl, isBefore, isGap, isOther,
      isAfter, ?_, ?_, ?_⟩, wellFormed⟩
    · exact parseRequest_eq_ok.mp onRequest
    · exact parseResult_eq_ok.mp onResult
    · exact parseData_eq_ok.mp onData
  · rintro ⟨⟨before, request, gap, result, other, data, after, same, isBefore, isGap, isOther,
      isAfter, isRequest, isResult, isData⟩, wellFormed⟩
    have requestPresent : request ≠ [] := by
      obtain ⟨number, rfl, -⟩ := isRequest
      exact List.cons_ne_nil _ _
    have dataPresent : data ≠ [] := by
      have positive := dataLength_pos node.request
      have length := isData.length
      rw [show node.data.length = node.request.dataLength from wellFormed] at length
      apply List.ne_nil_of_length_pos
      omega
    refine ⟨request, result, data, fields_eq_three.mpr ⟨⟨?_, requestPresent⟩, ⟨?_, ?_⟩,
      ⟨?_, dataPresent⟩, before, gap, other, after, same, isBefore, isGap, isOther, isAfter⟩,
      parseRequest_eq_ok.mpr isRequest, parseResult_eq_ok.mpr isResult, parseData_eq_ok.mpr isData,
      wellFormed⟩
    · exact isWhole_of_visible isRequest.isVisible
    · exact isWhole_of_visible isResult.isVisible
    · exact isResult.ne_nil
    · exact isWhole_of_visible isData.isVisible

theorem IsLine.trim {text : List Char} {node : Node} (isLine : IsLine text node) :
    ∃ rest, DeviceTestbed.trim text = '0' :: rest := by
  obtain ⟨⟨before, _, gap, result, other, data, after, rfl, isBefore, -, -, -, ⟨number, rfl, -⟩,
    -, -⟩, -⟩ := isLine
  simp only [List.append_assoc, List.cons_append]
  exact ⟨_, trim_gap_cons isBefore (by decide) _⟩

end Node

namespace Tree

inductive Means : Bytes → Option Node → Prop
  | blank {text : List Char} (isGap : IsGap text) : Means (Utf8.encode text) none
  | comment {gap : List Char} (isGap : IsGap gap) (rest : List Char) :
      Means (Utf8.encode (gap ++ '#' :: rest)) none
  | node {text : List Char} {node : Node} (isLine : Node.IsLine text node) :
      Means (Utf8.encode text) (some node)

inductive IsFaulty (number : Nat) : Bytes → Fault → Prop
  | notText {line : Bytes} (noText : ∀ text, line ≠ Utf8.encode text) :
      IsFaulty number line (.stream .notText)
  | malformed {text : List Char} {cause : Node.Fault}
      (meaningless : ∀ found, ¬ Means (Utf8.encode text) found)
      (cause_eq : Node.ofFields (fields text) = .error cause) :
      IsFaulty number (Utf8.encode text) (.line number cause)

section

variable {number : Nat} {line : Bytes} {text : List Char}

theorem passedOver_iff :
    ((trim text).isEmpty || isComment (trim text)) = true ↔ Means (Utf8.encode text) none := by
  constructor
  · intro passedOver
    rcases gap_or_visible text with isGap | ⟨gap, character, rest, isGap, visible, rfl⟩
    · exact .blank isGap
    · rw [trim_gap_cons isGap visible] at passedOver
      obtain rfl : character = '#' := by simpa [isComment] using passedOver
      exact .comment isGap rest
  · generalize encoded : Utf8.encode text = line
    intro blank
    cases blank with
    | blank isGap =>
      rw [Utf8.encode_injective encoded, trim_gap isGap]
      rfl
    | comment isGap rest =>
      rw [Utf8.encode_injective encoded, trim_gap_cons isGap (by decide)]
      rfl

theorem readLine_encode (number : Nat) (text : List Char) :
    readLine number (Utf8.encode text) =
      if (trim text).isEmpty || isComment (trim text) then .ok none
      else ((Node.ofFields (fields text)).map some).mapError (Fault.line number) := by
  simp only [readLine, Utf8.decode?_encode, fields_trim]
  split
  · rfl
  · cases Node.ofFields (fields text) <;> rfl

theorem not_passedOver {node : Node} (isLine : Node.IsLine text node) :
    ((trim text).isEmpty || isComment (trim text)) = false := by
  obtain ⟨rest, trimmed⟩ := isLine.trim
  rw [trimmed]
  rfl

theorem readLine_eq_ok {found : Option Node} :
    readLine number line = .ok found ↔ Means line found := by
  constructor
  · intro read
    cases decoded : Utf8.decode? line with
    | none =>
      rw [readLine, decoded] at read
      contradiction
    | some text =>
      obtain rfl := Utf8.decode?_eq_some.mp decoded
      rw [readLine_encode] at read
      split at read
      · rename_i passedOver
        cases read
        exact passedOver_iff.mp passedOver
      · obtain ⟨node, parsed, rfl⟩ := Outcome.map_eq_ok.mp (Outcome.mapError_eq_ok.mp read)
        exact .node (Node.ofFields_fields_eq_ok.mp parsed)
  · intro means
    cases found with
    | none =>
      obtain ⟨text, rfl⟩ : ∃ text, line = Utf8.encode text := by
        cases means with
        | blank => exact ⟨_, rfl⟩
        | comment => exact ⟨_, rfl⟩
      rw [readLine_encode, if_pos (passedOver_iff.mpr means)]
    | some node =>
      cases means with
      | node isLine =>
        rw [readLine_encode, not_passedOver isLine, Node.ofFields_fields_eq_ok.mpr isLine]
        rfl

theorem readLine_eq_error {fault : Fault} :
    readLine number line = .error fault ↔ IsFaulty number line fault := by
  constructor
  · intro failed
    cases decoded : Utf8.decode? line with
    | none =>
      rw [readLine, decoded] at failed
      cases failed
      exact .notText (Utf8.decode?_eq_none.mp decoded)
    | some text =>
      obtain rfl := Utf8.decode?_eq_some.mp decoded
      have meaningless (found : Option Node) : ¬ Means (Utf8.encode text) found := by
        intro means
        rw [readLine_eq_ok.mpr means] at failed
        contradiction
      rw [readLine_encode] at failed
      split at failed
      · contradiction
      · obtain ⟨cause, parsed, rfl⟩ := Outcome.mapError_eq_error.mp failed
        exact .malformed meaningless (Outcome.map_eq_error.mp parsed)
  · intro faulty
    cases faulty with
    | notText noText =>
      rw [readLine, Utf8.decode?_eq_none.mpr noText]
    | malformed meaningless cause_eq =>
      have kept := mt passedOver_iff.mp (meaningless none)
      rw [readLine_encode, if_neg kept, cause_eq]
      rfl

end

/-! Reading line after line. -/

theorem readLines_eq_ok {number : Nat} {lines : List Bytes} {nodes : List Node} :
    readLines number lines = .ok nodes ↔
      ∃ found, List.Forall₂ Means lines found ∧ nodes = found.reduceOption := by
  induction lines generalizing number nodes with
  | nil =>
    simp only [readLines, List.forall₂_nil_left_iff, exists_eq_left, Except.ok.injEq]
    exact eq_comm
  | cons line lines ih =>
    rw [readLines, Outcome.bind_eq_ok]
    simp only [Outcome.bind_eq_ok, Outcome.pure_eq_ok, readLine_eq_ok, ih,
      List.forall₂_cons_left_iff]
    constructor
    · rintro ⟨first, means, _, ⟨others, later, rfl⟩, rfl⟩
      refine ⟨first :: others, ⟨first, others, means, later, rfl⟩, ?_⟩
      cases first <;> rfl
    · rintro ⟨_, ⟨first, others, means, later, rfl⟩, rfl⟩
      refine ⟨first, means, _, ⟨others, later, rfl⟩, ?_⟩
      cases first <;> rfl

theorem readLines_eq_error {number : Nat} {lines : List Bytes} {fault : Fault} :
    readLines number lines = .error fault ↔
      ∃ before line after, lines = before ++ line :: after ∧
        (∀ earlier ∈ before, ∃ found, Means earlier found) ∧
        IsFaulty (number + before.length) line fault := by
  induction lines generalizing number with
  | nil =>
    simp [readLines]
  | cons line lines ih =>
    rw [readLines, Outcome.bind_eq_error, readLine_eq_error]
    simp only [Outcome.bind_eq_error, readLine_eq_ok, ih]
    constructor
    · rintro (faulty | ⟨found, means, ⟨before, later, after, rfl, fine, faulty⟩ | ⟨_, -, done⟩⟩)
      · exact ⟨[], line, lines, rfl, fun _ member => absurd member List.not_mem_nil, faulty⟩
      · refine ⟨line :: before, later, after, rfl, ?_, ?_⟩
        · exact List.forall_mem_cons.mpr ⟨⟨found, means⟩, fine⟩
        · rw [List.length_cons, Nat.add_comm before.length, ← Nat.add_assoc]
          exact faulty
      · contradiction
    · rintro ⟨before, faultyLine, after, same, fine, faulty⟩
      cases before with
      | nil =>
        cases same
        exact .inl faulty
      | cons first before =>
        cases same
        obtain ⟨⟨found, means⟩, others⟩ := List.forall_mem_cons.mp fine
        refine .inr ⟨found, means, .inl ⟨before, faultyLine, after, rfl, others, ?_⟩⟩
        rw [List.length_cons, Nat.add_comm before.length, ← Nat.add_assoc] at faulty
        exact faulty

end Tree

/-! The lines of a text. -/

namespace Bytes

def dropReturn (line : Bytes) : Bytes :=
  if line.getLast? = some 0x0D then line.dropLast else line

/-- The lines that were cut at line feeds. Behind the last line feed there is no empty line. -/
def ended : List Bytes → List Bytes
  | [] => []
  | [last] => if last.isEmpty then [] else [last]
  | line :: next :: rest => dropReturn line :: ended (next :: rest)

/-- A line feed ends a line, together with a carriage return before it. -/
def lines (text : Bytes) : List Bytes :=
  ended (pieces (· == 0x0A) text)

end Bytes

namespace Tree

theorem readLine_dropReturn (number : Nat) (line : Bytes) :
    readLine number (Bytes.dropReturn line) = readLine number line := by
  by_cases returned : line.getLast? = some 0x0D
  · obtain ⟨content, rfl⟩ := List.getLast?_eq_some_iff.mp returned
    rw [Bytes.dropReturn, if_pos returned, List.dropLast_concat]
    cases decoded : Utf8.decode? content with
    | none =>
      have undecoded : Utf8.decode? (content ++ [0x0D]) = none := by
        apply Utf8.decode?_eq_none.mpr
        intro text encoded
        obtain ⟨before, -, same⟩ := Utf8.encode_eq_concat (by decide) encoded.symm
        exact Utf8.decode?_eq_none.mp decoded before same
      rw [readLine, readLine, decoded, undecoded]
    | some text =>
      obtain rfl := Utf8.decode?_eq_some.mp decoded
      have whole : Utf8.encode text ++ [0x0D] = Utf8.encode (text ++ ['\r']) :=
        (Utf8.encode_append text ['\r']).symm
      have blank : isBlank '\r' = true := by decide
      rw [whole, readLine_encode, readLine_encode, trim_append_blank blank,
        fields_append_blank text blank]
  · rw [Bytes.dropReturn, if_neg returned]

theorem readLines_ended (number : Nat) (pieces : List Bytes) :
    readLines number (Bytes.ended pieces) = readLines number pieces := by
  induction pieces using Bytes.ended.induct generalizing number with
  | case1 => rfl
  | case2 last empty =>
    rw [Bytes.ended, if_pos empty, List.isEmpty_iff.mp empty]
    rfl
  | case3 last present => rw [Bytes.ended, if_neg present]
  | case4 line next rest ih => rw [Bytes.ended, readLines, readLines, readLine_dropReturn, ih]

theorem read_eq_readLines (text : Bytes) :
    read text = readLines 1 (Bytes.lines text) >>= fun nodes =>
      pure (if nodes.isEmpty then none else some { nodes }) := by
  rw [read, Bytes.lines, readLines_ended]

theorem nothing_meant_iff {lines : List Bytes} :
    (∃ found, List.Forall₂ Means lines found ∧ found.reduceOption = []) ↔
      ∀ line ∈ lines, Means line none := by
  induction lines with
  | nil => simp
  | cons line lines ih =>
    rw [List.forall_mem_cons, ← ih]
    simp only [List.forall₂_cons_left_iff]
    constructor
    · rintro ⟨_, ⟨first, others, means, later, rfl⟩, nothing⟩
      cases first with
      | none => exact ⟨means, others, later, nothing⟩
      | some node => contradiction
    · rintro ⟨means, others, later, nothing⟩
      exact ⟨none :: others, ⟨none, others, means, later, rfl⟩, nothing⟩

/-- Reading a text gives a tree just if every line stands for nothing or for a node and there is a
node; the nodes are those of the lines, in order. If no line stands for a node there is no tree. All
other texts are refused for the first line that has no meaning, by its number. -/
theorem read_exactly_grammar (text : Bytes) :
    (∀ tree, read text = .ok (some tree) ↔
      tree.nodes ≠ [] ∧ ∃ found,
        List.Forall₂ Means (Bytes.lines text) found ∧ tree.nodes = found.reduceOption) ∧
    (read text = .ok none ↔ ∀ line ∈ Bytes.lines text, Means line none) ∧
    ∀ fault, read text = .error fault ↔
      ∃ before line after, Bytes.lines text = before ++ line :: after ∧
        (∀ earlier ∈ before, ∃ found, Means earlier found) ∧
        IsFaulty (before.length + 1) line fault := by
  have reading (answer : Option Tree) : read text = .ok answer ↔
      ∃ nodes, (∃ found, List.Forall₂ Means (Bytes.lines text) found ∧ nodes = found.reduceOption) ∧
        (if nodes.isEmpty then none else some { nodes }) = answer := by
    simp only [read_eq_readLines, Outcome.bind_eq_ok, Outcome.pure_eq_ok, readLines_eq_ok]
  refine ⟨fun tree => ?_, ?_, fun fault => ?_⟩
  · rw [reading]
    constructor
    · rintro ⟨nodes, onLines, same⟩
      split at same
      · contradiction
      · rename_i present
        cases same
        exact ⟨by simpa using present, onLines⟩
    · rintro ⟨present, onLines⟩
      exact ⟨tree.nodes, onLines, by simp [present]⟩
  · rw [reading, ← nothing_meant_iff]
    constructor
    · rintro ⟨_, ⟨found, means, rfl⟩, same⟩
      split at same
      · rename_i nothing
        exact ⟨found, means, List.isEmpty_iff.mp nothing⟩
      · contradiction
    · rintro ⟨found, means, nothing⟩
      exact ⟨[], ⟨found, means, nothing.symm⟩, rfl⟩
  · rw [read_eq_readLines, Outcome.bind_eq_error, readLines_eq_error]
    simp only [Nat.add_comm 1]
    constructor
    · rintro (faulty | ⟨_, -, done⟩)
      · exact faulty
      · contradiction
    · exact .inl

end Tree

end DeviceTestbed
