import DeviceTestbed.Ioctl.Node
import DeviceTestbed.Proofs.Outcome
import DeviceTestbed.Proofs.Text.Hex
import DeviceTestbed.Proofs.Text.Pieces

/-!
A node is read back from the line that stands for it, provided that it has as many data bytes as
its request calls for. Reading a line and capturing a call give no other nodes.
-/

namespace DeviceTestbed

/-- What a program passes along with a request: a buffer that is long enough or a null pointer if
the request has a size, and any word if not, which may be the address of a buffer. -/
def Argument.Fits (request : Request) : Argument → Prop
  | .word value => request.size = 0 ∨ value = 0
  | .buffer _ bytes => request.size ≤ bytes.length

namespace Node

theorem dataLength_pos (request : Request) : 0 < request.dataLength := by
  rw [Request.dataLength]
  split <;> omega

theorem length_argumentData {request : Request} {argument : Argument} {data : Bytes}
    (fits : argument.Fits request) (recorded : argumentData? request argument = some data) :
    data.length = request.dataLength := by
  by_cases sizeless : request.size = 0
  · rw [argumentData?, if_pos sizeless, Option.some.injEq] at recorded
    rw [← recorded, Bytes.length_littleEndian, Request.dataLength, if_pos sizeless]
  · rw [argumentData?, if_neg sizeless] at recorded
    cases argument with
    | word value => cases recorded
    | buffer address bytes =>
      have enough : request.size ≤ bytes.length := fits
      obtain rfl : bytes.take request.size = data := Option.some.inj recorded
      rw [List.length_take, Request.dataLength, if_neg sizeless]
      omega

theorem wellFormed_of_capture {request : Request} {argument : Argument} {result : Int32}
    {node : Node} (fits : argument.Fits request)
    (captured : capture request argument result = some node) : node.WellFormed := by
  obtain ⟨data, recorded, rfl⟩ := Option.map_eq_some_iff.mp captured
  exact length_argumentData fits recorded

/-- A line is a node just if it has three fields, each of them is what it should be, and the data
has the length that the request calls for. -/
theorem ofFields_eq_ok {texts : List (List Char)} {node : Node} :
    ofFields texts = .ok node ↔
      ∃ requestField resultField dataField, texts = [requestField, resultField, dataField] ∧
        parseRequest requestField = .ok node.request ∧ parseResult resultField = .ok node.result ∧
        parseData dataField = .ok node.data ∧ node.WellFormed := by
  constructor
  · intro read
    match texts with
    | [] => contradiction
    | [_] =>
      obtain ⟨_, -, failed⟩ := Outcome.bind_eq_ok.mp read
      contradiction
    | [_, _] =>
      obtain ⟨_, -, afterRequest⟩ := Outcome.bind_eq_ok.mp read
      obtain ⟨_, -, failed⟩ := Outcome.bind_eq_ok.mp afterRequest
      contradiction
    | requestField :: resultField :: dataField :: rest =>
      obtain ⟨request, onRequest, afterRequest⟩ := Outcome.bind_eq_ok.mp read
      obtain ⟨result, onResult, afterResult⟩ := Outcome.bind_eq_ok.mp afterRequest
      obtain ⟨data, onData, afterData⟩ := Outcome.bind_eq_ok.mp afterResult
      match rest with
      | _ :: _ => contradiction
      | [] =>
        by_cases fitting : data.length = request.dataLength
        · simp only [if_pos fitting] at afterData
          obtain rfl := Outcome.pure_eq_ok.mp afterData
          exact ⟨_, _, _, rfl, onRequest, onResult, onData, fitting⟩
        · simp only [if_neg fitting] at afterData
          contradiction
  · rintro ⟨requestField, resultField, dataField, rfl, onRequest, onResult, onData, wellFormed⟩
    simp only [ofFields, onRequest, onResult, onData]
    exact if_pos wellFormed

theorem wellFormed_of_ofFields {texts : List (List Char)} {node : Node}
    (read : ofFields texts = .ok node) : node.WellFormed := by
  obtain ⟨-, -, -, -, -, -, -, wellFormed⟩ := ofFields_eq_ok.mp read
  exact wellFormed

/-! The three fields of a line. -/

theorem parseRequest_hexadecimal (request : Request) :
    parseRequest ('0' :: 'x' :: Numeral.hexadecimal request.toNat) = .ok request := by
  have bound : request.toNat ≤ Numeral.largestWord := Nat.le_of_lt_succ request.toNat_lt
  simp only [parseRequest, Numeral.natural_hexadecimal Numeral.largestWord request.toNat bound,
    UInt64.ofNat_toNat]

theorem parseResult_signedDecimal (result : Int32) :
    parseResult (Numeral.signedDecimal result.toInt) = .ok result := by
  have lower : -((0x7FFFFFFF : Nat) + 1 : Int) ≤ result.toInt := result.le_toInt
  have upper : result.toInt ≤ (0x7FFFFFFF : Nat) := result.toInt_le
  simp only [parseResult, Numeral.integer_signedDecimal 0x7FFFFFFF result.toInt lower upper,
    Int32.ofInt_toInt]

theorem parseData_encode (data : Bytes) : parseData (Hex.encode data) = .ok data := by
  have ascii := isAscii_of_visible (Hex.isVisible_encode data)
  simp only [parseData, Utf8.encode_ascii ascii, Hex.decode_encode]

theorem ofFields_line {node : Node} (wellFormed : node.WellFormed) :
    ofFields ['0' :: 'x' :: Numeral.hexadecimal node.request.toNat,
      Numeral.signedDecimal node.result.toInt, Hex.encode node.data] = .ok node :=
  ofFields_eq_ok.mpr ⟨_, _, _, rfl, parseRequest_hexadecimal _, parseResult_signedDecimal _,
    parseData_encode _, wellFormed⟩

theorem length_of_parseData {field : List Char} {data : Bytes} (ascii : IsAscii field)
    (parsed : parseData field = .ok data) : field.length = 2 * data.length := by
  rw [parseData, Utf8.encode_ascii ascii] at parsed
  split at parsed
  · rename_i decoded
    have length := Hex.length_of_decode decoded
    rw [Bytes.ofAscii, List.length_map, Except.ok.inj parsed] at length
    exact length
  · contradiction

theorem isWhole_of_visible {text : List Char} (visible : ∀ character ∈ text, IsVisible character) :
    IsWhole isBlank text :=
  fun character member => (visible character member).not_isBlank

theorem isVisible_requestField (request : Request) :
    ∀ character ∈ '0' :: 'x' :: Numeral.hexadecimal request.toNat, IsVisible character := by
  intro character member
  rcases List.mem_cons.mp member with rfl | later
  · exact ⟨by decide, by decide⟩
  · rcases List.mem_cons.mp later with rfl | digit
    · exact ⟨by decide, by decide⟩
    · exact Numeral.isVisible_toDigits (by decide) (by decide) _ character digit

theorem encode_ne_nil {node : Node} (wellFormed : node.WellFormed) : Hex.encode node.data ≠ [] := by
  have length := Hex.length_encode node.data
  have positive := dataLength_pos node.request
  rw [wellFormed] at length
  intro none
  rw [none, List.length_nil] at length
  omega

theorem signedDecimal_ne_nil (value : Int) : Numeral.signedDecimal value ≠ [] := by
  cases value with
  | ofNat value => exact Nat.toDigits_ne_nil
  | negSucc value => exact List.cons_ne_nil _ _

theorem line_eq (node : Node) :
    node.line = ('0' :: 'x' :: Numeral.hexadecimal node.request.toNat) ++
      ' ' :: (Numeral.signedDecimal node.result.toInt ++ ' ' :: Hex.encode node.data) :=
  List.append_assoc _ _ _

theorem fields_line {node : Node} (wellFormed : node.WellFormed) :
    fields node.line = ['0' :: 'x' :: Numeral.hexadecimal node.request.toNat,
      Numeral.signedDecimal node.result.toInt, Hex.encode node.data] := by
  have request := isWhole_of_visible (isVisible_requestField node.request)
  have result := isWhole_of_visible (Numeral.isVisible_signedDecimal node.result.toInt)
  have data := isWhole_of_visible (Hex.isVisible_encode node.data)
  rw [line_eq, fields_cons request (List.cons_ne_nil _ _),
    fields_cons result (signedDecimal_ne_nil _), fields_whole data (encode_ne_nil wellFormed)]

theorem trim_line {node : Node} (wellFormed : node.WellFormed) : trim node.line = node.line := by
  have request := isWhole_of_visible (isVisible_requestField node.request)
  have data := isWhole_of_visible (Hex.isVisible_encode node.data)
  have kept := trim_eq_self (' ' :: Numeral.signedDecimal node.result.toInt ++ [' ']) request
    (List.cons_ne_nil _ _) data (encode_ne_nil wellFormed)
  simpa [line] using kept

theorem mem_line {node : Node} {character : Char} (member : character ∈ node.line) :
    IsVisible character ∨ character = ' ' := by
  rcases List.mem_append.mp member with early | data
  · rcases List.mem_append.mp early with request | result
    · exact .inl (isVisible_requestField _ character request)
    · rcases List.mem_cons.mp result with space | digit
      · exact .inr space
      · exact .inl (Numeral.isVisible_signedDecimal _ character digit)
  · rcases List.mem_cons.mp data with space | digit
    · exact .inr space
    · exact .inl (Hex.isVisible_encode _ character digit)

theorem isAscii_line (node : Node) : IsAscii node.line := by
  intro character member
  rcases mem_line member with visible | rfl
  · have upper := visible.2
    omega
  · decide

theorem lineFeed_not_mem_line (node : Node) : '\n' ∉ node.line := by
  intro member
  rcases mem_line member with visible | space
  · exact absurd visible.1 (by decide)
  · exact absurd space (by decide)

end Node

end DeviceTestbed
