import DeviceTestbed.Ioctl.Request
import DeviceTestbed.Text.Blank
import DeviceTestbed.Text.Hex
import DeviceTestbed.Text.Quoted
import DeviceTestbed.Text.Utf8

/-!
One observed device control call, and the line of text that stands for it: the request in
hexadecimal, the result in decimal, and the bytes of the argument after the call.
-/

namespace DeviceTestbed

structure Node where
  request : Request
  result : Int32
  /-- The buffer after the call, or the argument as eight bytes, the least one first. -/
  data : Bytes
  deriving DecidableEq, Repr

namespace Node

/-- The bytes that record an argument. A request with a size has none if it got no buffer. For one
without a size the word itself counts, even if it is the address of a buffer. -/
def argumentData? (request : Request) (argument : Argument) : Option Bytes :=
  if request.size = 0 then some (Bytes.littleEndian 8 argument.value.toNat)
  else argument.buffer?.map fun bytes => bytes.take request.size

def capture (request : Request) (argument : Argument) (result : Int32) : Option Node :=
  (argumentData? request argument).map fun data => { request, result, data }

/-- Whether the node answers a call. What is in a buffer that the device fills does not matter. -/
def answers (node : Node) (request : Request) (argument : Argument) : Bool :=
  node.request == request &&
    match argumentData? request argument with
    | none => false
    | some data => (0 < request.size && request.reads) || node.data == data

def fill (node : Node) (argument : Argument) : Argument :=
  if 0 < node.request.size && node.request.reads then argument.store node.data else argument

inductive Fault where
  | missingRequest
  | unmarkedRequest (field : List Char)
  | badRequest (field : List Char) (cause : Numeral.Fault)
  | missingResult
  | badResult (field : List Char) (cause : Numeral.Fault)
  | missingData
  | badData (cause : Hex.Fault)
  | trailingField (field : List Char)
  | wrongLength (request : Request) (found : Nat)
  deriving DecidableEq, Repr

def dataMessage : Hex.Fault → String
  | .oddLength => "Odd number of digits"
  | .invalidCharacter byte position =>
    "Invalid character " ++ Quoted.character (Char.ofNat byte.toNat) ++
      " at position " ++ toString position

def Fault.message : Fault → String
  | .missingRequest => "missing request"
  | .unmarkedRequest field => "request " ++ Quoted.text field ++ " lacks 0x prefix"
  | .badRequest field cause => "bad request " ++ Quoted.text field ++ ": " ++ cause.message
  | .missingResult => "missing result"
  | .badResult field cause => "bad result " ++ Quoted.text field ++ ": " ++ cause.message
  | .missingData => "missing data"
  | .badData cause => "bad data: " ++ dataMessage cause
  | .trailingField field => "unexpected trailing field " ++ Quoted.text field
  | .wrongLength request found =>
    "request 0x" ++ String.ofList (Numeral.hexadecimal request.toNat) ++ " expects " ++
      toString request.dataLength ++ " data bytes, found " ++ toString found

def parseRequest (field : List Char) : Except Fault Request :=
  match field with
  | '0' :: 'x' :: digits =>
    match Numeral.natural 16 Numeral.largestWord digits with
    | .ok value => .ok (UInt64.ofNat value)
    | .error cause => .error (.badRequest field cause)
  | _ => .error (.unmarkedRequest field)

def parseResult (field : List Char) : Except Fault Int32 :=
  match Numeral.integer 0x7FFFFFFF field with
  | .ok value => .ok (Int32.ofInt value)
  | .error cause => .error (.badResult field cause)

def parseData (field : List Char) : Except Fault Bytes :=
  match Hex.decode (Utf8.encode field) with
  | .ok data => .ok data
  | .error cause => .error (.badData cause)

/-- Reads the fields of a line from the left. The first fault is the one reported, and the number
of data bytes is looked at last. -/
def ofFields : List (List Char) → Except Fault Node
  | [] => .error .missingRequest
  | [requestField] => do
    let _ ← parseRequest requestField
    throw .missingResult
  | [requestField, resultField] => do
    let _ ← parseRequest requestField
    let _ ← parseResult resultField
    throw .missingData
  | requestField :: resultField :: dataField :: rest => do
    let request ← parseRequest requestField
    let result ← parseResult resultField
    let data ← parseData dataField
    match rest with
    | field :: _ => throw (.trailingField field)
    | [] =>
      if data.length = request.dataLength then pure { request, result, data }
      else throw (.wrongLength request data.length)

def line (node : Node) : List Char :=
  '0' :: 'x' :: Numeral.hexadecimal node.request.toNat ++
    ' ' :: Numeral.signedDecimal node.result.toInt ++
    ' ' :: Hex.encode node.data

def WellFormed (node : Node) : Prop :=
  node.data.length = node.request.dataLength

instance (node : Node) : Decidable node.WellFormed :=
  inferInstanceAs (Decidable (_ = _))

end Node

end DeviceTestbed
