import DeviceTestbed.Files.Fault
import DeviceTestbed.Ioctl.Node
import DeviceTestbed.Sink

/-!
Recordings of device control calls: an ordered list of nodes, its text form, and the search for the
node that answers a call.

As text, a tree is a heading and one line per node. When it is read, blank lines and lines that
begin with a hash sign are passed over, and text without any node is no tree.
-/

namespace DeviceTestbed

structure Tree where
  nodes : List Node
  deriving DecidableEq, Repr

namespace Tree

inductive StreamFault where
  | notText
  | full
  | file (fault : FileFault)
  deriving DecidableEq, Repr

def StreamFault.message : StreamFault → String
  | .notText => "stream did not contain valid UTF-8"
  | .full => "disk full"
  | .file fault => fault.message

inductive Fault where
  | stream (fault : StreamFault)
  | line (number : Nat) (fault : Node.Fault)
  deriving DecidableEq, Repr

def Fault.message : Fault → String
  | .stream fault => "IO error: " ++ fault.message
  | .line number fault => "line " ++ toString number ++ ": " ++ fault.message

def empty : Tree := { nodes := [] }

def size (tree : Tree) : Nat := tree.nodes.length

def isEmpty (tree : Tree) : Bool := tree.nodes.isEmpty

def insert (tree : Tree) (node : Node) : Tree :=
  if node ∈ tree.nodes then tree else { nodes := tree.nodes ++ [node] }

def isComment (text : List Char) : Bool :=
  text.head? == some '#'

def readLine (number : Nat) (line : Bytes) : Except Fault (Option Node) :=
  match Utf8.decode? line with
  | none => .error (.stream .notText)
  | some characters =>
    let text := trim characters
    if text.isEmpty || isComment text then .ok none
    else match Node.ofFields (fields text) with
      | .ok node => .ok (some node)
      | .error fault => .error (.line number fault)

def readLines (number : Nat) : List Bytes → Except Fault (List Node)
  | [] => .ok []
  | line :: rest => do
    let found ← readLine number line
    let nodes ← readLines (number + 1) rest
    pure (found.toList ++ nodes)

/-- Lines end at a line feed. A carriage return before it is white space at the end of the line. -/
def read (text : Bytes) : Except Fault (Option Tree) := do
  let nodes ← readLines 1 (pieces (· == 0x0A) text)
  pure (if nodes.isEmpty then none else some { nodes })

def heading : List Char :=
  "# devbed ioctl tree".toList

def terminated (line : List Char) : Bytes :=
  Bytes.ofAscii (line ++ ['\n'])

def lines (tree : Tree) : List Bytes :=
  terminated heading :: tree.nodes.map fun node => terminated node.line

def render (tree : Tree) : Bytes :=
  tree.lines.flatten

def writeLines (sink : Sink) : List Bytes → Except StreamFault Unit × Sink
  | [] => (.ok (), sink)
  | line :: rest =>
    match sink.write line with
    | (true, sink) => writeLines sink rest
    | (false, sink) => (.error .full, sink)

/-- Writes line by line and stops at the first line that is not taken whole. -/
def writeTo (tree : Tree) (sink : Sink) : Except StreamFault Unit × Sink :=
  writeLines sink tree.lines

/-- The place at which a search begins: after the node that answered last, the first node if there
was none. That node is one of a list in memory, which has less than 2 ^ 63, so the place after it is
a 64-bit word too. -/
def startAfter (count : Nat) : Option Nat → Nat
  | none => 0
  | some last => (last + 1) % count

def cycle (tree : Tree) (start : Nat) : List (Node × Nat) :=
  tree.nodes.zipIdx.drop start ++ tree.nodes.zipIdx.take start

def answer? (tree : Tree) (last : Option Nat) (request : Request) (argument : Argument) :
    Option (Node × Nat) :=
  (tree.cycle (startAfter tree.size last)).find? fun (node, _) => node.answers request argument

end Tree

end DeviceTestbed
