import DeviceTestbed.Files.Content
import DeviceTestbed.Files.Fault
import DeviceTestbed.Files.Path
import DeviceTestbed.Mapping

/-!
A file system with directories, symbolic links and regular files, and the way a path leads through
it. Contents are kept apart from the directory structure, so writing to a file changes no path.

Beyond the working directory there is the root directory with an empty device `/dev/null`. Between
the two stands one directory, of which nothing is known but that it holds the working directory.
-/

namespace DeviceTestbed

abbrev NodeId := Nat

inductive FileNode where
  | directory (parent : NodeId) (listing : List (Name × NodeId))
  | link (target : Path)
  | regular
  | drain
  deriving DecidableEq, Repr

/-- The nodes are known by their place. One that no directory lists any more stays, as
it may still be open. -/
structure Files where
  nodes : Array FileNode
  contents : Mapping NodeId Content := {}

namespace Files

def rootDirectory : NodeId := 0

def workingDirectory : NodeId := 4

def initial : Files where
  nodes := #[
    .directory 0 [(Bytes.ofAscii "dev".toList, 1)],
    .directory 0 [(Bytes.ofAscii "null".toList, 2)],
    .drain,
    .directory 0 [],
    .directory 3 []]

def directory? (files : Files) (id : NodeId) : Option (NodeId × List (Name × NodeId)) :=
  match files.nodes[id]? with
  | some (.directory parent listing) => some (parent, listing)
  | _ => none

def target? (files : Files) (id : NodeId) : Option Path :=
  match files.nodes[id]? with
  | some (.link target) => some target
  | _ => none

def isDirectory (files : Files) (id : NodeId) : Bool :=
  (files.directory? id).isSome

def isRegular (files : Files) (id : NodeId) : Bool :=
  files.nodes[id]? == some .regular

inductive Place where
  | node (id : NodeId)
  | entry (directory : NodeId) (name : Name) (id : NodeId)
  /-- An existing directory without an entry of this name. -/
  | vacant (directory : NodeId) (name : Name)
  deriving DecidableEq, Repr

inductive Aim where
  | entry
  | target
  | file
  deriving DecidableEq, Repr

def nameLimit : Nat := 255

def pathLimit : Nat := 4096

def linkLimit : Nat := 40

def start (position : NodeId) (path : Path) : NodeId :=
  if Path.isAbsolute path then rootDirectory else position

/-- Follows names from a directory on. `enter` goes on behind a symbolic link, with the directory
its target starts from and the names still to follow; a link at the very end is left alone if its
entry is meant. A file cannot have a slash behind its name, neither in the path nor in a link that
was followed, so such a name is refused before it is looked up. -/
def descend (files : Files) (aim : Aim)
    (enter : NodeId → List Name → Except FileFault Place) :
    NodeId → List Name → Except FileFault Place
  | position, [] => .ok (.node position)
  | position, name :: rest =>
    match files.directory? position with
    | none => .error .notDirectory
    | some (parent, listing) =>
      if name = [] ∨ name = [0x2E] then descend files aim enter position rest
      else if name = [0x2E, 0x2E] then descend files aim enter parent rest
      else if aim = .file ∧ rest = [[]] then .error .isDirectory
      else if nameLimit < name.length then .error .nameTooLong
      else match Mapping.find name listing with
        | none => if rest = [] then .ok (.vacant position name) else .error .notFound
        | some id =>
          match files.target? id with
          | some target =>
            if aim = .entry ∧ rest = [] then .ok (.entry position name id)
            else enter (start position target) (Path.names target ++ rest)
          | none =>
            if rest = [] then .ok (.entry position name id)
            else descend files aim enter id rest

/-- Follows names through no more than `links` symbolic links. -/
def walk (files : Files) (aim : Aim) : Nat → NodeId → List Name → Except FileFault Place
  | 0 => files.descend aim fun _ _ => .error .tooManyLinks
  | links + 1 => files.descend aim (walk files aim links)

def pathFault? (path : Path) : Option FileFault :=
  if path.contains 0 then some .zeroByte
  else if path = [] then some .notFound
  else if pathLimit ≤ path.length then some .nameTooLong
  else none

def follow (files : Files) (aim : Aim) (path : Path) (names : List Name) :
    Except FileFault Place :=
  files.walk aim linkLimit (start workingDirectory path) names

def resolve (files : Files) (aim : Aim) (path : Path) : Except FileFault Place :=
  match pathFault? path with
  | some fault => .error fault
  | none => files.follow aim path (Path.names path)

def lookup (files : Files) (aim : Aim) (path : Path) : Except FileFault NodeId :=
  match files.resolve aim path with
  | .error fault => .error fault
  | .ok (.node id) => .ok id
  | .ok (.entry _ _ id) => .ok id
  | .ok (.vacant _ _) => .error .notFound

def fault? (files : Files) (path : Path) : Option FileFault :=
  match files.lookup .target path with
  | .ok _ => none
  | .error fault => some fault

def pathExists (files : Files) (path : Path) : Bool :=
  (files.fault? path).isNone

def readLink (files : Files) (path : Path) : Except FileFault Path :=
  match files.lookup .entry path with
  | .error fault => .error fault
  | .ok id =>
    match files.target? id with
    | some target => .ok target
    | none => .error .notLink

end Files

end DeviceTestbed
