import DeviceTestbed.Files.Basic

/-!
Opening, reading, writing, creating and removing files. A file that was opened is known by its
node, so it can be written to after its last entry is gone.
-/

namespace DeviceTestbed.Files

def stored (files : Files) (id : NodeId) : Content :=
  (files.contents.get? id).getD {}

def content (files : Files) (id : NodeId) : Bytes :=
  (files.stored id).toBytes

def replace (files : Files) (id : NodeId) (content : Content) : Files :=
  if files.isRegular id then { files with contents := files.contents.insert id content } else files

def store (files : Files) (id : NodeId) (content : Bytes) : Files :=
  files.replace id (.ofBytes content)

def truncate (files : Files) (id : NodeId) : Except FileFault Files :=
  if files.isRegular id then .ok (files.store id []) else .error .notRegular

def append (files : Files) (id : NodeId) (bytes : Bytes) : Files :=
  files.replace id ((files.stored id).append bytes)

/-- How many bytes a file takes while the disk has room for this many. Only a regular file takes
room. -/
def roomFor (files : Files) (id : NodeId) (room : Option Nat) : Option Nat :=
  if files.isRegular id then room else none

/-- Opens for reading. A directory can be opened, but not read. -/
def openRead (files : Files) (path : Path) : Except FileFault NodeId :=
  files.lookup .target path

def read (files : Files) (id : NodeId) : Except FileFault Bytes :=
  if files.isDirectory id then .error .isDirectory else .ok (files.content id)

def setListing (files : Files) (id : NodeId)
    (change : List (Name × NodeId) → List (Name × NodeId)) : Files :=
  match files.directory? id with
  | none => files
  | some (parent, listing) =>
    { files with nodes := files.nodes.setIfInBounds id (.directory parent (change listing)) }

def addNode (files : Files) (directory : NodeId) (name : Name) (node : FileNode) : Files :=
  { files with nodes := files.nodes.push node }.setListing directory
    fun listing => listing ++ [(name, files.nodes.size)]

def addFile (files : Files) (directory : NodeId) (name : Name) : NodeId × Files :=
  let added := files.addNode directory name .regular
  (files.nodes.size, added.store files.nodes.size [])

def openPlace (files : Files) : Place → Except FileFault (NodeId × Files)
  | .vacant directory name => .ok (files.addFile directory name)
  | .node id => if files.isDirectory id then .error .isDirectory else .ok (id, files)
  | .entry _ _ id => if files.isDirectory id then .error .isDirectory else .ok (id, files)

def openWrite (files : Files) (path : Path) : Except FileFault (NodeId × Files) :=
  match files.resolve .file path with
  | .ok place => files.openPlace place
  | .error fault => .error fault

def create (files : Files) (path : Path) : Except FileFault (NodeId × Files) :=
  match files.openWrite path with
  | .error fault => .error fault
  | .ok (id, opened) => .ok (id, opened.store id [])

def writeAt (files : Files) (id : NodeId) (offset : Nat) (bytes : Bytes) : Files :=
  files.replace id ((files.stored id).writeAt offset bytes)

def remove (files : Files) (path : Path) : Except FileFault Files :=
  match files.resolve .entry path with
  | .error fault => .error fault
  | .ok (.vacant _ _) => .error .notFound
  | .ok (.node id) =>
    .error (if files.isDirectory id then .isDirectory else .notDirectory)
  | .ok (.entry directory name id) =>
    if files.isDirectory id then .error .isDirectory
    else .ok (files.setListing directory fun listing => listing.filter fun entry => entry.1 ≠ name)

def makeDirectories (files : Files) (path : Path) (count : Nat) : Files :=
  (List.range count).foldl
    (fun files index =>
      match files.follow .target path ((Path.names path).take (index + 1)) with
      | .ok (.vacant directory name) => files.addNode directory name (.directory directory [])
      | _ => files)
    files

def makeParents (files : Files) (path : Path) : Files :=
  files.makeDirectories path ((Path.names path).length - 1)

inductive Fixture where
  | file (path : Path) (content : Bytes)
  | link (path target : Path)
  | directory (path : Path)
  deriving DecidableEq, Repr

def install (files : Files) : Fixture → Files
  | .file path content =>
    match (files.makeParents path).create path with
    | .ok (id, created) => created.store id content
    | .error _ => files.makeParents path
  | .link path target =>
    match (files.makeParents path).resolve .entry path with
    | .ok (.vacant directory name) =>
      (files.makeParents path).addNode directory name (.link target)
    | _ => files.makeParents path
  | .directory path => files.makeDirectories path (Path.names path).length

def ofFixtures (fixtures : List Fixture) : Files :=
  fixtures.foldl install initial

def filesBelow (files : Files) : Nat → Path → NodeId → List (Path × Bytes)
  | 0, _, _ => []
  | depth + 1, path, id =>
    match files.directory? id with
    | none => []
    | some (_, listing) =>
      listing.flatMap fun (name, child) =>
        let childPath := Path.join path name
        if files.isRegular child then [(childPath, files.content child)]
        else files.filesBelow depth childPath child

/-- Every regular file below the working directory. None lies deeper than there are nodes. -/
def dump (files : Files) : List (Path × Bytes) :=
  files.filesBelow files.nodes.size [] workingDirectory

end DeviceTestbed.Files
