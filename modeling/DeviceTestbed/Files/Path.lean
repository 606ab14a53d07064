import DeviceTestbed.Text.Bytes

/-!
Paths are byte strings cut into names at slashes. A last name that is empty comes from a slash at
the end and asks for a directory.
-/

namespace DeviceTestbed

abbrev Path := Bytes

abbrev Name := Bytes

namespace Path

def slash : UInt8 := 0x2F

def isAbsolute (path : Bytes) : Bool :=
  path.head? == some slash

/-- The names of a path in order. Repeated slashes count as one, and the slash before an absolute
path belongs to no name. -/
def names (path : Bytes) : List Name :=
  let all := pieces (· == slash) path
  all.dropLast.filter (fun name => !name.isEmpty) ++ all.getLast?.toList

/-- A relative path below a root: one slash stands between them unless the root is empty or has it
already. -/
def join (root relative : Bytes) : Bytes :=
  if root.isEmpty || root.getLast? == some slash then root ++ relative
  else root ++ slash :: relative

def isUnder (tree path : Bytes) : Bool :=
  match Bytes.after? tree path with
  | none => false
  | some rest => rest.isEmpty || rest.head? == some slash

end Path

end DeviceTestbed
