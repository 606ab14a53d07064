import DeviceTestbed.Files.Basic
import DeviceTestbed.Text.Utf8

/-!
Paths below `/dev` and `/sys` lead into the testbed: their shadow is the same path below its root.
-/

namespace DeviceTestbed.Redirection

def limit : Nat := 8192

structure TooLong where
  path : Path
  deriving DecidableEq, Repr

def TooLong.message (fault : TooLong) : String :=
  "shadow path for " ++ Utf8.display fault.path ++ " would exceed " ++ toString limit ++ " bytes"

def devices : Path := Bytes.ofAscii "/dev".toList

def system : Path := Bytes.ofAscii "/sys".toList

def switch (root : Path) : Path :=
  root ++ Bytes.ofAscii "/disabled".toList

def isCovered (path : Path) : Bool :=
  Path.isUnder devices path || Path.isUnder system path

/-- Whether the testbed is on and provides the path. It provides all of `/sys`, and of `/dev` the
nodes it has. -/
def isProvided (files : Files) (root path : Path) : Bool :=
  !files.pathExists (switch root) &&
    (!Path.isUnder devices path || files.pathExists (root ++ path)) && !(root ++ path).contains 0

/-- The path to use in place of a given one, if the testbed provides it. Too long a path is a fault
even while the testbed is off. -/
def shadow (files : Files) (root : Option Path) (path : Path) : Except TooLong (Option Path) :=
  match root with
  | none => .ok none
  | some root =>
    if !isCovered path then .ok none
    else if limit ≤ root.length + path.length then .error { path }
    else if isProvided files root path then .ok (some (root ++ path))
    else .ok none

def lookups (files : Files) (root : Option Path) (path : Path) : List Path :=
  match root with
  | none => []
  | some root =>
    if !isCovered path || limit ≤ root.length + path.length then []
    else if files.pathExists (switch root) then [switch root]
    else if Path.isUnder devices path then [switch root, root ++ path]
    else [switch root]

end DeviceTestbed.Redirection
