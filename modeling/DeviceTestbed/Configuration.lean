import DeviceTestbed.Device.Number
import DeviceTestbed.Ioctl.Recording

/-!
What the environment variables ask for: the testbed in use, and the devices to record.
-/

namespace DeviceTestbed

abbrev Environment := Mapping String Bytes

namespace Environment

/-- The directory of the testbed. An empty value counts as none. -/
def testbed? (environment : Environment) : Option Path :=
  (environment.get? "DEVBED_DIR").filter fun root => !root.isEmpty

end Environment

structure ScriptTarget where
  device : DeviceNumber
  file : Path
  deriving DecidableEq, Repr

structure Configuration where
  ioctl : Option RecordTarget := none
  scripts : List ScriptTarget := []
  deriving DecidableEq, Repr

namespace Configuration

inductive Fault where
  | invalidDevice (name : String) (value : Bytes)
  | missing (name : String)
  deriving DecidableEq, Repr

def Fault.message : Fault → String
  | .invalidDevice name value =>
    "$" ++ name ++ " is not a device number: " ++ Quoted.text (Utf8.lenient value)
  | .missing name => "$" ++ name ++ " not set"

def ioctlDevice : String := "DEVBED_IOCTL_RECORD_DEV"

def ioctlFile : String := "DEVBED_IOCTL_RECORD_FILE"

def scriptDevice (index : Nat) : String :=
  "DEVBED_SCRIPT_RECORD_DEV_" ++ toString index

def scriptFile (index : Nat) : String :=
  "DEVBED_SCRIPT_RECORD_FILE_" ++ toString index

/-- A device number is written in decimal, with white space around it. -/
def parseDevice (name : String) (value : Bytes) : Except Fault DeviceNumber :=
  match Numeral.natural 10 Numeral.largestWord (trim (Utf8.lenient value)) with
  | .ok device => .ok (UInt64.ofNat device)
  | .error _ => .error (.invalidDevice name value)

def readIoctl (environment : Environment) : Except Fault (Option RecordTarget) :=
  match environment.get? ioctlDevice with
  | none => .ok none
  | some value =>
    match parseDevice ioctlDevice value with
    | .error fault => .error fault
    | .ok device =>
      .ok (if device = 0 then none else some { device, file := environment.get? ioctlFile })

def readScript (environment : Environment) (index : Nat) : Except Fault ScriptTarget :=
  match parseDevice (scriptDevice index) ((environment.get? (scriptDevice index)).getD []) with
  | .error fault => .error fault
  | .ok device =>
    match environment.get? (scriptFile index) with
    | none => .error (.missing (scriptFile index))
    | some file => .ok { device, file }

/-- The indices that name a script device, up to the first that does not. Each takes a variable of
its own, so there are no more of them than variables. That an index is a 32-bit word is left out: it
would take an environment with 2 ^ 31 variables to tell. -/
def scriptIndices (environment : Environment) : List Nat :=
  (List.range environment.size).takeWhile fun index => environment.contains (scriptDevice index)

def read (environment : Environment) : Except Fault Configuration := do
  let ioctl ← readIoctl environment
  let scripts ← (scriptIndices environment).mapM (readScript environment)
  pure { ioctl, scripts }

def isEmpty (configuration : Configuration) : Bool :=
  configuration.ioctl.isNone && configuration.scripts.isEmpty

/-- The file for a device; the first of several counts. -/
def scriptFile? (configuration : Configuration) (device : DeviceNumber) : Option Path :=
  (configuration.scripts.find? fun target => target.device == device).map ScriptTarget.file

end Configuration

end DeviceTestbed
