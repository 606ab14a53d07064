import DeviceTestbed.Device.Number

/-!
File status of emulated device nodes. A testbed keeps devices as plain files; their status is
reported as that of a block device if the sticky bit is set, and of a character device otherwise.
-/

namespace DeviceTestbed

structure FileStatus where
  mode : UInt32 := 0
  device : DeviceNumber := 0
  deriving DecidableEq, Repr

namespace FileMode

def typeMask : UInt32 := 0o170000

def regular : UInt32 := 0o100000

def link : UInt32 := 0o120000

def directory : UInt32 := 0o040000

def blockDevice : UInt32 := 0o060000

def characterDevice : UInt32 := 0o020000

def sticky : UInt32 := 0o001000

def fileType (mode : UInt32) : UInt32 :=
  mode &&& typeMask

def ofDevice (mode : UInt32) : UInt32 :=
  let plain := mode &&& ~~~regular
  if plain &&& sticky ≠ 0 then plain &&& ~~~sticky ||| blockDevice
  else plain ||| characterDevice

end FileMode

namespace FileStatus

/-- Whether a path is absolute and its first name is `dev`, dots aside. -/
def leadsToDevices (target : Path) : Bool :=
  Path.isAbsolute target &&
    ((Path.names target).filter fun name => !name.isEmpty && name != [0x2E]).head? ==
      some (Bytes.ofAscii "dev".toList)

/-- Whether an entry of the testbed stands for a device: anything but a directory, and of the
symbolic links those that lead to the real devices. -/
def isDevice (files : Files) (shadow : Path) (mode : UInt32) : Bool :=
  if FileMode.fileType mode = FileMode.link then
    match files.readLink shadow with
    | .ok target => leadsToDevices target
    | .error _ => false
  else FileMode.fileType mode ≠ FileMode.directory

def emulate (files : Files) (root shadow : Path) (node : Name) (status : FileStatus) : FileStatus :=
  if isDevice files shadow status.mode then
    { mode := FileMode.ofDevice status.mode, device := DeviceNumber.ofNode files root node }
  else status

end FileStatus

end DeviceTestbed
