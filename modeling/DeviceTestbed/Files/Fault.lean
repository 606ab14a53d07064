/-!
What can be wrong with the use of a path or of an open file.
-/

namespace DeviceTestbed

inductive FileFault where
  | notFound
  | notDirectory
  | isDirectory
  | notLink
  | notRegular
  | nameTooLong
  | tooManyLinks
  | zeroByte
  | noSpace
  deriving DecidableEq, Repr

namespace FileFault

/-- The error number of a fault. A path with a zero byte never reaches the system, so it has the
number of an invalid argument. -/
def code : FileFault → Int
  | .notFound => 2
  | .notDirectory => 20
  | .isDirectory => 21
  | .notLink => 22
  | .notRegular => 22
  | .nameTooLong => 36
  | .tooManyLinks => 40
  | .zeroByte => 22
  | .noSpace => 28

def message : FileFault → String
  | .notFound => "No such file or directory (os error 2)"
  | .notDirectory => "Not a directory (os error 20)"
  | .isDirectory => "Is a directory (os error 21)"
  | .notLink => "Invalid argument (os error 22)"
  | .notRegular => "Invalid argument (os error 22)"
  | .nameTooLong => "File name too long (os error 36)"
  | .tooManyLinks => "Too many levels of symbolic links (os error 40)"
  | .zeroByte => "file name contained an unexpected NUL byte"
  | .noSpace => "No space left on device (os error 28)"

end FileFault

end DeviceTestbed
