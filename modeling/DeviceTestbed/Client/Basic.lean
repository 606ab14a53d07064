import DeviceTestbed.Configuration
import DeviceTestbed.Redirection
import DeviceTestbed.Script.Table
import DeviceTestbed.Client.Call

/-!
A program that runs with the library: its environment and files, its error number, and what the
library keeps about it. Bookkeeping calls the system too. Whether that fails along the way or
succeeds, it may disturb the error number, so it runs quietly: the error number is put back.
-/

namespace DeviceTestbed

/-- What the library logs and otherwise passes over: a file of its own was not written. -/
inductive Warning where
  | recording (descriptor : Descriptor) (fault : Recording.Fault)
  | trace (descriptor : Descriptor) (fault : FileFault)
  deriving DecidableEq, Repr

namespace Warning

def fault? : Warning → Option FileFault
  | .recording _ fault => fault.onFile?
  | .trace _ fault => some fault

def ofClosed (descriptor : Descriptor) : Except Recording.Fault Bool → Option Warning
  | .ok _ => none
  | .error fault => some (.recording descriptor fault)

end Warning

structure Client where
  files : Files
  environment : Environment := {}
  clock : Nat := 0
  errno : Int := 0
  sockets : Uevent.SocketTable := {}
  replays : ReplayTable := {}
  traces : TraceTable := {}
  recording : Recording := {}
  configuration : Option Configuration := none
  calls : List Call := []
  conditions : Conditions := {}
  warnings : List Warning := []

/-- Why the program ends early: the library is set up wrongly or lost track of its own state, or the
program got a file opened without naming one, and the path is then read through a null pointer. -/
inductive Fatal where
  | configuration (fault : Configuration.Fault)
  | replay (fault : Replay.Fault)
  | recording (fault : Recording.Fault)
  | trace (path : Path) (fault : FileFault)
  | table (fault : DescriptorTable.Fault)
  | nullPath
  deriving DecidableEq, Repr

namespace Fatal

def message : Fatal → String
  | .configuration fault => "ERROR: " ++ fault.message
  | .replay fault => "ERROR: " ++ fault.message
  | .recording fault => "ERROR: " ++ fault.message
  | .trace path fault => "ERROR: " ++ (TraceTable.Fault.file path fault).message
  | .table fault => "internal error: " ++ fault.message
  | .nullPath => ""

def signal : Fatal → Option Nat
  | .table _ => some 6
  | .nullPath => some 11
  | _ => none

def exitCode (fatal : Fatal) : Option Nat :=
  if fatal.signal.isSome then none else some 1

/-- The line on the error output. A program that reads through a null pointer leaves none. -/
def report (fatal : Fatal) : String :=
  if fatal = .nullPath then "" else "[devbed-preload] " ++ fatal.message ++ "\n"

end Fatal

structure Halt where
  cause : Fatal
  files : Files

def nameTooLong : Int := FileFault.nameTooLong.code

def badDescriptor : Int := 9

namespace Client

def testbed? (client : Client) : Option Path :=
  client.environment.testbed?

def entering (client : Client) (errno : Int) (conditions : Conditions) : Client :=
  { client with errno, calls := [], conditions, warnings := [] }

def errnoAfter (client : Client) : Option FileFault → Int
  | some fault => fault.code
  | none =>
    if client.conditions.disturbance = 0 then client.errno else client.conditions.disturbance

def noting (client : Client) (fault : Option FileFault) : Client :=
  { client with errno := client.errnoAfter fault }

/-- What is left by a write that may have failed. -/
def warning (client : Client) (warning : Option Warning) : Client :=
  { client with
    errno := client.errnoAfter (warning.bind Warning.fault?)
    warnings := client.warnings ++ warning.toList }

/-- Bookkeeping, with the error number put back. -/
def quietly (client : Client) (work : Client → Client) : Client :=
  { work client with errno := client.errno }

def quietlyTry (client : Client) (work : Client → Except Halt Client) : Except Halt Client :=
  (work client).map fun after => { after with errno := client.errno }

def halt (client : Client) (cause : Fatal) : Except Halt Client :=
  .error { cause, files := client.files }

def callReal (client : Client) (call : Call) (reply : Reply) : Client :=
  { client with
    calls := client.calls ++ [call]
    errno := if reply.errno = 0 then client.errno else reply.errno }

/-- The descriptor of a stream. Asking a stream that has none is an error. -/
def descriptorOf (client : Client) (stream : Stream) : Descriptor × Client :=
  (stream.descriptor,
    if stream.descriptor = -1 then { client with errno := badDescriptor } else client)

def forget (client : Client) (descriptor : Descriptor) : Client :=
  { client.noting none with
    sockets := client.sockets.drop descriptor
    replays := client.replays.drop descriptor
    traces := client.traces.drop descriptor }

def tracking {α : Type} (client : Client) (outcome : Except DescriptorTable.Fault α) :
    Except Halt α :=
  outcome.mapError fun fault => { cause := .table fault, files := client.files }

/-- Drops what is known of a descriptor that is about to be closed, and ends its recording. -/
def release (client : Client) (descriptor : Descriptor) : Except Halt Client :=
  if descriptor < 0 then .ok client
  else do
    let (_, sockets) ← client.tracking (client.sockets.release descriptor)
    let (_, replays) ← client.tracking (client.replays.release descriptor)
    let (closed, recording, files) :=
      client.recording.close client.files descriptor client.conditions.room
    let client :=
      { client with sockets, replays, recording, files }.warning
        (Warning.ofClosed descriptor closed)
    let (_, traces) ← client.tracking (client.traces.release descriptor)
    pure { client with traces }

def redirect (client : Client) (path : Option Path) :
    Except Redirection.TooLong (Option Path) × Client :=
  match path with
  | none => (.ok none, client)
  | some path =>
    (Redirection.shadow client.files client.testbed? path,
      client.quietly fun client =>
        (Redirection.lookups client.files client.testbed? path).foldl
          (fun client looked => client.noting (client.files.fault? looked)) client)

def startReplay (client : Client) (descriptor : Descriptor) (path : Path) :
    Except Halt Client :=
  match client.testbed? with
  | none => .ok client
  | some root =>
    if (Bytes.after? (Bytes.ofAscii "/dev/".toList) path).isNone then .ok client
    else
      let noted := client.noting (client.files.fault? (Replay.path root path))
      match client.replays.attach client.files descriptor root path with
      | .ok replays => .ok { noted with replays }
      | .error (.recording fault) => noted.halt (.replay fault)
      | .error (.table fault) => noted.halt (.table fault)

def configure (client : Client) : Except Halt (Configuration × Client) :=
  match client.configuration with
  | some configuration => .ok (configuration, client)
  | none =>
    match Configuration.read client.environment with
    | .error fault => .error { cause := .configuration fault, files := client.files }
    | .ok configuration =>
      .ok (configuration, { client with configuration := some configuration })

def startRecording (client : Client) (descriptor : Descriptor) (device : DeviceNumber) :
    Option RecordTarget → Except Halt Client
  | none => .ok client
  | some target =>
    if device ≠ target.device then .ok client
    else
      match client.recording.activate client.files descriptor target client.testbed?.isSome with
      | (none, recording, files) => .ok { client.noting none with recording, files }
      | (some fault, recording, files) => { client with recording, files }.halt (.recording fault)

def startTrace (client : Client) (descriptor : Descriptor) : Option Path → Except Halt Client
  | none => .ok client
  | some path =>
    match client.traces.start client.files descriptor path client.clock with
    | (.ok traces, files) => .ok { client.noting none with traces, files }
    | (.error (.file path fault), files) => { client with files }.halt (.trace path fault)
    | (.error (.table fault), files) => { client with files }.halt (.table fault)

def startObserving (client : Client) (descriptor : Descriptor) (device : Option DeviceNumber) :
    Except Halt Client := do
  let (configuration, client) ← client.configure
  if configuration.isEmpty then pure client
  else match device with
    | none => pure { client with errno := badDescriptor }
    | some device =>
      if device = 0 then pure client
      else
        let client ← client.startRecording descriptor device configuration.ioctl
        client.startTrace descriptor (configuration.scriptFile? device)

def opened (client : Client) (descriptor : Descriptor) (path : Option Path) (redirected : Bool)
    (device : Option DeviceNumber) : Except Halt Client :=
  if descriptor < 0 then .ok client
  else match path with
    | none => client.halt .nullPath
    | some path =>
      if redirected then (client.forget descriptor).startReplay descriptor path
      else (client.forget descriptor).startObserving descriptor device

def trace (client : Client) (descriptor : Descriptor) (kind : Operation) (length : Nat)
    (buffer : Option Bytes) : Client :=
  match buffer with
  | none => client
  | some buffer =>
    if descriptor < 0 ∨ length = 0 ∨ client.traces.contains descriptor = false then client
    else client.quietly fun client =>
      let (fault, traces, files) :=
        client.traces.record client.files descriptor kind (Bytes.window 0 length buffer)
          client.clock client.conditions.room
      { client with traces, files }.warning (fault.map (.trace descriptor))

end Client

end DeviceTestbed
