import DeviceTestbed.Client.Basic

/-!
The entry points: what happens in place of each call that a program makes while no guard is held.
The real function is called at most once, and its reply is given beforehand.
-/

namespace DeviceTestbed.Client

/-- The status that the caller of a status function gets. Only a successful call on a device of the
testbed changes what the real function stored. -/
def statusOf (client : Client) (path shadow : Option Path) (buffer : Bool) (reply : Reply) :
    FileStatus × Client :=
  if !buffer then ({}, client)
  else if reply.result ≠ 0 then (reply.status, client)
  else match path, shadow, client.testbed? with
    | some path, some shadow, some root =>
      match Bytes.after? (Bytes.ofAscii "/dev/".toList) path with
      | none => (reply.status, client)
      | some node =>
        let name := Utf8.encode (Utf8.lenient node)
        (reply.status.emulate client.files root shadow name,
          client.quietly fun client =>
            client.noting (client.files.fault? (DeviceNumber.linkPath root name)))
    | _, _, _ => (reply.status, client)

def onPath (client : Client) (function : PathFunction) (path : Option Path) (reply : Reply) :
    Except Halt (Answer × Client) :=
  match client.redirect path with
  | (.error _, client) =>
    .ok ({ result := function.failure, output := function.untouched },
      { client with errno := nameTooLong })
  | (.ok shadow, client) =>
    let client := client.callReal (.onPath function (shadow.or path)) reply
    match function with
    | .openFile _ _ _ => do
      let client ← client.quietlyTry fun client =>
        client.opened reply.result path shadow.isSome reply.device
      pure ({ result := reply.result }, client)
    | .status _ buffer =>
      let (status, client) := client.statusOf path shadow buffer reply
      .ok ({ result := reply.result, output := .status status }, client)
    | _ => .ok ({ result := reply.result, output := function.filled reply }, client)

def close (client : Client) (descriptor : Descriptor) (reply : Reply) :
    Except Halt (Answer × Client) := do
  let client ← client.quietlyTry fun client => client.release descriptor
  pure ({ result := reply.result }, client.callReal (.close descriptor) reply)

def closeStream (client : Client) (stream : Option Stream) (reply : Reply) :
    Except Halt (Answer × Client) := do
  let client ← match stream with
    | none => pure client
    | some stream =>
      let (descriptor, client) := client.descriptorOf stream
      client.quietlyTry fun client => client.release descriptor
  pure ({ result := reply.result }, client.callReal (.closeStream stream) reply)

def read (client : Client) (descriptor : Descriptor) (buffer : Option Bytes) (count : Nat)
    (reply : Reply) : Answer × Client :=
  let client := client.callReal (.read descriptor buffer count) reply
  let filled := reply.fill buffer
  ({ result := reply.result, output := .buffer filled },
    client.trace descriptor .read reply.result.toNat filled)

def write (client : Client) (descriptor : Descriptor) (buffer : Option Bytes) (count : Nat)
    (reply : Reply) : Answer × Client :=
  let client := client.callReal (.write descriptor buffer count) reply
  ({ result := reply.result },
    client.trace descriptor .write reply.result.toNat buffer)

/-- Traces what went through a stream, the first `length` bytes of a buffer. Nothing is asked of the
stream if the function told that nothing did; a negative result tells otherwise, as it stands for a
pointer or an unsigned count. -/
def traceStream (client : Client) (stream : Option Stream) (kind : Operation) (result : Int)
    (length : Nat) (buffer : Option Bytes) : Client :=
  match stream with
  | none => client
  | some stream =>
    if result = 0 then client
    else
      let (descriptor, client) := client.descriptorOf stream
      client.trace descriptor kind length buffer

def readStream (client : Client) (stream : Option Stream) (buffer : Option Bytes)
    (size count : Nat) (reply : Reply) : Answer × Client :=
  let client := client.callReal (.readStream stream buffer size count) reply
  let filled := reply.fill buffer
  ({ result := reply.result, output := .buffer filled },
    client.traceStream stream .read reply.result (reply.result.toNat * size) filled)

def writeStream (client : Client) (stream : Option Stream) (buffer : Option Bytes)
    (size count : Nat) (reply : Reply) : Answer × Client :=
  let client := client.callReal (.writeStream stream buffer size count) reply
  ({ result := reply.result },
    client.traceStream stream .write reply.result (reply.result.toNat * size) buffer)

/-- The line in the buffer ends at its first zero byte. -/
def readLine (client : Client) (stream : Option Stream) (buffer : Option Bytes) (size : Int)
    (reply : Reply) : Answer × Client :=
  let client := client.callReal (.readLine stream buffer size) reply
  let filled := reply.fill buffer
  let line := filled.map fun bytes => bytes.takeWhile (· ≠ 0)
  ({ result := reply.result, output := .buffer filled },
    client.traceStream stream .read reply.result ((line.map List.length).getD 0) line)

def socket (client : Client) (domain type protocol : Int) (reply : Reply) :
    Except Halt (Answer × Client) := do
  let listener := Uevent.isListener domain protocol
  let client := client.callReal
    (if listener then .socket Uevent.localFamily (Uevent.replacementType type) 0
      else .socket domain type protocol) reply
  let client ←
    if reply.result < 0 then pure client
    else client.quietlyTry fun client =>
      let client := client.forget reply.result
      if listener then
        match client.sockets.restart reply.result () with
        | .ok sockets => .ok { client with sockets }
        | .error fault => client.halt (.table fault)
      else .ok client
  pure ({ result := reply.result }, client)

def bind (client : Client) (descriptor : Descriptor) (address : Option Bytes) (reply : Reply) :
    Answer × Client :=
  match client.sockets.get? descriptor, client.testbed? with
  | some _, some root =>
    let path := Uevent.eventPath root descriptor
    match Uevent.LocalAddress.ofPath? path with
    | none => ({ result := -1 }, { client with errno := nameTooLong })
    | some own =>
      let client := client.quietly fun client =>
        match client.files.remove path with
        | .ok files => { client.noting none with files }
        | .error fault => client.noting (some fault)
      ({ result := reply.result }, client.callReal (.bind descriptor (some own.encode)) reply)
  | _, _ => ({ result := reply.result }, client.callReal (.bind descriptor address) reply)

def receive (client : Client) (descriptor : Descriptor) (message : Option Uevent.Message)
    (flags : Int) (reply : Reply) : Answer × Client :=
  let client := client.callReal (.receive descriptor message flags) reply
  let received := message.map fun message =>
    let filled := message.receive reply
    if 0 < reply.result ∧ client.sockets.contains descriptor then
      filled.disguise message.nameLength
    else filled
  ({ result := reply.result, output := .message received }, client)

/-- A call that the recording answers never reaches the real function. Any other call does, and is
recorded unless it failed. -/
def ioctl (client : Client) (descriptor : Descriptor) (request : Request) (argument : Argument)
    (reply : Reply) : Answer × Client :=
  match client.replays.respond descriptor request argument with
  | (some (result, after), replays) =>
    ({ result := result.toInt, output := .argument after }, { client with replays })
  | (none, _) =>
    let client := client.callReal (.ioctl descriptor request argument) reply
    let after := argument.store reply.data
    let client :=
      if reply.result = -1 then client
      else client.quietly fun client =>
        { client.noting none with
          recording :=
            client.recording.record descriptor request after (Int32.ofInt reply.result) }
    ({ result := reply.result, output := .argument after }, client)

def perform (client : Client) (reply : Reply) : Call → Except Halt (Answer × Client)
  | .onPath function path => client.onPath function path reply
  | .close descriptor => client.close descriptor reply
  | .closeStream stream => client.closeStream stream reply
  | .read descriptor buffer count => .ok (client.read descriptor buffer count reply)
  | .write descriptor buffer count => .ok (client.write descriptor buffer count reply)
  | .readStream stream buffer size count =>
    .ok (client.readStream stream buffer size count reply)
  | .writeStream stream buffer size count =>
    .ok (client.writeStream stream buffer size count reply)
  | .readLine stream buffer size => .ok (client.readLine stream buffer size reply)
  | .socket domain type protocol => client.socket domain type protocol reply
  | .bind descriptor address => .ok (client.bind descriptor address reply)
  | .receive descriptor message flags => .ok (client.receive descriptor message flags reply)
  | .ioctl descriptor request argument => .ok (client.ioctl descriptor request argument reply)

end DeviceTestbed.Client
