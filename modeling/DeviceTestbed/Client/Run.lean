import DeviceTestbed.Client.Entry

/-!
Runs of a program: its calls, and what changes around it in the meantime.
-/

namespace DeviceTestbed

inductive Event where
  | setVariable (name : String) (value : Option Bytes)
  | setClock (time : Nat)
  | install (fixture : Files.Fixture)
  | remove (path : Path)
  | call (errno : Int) (call : Call) (reply : Reply)
  deriving DecidableEq, Repr

namespace Client

def setVariable (client : Client) (name : String) : Option Bytes → Client
  | none => { client with environment := client.environment.erase name }
  | some value => { client with environment := client.environment.insert name value }

def step (client : Client) : Event → Except Halt (Option Answer × Client)
  | .setVariable name value => .ok (none, client.setVariable name value)
  | .setClock time => .ok (none, { client with clock := time })
  | .install fixture => .ok (none, { client with files := client.files.install fixture })
  | .remove path =>
    .ok (none, { client with files := (client.files.remove path).toOption.getD client.files })
  | .call errno call reply => do
    let (answer, client) ← (client.entering errno reply.conditions).perform reply call
    pure (some answer, client)

def run (client : Client) : List Event → Except Halt Client
  | [] => .ok client
  | event :: rest => do
    let (_, client) ← client.step event
    client.run rest

end Client

end DeviceTestbed
