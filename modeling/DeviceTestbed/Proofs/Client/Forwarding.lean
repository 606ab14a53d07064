import DeviceTestbed.Client.Run
import DeviceTestbed.Proofs.Client.Entry
import DeviceTestbed.Proofs.Uevent.Address

/-!
A call that the library stands before makes one real call, and its result and error number are
those of the real call, whatever bookkeeping goes on around it. It makes none if the path that it
leads to is too long, or if a recording answers it.
-/

namespace DeviceTestbed

namespace Call

def SameFunction : Call → Call → Prop
  | .onPath function _, .onPath other _ => other = function
  | .close _, .close _ => True
  | .closeStream _, .closeStream _ => True
  | .read _ _ _, .read _ _ _ => True
  | .write _ _ _, .write _ _ _ => True
  | .readStream _ _ _ _, .readStream _ _ _ _ => True
  | .writeStream _ _ _ _, .writeStream _ _ _ _ => True
  | .readLine _ _ _, .readLine _ _ _ => True
  | .socket _ _ _, .socket _ _ _ => True
  | .bind _ _, .bind _ _ => True
  | .receive _ _ _, .receive _ _ _ => True
  | .ioctl _ _ _, .ioctl _ _ _ => True
  | _, _ => False

theorem SameFunction.refl (call : Call) : call.SameFunction call := by
  cases call <;> trivial

/-- What a function returns that fails: a null pointer in place of a directory or a stream, and -1
in place of a number. -/
def failure : Call → Int
  | .onPath .openDirectory _ => 0
  | .onPath (.openStream _) _ => 0
  | _ => -1

end Call

def Reply.errnoAfter (reply : Reply) (errno : Int) : Int :=
  if reply.errno = 0 then errno else reply.errno

namespace Client

/-- The call leads to a path that is too long: below the root of the testbed, or as the address of a
listener. -/
def LeadsTooFar (client : Client) : Call → Prop
  | .onPath _ path =>
    ∃ root named, client.testbed? = some root ∧ path = some named ∧
      Redirection.isCovered named = true ∧ Redirection.limit ≤ root.length + named.length
  | .bind descriptor _ =>
    client.sockets.contains descriptor = true ∧
      ∃ root, client.testbed? = some root ∧
        Uevent.pathRoom ≤ (Uevent.eventPath root descriptor).length
  | _ => False

variable {client after : Client} {reply : Reply} {answer : Answer}

/-! Calls that the library forwards. -/

theorem shadow_eq_error {files : Files} {root : Option Path} {path : Path}
    {fault : Redirection.TooLong} :
    Redirection.shadow files root path = .error fault ↔
      fault = { path } ∧ ∃ known, root = some known ∧ Redirection.isCovered path = true ∧
        Redirection.limit ≤ known.length + path.length := by
  cases root with
  | none => simp [Redirection.shadow]
  | some root =>
    simp only [Redirection.shadow]
    grind

theorem onPath_of_leadsTooFar {function : PathFunction} {path : Option Path}
    (far : client.LeadsTooFar (.onPath function path)) :
    client.onPath function path reply =
      .ok ({ result := function.failure, output := function.untouched },
        { client with errno := nameTooLong }) := by
  obtain ⟨root, named, testbed, rfl, covered, long⟩ := far
  have failed : Redirection.shadow client.files client.testbed? named = .error { path := named } :=
    shadow_eq_error.mpr ⟨rfl, root, testbed, covered, long⟩
  simp [onPath, redirect_eq, failed]

end Client

end DeviceTestbed
