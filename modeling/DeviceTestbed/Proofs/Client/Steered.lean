import DeviceTestbed.Proofs.Client.History
import DeviceTestbed.Proofs.Ioctl.Recording
import DeviceTestbed.Proofs.Outcome

/-!
What each entry point does to the recording: a descriptor opened on the device to record becomes the
active one, and closing the active one ends recording. No other call changes which one is active.
-/

namespace DeviceTestbed

theorem Recording.active_close (recording : Recording) (files : Files) (descriptor : Descriptor)
    (room : Option Nat) :
    (recording.close files descriptor room).2.1.active =
      if recording.active = some descriptor then none else recording.active := by
  unfold close
  split <;> rfl

theorem Recording.active_activate {recording after : Recording} {files opened : Files}
    {descriptor : Descriptor} {target : RecordTarget} {testbed : Bool}
    (activated : recording.activate files descriptor target testbed = (none, after, opened)) :
    after.active = some descriptor := by
  unfold activate openOutput at activated
  grind

theorem Recording.active_record (recording : Recording) (descriptor : Descriptor)
    (request : Request) (argument : Argument) (result : Int32) :
    (recording.record descriptor request argument result).active = recording.active := by
  unfold record
  split
  · split <;> rfl
  · rfl

/-- What the recording is asked to do when something happens to a descriptor. That there is a
testbed or no room on the disk makes no difference to which descriptor is active. -/
def asked (target : Option RecordTarget) : Descriptor × Origin → Option Recording.Step
  | (descriptor, .opened device) =>
    target.bind fun target =>
      if device = some target.device ∧ target.device ≠ 0 then
        some (.activate descriptor target false)
      else none
  | (descriptor, .closed) => some (.close descriptor none)
  | _ => none

def steered (target : Option RecordTarget) (active : Option Descriptor)
    (touched : Option (Descriptor × Origin)) : Option Descriptor :=
  ((touched.bind (asked target)).map fun step => step.activeAfter active).getD active

theorem steered_opened_target {target : RecordTarget} (nonzero : target.device ≠ 0)
    (active : Option Descriptor) (descriptor : Descriptor) :
    steered (some target) active (some (descriptor, .opened (some target.device))) =
      some descriptor := by
  simp [steered, asked, nonzero, Recording.Step.activeAfter]

theorem steered_opened_other {target : Option RecordTarget} {device : Option DeviceNumber}
    (other : ∀ known, target = some known → device = some known.device → known.device = 0)
    (active : Option Descriptor) (descriptor : Descriptor) :
    steered target active (some (descriptor, .opened device)) = active := by
  cases target with
  | none => rfl
  | some known =>
    have unwanted : ¬ (device = some known.device ∧ known.device ≠ 0) :=
      fun ⟨same, nonzero⟩ => nonzero (other known rfl same)
    simp only [steered, asked, Option.bind_some, if_neg unwanted, Option.map_none, Option.getD_none]

namespace Client

def target? (client : Client) : Option RecordTarget :=
  client.configuration.bind Configuration.ioctl

def Steers (before after : Client) (touched : Option (Descriptor × Origin)) : Prop :=
  after.recording.active = steered after.target? before.recording.active touched

variable {client after : Client}

theorem Steers.of_kept {α : Type} {answered : α × Client} {answer : α}
    (done : (Except.ok answered : Except Halt (α × Client)) = .ok (answer, after))
    (kept : answered.2.recording.active = client.recording.active) : client.Steers after none := by
  obtain rfl := congrArg Prod.snd (Except.ok.inj done)
  exact kept

theorem recording_descriptorOf (client : Client) (stream : Stream) :
    (client.descriptorOf stream).2.recording = client.recording := by
  unfold descriptorOf
  split <;> rfl

theorem recording_trace (client : Client) (descriptor : Descriptor) (kind : Operation)
    (length : Nat) (buffer : Option Bytes) :
    (client.trace descriptor kind length buffer).recording = client.recording := by
  obtain ⟨_, _, _, traced⟩ := client.trace_eq descriptor kind length buffer
  rw [traced]

theorem recording_traceStream (client : Client) (stream : Option Stream) (kind : Operation)
    (result : Int) (length : Nat) (buffer : Option Bytes) :
    (client.traceStream stream kind result length buffer).recording = client.recording := by
  cases stream with
  | none => rfl
  | some stream =>
    simp only [traceStream]
    split
    · rfl
    · rw [recording_trace, recording_descriptorOf]

theorem recording_bind (client : Client) (descriptor : Descriptor) (address : Option Bytes)
    (reply : Reply) : (client.bind descriptor address reply).2.recording = client.recording := by
  obtain ⟨_, -, -, -, bound⟩ | ⟨_, _, -, -, -, bound⟩ | ⟨-, bound⟩ :=
    client.bind_cases descriptor address reply
  all_goals exact congrArg (fun outcome => outcome.2.recording) bound

theorem steers_release {descriptor : Descriptor}
    (released : client.release descriptor = .ok after) :
    client.Steers after (touching descriptor .closed) := by
  unfold touching
  by_cases negative : descriptor < 0
  · rw [release_of_negative negative] at released
    obtain rfl := Except.ok.inj released
    rw [if_pos negative]
    rfl
  · rw [release_of_valid negative] at released
    obtain rfl := Except.ok.inj released
    rw [if_neg negative]
    exact Recording.active_close _ _ _ _

theorem active_of_startRecording {descriptor : Descriptor} {device : DeviceNumber}
    {target : Option RecordTarget} (nonzero : device ≠ 0)
    (started : client.startRecording descriptor device target = .ok after) :
    after.target? = client.target? ∧
      after.recording.active =
        steered target client.recording.active (some (descriptor, .opened (some device))) := by
  cases target with
  | none =>
    obtain rfl := Except.ok.inj started
    exact ⟨rfl, (steered_opened_other (by simp) _ _).symm⟩
  | some target =>
    simp only [startRecording] at started
    split at started
    · rename_i different
      obtain rfl := Except.ok.inj started
      refine ⟨rfl, (steered_opened_other ?_ _ _).symm⟩
      intro known wanted opened
      obtain rfl := Option.some.inj wanted
      exact absurd (Option.some.inj opened) different
    · rename_i same
      obtain rfl := not_not.mp same
      rw [steered_opened_target nonzero]
      split at started
      · rename_i activated
        obtain rfl := Except.ok.inj started
        exact ⟨rfl, Recording.active_activate activated⟩
      · cases started

theorem steers_startObserving {descriptor : Descriptor} {device : Option DeviceNumber}
    (started : client.startObserving descriptor device = .ok after) :
    client.Steers after (some (descriptor, .opened device)) := by
  obtain ⟨⟨known, configured⟩, read, observed⟩ := Outcome.bind_eq_ok.mp started
  obtain rfl := eq_of_configure read
  dsimp only at observed
  split at observed
  · rename_i empty
    obtain rfl := Except.ok.inj observed
    rw [Configuration.isEmpty, Bool.and_eq_true] at empty
    have none : known.ioctl = none := Option.isNone_iff_eq_none.mp empty.1
    change _ = steered known.ioctl _ _
    rw [steered_opened_other (by simp [none])]
  · cases device with
    | none =>
      obtain rfl := Except.ok.inj observed
      rw [Steers, steered_opened_other (by simp)]
    | some device =>
      dsimp only at observed
      split at observed
      · rename_i zero
        obtain rfl := Except.ok.inj observed
        rw [Steers, steered_opened_other]
        intro wanted _ opened
        exact (Option.some.inj opened).symm.trans zero
      · rename_i nonzero
        obtain ⟨recorded, first, second⟩ := Outcome.bind_eq_ok.mp observed
        obtain ⟨same, active⟩ := active_of_startRecording nonzero first
        obtain ⟨_, _, _, rfl⟩ := eq_of_startTrace second
        change recorded.recording.active = steered recorded.target? _ _
        rw [same, active]
        rfl

theorem steers_opened {descriptor : Descriptor} {path : Path} {redirected : Bool}
    {device : Option DeviceNumber}
    (done : client.opened descriptor (some path) redirected device = .ok after) :
    client.Steers after
      (touching descriptor (if redirected then .redirected path else .opened device)) := by
  unfold touching
  unfold opened at done
  split at done
  · rename_i negative
    obtain rfl := Except.ok.inj done
    rw [if_pos negative]
    rfl
  · rename_i valid
    rw [if_neg valid]
    dsimp only at done
    cases redirected with
    | true =>
      obtain ⟨_, _, rfl⟩ := eq_of_startReplay done
      rfl
    | false =>
      have steered := steers_startObserving done
      exact steered

theorem steers_close {descriptor : Descriptor} {reply : Reply} {answer : Answer}
    (done : client.close descriptor reply = .ok (answer, after)) :
    client.Steers after (touching descriptor .closed) := by
  obtain ⟨worked, work, -, rfl⟩ := quietlyTry_bind_eq_ok done
  have steered := steers_release work
  exact steered

theorem steers_closeStream {stream : Option Stream} {reply : Reply} {answer : Answer}
    (done : client.closeStream stream reply = .ok (answer, after)) :
    client.Steers after (client.touched reply (.closeStream stream)) := by
  cases stream with
  | none =>
    obtain ⟨-, rfl⟩ := Prod.mk.inj (Except.ok.inj done)
    rfl
  | some stream =>
    obtain ⟨worked, work, -, rfl⟩ := quietlyTry_bind_eq_ok done
    have steered : (client.descriptorOf stream).2.Steers worked _ := steers_release work
    rw [Steers, recording_descriptorOf] at steered
    exact steered

theorem steers_socket {domain type protocol : Int} {reply : Reply} {answer : Answer}
    (done : client.socket domain type protocol reply = .ok (answer, after)) :
    client.Steers after (touching reply.result (.socket domain protocol)) := by
  unfold socket at done
  rw [touching]
  dsimp only at done
  split at done
  · rename_i negative
    obtain ⟨-, rfl⟩ := Prod.mk.inj (Except.ok.inj done)
    rw [if_pos negative]
    rfl
  · rename_i valid
    obtain ⟨worked, work, -, rfl⟩ := quietlyTry_bind_eq_ok done
    rw [if_neg valid]
    split at work
    · split at work
      · rw [← Except.ok.inj work]
        rfl
      · cases work
    · rw [← Except.ok.inj work]
      rfl

theorem steers_openFile {wide : Bool} {flags : Int} {mode : Nat} {path : Option Path}
    {reply : Reply} {answer : Answer}
    (done : client.onPath (.openFile wide flags mode) path reply = .ok (answer, after)) :
    client.Steers after (client.touched reply (.onPath (.openFile wide flags mode) path)) := by
  unfold onPath at done
  cases path with
  | none =>
    obtain ⟨worked, work, -, rfl⟩ := quietlyTry_bind_eq_ok done
    unfold opened at work
    split at work
    · rw [← Except.ok.inj work]
      rfl
    · cases work
  | some path =>
    rw [redirect_eq] at done
    rw [touched]
    cases found : Redirection.shadow client.files client.testbed? path with
    | error fault =>
      rw [found] at done
      obtain ⟨-, rfl⟩ := Prod.mk.inj (Except.ok.inj done)
      rfl
    | ok shadow =>
      rw [found] at done
      obtain ⟨worked, work, -, rfl⟩ := quietlyTry_bind_eq_ok done
      have steered := steers_opened work
      cases shadow with
      | none => exact steered
      | some shadow => exact steered

theorem steers_onPath {function : PathFunction} {path : Option Path} {reply : Reply}
    {answer : Answer} (done : client.onPath function path reply = .ok (answer, after)) :
    client.Steers after (client.touched reply (.onPath function path)) := by
  by_cases isOpen : ∃ wide flags mode, function = .openFile wide flags mode
  · obtain ⟨wide, flags, mode, rfl⟩ := isOpen
    exact steers_openFile done
  · have notOpen (wide : Bool) (flags : Int) (mode : Nat) : function ≠ .openFile wide flags mode :=
      fun same => isOpen ⟨wide, flags, mode, same⟩
    obtain ⟨_, errno, calls, same⟩ := onPath_of_not_open notOpen client path reply
    rw [same] at done
    obtain ⟨-, rfl⟩ := Prod.mk.inj (Except.ok.inj done)
    rw [touched_onPath notOpen]
    rfl

theorem recording_ioctl (client : Client) (descriptor : Descriptor) (request : Request)
    (argument : Argument) (reply : Reply) :
    (client.ioctl descriptor request argument reply).2.recording = client.recording ∨
      ∃ filled result, (client.ioctl descriptor request argument reply).2.recording =
        client.recording.record descriptor request filled result := by
  unfold ioctl
  split
  · exact .inl rfl
  · dsimp only
    split
    · exact .inl rfl
    · exact .inr ⟨_, _, rfl⟩

theorem active_ioctl (client : Client) (descriptor : Descriptor) (request : Request)
    (argument : Argument) (reply : Reply) :
    (client.ioctl descriptor request argument reply).2.recording.active =
      client.recording.active := by
  rcases client.recording_ioctl descriptor request argument reply with same | ⟨_, _, same⟩
  · rw [same]
  · rw [same, Recording.active_record]

theorem steers_perform {reply : Reply} {call : Call} {answer : Answer}
    (done : client.perform reply call = .ok (answer, after)) :
    client.Steers after (client.touched reply call) := by
  cases call with
  | onPath function path => exact steers_onPath done
  | close descriptor => exact steers_close done
  | closeStream stream => exact steers_closeStream done
  | socket domain type protocol => exact steers_socket done
  | read descriptor buffer count =>
    exact .of_kept done (congrArg Recording.active (recording_trace _ _ _ _ _))
  | write descriptor buffer count =>
    exact .of_kept done (congrArg Recording.active (recording_trace _ _ _ _ _))
  | readStream stream buffer size count =>
    exact .of_kept done (congrArg Recording.active (recording_traceStream _ _ _ _ _ _))
  | writeStream stream buffer size count =>
    exact .of_kept done (congrArg Recording.active (recording_traceStream _ _ _ _ _ _))
  | readLine stream buffer size =>
    exact .of_kept done (congrArg Recording.active (recording_traceStream _ _ _ _ _ _))
  | bind descriptor address =>
    exact .of_kept done (congrArg Recording.active (recording_bind _ _ _ _))
  | receive descriptor message flags => exact .of_kept done rfl
  | ioctl descriptor request argument => exact .of_kept done (active_ioctl _ _ _ _ _)

theorem steers_step {event : Event} {answer : Option Answer}
    (stepped : client.step event = .ok (answer, after)) :
    client.Steers after (client.touch? event) := by
  cases event with
  | setVariable name value => cases value <;> exact .of_kept stepped rfl
  | setClock time => exact .of_kept stepped rfl
  | install fixture => exact .of_kept stepped rfl
  | remove path => exact .of_kept stepped rfl
  | call errno call reply =>
    obtain ⟨performed, first, last⟩ := Outcome.bind_eq_ok.mp stepped
    obtain ⟨-, rfl⟩ := Prod.mk.inj (Except.ok.inj last)
    have steered := steers_perform first
    exact steered

end Client

end DeviceTestbed
