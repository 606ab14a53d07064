import DeviceTestbed.Proofs.Client.Steered

/-!
Which descriptor is recorded after any run. It is one that was opened on the device to record, from
then until it is closed through the library or another one is opened on that device. A number that
is handed out again in the meantime stays recorded, whatever it stands for from then on.
-/

namespace DeviceTestbed

/-! What the recording was asked to do over a whole run. Once a path outside the testbed was opened
the configuration is known, so that what is asked can be told from the configuration at the end. -/

theorem steered_congr {target other : Option RecordTarget} {touched : Option (Descriptor × Origin)}
    (same : ∀ descriptor device, touched = some (descriptor, .opened device) → target = other)
    (active : Option Descriptor) : steered target active touched = steered other active touched := by
  cases touched with
  | none => rfl
  | some touched =>
    obtain ⟨descriptor, origin⟩ := touched
    cases origin with
    | opened device => rw [same descriptor device rfl]
    | _ => rfl

theorem steered_eq_foldl (target : Option RecordTarget) (active : Option Descriptor)
    (touched : Option (Descriptor × Origin)) :
    steered target active touched =
      (touched.toList.filterMap (asked target)).foldl Recording.Step.activeAfter active := by
  cases touched with
  | none => rfl
  | some touched =>
    simp only [steered, Option.bind_some, Option.toList_some, List.filterMap_cons,
      List.filterMap_nil]
    cases asked target touched <;> rfl

namespace Client

variable {client after : Client}

theorem configuration_of_step {event : Event} {answer : Option Answer}
    (stepped : client.step event = .ok (answer, after)) :
    (∀ known, client.configuration = some known → after.configuration = some known) ∧
      ∀ descriptor device, client.touch? event = some (descriptor, .opened device) →
        after.configuration.isSome = true := by
  have follows := client.follows_step event
  rw [stepped] at follows
  cases touches : client.touch? event with
  | none =>
    rw [touches] at follows
    have same : after.configuration = client.configuration := Registries.Keeps.configuration follows
    exact ⟨fun known read => same.trans read, nofun⟩
  | some touched =>
    rw [touches] at follows
    refine ⟨Registries.Moves.configuration follows, ?_⟩
    rintro descriptor device opened
    exact Registries.Moves.configured follows device (congrArg Prod.snd (Option.some.inj opened))

theorem configuration_of_run {events : List Event} (ran : client.run events = .ok after)
    {known : Configuration} (read : client.configuration = some known) :
    after.configuration = some known := by
  induction events generalizing client with
  | nil =>
    obtain rfl := Except.ok.inj ran
    exact read
  | cons event rest ih =>
    obtain ⟨⟨answer, next⟩, stepped, onward⟩ := Outcome.bind_eq_ok.mp ran
    exact ih onward ((configuration_of_step stepped).1 known read)

theorem active_of_run {events : List Event} (ran : client.run events = .ok after) :
    after.recording.active =
      ((client.history events).filterMap (asked after.target?)).foldl
        Recording.Step.activeAfter client.recording.active := by
  induction events generalizing client with
  | nil =>
    obtain rfl := Except.ok.inj ran
    rfl
  | cons event rest ih =>
    obtain ⟨⟨answer, next⟩, stepped, onward⟩ := Outcome.bind_eq_ok.mp ran
    -- What is asked depends on the target only if a path was opened, and then it is already known.
    have read (descriptor : Descriptor) (device : Option DeviceNumber)
        (opened : client.touch? event = some (descriptor, .opened device)) :
        next.target? = after.target? := by
      obtain ⟨known, found⟩ := Option.isSome_iff_exists.mp
        ((configuration_of_step stepped).2 descriptor device opened)
      rw [target?, target?, found, configuration_of_run onward found]
    have steered : next.recording.active = steered next.target? _ _ := steers_step stepped
    rw [history, stepped, List.filterMap_append, List.foldl_append, ← steered_eq_foldl,
      ← steered_congr read, ← steered]
    exact ih onward

end Client

theorem asked_eq_activate {target : Option RecordTarget} {touched : Descriptor × Origin}
    {descriptor : Descriptor} {known : RecordTarget} {testbed : Bool} :
    asked target touched = some (.activate descriptor known testbed) ↔
      target = some known ∧ known.device ≠ 0 ∧ testbed = false ∧
        touched = (descriptor, .opened (some known.device)) := by
  obtain ⟨other, origin⟩ := touched
  cases target with
  | none => cases origin <;> simp [asked]
  | some target =>
    cases origin with
    | opened device =>
      simp only [asked, Option.bind_some]
      grind
    | _ => simp [asked]

theorem leaves_of_asked {target : RecordTarget} (nonzero : target.device ≠ 0)
    {touched : Descriptor × Origin} {descriptor : Descriptor} :
    (∀ step, asked (some target) touched = some step → step.Leaves descriptor) ↔
      touched ≠ (descriptor, .closed) ∧
        ∀ other, touched ≠ (other, .opened (some target.device)) := by
  obtain ⟨other, origin⟩ := touched
  cases origin with
  | opened device => simp [asked, nonzero, Recording.Step.Leaves]
  | closed => simp [asked, Recording.Step.Leaves]
  | _ => simp [asked]

/-- The device was opened last with this descriptor, which was not closed since. -/
def LastOpened (device : DeviceNumber) (history : List (Descriptor × Origin))
    (descriptor : Descriptor) (later : List (Descriptor × Origin)) : Prop :=
  (∃ earlier, history = earlier ++ (descriptor, .opened (some device)) :: later) ∧
    (descriptor, .closed) ∉ later ∧ ∀ other, (other, .opened (some device)) ∉ later

theorem stillActive_asked {target : Option RecordTarget} {history : List (Descriptor × Origin)}
    {descriptor : Descriptor} :
    Recording.StillActive (history.filterMap (asked target)) descriptor ↔
      ∃ known, target = some known ∧ known.device ≠ 0 ∧
        ∃ later, LastOpened known.device history descriptor later := by
  constructor
  -- The steps are asked for in the order of the history, so that a step among them splits it too.
  · rintro ⟨before, known, testbed, after, split, left⟩
    obtain ⟨first, rest, rfl, -, found⟩ := List.filterMap_eq_append_iff.mp split
    obtain ⟨between, touched, later, rfl, -, activates, rfl⟩ :=
      List.filterMap_eq_cons_iff.mp found
    obtain ⟨rfl, nonzero, -, rfl⟩ := asked_eq_activate.mp activates
    have kept (touched : Descriptor × Origin) (member : touched ∈ later) :=
      (leaves_of_asked nonzero).mp fun step asks =>
        left step (List.mem_filterMap.mpr ⟨touched, member, asks⟩)
    refine ⟨known, rfl, nonzero, later, ⟨first ++ between, by simp⟩, ?_, ?_⟩
    · exact fun closed => (kept _ closed).1 rfl
    · exact fun other opened => (kept _ opened).2 other rfl
  · rintro ⟨known, rfl, nonzero, later, ⟨earlier, rfl⟩, notClosed, notOpened⟩
    have activates : asked (some known) (descriptor, .opened (some known.device)) =
        some (.activate descriptor known false) :=
      asked_eq_activate.mpr ⟨rfl, nonzero, rfl, rfl⟩
    refine ⟨_, known, false, _, by rw [List.filterMap_append, List.filterMap_cons, activates], ?_⟩
    intro step member
    obtain ⟨touched, isLater, asks⟩ := List.mem_filterMap.mp member
    refine (leaves_of_asked nonzero).mpr ⟨?_, ?_⟩ step asks
    · rintro rfl
      exact notClosed isLater
    · rintro other rfl
      exact notOpened other isLater

def lastHandedOut (history : List (Descriptor × Origin)) : Descriptor → Option Origin :=
  latest (history.filter fun touched => touched.2 ≠ .closed)

theorem LastOpened.lastHandedOut_iff {device : DeviceNumber}
    {history later : List (Descriptor × Origin)} {descriptor : Descriptor}
    (last : LastOpened device history descriptor later) :
    lastHandedOut history descriptor = some (.opened (some device)) ↔
      ∀ origin, (descriptor, origin) ∉ later := by
  obtain ⟨⟨earlier, rfl⟩, notClosed, notOpened⟩ := last
  rw [lastHandedOut, List.append_cons, List.filter_append, latest_append]
  constructor
  · intro opened origin member
    have kept : (descriptor, origin) ∈ later.filter fun touched => touched.2 ≠ .closed := by
      refine List.mem_filter.mpr ⟨member, decide_eq_true ?_⟩
      rintro rfl
      exact notClosed member
    cases found : latest (later.filter fun touched => touched.2 ≠ .closed) descriptor with
    | none => exact latest_eq_none.mp found origin kept
    | some other =>
      rw [found, Option.some_or] at opened
      obtain rfl := Option.some.inj opened
      exact notOpened descriptor (List.mem_filter.mp (mem_of_latest found)).1
  · intro absent
    have none : latest (later.filter fun touched => touched.2 ≠ .closed) descriptor = none :=
      latest_eq_none.mpr fun origin member => absent origin (List.mem_filter.mp member).1
    rw [none, Option.none_or, List.filter_append]
    exact (latest_concat _ _ _ _).trans (if_pos rfl)

theorem Client.active_of_added {client after : Client} {descriptor : Descriptor}
    {request : Request} {argument : Argument} {number : Int} {reply : Reply}
    {answer : Option Answer}
    (called : client.step (.call number (.ioctl descriptor request argument) reply) =
      .ok (answer, after))
    (added : after.recording.tree ≠ client.recording.tree) :
    client.recording.active = some descriptor := by
  by_contra inactive
  refine added ?_
  have same := congrArg (fun reached => reached.2.recording) (Except.ok.inj called)
  rw [← show _ = after.recording from same]
  rcases recording_ioctl (client.entering number reply.conditions) descriptor request argument
    reply with unrecorded | ⟨filled, result, recorded⟩
  · exact congrArg Recording.tree unrecorded
  · have kept : client.recording.record descriptor request filled result = client.recording :=
      if_neg inactive
    exact congrArg Recording.tree (recorded.trans kept)

/-- After any run the descriptor that is recorded is the one that was opened last on the device to
record, if it was not closed since. A call that adds to what was recorded is made on this
descriptor, and so on this device just if the number was not handed out for anything else in the
meantime. -/
theorem added_on_lastOpened (files : Files) (environment : Environment) (clock : Nat) (errno : Int)
    (events : List Event) {client : Client}
    (ran : Client.run { files, environment, clock, errno } events = .ok client) :
    let history := Client.history { files, environment, clock, errno } events
    (∀ descriptor, client.recording.active = some descriptor ↔
      ∃ target, client.target? = some target ∧ target.device ≠ 0 ∧
        ∃ later, LastOpened target.device history descriptor later) ∧
    ∀ (number : Int) (descriptor : Descriptor) (request : Request) (argument : Argument)
      (reply : Reply) (answer : Option Answer) (after : Client),
      client.step (.call number (.ioctl descriptor request argument) reply) = .ok (answer, after) →
      after.recording.tree ≠ client.recording.tree →
      ∃ target later, client.target? = some target ∧
        LastOpened target.device history descriptor later ∧
        (lastHandedOut history descriptor = some (.opened (some target.device)) ↔
          ∀ origin, (descriptor, origin) ∉ later) := by
  intro history
  have recorded (descriptor : Descriptor) : client.recording.active = some descriptor ↔
      ∃ target, client.target? = some target ∧ target.device ≠ 0 ∧
        ∃ later, LastOpened target.device history descriptor later := by
    rw [Client.active_of_run ran]
    exact Recording.activeAfter_eq_some.trans stillActive_asked
  refine ⟨recorded, ?_⟩
  intro number descriptor request argument reply answer after called added
  obtain ⟨target, wanted, -, later, last⟩ :=
    (recorded descriptor).mp (Client.active_of_added called added)
  exact ⟨target, later, wanted, last, last.lastHandedOut_iff⟩

theorem added_on_lastOpened_of_closed :
    let environment : Environment :=
      (Mapping.insert {} "DEVBED_IOCTL_RECORD_DEV" (Bytes.ofAscii "7".toList)).insert
        "DEVBED_IOCTL_RECORD_FILE" (Bytes.ofAscii "rec".toList)
    let start : Client := { files := Files.initial, environment }
    let opening (device : DeviceNumber) : Event :=
      .call 0 (.onPath (.openFile false 0 0) (some (Bytes.ofAscii "x".toList)))
        { result := 3, device := some device }
    let events : List Event := [opening 9, .call 0 (.close 3) {}, opening 7]
    ∃ client after answer, start.run events = .ok client ∧
      client.step (.call 0 (.ioctl 3 0x7803 (.word 7)) {}) = .ok (answer, after) ∧
      after.recording.tree ≠ client.recording.tree ∧
      ∃ target later, client.target? = some target ∧
        LastOpened target.device (start.history events) 3 later ∧
        (lastHandedOut (start.history events) 3 = some (.opened (some target.device)) ↔
          ∀ origin, (3, origin) ∉ later) := by
  intro environment start opening events
  have recorded : (start.run events).toOption.any (fun client =>
      (client.step (.call 0 (.ioctl 3 0x7803 (.word 7)) {})).toOption.any fun answered =>
        answered.2.recording.tree ≠ client.recording.tree) = true := by
    decide +kernel
  obtain ⟨client, ran, recorded⟩ := Outcome.any_toOption.mp recorded
  obtain ⟨⟨answer, after⟩, called, recorded⟩ := Outcome.any_toOption.mp recorded
  have added := of_decide_eq_true recorded
  obtain ⟨-, onTarget⟩ := added_on_lastOpened Files.initial environment 0 0 events ran
  exact ⟨client, after, answer, ran, called, added, onTarget _ _ _ _ _ _ _ called added⟩

/-- A number that was handed out again without being closed through the library: calls on another
device are recorded. -/
theorem added_on_other_device :
    let environment : Environment :=
      (Mapping.insert {} "DEVBED_IOCTL_RECORD_DEV" (Bytes.ofAscii "7".toList)).insert
        "DEVBED_IOCTL_RECORD_FILE" (Bytes.ofAscii "rec".toList)
    let start : Client := { files := Files.initial, environment }
    let opening (device : DeviceNumber) : Event :=
      .call 0 (.onPath (.openFile false 0 0) (some (Bytes.ofAscii "x".toList)))
        { result := 3, device := some device }
    let events : List Event := [opening 7, opening 9]
    ∃ client after answer, start.run events = .ok client ∧
      client.step (.call 0 (.ioctl 3 0x7803 (.word 7)) {}) = .ok (answer, after) ∧
      after.recording.tree ≠ client.recording.tree ∧
      lastHandedOut (start.history events) 3 = some (.opened (some 9)) ∧
      ∀ target, client.target? = some target →
        lastHandedOut (start.history events) 3 ≠ some (.opened (some target.device)) := by
  intro environment start opening events
  have recorded : (start.run events).toOption.any (fun client =>
      client.target? = some { device := 7, file := some (Bytes.ofAscii "rec".toList) } &&
      (client.step (.call 0 (.ioctl 3 0x7803 (.word 7)) {})).toOption.any fun answered =>
        answered.2.recording.tree ≠ client.recording.tree) = true := by
    decide +kernel
  have last : lastHandedOut (start.history events) 3 = some (.opened (some 9)) := by
    decide +kernel
  obtain ⟨client, ran, recorded⟩ := Outcome.any_toOption.mp recorded
  obtain ⟨target, recorded⟩ := Bool.and_eq_true_iff.mp recorded
  obtain ⟨⟨answer, after⟩, called, recorded⟩ := Outcome.any_toOption.mp recorded
  refine ⟨client, after, answer, ran, called, of_decide_eq_true recorded, last, ?_⟩
  intro wanted configured same
  have other := configured.symm.trans (of_decide_eq_true target)
  rw [last, Option.some.inj other] at same
  exact absurd same (by decide)

end DeviceTestbed
