import DeviceTestbed.Client.Run
import DeviceTestbed.Proofs.Client.Entry

/-!
The tables reflect what happened to each descriptor last, after any run of calls with any results,
even if a number is handed out again without a close.
-/

namespace DeviceTestbed

namespace Client

def touch? (client : Client) : Event → Option (Descriptor × Origin)
  | .call _ call reply => client.touched reply call
  | _ => none

def history (client : Client) : List Event → List (Descriptor × Origin)
  | [] => []
  | event :: rest =>
    (client.touch? event).toList ++
      match client.step event with
      | .ok (_, next) => next.history rest
      | .error _ => []

theorem follows_step (client : Client) (event : Event) :
    Ends (client.step event) fun answered =>
      client.registries.Follows answered.2.registries (client.touch? event) := by
  cases event with
  | setVariable name value => cases value <;> exact .refl _
  | setClock time => exact .refl _
  | install fixture => exact .refl _
  | remove path => exact .refl _
  | call errno call reply =>
    refine Ends.bind (reflects_perform (client.entering errno reply.conditions) reply call) ?_
    exact fun _ follows => follows

end Client

def latest (history : List (Descriptor × Origin)) (descriptor : Descriptor) : Option Origin :=
  (history.filter fun touched => touched.1 = descriptor).getLast?.map Prod.snd

theorem latest_concat (history : List (Descriptor × Origin)) (descriptor other : Descriptor)
    (origin : Origin) :
    latest (history ++ [(descriptor, origin)]) other =
      if descriptor = other then some origin else latest history other := by
  by_cases same : descriptor = other <;> simp [latest, same]

theorem latest_append (first second : List (Descriptor × Origin)) (descriptor : Descriptor) :
    latest (first ++ second) descriptor =
      (latest second descriptor).or (latest first descriptor) := by
  simp only [latest, List.filter_append, List.getLast?_append]
  cases (second.filter fun touched => touched.1 = descriptor).getLast? <;> rfl

theorem mem_of_latest {history : List (Descriptor × Origin)} {descriptor : Descriptor}
    {origin : Origin} (last : latest history descriptor = some origin) :
    (descriptor, origin) ∈ history := by
  obtain ⟨touched, found, rfl⟩ := Option.map_eq_some_iff.mp last
  obtain ⟨member, same⟩ := List.mem_filter.mp (List.mem_of_getLast? found)
  obtain rfl := of_decide_eq_true same
  exact member

theorem latest_eq_none {history : List (Descriptor × Origin)} {descriptor : Descriptor} :
    latest history descriptor = none ↔ ∀ origin, (descriptor, origin) ∉ history := by
  simp only [latest, Option.map_eq_none_iff, List.getLast?_eq_none_iff, List.filter_eq_nil_iff,
    decide_eq_true_eq]
  constructor
  · intro others origin member
    exact others _ member rfl
  · rintro absent ⟨other, origin⟩ member rfl
    exact absent origin member

def LatestIs (wanted : Origin → Prop) (history : List (Descriptor × Origin))
    (descriptor : Descriptor) : Prop :=
  ∃ origin, latest history descriptor = some origin ∧ wanted origin

theorem latestIs_concat_self {wanted : Origin → Prop} {history : List (Descriptor × Origin)}
    {descriptor : Descriptor} {origin : Origin} :
    LatestIs wanted (history ++ [(descriptor, origin)]) descriptor ↔ wanted origin := by
  simp [LatestIs, latest_concat]

theorem latestIs_concat_ne {wanted : Origin → Prop} {history : List (Descriptor × Origin)}
    {descriptor other : Descriptor} {origin : Origin} (different : other ≠ descriptor) :
    LatestIs wanted (history ++ [(descriptor, origin)]) other ↔ LatestIs wanted history other := by
  rw [LatestIs, latest_concat, if_neg (Ne.symm different), LatestIs]

/-- What a run keeps. Once a path outside the testbed was opened the configuration is known, so that
which descriptors are traced does not change later on. -/
structure Faithful (history : List (Descriptor × Origin)) (registries : Registries) : Prop where
  sockets : registries.sockets.Tracks (LatestIs Origin.IsListener history)
  replays : registries.replays.Tracks (LatestIs Origin.IsReplayed history)
  traces : registries.traces.Tracks (LatestIs (Origin.IsTraced registries.configuration) history)
  configured : ∀ descriptor device, latest history descriptor = some (.opened device) →
    registries.configuration.isSome = true

theorem Faithful.keeps {history : List (Descriptor × Origin)} {before after : Registries}
    (faithful : Faithful history before) (keeps : before.Keeps after) : Faithful history after where
  sockets := faithful.sockets.keeps keeps.sockets
  replays := faithful.replays.keeps keeps.replays
  traces := by
    rw [keeps.configuration]
    exact faithful.traces.keeps keeps.traces
  configured := by
    rw [keeps.configuration]
    exact faithful.configured

theorem Faithful.isTraced_iff {history : List (Descriptor × Origin)} {before after : Registries}
    (faithful : Faithful history before)
    (known : ∀ configuration, before.configuration = some configuration →
      after.configuration = some configuration) (descriptor : Descriptor) :
    LatestIs (Origin.IsTraced after.configuration) history descriptor ↔
      LatestIs (Origin.IsTraced before.configuration) history descriptor := by
  refine exists_congr fun origin => and_congr_right fun last => ?_
  cases origin with
  | opened device =>
    obtain ⟨configuration, read⟩ :=
      Option.isSome_iff_exists.mp (faithful.configured descriptor device last)
    rw [known configuration read, read]
  | _ => exact Iff.rfl

theorem Faithful.moves {history : List (Descriptor × Origin)} {before after : Registries}
    {descriptor : Descriptor} {origin : Origin} (faithful : Faithful history before)
    (moves : before.Moves after descriptor origin) :
    Faithful (history ++ [(descriptor, origin)]) after where
  sockets := faithful.sockets.moves (moves.sockets.congr latestIs_concat_self.symm)
    fun _ => latestIs_concat_ne
  replays := faithful.replays.moves (moves.replays.congr latestIs_concat_self.symm)
    fun _ => latestIs_concat_ne
  traces := by
    refine faithful.traces.moves (moves.traces.congr latestIs_concat_self.symm) ?_
    intro other different
    rw [latestIs_concat_ne different]
    exact faithful.isTraced_iff moves.configuration other
  configured := by
    intro other device opened
    rw [latest_concat] at opened
    split at opened
    · exact moves.configured device (Option.some.inj opened)
    · obtain ⟨known, read⟩ :=
        Option.isSome_iff_exists.mp (faithful.configured other device opened)
      rw [moves.configuration known read]
      rfl

theorem Faithful.follows {history : List (Descriptor × Origin)} {before after : Registries}
    {touched : Option (Descriptor × Origin)} (faithful : Faithful history before)
    (follows : before.Follows after touched) : Faithful (history ++ touched.toList) after := by
  cases touched with
  | none =>
    rw [Option.toList_none, List.append_nil]
    exact faithful.keeps follows
  | some touched => exact faithful.moves follows

theorem faithful_run {client : Client} {earlier : List (Descriptor × Origin)}
    (faithful : Faithful earlier client.registries) (events : List Event) :
    Ends (client.run events) fun after =>
      Faithful (earlier ++ client.history events) after.registries := by
  induction events generalizing client earlier with
  | nil =>
    rw [Client.history, List.append_nil]
    exact faithful
  | cons event rest ih =>
    have stepped := client.follows_step event
    rw [Client.run, Client.history]
    cases outcome : client.step event with
    | error halt =>
      rw [outcome] at stepped
      exact stepped
    | ok answered =>
      rw [outcome] at stepped
      rw [← List.append_assoc]
      exact ih (faithful.follows stepped)

theorem faithful_start {client : Client} (sockets : client.sockets = {})
    (replays : client.replays = {}) (traces : client.traces = {}) :
    Faithful [] client.registries := by
  have nothing (wanted : Origin → Prop) (descriptor : Descriptor) :
      ¬ LatestIs wanted [] descriptor := nofun
  refine ⟨?_, ?_, ?_, nofun⟩
  · rw [Client.registries, sockets]
    exact DescriptorTable.tracks_empty (nothing _)
  · rw [Client.registries, replays]
    exact DescriptorTable.tracks_empty (nothing _)
  · rw [Client.registries, traces]
    exact DescriptorTable.tracks_empty (nothing _)

/-! What the tables say about the last origin. -/

section Latest

variable {history : List (Descriptor × Origin)} {descriptor : Descriptor}

theorem latestIs_listener :
    LatestIs Origin.IsListener history descriptor ↔
      ∃ domain protocol, latest history descriptor = some (.socket domain protocol) ∧
        domain = Uevent.netlinkFamily ∧ protocol = Uevent.eventProtocol := by
  constructor
  · rintro ⟨origin, last, wanted⟩
    cases origin with
    | socket domain protocol => exact ⟨domain, protocol, last, wanted⟩
    | _ => exact wanted.elim
  · rintro ⟨domain, protocol, last, wanted⟩
    exact ⟨_, last, wanted⟩

end Latest

end DeviceTestbed
