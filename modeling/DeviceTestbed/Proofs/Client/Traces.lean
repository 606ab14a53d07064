import Mathlib.Data.List.Induction
import Mathlib.Data.List.Nodup
import DeviceTestbed.Proofs.Client.Traced
import DeviceTestbed.Proofs.Script.Format

/-!
The files that descriptors were traced into. As long as everything that is traced goes to the end of
its file, each of them is a trace at every moment, and that is so as long as no two descriptors are
traced into one file at a time.
-/

namespace DeviceTestbed

theorem Files.content_writeAt_self {files : Files} {id : NodeId}
    (regular : files.isRegular id = true) (offset : Nat) (bytes : Bytes) :
    (files.writeAt id offset bytes).content id =
      Content.patch offset bytes (files.content id) := by
  rw [writeAt, content_replace_self regular, Content.toBytes_writeAt]
  rfl

namespace Trace

variable {trace : Trace} {files : Files} {kind : Operation} {bytes : Bytes} {now : Nat}
  {room : Option Nat}

theorem exists_record (trace : Trace) (files : Files) (kind : Operation) (bytes : Bytes) (now : Nat)
    (room : Option Nat) :
    ∃ taken, (trace.record files kind bytes now room).2 =
      ({ trace with
          recorder := trace.recorder.advance kind bytes now
          offset := trace.offset + taken.length },
        files.writeAt trace.file trace.offset taken) :=
  ⟨_, rfl⟩

theorem record_of_complete (complete : (trace.record files kind bytes now room).1 = none) :
    (trace.record files kind bytes now room).2 =
      ({ trace with
          recorder := trace.recorder.advance kind bytes now
          offset := trace.offset + (trace.recorder.chunk kind bytes now).length },
        files.writeAt trace.file trace.offset (trace.recorder.chunk kind bytes now)) := by
  let sink : Sink := { room := files.roomFor trace.file room }
  have whole : (sink.write (trace.recorder.chunk kind bytes now)).1 = true := by
    by_contra partly
    have failed : (trace.record files kind bytes now room).1 = some .noSpace := if_neg partly
    cases complete.symm.trans failed
  have taken : (sink.write (trace.recorder.chunk kind bytes now)).2.taken =
      trace.recorder.chunk kind bytes now := by
    rw [Sink.taken_write, Sink.fitting_of_write whole]
    rfl
  simp only [record, Recorder.record]
  rw [taken]

end Trace

namespace Client

/-! Runs with one more event. -/

theorem run_concat (start : Client) (events : List Event) (event : Event) :
    start.run (events ++ [event]) =
      start.run events >>= fun client => client.step event >>= fun (_, after) => .ok after := by
  induction events generalizing start with
  | nil => rfl
  | cons first rest ih =>
    rw [List.cons_append, run, run, bind_assoc]
    exact congrArg _ (funext fun (_, next) => ih next)

theorem run_concat_eq_ok {start after : Client} {events : List Event} {event : Event} :
    start.run (events ++ [event]) = .ok after ↔
      ∃ client answer, start.run events = .ok client ∧ client.step event = .ok (answer, after) := by
  rw [run_concat, Outcome.bind_eq_ok]
  constructor
  · rintro ⟨client, ran, done⟩
    obtain ⟨⟨answer, reached⟩, stepped, same⟩ := Outcome.bind_eq_ok.mp done
    obtain rfl := Except.ok.inj same
    exact ⟨client, answer, ran, stepped⟩
  · rintro ⟨client, answer, ran, stepped⟩
    exact ⟨client, ran, Outcome.bind_eq_ok.mpr ⟨_, stepped, rfl⟩⟩

theorem run_concat_eq_error {start : Client} {events : List Event} {event : Event} {halt : Halt} :
    start.run (events ++ [event]) = .error halt ↔
      start.run events = .error halt ∨
        ∃ client, start.run events = .ok client ∧ client.step event = .error halt := by
  rw [run_concat, Outcome.bind_eq_error]
  refine or_congr_right (exists_congr fun client => and_congr_right fun _ => ?_)
  rw [Outcome.bind_eq_error]
  simp

/-! The files that were traced into, and what is asked of a run. -/

def filesAfter (start : Client) (events : List Event) : Files :=
  match start.run events with
  | .ok client => client.files
  | .error halt => halt.files

def Traced (start : Client) (events : List Event) (id : NodeId) : Prop :=
  ∃ before client descriptor trace, before <+: events ∧ start.run before = .ok client ∧
    client.traces.get? descriptor = some trace ∧ trace.file = id

/-- Only traces are written to the files that were traced into: nobody installs another content, and
the open record file is none of them. -/
structure KeepsOff (start : Client) (events : List Event) : Prop where
  install : ∀ {before fixture client id}, before ++ [.install fixture] <+: events →
    start.run before = .ok client → start.Traced before id →
    (client.files.install fixture).content id = client.files.content id
  record : ∀ {before client id}, before <+: events → start.run before = .ok client →
    client.recording.IsOutput id → client.files.isRegular id = true → ¬ start.Traced before id

def AppendsOnly (start : Client) (events : List Event) : Prop :=
  ∀ ⦃before event client answer after⦄, before ++ [event] <+: events →
    start.run before = .ok client → client.step event = .ok (answer, after) →
    ∀ ⦃descriptor trace moved⦄, client.traces.get? descriptor = some trace →
      after.traces.get? descriptor = some moved → trace.offset < moved.offset →
      client.files.isRegular trace.file = true →
      trace.offset = (client.files.content trace.file).length

def WritesTraces (start : Client) (events : List Event) : Prop :=
  ∀ ⦃before event client⦄, before ++ [event] <+: events →
    start.run (before ++ [event]) = .ok client →
    ∀ descriptor fault, .trace descriptor fault ∉ client.warnings

def IsSeparate (client : Client) : Prop :=
  ∀ ⦃descriptor other trace another⦄, client.traces.get? descriptor = some trace →
    client.traces.get? other = some another → trace.file = another.file →
    client.files.isRegular trace.file = true → descriptor = other

def StaysSeparate (start : Client) (events : List Event) : Prop :=
  ∀ ⦃before client⦄, before <+: events → start.run before = .ok client → client.IsSeparate

variable {start client after : Client} {events : List Event} {event : Event}
  {answer : Option Answer} {id : NodeId}

theorem KeepsOff.of_prefix {before : List Event} (keepsOff : start.KeepsOff events)
    (part : before <+: events) : start.KeepsOff before :=
  ⟨fun shorter => keepsOff.install (shorter.trans part),
    fun shorter => keepsOff.record (shorter.trans part)⟩

theorem traced_of_live (ran : start.run events = .ok client) {descriptor : Descriptor}
    {trace : Trace} (found : client.traces.get? descriptor = some trace) :
    start.Traced events trace.file :=
  ⟨events, client, descriptor, trace, List.prefix_refl _, ran, found, rfl⟩

theorem traced_concat (traced : start.Traced (events ++ [event]) id) :
    start.Traced events id ∨
      ∃ after descriptor trace, start.run (events ++ [event]) = .ok after ∧
        after.traces.get? descriptor = some trace ∧ trace.file = id := by
  obtain ⟨before, client, descriptor, trace, part, ran, found⟩ := traced
  rcases List.prefix_concat_iff.mp part with rfl | shorter
  · exact .inr ⟨client, descriptor, trace, ran, found⟩
  · exact .inl ⟨before, client, descriptor, trace, shorter, ran, found⟩

/-! Traces that go on at the end of their files. -/

/-- Among the files that were traced into are those of all traces. A trace that has begun stands
behind the beginning of its file, and every one of the files is a trace. -/
structure Holds (traced : NodeId → Prop) (client : Client) : Prop where
  sound : client.files.Sound
  has : ∀ {id}, traced id → client.files.Has id
  live : ∀ {descriptor trace}, client.traces.get? descriptor = some trace → traced trace.file
  begun : ∀ {descriptor trace}, client.traces.get? descriptor = some trace →
    (trace.recorder.kind.isSome = true ↔ 0 < trace.offset)
  formed : ∀ {id}, traced id → client.files.isRegular id = true →
    Script.IsTrace (client.files.content id)

namespace Holds

variable {traced : NodeId → Prop}

theorem kept (holds : client.Holds traced) {changed : NodeId → Prop}
    (spares : client.files.Spares after.files changed)
    (content : ∀ {id}, traced id → client.files.isRegular id = true →
      after.files.content id = client.files.content id)
    (traces : ∀ {descriptor trace}, after.traces.get? descriptor = some trace →
      client.traces.get? descriptor = some trace) : after.Holds traced where
  sound := spares.sound
  has := fun known => spares.has (holds.has known)
  live := fun found => holds.live (traces found)
  begun := fun found => holds.begun (traces found)
  formed := by
    intro id known regular
    rw [spares.isRegular (holds.has known)] at regular
    rw [content known regular]
    exact holds.formed known regular

theorem started (holds : client.Holds traced) {descriptor : Descriptor} {time : Nat}
    (spares : client.files.Spares after.files (· = id)) (has : after.files.Has id)
    (empty : after.files.isRegular id = true → after.files.content id = [])
    (puts : client.traces.Puts after.traces descriptor { recorder := { time }, file := id }) :
    after.Holds fun file => traced file ∨ file = id where
  sound := spares.sound
  has := by
    rintro file (known | rfl)
    · exact spares.has (holds.has known)
    · exact has
  live := by
    intro other trace found
    obtain ⟨-, rfl⟩ | ⟨-, before⟩ := puts.own_or_other found
    · exact .inr rfl
    · exact .inl (holds.live before)
  begun := by
    intro other trace found
    obtain ⟨-, rfl⟩ | ⟨-, before⟩ := puts.own_or_other found
    · simp
    · exact holds.begun before
  formed := by
    intro file known regular
    by_cases same : file = id
    · rw [same] at regular ⊢
      rw [empty regular]
      exact Script.isTrace_nil
    · have before := known.resolve_right same
      have there := holds.has before
      rw [spares.isRegular there] at regular
      rw [spares.content there same]
      exact holds.formed before regular

theorem record (holds : client.Holds traced) {descriptor : Descriptor} {trace : Trace}
    (found : client.traces.get? descriptor = some trace) {kind : Operation} {bytes : Bytes}
    {now : Nat} {room : Option Nat}
    (complete : (trace.record client.files kind bytes now room).1 = none)
    (atEnd : trace.offset < (trace.record client.files kind bytes now room).2.1.offset →
      client.files.isRegular trace.file = true →
      trace.offset = (client.files.content trace.file).length) :
    let (moved, written) := (trace.record client.files kind bytes now room).2
    (moved.recorder.kind.isSome = true ↔ 0 < moved.offset) ∧
      (client.files.isRegular trace.file = true → Script.IsTrace (written.content trace.file)) := by
  have begun := holds.begun found
  have formed := holds.formed (holds.live found)
  rw [Trace.record_of_complete complete] at atEnd ⊢
  by_cases empty : bytes.isEmpty = true
  · have nothing : trace.recorder.chunk kind bytes now = [] := if_pos empty
    have still : trace.recorder.advance kind bytes now = trace.recorder := if_pos empty
    simp only [nothing, still]
    refine ⟨begun, fun regular => ?_⟩
    rw [Files.content_writeAt_self regular, Content.patch, if_pos rfl]
    exact formed regular
  · have filled : bytes.isEmpty = false := eq_false_of_ne_true empty
    have present := List.length_pos_iff.mpr (trace.recorder.chunk_ne_nil kind filled now)
    have onward : trace.recorder.advance kind bytes now = { time := now, kind := some kind } :=
      if_neg empty
    simp only [onward]
    refine ⟨iff_of_true rfl (Nat.add_pos_right _ present), fun regular => ?_⟩
    have there := atEnd (Nat.lt_add_of_pos_right present) regular
    rw [Files.content_writeAt_self regular, there, Content.patch_length]
    refine Recorder.isTrace_append_chunk (formed regular) (begun.trans ?_) kind bytes now
    rw [there]
    exact List.length_pos_iff

theorem moved (holds : client.Holds traced) {descriptor : Descriptor} {trace : Trace}
    (found : client.traces.get? descriptor = some trace) {kind : Operation} {bytes : Bytes}
    {now : Nat} {room : Option Nat}
    (complete : (trace.record client.files kind bytes now room).1 = none)
    (atEnd : trace.offset < (trace.record client.files kind bytes now room).2.1.offset →
      client.files.isRegular trace.file = true →
      trace.offset = (client.files.content trace.file).length)
    (same : after.files = (trace.record client.files kind bytes now room).2.2)
    (puts : client.traces.Puts after.traces descriptor
      (trace.record client.files kind bytes now room).2.1) : after.Holds traced := by
  have spares : client.files.Spares after.files (· = trace.file) :=
    same ▸ Files.spares_replace holds.sound _ _
  have known := holds.live found
  obtain ⟨begun, formed⟩ := holds.record found complete atEnd
  refine ⟨spares.sound, fun known => spares.has (holds.has known), ?_, ?_, ?_⟩
  · intro other live isLive
    obtain ⟨-, rfl⟩ | ⟨-, before⟩ := puts.own_or_other isLive
    · exact known
    · exact holds.live before
  · intro other live isLive
    obtain ⟨-, rfl⟩ | ⟨-, before⟩ := puts.own_or_other isLive
    · exact begun
    · exact holds.begun before
  · intro file known regular
    rw [spares.isRegular (holds.has known)] at regular
    by_cases its : file = trace.file
    · rw [its] at regular ⊢
      rw [same]
      exact formed regular
    · rw [spares.content (holds.has known) its]
      exact holds.formed known regular

theorem concat (holds : after.Holds traced) (reached : start.run (events ++ [event]) = .ok after)
    (wider : ∀ {id}, start.Traced events id → traced id) :
    after.Holds (start.Traced (events ++ [event])) := by
  have known {id : NodeId} (later : start.Traced (events ++ [event]) id) : traced id := by
    rcases traced_concat later with before | ⟨last, descriptor, trace, again, found, rfl⟩
    · exact wider before
    · obtain rfl := Except.ok.inj (reached.symm.trans again)
      exact holds.live found
  exact ⟨holds.sound, fun later => holds.has (known later), traced_of_live reached, holds.begun,
    fun later => holds.formed (known later)⟩

theorem step (holds : client.Holds (start.Traced events)) (ran : start.run events = .ok client)
    (stepped : client.step event = .ok (answer, after))
    (keepsOff : start.KeepsOff (events ++ [event]))
    (writes : start.WritesTraces (events ++ [event]))
    (appendsOnly : start.AppendsOnly (events ++ [event])) :
    after.Holds (start.Traced (events ++ [event])) := by
  have reached := run_concat_eq_ok.mpr ⟨client, answer, ran, stepped⟩
  obtain change | ⟨fixture, rfl, rfl⟩ := change_step holds.sound stepped
  · cases change with
    | kept spares traces =>
      refine (holds.kept spares (fun known regular => ?_) traces).concat reached id
      exact spares.content (holds.has known) fun output =>
        keepsOff.record (List.prefix_append _ _) ran output regular known
    | started descriptor id spares has empty puts =>
      exact (holds.started spares has empty puts).concat reached .inl
    | moved descriptor trace kind bytes room found same puts warned =>
      refine (holds.moved found ?_ ?_ same puts).concat reached id
      · have unwarned := writes (List.prefix_refl _) reached descriptor
        exact Option.eq_none_iff_forall_ne_some.mpr fun fault failed =>
          unwarned fault (warned fault failed)
      · exact appendsOnly (List.prefix_refl _) ran stepped found puts.own
  · have installed :
        Holds (start.Traced events) { client with files := client.files.install fixture } :=
      holds.kept (Files.spares_install holds.sound fixture)
        (fun known _ => keepsOff.install (List.prefix_refl _) ran known) id
    exact installed.concat reached id

end Holds

theorem AppendsOnly.of_prefix {before : List Event} (appendsOnly : start.AppendsOnly events)
    (part : before <+: events) : start.AppendsOnly before :=
  fun _ _ _ _ _ shorter => appendsOnly (shorter.trans part)

theorem WritesTraces.of_prefix {before : List Event} (writes : start.WritesTraces events)
    (part : before <+: events) : start.WritesTraces before :=
  fun _ _ _ shorter => writes (shorter.trans part)

theorem get?_of_fresh (fresh : start.traces = {}) (descriptor : Descriptor) :
    start.traces.get? descriptor = none :=
  DescriptorTable.get?_of_isEmpty (fresh ▸ rfl) descriptor

theorem not_traced_nil (fresh : start.traces = {}) (id : NodeId) : ¬ start.Traced [] id := by
  rintro ⟨before, client, descriptor, trace, part, ran, found, -⟩
  obtain rfl := List.prefix_nil.mp part
  obtain rfl := Except.ok.inj ran
  cases (get?_of_fresh fresh descriptor).symm.trans found

theorem holds_of_run (fresh : start.traces = {}) (sound : start.files.Sound)
    (keepsOff : start.KeepsOff events) (writes : start.WritesTraces events)
    (appendsOnly : start.AppendsOnly events) (ran : start.run events = .ok client) :
    client.Holds (start.Traced events) := by
  induction events using List.reverseRecOn generalizing client with
  | nil =>
    obtain rfl := Except.ok.inj ran
    have untraced := not_traced_nil fresh
    refine ⟨sound, fun traced => absurd traced (untraced _), ?_, ?_,
      fun traced => absurd traced (untraced _)⟩
    all_goals
      intro descriptor trace found
      cases (get?_of_fresh fresh descriptor).symm.trans found
  | append_singleton before event ih =>
    obtain ⟨earlier, answer, reached, stepped⟩ := run_concat_eq_ok.mp ran
    have part : before <+: before ++ [event] := List.prefix_append _ _
    have holds :=
      ih (keepsOff.of_prefix part) (writes.of_prefix part) (appendsOnly.of_prefix part) reached
    exact holds.step reached stepped keepsOff writes appendsOnly

theorem isTrace_filesAfter (fresh : start.traces = {}) (sound : start.files.Sound)
    (keepsOff : start.KeepsOff events) (writes : start.WritesTraces events)
    (appendsOnly : start.AppendsOnly events) (traced : start.Traced events id)
    (regular : (start.filesAfter events).isRegular id = true) :
    Script.IsTrace ((start.filesAfter events).content id) := by
  induction events using List.reverseRecOn with
  | nil => exact absurd traced (not_traced_nil fresh id)
  | append_singleton before event ih =>
    cases ran : start.run (before ++ [event]) with
    | ok client =>
      rw [filesAfter, ran] at regular ⊢
      exact (holds_of_run fresh sound keepsOff writes appendsOnly ran).formed traced regular
    | error halt =>
      have part : before <+: before ++ [event] := List.prefix_append _ _
      have earlier : start.Traced before id := by
        rcases traced_concat traced with earlier | ⟨last, _, _, again, _⟩
        · exact earlier
        · cases ran.symm.trans again
      rcases run_concat_eq_error.mp ran with already | ⟨client, reached, failed⟩
      · have same : start.filesAfter (before ++ [event]) = start.filesAfter before := by
          rw [filesAfter, filesAfter, ran, already]
        rw [same] at regular ⊢
        exact ih (keepsOff.of_prefix part) (writes.of_prefix part) (appendsOnly.of_prefix part)
          earlier regular
      · have holds := holds_of_run fresh sound (keepsOff.of_prefix part) (writes.of_prefix part)
          (appendsOnly.of_prefix part) reached
        have halted := halted_step holds.sound failed
        have has := holds.has earlier
        rw [filesAfter, ran] at regular ⊢
        by_cases empty : halt.files.content id = []
        · rw [empty]
          exact Script.isTrace_nil
        · have untouched : ¬ (halt.files.isRegular id = true → halt.files.content id = []) :=
            fun emptied => empty (emptied regular)
          rw [halted.content has untouched]
          exact holds.formed earlier ((halted.isRegular has).symm.trans regular)

/-! Descriptors that are traced into files of their own. -/

structure StandsAtEnds (client : Client) : Prop where
  sound : client.files.Sound
  has : ∀ {descriptor trace}, client.traces.get? descriptor = some trace →
    client.files.Has trace.file
  atEnd : ∀ {descriptor trace}, client.traces.get? descriptor = some trace →
    client.files.isRegular trace.file = true →
    trace.offset = (client.files.content trace.file).length

namespace StandsAtEnds

theorem kept (stands : client.StandsAtEnds) {changed : NodeId → Prop}
    (spares : client.files.Spares after.files changed)
    (content : ∀ {descriptor trace}, client.traces.get? descriptor = some trace →
      client.files.isRegular trace.file = true →
      after.files.content trace.file = client.files.content trace.file)
    (traces : ∀ {descriptor trace}, after.traces.get? descriptor = some trace →
      client.traces.get? descriptor = some trace) : after.StandsAtEnds where
  sound := spares.sound
  has := fun found => spares.has (stands.has (traces found))
  atEnd := by
    intro descriptor trace found regular
    have before := traces found
    rw [spares.isRegular (stands.has before)] at regular
    rw [content before regular]
    exact stands.atEnd before regular

theorem started (stands : client.StandsAtEnds) (separate : after.IsSeparate)
    {descriptor : Descriptor} {time : Nat} (spares : client.files.Spares after.files (· = id))
    (has : after.files.Has id)
    (empty : after.files.isRegular id = true → after.files.content id = [])
    (puts : client.traces.Puts after.traces descriptor { recorder := { time }, file := id }) :
    after.StandsAtEnds where
  sound := spares.sound
  has := by
    intro other trace found
    obtain ⟨-, rfl⟩ | ⟨-, before⟩ := puts.own_or_other found
    · exact has
    · exact spares.has (stands.has before)
  atEnd := by
    intro other trace found regular
    obtain ⟨-, rfl⟩ | ⟨its, before⟩ := puts.own_or_other found
    · rw [empty regular]
      rfl
    · have different : trace.file ≠ id := fun same => its (separate found puts.own same regular)
      rw [spares.isRegular (stands.has before)] at regular
      rw [spares.content (stands.has before) different]
      exact stands.atEnd before regular

theorem moved (stands : client.StandsAtEnds) (separate : client.IsSeparate)
    {descriptor : Descriptor} {trace : Trace}
    (found : client.traces.get? descriptor = some trace) {kind : Operation} {bytes : Bytes}
    {now : Nat} {room : Option Nat}
    (same : after.files = (trace.record client.files kind bytes now room).2.2)
    (puts : client.traces.Puts after.traces descriptor
      (trace.record client.files kind bytes now room).2.1) : after.StandsAtEnds := by
  have spares : client.files.Spares after.files (· = trace.file) :=
    same ▸ Files.spares_replace stands.sound _ _
  have has := stands.has found
  obtain ⟨taken, recorded⟩ := trace.exists_record client.files kind bytes now room
  rw [recorded] at same puts
  refine ⟨spares.sound, ?_, ?_⟩
  · intro other live isLive
    obtain ⟨-, rfl⟩ | ⟨-, before⟩ := puts.own_or_other isLive
    · exact spares.has has
    · exact spares.has (stands.has before)
  · intro other live isLive regular
    obtain ⟨-, rfl⟩ | ⟨its, before⟩ := puts.own_or_other isLive
    · change after.files.isRegular trace.file = true at regular
      rw [spares.isRegular has] at regular
      have there := stands.atEnd found regular
      rw [same, Files.content_writeAt_self regular]
      dsimp only
      rw [there, Content.patch_length, List.length_append]
    · rw [spares.isRegular (stands.has before)] at regular
      have different : live.file ≠ trace.file :=
        fun both => its (separate before found both regular)
      rw [spares.content (stands.has before) different]
      exact stands.atEnd before regular

end StandsAtEnds

theorem StaysSeparate.of_prefix {before : List Event} (separate : start.StaysSeparate events)
    (part : before <+: events) : start.StaysSeparate before :=
  fun _ _ shorter => separate (shorter.trans part)

theorem standsAtEnds_of_run (fresh : start.traces = {}) (sound : start.files.Sound)
    (keepsOff : start.KeepsOff events) (separate : start.StaysSeparate events)
    (ran : start.run events = .ok client) : client.StandsAtEnds := by
  induction events using List.reverseRecOn generalizing client with
  | nil =>
    obtain rfl := Except.ok.inj ran
    refine ⟨sound, ?_, ?_⟩
    all_goals
      intro descriptor trace found
      cases (get?_of_fresh fresh descriptor).symm.trans found
  | append_singleton before event ih =>
    obtain ⟨earlier, answer, reached, stepped⟩ := run_concat_eq_ok.mp ran
    have part : before <+: before ++ [event] := List.prefix_append _ _
    have stands := ih (keepsOff.of_prefix part) (separate.of_prefix part) reached
    obtain change | ⟨fixture, rfl, rfl⟩ := change_step stands.sound stepped
    · cases change with
      | kept spares traces =>
        refine stands.kept spares (fun found regular => ?_) traces
        exact spares.content (stands.has found) fun output =>
          keepsOff.record part reached output regular (traced_of_live reached found)
      | started descriptor id spares has empty puts =>
        exact stands.started (separate (List.prefix_refl _) ran) spares has empty puts
      | moved descriptor trace kind bytes room found same puts =>
        exact stands.moved (separate part reached) found same puts
    · refine stands.kept (Files.spares_install stands.sound fixture) (fun found _ => ?_) id
      exact keepsOff.install (List.prefix_refl _) reached (traced_of_live reached found)

theorem StaysSeparate.appendsOnly (fresh : start.traces = {}) (sound : start.files.Sound)
    (keepsOff : start.KeepsOff events) (separate : start.StaysSeparate events) :
    start.AppendsOnly events := by
  intro before event client answer after part ran _ descriptor trace moved found _ _ regular
  have shorter : before <+: events := (List.prefix_append _ _).trans part
  have stands := standsAtEnds_of_run fresh sound (keepsOff.of_prefix shorter)
    (separate.of_prefix shorter) ran
  exact stands.atEnd found regular

/-! How to tell of a given run. -/

theorem all_along_run {holds : Client → Bool}
    (all : ∀ count ≤ events.length,
      ((start.run (events.take count)).toOption.all fun client => holds client) = true)
    {before : List Event} (part : before <+: events) (ran : start.run before = .ok client) :
    holds client = true := by
  have now := all before.length part.length_le
  rw [← List.prefix_iff_eq_take.mp part, ran] at now
  exact now

theorem keepsOff_of_noOutput (noFixture : ∀ fixture, .install fixture ∉ events)
    (noOutput : ∀ count ≤ events.length, ((start.run (events.take count)).toOption.all
      fun client => client.recording.output.isNone) = true) : start.KeepsOff events where
  install := by
    intro before fixture client id part
    exact absurd (part.subset (by simp)) (noFixture fixture)
  record := by
    intro before client id part ran output
    obtain ⟨path, output⟩ := output
    have closed := all_along_run noOutput part ran
    rw [output] at closed
    cases closed

theorem isSeparate_of_nodup
    (apart : (client.traces.states.entries.map fun entry => entry.2.file).Nodup) :
    client.IsSeparate := by
  intro descriptor other trace another found alsoFound same _
  have first := Mapping.mem_of_find found
  have second := Mapping.mem_of_find alsoFound
  exact congrArg Prod.fst (List.inj_on_of_nodup_map apart first second same)

theorem staysSeparate_of_nodup
    (apart : ∀ count ≤ events.length, ((start.run (events.take count)).toOption.all
      fun client => (client.traces.states.entries.map fun entry => entry.2.file).Nodup) = true) :
    start.StaysSeparate events := by
  intro before client part ran
  exact isSeparate_of_nodup (of_decide_eq_true (all_along_run apart part ran))

theorem writesTraces_of_noWarnings
    (noWarnings : ∀ count ≤ events.length, ((start.run (events.take count)).toOption.all
      fun client => client.warnings.isEmpty) = true) : start.WritesTraces events := by
  intro before event client part ran descriptor fault warned
  have none : client.warnings.isEmpty = true := all_along_run noWarnings part ran
  rw [List.isEmpty_iff.mp none] at warned
  cases warned

end Client

/-- At every moment of a run in which nothing else is written to the files that were traced into and
no write to them fails, each of them is a trace, provided that whatever is traced goes to the end of
its file. That is so if no two descriptors are traced into one file at a time. -/
theorem traces_well_formed {start : Client} (fresh : start.traces = {})
    (sound : start.files.Sound) {events : List Event} (keepsOff : start.KeepsOff events) :
    (start.StaysSeparate events → start.AppendsOnly events) ∧
      (start.WritesTraces events → start.AppendsOnly events → ∀ id, start.Traced events id →
        (start.filesAfter events).isRegular id = true →
        Script.IsTrace ((start.filesAfter events).content id) ∧
          ∀ byte ∈ (start.filesAfter events).content id, byte = 0x0A ∨ 0x20 ≤ byte) := by
  refine ⟨fun separate => separate.appendsOnly fresh sound keepsOff, ?_⟩
  intro writes appendsOnly id traced regular
  have formed := Client.isTrace_filesAfter fresh sound keepsOff writes appendsOnly traced regular
  exact ⟨formed, fun _ member => formed.le_of_mem member⟩

theorem traces_well_formed_of_interleaved :
    let ascii (text : String) := Bytes.ofAscii text.toList
    let environment : Environment :=
      (((Mapping.insert {} "DEVBED_SCRIPT_RECORD_DEV_0" (ascii "7")).insert
        "DEVBED_SCRIPT_RECORD_FILE_0" (ascii "one")).insert
        "DEVBED_SCRIPT_RECORD_DEV_1" (ascii "9")).insert
        "DEVBED_SCRIPT_RECORD_FILE_1" (ascii "two")
    let start : Client := { files := Files.initial, environment }
    let opening (descriptor : Descriptor) (device : DeviceNumber) : Event :=
      .call 0 (.onPath (.openFile false 0 0) (some (ascii "x")))
        { result := descriptor, device := some device }
    let events : List Event :=
      [opening 3 7, opening 4 9,
        .call 0 (.read 3 (some [0, 0]) 2) { result := 2, data := ascii "ab" },
        .call 0 (.write 4 (some (ascii "c\n")) 2) { result := 2 }, .setClock 5,
        .call 0 (.read 3 (some [0]) 1) { result := 1, data := ascii "d" }]
    ∃ client, start.run events = .ok client ∧
      client.files.dump = [(ascii "one", ascii "r 0 ab\nr 5 d"), (ascii "two", ascii "w 0 c^J")] ∧
      start.Traced events 5 ∧ Script.IsTrace (client.files.content 5) ∧
      start.Traced events 6 ∧ Script.IsTrace (client.files.content 6) := by
  intro ascii environment start opening events
  have outcome : (start.run events).toOption.any (fun client =>
      client.files.dump = [(ascii "one", ascii "r 0 ab\nr 5 d"), (ascii "two", ascii "w 0 c^J")] ∧
        (client.traces.get? 3).any (fun trace => trace.file = 5) ∧
        (client.traces.get? 4).any (fun trace => trace.file = 6) ∧
        client.files.isRegular 5 ∧ client.files.isRegular 6) = true := by
    decide +kernel
  have keepsOff : start.KeepsOff events :=
    Client.keepsOff_of_noOutput (by simp [events, opening]) (by decide +kernel)
  have writes : start.WritesTraces events :=
    Client.writesTraces_of_noWarnings (by decide +kernel)
  have separate : start.StaysSeparate events :=
    Client.staysSeparate_of_nodup (by decide +kernel)
  obtain ⟨client, ran, outcome⟩ := Outcome.any_toOption.mp outcome
  obtain ⟨dump, three, four, regular, alsoRegular⟩ := of_decide_eq_true outcome
  have traced {descriptor : Descriptor} {id : NodeId}
      (live : (client.traces.get? descriptor).any (fun trace => trace.file = id) = true) :
      start.Traced events id := by
    obtain ⟨trace, found, same⟩ := (Option.any_eq_true _ _).mp live
    obtain rfl := of_decide_eq_true same
    exact Client.traced_of_live ran found
  have after : start.filesAfter events = client.files := by rw [Client.filesAfter, ran]
  obtain ⟨appendsOnly, formed⟩ := traces_well_formed rfl Files.sound_initial keepsOff
  rw [after] at formed
  have isTrace {id : NodeId} (traced : start.Traced events id)
      (regular : client.files.isRegular id = true) : Script.IsTrace (client.files.content id) :=
    (formed writes (appendsOnly separate) id traced regular).1
  exact ⟨client, ran, dump, traced three, isTrace (traced three) regular, traced four,
    isTrace (traced four) alsoRegular⟩

/-- What is traced behind the end of a file leaves a gap of zero bytes before it, so the file is no
trace. -/
theorem Trace.not_isTrace_of_gap {trace : Trace} {files : Files}
    (regular : files.isRegular trace.file = true)
    (behind : (files.content trace.file).length < trace.offset) {bytes : Bytes}
    (filled : bytes.isEmpty = false) {kind : Operation} {now : Nat} {room : Option Nat}
    (complete : (trace.record files kind bytes now room).1 = none) :
    ¬ Script.IsTrace ((trace.record files kind bytes now room).2.2.content trace.file) := by
  intro formed
  have written := trace.recorder.chunk_ne_nil kind filled now
  rw [Trace.record_of_complete complete] at formed
  dsimp only at formed
  rw [Files.content_writeAt_self regular, Content.patch, if_neg written] at formed
  have zero : (0 : UInt8) ∈ List.replicate (trace.offset - (files.content trace.file).length) 0 :=
    List.mem_replicate.mpr ⟨Nat.sub_ne_zero_of_lt behind, rfl⟩
  rcases formed.le_of_mem (List.mem_append_right _ (List.mem_append_left _ zero)) with same | above
  · exact absurd same (by decide)
  · exact absurd above (by decide)

/-- A file is opened for a second trace, and so emptied, while the first one goes on where it
stood. -/
theorem trace_with_gap :
    let ascii (text : String) := Bytes.ofAscii text.toList
    let environment : Environment :=
      (Mapping.insert {} "DEVBED_SCRIPT_RECORD_DEV_0" (ascii "7")).insert
        "DEVBED_SCRIPT_RECORD_FILE_0" (ascii "log")
    let start : Client := { files := Files.initial, environment }
    let opening (descriptor : Descriptor) : Event :=
      .call 0 (.onPath (.openFile false 0 0) (some (ascii "/dev/a")))
        { result := descriptor, device := some 7 }
    let events : List Event :=
      [opening 1000, .call 0 (.read 1000 (some [0, 0, 0]) 3) { result := 3, data := ascii "abc" },
        opening 1001, .call 0 (.write 1000 (some (ascii "x")) 1) { result := 1 }]
    ∃ client, start.run events = .ok client ∧ start.KeepsOff events ∧ start.WritesTraces events ∧
      client.files.dump = [(ascii "log", List.replicate 7 0 ++ ascii "\nw 0 x")] ∧
      start.Traced events 5 ∧ client.files.isRegular 5 = true ∧
      ¬ Script.IsTrace (client.files.content 5) := by
  intro ascii environment start opening events
  have outcome : (start.run events).toOption.any (fun client =>
      client.files.dump = [(ascii "log", List.replicate 7 0 ++ ascii "\nw 0 x")] ∧
        (client.traces.get? 1000).any (fun trace => trace.file = 5) ∧
        client.files.isRegular 5 ∧ 0 ∈ client.files.content 5) = true := by
    decide +kernel
  have keepsOff : start.KeepsOff events :=
    Client.keepsOff_of_noOutput (by simp [events, opening]) (by decide +kernel)
  obtain ⟨client, ran, outcome⟩ := Outcome.any_toOption.mp outcome
  obtain ⟨dump, live, regular, zero⟩ := of_decide_eq_true outcome
  obtain ⟨trace, found, same⟩ := (Option.any_eq_true _ _).mp live
  have traced : start.Traced events 5 := of_decide_eq_true same ▸ Client.traced_of_live ran found
  have writes : start.WritesTraces events :=
    Client.writesTraces_of_noWarnings (by decide +kernel)
  refine ⟨client, ran, keepsOff, writes, dump, traced, regular, fun formed => ?_⟩
  rcases formed.le_of_mem zero with isFeed | above
  · exact absurd isFeed (by decide)
  · exact absurd above (by decide)

end DeviceTestbed
