import DeviceTestbed.Proofs.Client.Registries

/-!
What each entry point does to the tables: what is asked for by the origin of the descriptor that the
call hands out or closes, and nothing if it does neither.
-/

namespace DeviceTestbed

namespace Client

def touching (descriptor : Descriptor) (origin : Origin) : Option (Descriptor × Origin) :=
  if descriptor < 0 then none else some (descriptor, origin)

/-- The descriptor that a call hands out or closes. A path that is too long is not opened at all. -/
def touched (client : Client) (reply : Reply) : Call → Option (Descriptor × Origin)
  | .onPath (.openFile _ _ _) (some path) =>
    match Redirection.shadow client.files client.testbed? path with
    | .error _ => none
    | .ok (some _) => touching reply.result (.redirected path)
    | .ok none => touching reply.result (.opened reply.device)
  | .socket domain _ protocol => touching reply.result (.socket domain protocol)
  | .close descriptor => touching descriptor .closed
  | .closeStream (some stream) => touching stream.descriptor .closed
  | _ => none

end Client

def Registries.Follows (before after : Registries) : Option (Descriptor × Origin) → Prop
  | none => before.Keeps after
  | some (descriptor, origin) => before.Moves after descriptor origin

theorem Ends.quietlyTry {client : Client} {work : Client → Except Halt Client}
    {before : Registries} {touched : Option (Descriptor × Origin)}
    (ends : Ends (work client) fun after => before.Follows after.registries touched) :
    Ends (client.quietlyTry work) fun after => before.Follows after.registries touched := by
  unfold Client.quietlyTry
  cases outcome : work client with
  | ok after =>
    rw [outcome] at ends
    exact ends
  | error halt =>
    rw [outcome] at ends
    exact ends

namespace Client

theorem foldl_noting (client : Client) (paths : List Path) :
    ∃ errno, paths.foldl (fun client looked => client.noting (client.files.fault? looked)) client =
      { client with errno } := by
  induction paths generalizing client with
  | nil => exact ⟨_, rfl⟩
  | cons path rest ih =>
    obtain ⟨errno, same⟩ := ih (client.noting (client.files.fault? path))
    refine ⟨errno, ?_⟩
    rw [List.foldl_cons, same, noting]

theorem redirect_eq (client : Client) (path : Path) :
    client.redirect (some path) =
      (Redirection.shadow client.files client.testbed? path, client) := by
  obtain ⟨errno, same⟩ :=
    client.foldl_noting (Redirection.lookups client.files client.testbed? path)
  rw [redirect, quietly, same]

theorem redirect_snd (client : Client) (path : Option Path) :
    (client.redirect path).2 = client := by
  cases path with
  | none => rfl
  | some path => rw [redirect_eq]

theorem statusOf_eq (client : Client) (path shadow : Option Path) (buffer : Bool) (reply : Reply) :
    (client.statusOf path shadow buffer reply).2 = client := by
  unfold statusOf
  split
  · rfl
  · split
    · rfl
    · split
      · split
        · rfl
        · rfl
      · rfl

theorem descriptorOf_registries (client : Client) (stream : Stream) :
    (client.descriptorOf stream).2.registries = client.registries := by
  unfold descriptorOf
  split <;> rfl

theorem keeps_trace (client : Client) (descriptor : Descriptor) (kind : Operation) (length : Nat)
    (buffer : Option Bytes) :
    client.registries.Keeps (client.trace descriptor kind length buffer).registries := by
  unfold trace
  split
  · exact .refl _
  · split
    · exact .refl _
    · simp only [quietly, TraceTable.record]
      split
      · exact .refl _
      · exact ⟨.refl _, .refl _, client.traces.keeps_modify descriptor _, rfl⟩

theorem keeps_traceStream (client : Client) (stream : Option Stream) (kind : Operation)
    (result : Int) (length : Nat) (buffer : Option Bytes) :
    client.registries.Keeps (client.traceStream stream kind result length buffer).registries := by
  cases stream with
  | none => exact .refl _
  | some stream =>
    simp only [traceStream]
    split
    · exact .refl _
    · rw [← client.descriptorOf_registries stream]
      exact keeps_trace _ _ _ _ _

def Reflects (client : Client) (reply : Reply) (call : Call)
    (outcome : Except Halt (Answer × Client)) : Prop :=
  Ends outcome fun answered =>
    client.registries.Follows answered.2.registries
      (client.touched reply call)

theorem ends_released (client : Client) (descriptor : Descriptor) :
    Ends (client.release descriptor) fun after =>
      client.registries.Follows after.registries (touching descriptor .closed) := by
  by_cases negative : descriptor < 0
  · rw [release, touching, if_pos negative, if_pos negative]
    exact .refl _
  · rw [touching, if_neg negative]
    exact ends_release (Int.not_lt.mp negative)

theorem reflects_close (client : Client) (descriptor : Descriptor) (reply : Reply) :
    client.Reflects reply (.close descriptor) (client.close descriptor reply) :=
  (client.ends_released descriptor).quietlyTry.bind fun _ follows => follows

theorem reflects_closeStream (client : Client) (stream : Option Stream) (reply : Reply) :
    client.Reflects reply (.closeStream stream) (client.closeStream stream reply) := by
  cases stream with
  | none => exact .refl _
  | some stream =>
    have released := ends_released (client.descriptorOf stream).2 stream.descriptor
    rw [descriptorOf_registries] at released
    exact released.quietlyTry.bind fun _ follows => follows

theorem ends_listen (client : Client) (descriptor : Descriptor) (domain protocol : Int) :
    Ends
      (let client := client.forget descriptor
      if Uevent.isListener domain protocol then
        match client.sockets.restart descriptor () with
        | .ok sockets => .ok { client with sockets }
        | .error fault => client.halt (.table fault)
      else .ok client)
      fun after => client.registries.Follows after.registries
        (some (descriptor, .socket domain protocol)) := by
  have forgotten := client.forget_moves descriptor
  have wanted : Uevent.isListener domain protocol = true ↔
      (Origin.socket domain protocol).IsListener := by
    simp [Uevent.isListener, Origin.IsListener]
  by_cases listener : Uevent.isListener domain protocol = true
  · simp only [listener, ↓reduceIte]
    cases restarted : (client.forget descriptor).sockets.restart descriptor () with
    | ok sockets =>
      have moved := (forgotten.sockets.trans (DescriptorTable.moves_restart restarted)).congr
        (iff_of_true trivial (wanted.mp listener))
      exact ⟨moved, forgotten.replays, forgotten.traces, forgotten.configuration, nofun⟩
    | error fault =>
      rw [DescriptorTable.eq_full_of_restart restarted]
      exact ends_full _ _ _
  · simp only [listener, Bool.false_eq_true, ↓reduceIte]
    have kept := forgotten.sockets.congr (iff_of_false id (mt wanted.mpr listener))
    exact ⟨kept, forgotten.replays, forgotten.traces, forgotten.configuration, nofun⟩

theorem reflects_socket (client : Client) (domain type protocol : Int) (reply : Reply) :
    client.Reflects reply (.socket domain type protocol)
      (client.socket domain type protocol reply) := by
  unfold Reflects socket
  rw [touched, touching]
  dsimp only
  by_cases negative : reply.result < 0
  · rw [if_pos negative, if_pos negative]
    exact .refl _
  · rw [if_neg negative, if_neg negative]
    refine (ends_listen _ reply.result domain protocol).quietlyTry.bind ?_
    exact fun _ follows => follows

theorem ends_opened_null (client : Client) (descriptor : Descriptor) (redirected : Bool)
    (device : Option DeviceNumber) :
    Ends (client.opened descriptor none redirected device) fun after =>
      client.registries.Follows after.registries none := by
  unfold opened
  split
  · exact .refl _
  · nofun

theorem ends_opened_path (client : Client) (descriptor : Descriptor) (path : Path)
    (redirected : Bool) (device : Option DeviceNumber)
    (testbed : redirected = true → client.testbed?.isSome = true) :
    Ends (client.opened descriptor (some path) redirected device) fun after =>
      client.registries.Follows after.registries
        (touching descriptor (if redirected then .redirected path else .opened device)) := by
  by_cases negative : descriptor < 0
  · rw [opened, touching, if_pos negative, if_pos negative]
    exact .refl _
  · rw [touching, if_neg negative]
    exact ends_opened client (Int.not_lt.mp negative) path redirected device testbed

theorem testbed_of_shadow {files : Files} {root : Option Path} {path shadow : Path}
    (found : Redirection.shadow files root path = .ok (some shadow)) : root.isSome = true := by
  cases root with
  | none => cases found
  | some root => rfl

theorem reflects_openFile (client : Client) (wide : Bool) (flags : Int) (mode : Nat)
    (path : Option Path) (reply : Reply) :
    client.Reflects reply (.onPath (.openFile wide flags mode) path)
      (client.onPath (.openFile wide flags mode) path reply) := by
  unfold Reflects onPath
  cases path with
  | none =>
    refine (ends_opened_null _ reply.result false reply.device).quietlyTry.bind ?_
    exact fun _ follows => follows
  | some path =>
    rw [redirect_eq, touched]
    cases found : Redirection.shadow client.files client.testbed? path with
    | error fault => exact .refl _
    | ok shadow =>
      cases shadow with
      | none =>
        refine (ends_opened_path _ reply.result path false reply.device nofun).quietlyTry.bind ?_
        exact fun _ follows => follows
      | some shadow =>
        refine (ends_opened_path _ reply.result path true reply.device ?_).quietlyTry.bind ?_
        · exact fun _ => testbed_of_shadow found
        · exact fun _ follows => follows

theorem touched_onPath {function : PathFunction}
    (notOpen : ∀ wide flags mode, function ≠ .openFile wide flags mode) (client : Client)
    (path : Option Path) (reply : Reply) :
    client.touched reply (.onPath function path) = none := by
  cases function with
  | openFile wide flags mode => exact absurd rfl (notOpen wide flags mode)
  | _ => cases path <;> rfl

theorem onPath_of_not_open {function : PathFunction}
    (notOpen : ∀ wide flags mode, function ≠ .openFile wide flags mode) (client : Client)
    (path : Option Path) (reply : Reply) :
    ∃ answer errno calls,
      client.onPath function path reply = .ok (answer, { client with errno, calls }) := by
  have same := client.redirect_snd path
  unfold onPath
  split
  · rename_i found
    rw [found] at same
    rw [← same]
    exact ⟨_, _, _, rfl⟩
  · rename_i shadow redirected found
    rw [found] at same
    rw [← same]
    cases function with
    | openFile wide flags mode => exact absurd rfl (notOpen wide flags mode)
    | status function buffer =>
      let called := redirected.callReal (.onPath (.status function buffer) (shadow.or path)) reply
      have kept := called.statusOf_eq path shadow buffer reply
      exact ⟨_, _, _, congrArg (fun after => Except.ok (_, after)) kept⟩
    | _ => exact ⟨_, _, _, rfl⟩

theorem reflects_onPath (client : Client) (function : PathFunction) (path : Option Path)
    (reply : Reply) :
    client.Reflects reply (.onPath function path) (client.onPath function path reply) := by
  by_cases isOpen : ∃ wide flags mode, function = .openFile wide flags mode
  · obtain ⟨wide, flags, mode, rfl⟩ := isOpen
    exact client.reflects_openFile wide flags mode path reply
  · have notOpen (wide : Bool) (flags : Int) (mode : Nat) : function ≠ .openFile wide flags mode :=
      fun same => isOpen ⟨wide, flags, mode, same⟩
    obtain ⟨answer, errno, calls, same⟩ := onPath_of_not_open notOpen client path reply
    rw [Reflects, touched_onPath notOpen, same]
    exact .refl _

/-! The other calls hand out no descriptor and close none. -/

/-- Binding fails for a listener whose path is too long. For any other listener of a testbed the
real function gets the listener's own address, from which an entry was removed if it could be, and
in all other cases the address that was asked for. -/
theorem bind_cases (client : Client) (descriptor : Descriptor) (address : Option Bytes)
    (reply : Reply) :
    (∃ root, client.sockets.contains descriptor = true ∧ client.testbed? = some root ∧
      Uevent.LocalAddress.ofPath? (Uevent.eventPath root descriptor) = none ∧
      client.bind descriptor address reply =
        ({ result := -1 }, { client with errno := nameTooLong })) ∨
    (∃ root own, client.sockets.contains descriptor = true ∧ client.testbed? = some root ∧
      Uevent.LocalAddress.ofPath? (Uevent.eventPath root descriptor) = some own ∧
      client.bind descriptor address reply =
        ({ result := reply.result },
          callReal
            { client with
              files :=
                (client.files.remove (Uevent.eventPath root descriptor)).toOption.getD
                  client.files }
            (.bind descriptor (some own.encode)) reply)) ∨
    ((¬ (client.sockets.contains descriptor = true ∧ ∃ root, client.testbed? = some root)) ∧
      client.bind descriptor address reply =
        ({ result := reply.result }, client.callReal (.bind descriptor address) reply)) := by
  unfold bind
  split
  · rename_i root tracked testbed
    have listener : client.sockets.contains descriptor = true :=
      Option.isSome_iff_exists.mpr ⟨_, tracked⟩
    dsimp only
    split
    · rename_i long
      exact .inl ⟨root, listener, testbed, long, rfl⟩
    · rename_i own stored
      refine .inr (.inl ⟨root, own, listener, testbed, stored, ?_⟩)
      -- Why nothing could be removed is forgotten with the error number.
      simp only [quietly]
      split <;>
      · rename_i removed
        rw [removed]
        rfl
  · rename_i other
    refine .inr (.inr ⟨?_, rfl⟩)
    rintro ⟨listener, root, testbed⟩
    obtain ⟨known, tracked⟩ := Option.isSome_iff_exists.mp listener
    exact other known root tracked testbed

theorem keeps_bind (client : Client) (descriptor : Descriptor) (address : Option Bytes)
    (reply : Reply) :
    client.registries.Keeps (client.bind descriptor address reply).2.registries := by
  obtain ⟨_, -, -, -, bound⟩ | ⟨_, _, -, -, -, bound⟩ | ⟨-, bound⟩ :=
    client.bind_cases descriptor address reply
  all_goals
    rw [bound]
    exact .refl _

theorem keeps_ioctl (client : Client) (descriptor : Descriptor) (request : Request)
    (argument : Argument) (reply : Reply) :
    client.registries.Keeps (client.ioctl descriptor request argument reply).2.registries := by
  have kept : client.replays.Keeps (client.replays.respond descriptor request argument).2 := by
    unfold ReplayTable.respond
    split
    · exact .refl _
    · exact client.replays.keeps_modify descriptor _
  unfold ioctl
  split
  · rename_i responded
    rw [responded] at kept
    exact ⟨.refl _, kept, .refl _, rfl⟩
  · dsimp only
    split <;> exact .refl _

theorem reflects_perform (client : Client) (reply : Reply) (call : Call) :
    client.Reflects reply call (client.perform reply call) := by
  cases call with
  | onPath function path => exact client.reflects_onPath function path reply
  | close descriptor => exact client.reflects_close descriptor reply
  | closeStream stream => exact client.reflects_closeStream stream reply
  | socket domain type protocol => exact client.reflects_socket domain type protocol reply
  | read descriptor buffer count =>
    exact (client.callReal _ reply).keeps_trace descriptor .read _ _
  | write descriptor buffer count =>
    exact (client.callReal _ reply).keeps_trace descriptor .write _ _
  | readStream stream buffer size count =>
    exact (client.callReal _ reply).keeps_traceStream stream .read _ _ _
  | writeStream stream buffer size count =>
    exact (client.callReal _ reply).keeps_traceStream stream .write _ _ _
  | readLine stream buffer size =>
    exact (client.callReal _ reply).keeps_traceStream stream .read _ _ _
  | bind descriptor address => exact client.keeps_bind descriptor address reply
  | receive descriptor message flags => exact .refl _
  | ioctl descriptor request argument => exact client.keeps_ioctl descriptor request argument reply

end Client

end DeviceTestbed
