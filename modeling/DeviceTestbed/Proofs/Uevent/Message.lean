import DeviceTestbed.Uevent.Message
import DeviceTestbed.Proofs.Text.Window

/-!
What a listener sees of a sender. A buffer of control messages is cut into its messages, and
disguising them is told message by message: in none of them do credentials name an owner other than
the root user, and as long as credentials are whole, nothing else of the messages changes.
-/

namespace DeviceTestbed.Uevent

/-- The control messages within `limit` bytes, each with its padding. One that is shorter than its
header is the last, and takes what is left. As for `disguiseAll`, there is a next one as long as a
header fits, whatever length it states. -/
def controlMessages (limit : Nat) (control : Bytes) : List Bytes :=
  if limit < headerLength then []
  else
    let step := align (messageLength control)
    if messageLength control < headerLength then [control]
    else control.take step :: controlMessages (limit - step) (control.drop step)
termination_by limit
decreasing_by
  have grown := le_align (messageLength control)
  simp only [headerLength] at *
  omega

/-! The fields of a sender's address, and the owner that credentials name. -/

def family (address : Bytes) : Nat :=
  Bytes.littleEndianValue (Bytes.window 0 2 address)

def process (address : Bytes) : Nat :=
  Bytes.littleEndianValue (Bytes.window 4 4 address)

def groups (address : Bytes) : Nat :=
  Bytes.littleEndianValue (Bytes.window 8 4 address)

def user (message : Bytes) : Nat :=
  Bytes.littleEndianValue (Bytes.window (headerLength + 4) 4 message)

def group (message : Bytes) : Nat :=
  Bytes.littleEndianValue (Bytes.window (headerLength + 8) 4 message)

def credentialsLength : Nat := headerLength + 12

variable {limit count : Nat} {control message : Bytes}

theorem headerLength_le_step (whole : ¬ messageLength control < headerLength) :
    headerLength ≤ align (messageLength control) :=
  Nat.le_trans (Nat.not_lt.mp whole) (le_align _)

theorem messageLength_take (holds : headerLength ≤ count) :
    messageLength (control.take count) = messageLength control := by
  simp only [headerLength] at holds
  rw [messageLength, Bytes.window_take (by omega), messageLength]

theorem isCredentials_take (holds : headerLength ≤ count) :
    isCredentials (control.take count) = isCredentials control := by
  simp only [headerLength] at holds
  rw [isCredentials, Bytes.window_take (by omega), Bytes.window_take (by omega), isCredentials]

/-! The first message. -/

theorem length_disguiseFirst (control : Bytes) :
    (disguiseFirst control).length = control.length := by
  unfold disguiseFirst
  split
  · exact Bytes.length_overlayAt _ _ _
  · rfl

theorem take_disguiseFirst (control : Bytes) :
    (disguiseFirst control).take headerLength = control.take headerLength := by
  unfold disguiseFirst
  split
  · exact Bytes.take_overlayAt (by simp [headerLength])
  · rfl

theorem messageLength_disguiseFirst (control : Bytes) :
    messageLength (disguiseFirst control) = messageLength control := by
  rw [← messageLength_take (Nat.le_refl headerLength), take_disguiseFirst,
    messageLength_take (Nat.le_refl headerLength)]

theorem isCredentials_disguiseFirst (control : Bytes) :
    isCredentials (disguiseFirst control) = isCredentials control := by
  rw [← isCredentials_take (Nat.le_refl headerLength), take_disguiseFirst,
    isCredentials_take (Nat.le_refl headerLength)]

theorem drop_disguiseFirst
    (within : isCredentials control = true → credentialsLength ≤ count) :
    (disguiseFirst control).drop count = control.drop count := by
  unfold disguiseFirst
  split
  · rename_i credentials
    exact Bytes.drop_overlayAt (within credentials)
  · rfl

theorem disguiseFirst_take (holds : headerLength ≤ count)
    (within : isCredentials control = true → credentialsLength ≤ count) :
    disguiseFirst (control.take count) = (disguiseFirst control).take count := by
  rw [disguiseFirst, isCredentials_take holds, disguiseFirst]
  split
  · rename_i credentials
    exact Bytes.overlayAt_take (within credentials)
  · rfl

theorem window_take_clearOwner {offset length : Nat} (behind : headerLength + 4 ≤ offset)
    (within : offset + length ≤ credentialsLength) (control : Bytes) (count : Nat) :
    Bytes.window offset length ((clearOwner control).take count) = List.replicate length 0 := by
  apply Bytes.window_eq_zero
  intro index read
  simp only [credentialsLength] at within
  rw [List.getElem?_take]
  by_cases taken : offset + index < count
  · rw [if_pos taken, clearOwner, Bytes.getElem?_overlayAt]
    by_cases inside : offset + index < control.length
    · have covered : headerLength + 4 ≤ offset + index ∧
          offset + index < headerLength + 4 + (List.replicate 8 (0 : UInt8)).length ∧
          offset + index < control.length := by
        rw [List.length_replicate]
        omega
      rw [if_pos covered, List.getElem?_replicate]
      split <;> rfl
    · have nothing : control[offset + index]? = none := List.getElem?_eq_none (by omega)
      rw [if_neg (fun covered => inside covered.2.2), nothing, Option.getD_none]
  · rw [if_neg taken, Option.getD_none]

theorem owner_disguiseFirst (credentials : isCredentials control = true) (count : Nat) :
    user ((disguiseFirst control).take count) = 0 ∧
      group ((disguiseFirst control).take count) = 0 := by
  rw [disguiseFirst, if_pos credentials]
  constructor
  · rw [user, window_take_clearOwner (by omega) (by simp only [credentialsLength]; omega),
      Bytes.littleEndianValue_zero]
  · rw [group, window_take_clearOwner (by omega) (by simp only [credentialsLength]; omega),
      Bytes.littleEndianValue_zero]

/-! All messages. -/

theorem length_disguiseAll (limit : Nat) (control : Bytes) :
    (disguiseAll limit control).length = control.length := by
  fun_induction disguiseAll limit control with
  | case1 => rfl
  | case2 => exact length_disguiseFirst _
  | case3 limit control _ changed step _ ih =>
    have kept : changed.length = control.length := length_disguiseFirst control
    rw [List.length_append, ih, List.length_take, List.length_drop, kept]
    omega

theorem controlMessages_of_short (short : limit < headerLength) (control : Bytes) :
    controlMessages limit control = [] := by
  rw [controlMessages, if_pos short]

theorem disguiseAll_of_last (room : ¬ limit < headerLength)
    (last : messageLength control < headerLength) :
    disguiseAll limit control = disguiseFirst control := by
  rw [disguiseAll, if_neg room]
  simp only [last, if_true]

theorem disguiseAll_of_whole (room : ¬ limit < headerLength)
    (whole : ¬ messageLength control < headerLength) :
    disguiseAll limit control =
      (disguiseFirst control).take (align (messageLength control)) ++
        disguiseAll (limit - align (messageLength control))
          ((disguiseFirst control).drop (align (messageLength control))) := by
  rw [disguiseAll, if_neg room]
  simp only [whole, if_false]

theorem controlMessages_of_last (room : ¬ limit < headerLength)
    (last : messageLength control < headerLength) : controlMessages limit control = [control] := by
  rw [controlMessages, if_neg room]
  simp only [last, if_true]

theorem controlMessages_of_whole (room : ¬ limit < headerLength)
    (whole : ¬ messageLength control < headerLength) :
    controlMessages limit control =
      control.take (align (messageLength control)) ::
        controlMessages (limit - align (messageLength control))
          (control.drop (align (messageLength control))) := by
  rw [controlMessages, if_neg room]
  simp only [whole, if_false]

/-! Behind the first message, the buffer is disguised as if it began there. -/

theorem take_disguiseAll (room : ¬ limit < headerLength)
    (whole : ¬ messageLength control < headerLength) :
    (disguiseAll limit control).take (align (messageLength control)) =
      (disguiseFirst control).take (align (messageLength control)) := by
  rw [disguiseAll_of_whole room whole, Bytes.take_take_append]
  rw [length_disguiseAll, List.length_drop]

theorem drop_disguiseAll (room : ¬ limit < headerLength)
    (whole : ¬ messageLength control < headerLength) :
    (disguiseAll limit control).drop (align (messageLength control)) =
      disguiseAll (limit - align (messageLength control))
        ((disguiseFirst control).drop (align (messageLength control))) := by
  rw [disguiseAll_of_whole room whole, Bytes.drop_take_append]
  rw [length_disguiseAll, List.length_drop]

theorem take_header_disguiseAll (room : ¬ limit < headerLength) (control : Bytes) :
    (disguiseAll limit control).take headerLength = control.take headerLength := by
  by_cases last : messageLength control < headerLength
  · rw [disguiseAll_of_last room last, take_disguiseFirst]
  · have holds := headerLength_le_step last
    have first := congrArg (List.take headerLength) (take_disguiseAll room last)
    rwa [List.take_take, List.take_take, Nat.min_eq_left holds, take_disguiseFirst] at first

theorem messageLength_disguiseAll (room : ¬ limit < headerLength) (control : Bytes) :
    messageLength (disguiseAll limit control) = messageLength control := by
  rw [← messageLength_take (Nat.le_refl headerLength), take_header_disguiseAll room,
    messageLength_take (Nat.le_refl headerLength)]

theorem isCredentials_disguiseAll (room : ¬ limit < headerLength) (control : Bytes) :
    isCredentials (disguiseAll limit control) = isCredentials control := by
  rw [← isCredentials_take (Nat.le_refl headerLength), take_header_disguiseAll room,
    isCredentials_take (Nat.le_refl headerLength)]

theorem controlMessages_disguiseAll (room : ¬ limit < headerLength)
    (whole : ¬ messageLength control < headerLength) :
    let step := align (messageLength control)
    let changed := disguiseFirst control
    controlMessages limit (disguiseAll limit control) =
      changed.take step ::
        controlMessages (limit - step) (disguiseAll (limit - step) (changed.drop step)) := by
  intro step changed
  have same := messageLength_disguiseAll room control
  rw [controlMessages_of_whole room (by rwa [same]), same, take_disguiseAll room whole,
    drop_disguiseAll room whole]

theorem owner_disguiseAll (limit : Nat) (control : Bytes) :
    ∀ message ∈ controlMessages limit (disguiseAll limit control),
      isCredentials message = true → user message = 0 ∧ group message = 0 := by
  induction limit, control using disguiseAll.induct with
  | case1 limit control short =>
    rw [controlMessages_of_short short]
    nofun
  | case2 limit control room last =>
    have same : messageLength (disguiseFirst control) < headerLength := by
      rwa [messageLength_disguiseFirst]
    rw [disguiseAll_of_last room last, controlMessages_of_last room same]
    intro message member credentials
    obtain rfl := List.mem_singleton.mp member
    rw [isCredentials_disguiseFirst] at credentials
    have owner := owner_disguiseFirst credentials (disguiseFirst control).length
    rwa [List.take_length] at owner
  | case3 limit control room changed step whole ih =>
    rw [controlMessages_disguiseAll room whole]
    intro message member credentials
    rcases List.mem_cons.mp member with rfl | later
    · rw [isCredentials_take (headerLength_le_step whole), isCredentials_disguiseFirst]
        at credentials
      exact owner_disguiseFirst credentials step
    · exact ih message later credentials

/-- Whole credentials end before the next message begins. So only owners change, and each message is
changed as if it stood alone. -/
theorem controlMessages_disguiseAll_eq_map (limit : Nat) (control : Bytes)
    (complete : ∀ message ∈ controlMessages limit control, isCredentials message = true →
      credentialsLength ≤ messageLength message) :
    controlMessages limit (disguiseAll limit control) =
      (controlMessages limit control).map disguiseFirst := by
  induction limit, control using disguiseAll.induct with
  | case1 limit control short =>
    rw [controlMessages_of_short short, controlMessages_of_short short, List.map_nil]
  | case2 limit control room last =>
    have same : messageLength (disguiseFirst control) < headerLength := by
      rwa [messageLength_disguiseFirst]
    rw [disguiseAll_of_last room last, controlMessages_of_last room same,
      controlMessages_of_last room last, List.map_singleton]
  | case3 limit control room changed step whole ih =>
    have messages := controlMessages_of_whole room whole
    have holds : headerLength ≤ step := headerLength_le_step whole
    have within (credentials : isCredentials control = true) : credentialsLength ≤ step := by
      have member : control.take step ∈ controlMessages limit control := by
        rw [messages]
        exact List.mem_cons_self
      have stated := complete _ member (by rwa [isCredentials_take holds])
      rw [messageLength_take holds] at stated
      exact Nat.le_trans stated (le_align _)
    have kept : changed.drop step = control.drop step := drop_disguiseFirst within
    have first : changed.take step = disguiseFirst (control.take step) :=
      (disguiseFirst_take holds within).symm
    rw [kept] at ih
    have others := ih fun message member => by
      apply complete
      rw [messages]
      exact List.mem_cons_of_mem _ member
    calc controlMessages limit (disguiseAll limit control)
        = changed.take step ::
            controlMessages (limit - step) (disguiseAll (limit - step) (changed.drop step)) :=
          controlMessages_disguiseAll room whole
      _ = (controlMessages limit control).map disguiseFirst := by
          rw [messages, List.map_cons, first, kept, others]

/-! The sender's address. -/

theorem length_kernelAddress : kernelAddress.length = 12 := rfl

theorem window_overlay_kernelAddress {offset length : Nat} {name : Bytes}
    (within : offset + length ≤ kernelAddress.length) (fits : kernelAddress.length ≤ name.length) :
    Bytes.window offset length (Bytes.overlay kernelAddress name) =
      Bytes.window offset length kernelAddress := by
  have start : (Bytes.overlay kernelAddress name).take kernelAddress.length = kernelAddress := by
    rw [Bytes.overlay_eq, List.take_of_length_le fits, List.take_left]
  rw [← Bytes.window_take within, start]

theorem overlay_kernelAddress {name : Bytes} (fits : kernelAddress.length ≤ name.length) :
    family (Bytes.overlay kernelAddress name) = netlinkFamily.toNat ∧
      process (Bytes.overlay kernelAddress name) = 0 ∧
      groups (Bytes.overlay kernelAddress name) = eventGroup := by
  refine ⟨?_, ?_, ?_⟩
  · rw [family, window_overlay_kernelAddress (by decide) fits]
    rfl
  · rw [process, window_overlay_kernelAddress (by decide) fits]
    rfl
  · rw [groups, window_overlay_kernelAddress (by decide) fits]
    rfl

namespace Message

/-- The message that is shown seems to come from the kernel, to a caller who stated `room` for the
sender's address. Of the control messages that were received only the owners are changed, and of the
payload nothing. -/
structure SeemsFromKernel (received shown : Message) (room : Nat) : Prop where
  name : ∀ name, received.name = some name → 12 ≤ name.length → 12 ≤ room →
    shown.nameLength = 12 ∧ ∃ address, shown.name = some address ∧ address.length = name.length ∧
      family address = netlinkFamily.toNat ∧ process address = 0 ∧ groups address = eventGroup
  owners : ∀ control, shown.control = some control →
    ∀ message ∈ controlMessages shown.controlLength control, isCredentials message = true →
      user message = 0 ∧ group message = 0
  messages : ∀ control, received.control = some control →
    (∀ message ∈ controlMessages received.controlLength control, isCredentials message = true →
      credentialsLength ≤ messageLength message) →
    ∃ after, shown.control = some after ∧ controlMessages shown.controlLength after =
      (controlMessages received.controlLength control).map disguiseFirst
  payload : shown.vectors = received.vectors ∧ shown.flags = received.flags

variable (message : Message) (room : Nat)

theorem disguise_buffers :
    (message.disguise room).control = message.control.map (disguiseAll message.controlLength) ∧
      (message.disguise room).controlLength = message.controlLength ∧
      (message.disguise room).vectors = message.vectors ∧
      (message.disguise room).flags = message.flags := by
  unfold disguise disguiseControl disguiseName
  split
  · exact ⟨rfl, rfl, rfl, rfl⟩
  · split <;> exact ⟨rfl, rfl, rfl, rfl⟩

theorem seemsFromKernel_disguise : message.SeemsFromKernel (message.disguise room) room := by
  obtain ⟨control, length, payload⟩ := message.disguise_buffers room
  constructor
  · intro name given fits stated
    rw [← length_kernelAddress] at fits stated
    have disguised : message.disguiseName room =
        { message with
          name := some (Bytes.overlay kernelAddress name)
          nameLength := kernelAddress.length } := by
      simp only [disguiseName, given]
      rw [if_pos stated]
    rw [disguise, disguised]
    exact ⟨rfl, _, rfl, Bytes.length_overlay _ _, overlay_kernelAddress fits⟩
  · intro after shown
    rw [control] at shown
    obtain ⟨before, -, rfl⟩ := Option.map_eq_some_iff.mp shown
    rw [length]
    exact owner_disguiseAll _ _
  · intro before received complete
    rw [control, received, length]
    exact ⟨_, rfl, controlMessages_disguiseAll_eq_map _ _ complete⟩
  · exact payload

end Message

end DeviceTestbed.Uevent
