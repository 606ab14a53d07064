import DeviceTestbed.Proofs.Client.History
import DeviceTestbed.Proofs.Uevent.Message

/-!
What a program sees of the senders of messages. On a descriptor that was handed out last as a
listener for device events a message with content seems to come from the kernel; any other message
is shown as it was received, and so is one without content on a listener.
-/

namespace DeviceTestbed

namespace Client

def shown (client : Client) (descriptor : Descriptor) (message : Uevent.Message) (reply : Reply) :
    Uevent.Message :=
  if 0 < reply.result ∧ client.sockets.contains descriptor then
    (message.receive reply).disguise message.nameLength
  else message.receive reply

theorem step_receive (client : Client) (number : Int) (descriptor : Descriptor)
    (message : Uevent.Message) (flags : Int) (reply : Reply) :
    ∃ after, client.step (.call number (.receive descriptor (some message) flags) reply) =
      .ok (some { result := reply.result
                  output := .message (some (client.shown descriptor message reply)) }, after) :=
  ⟨_, rfl⟩

end Client

/-- After any run, a message that is received with content by a listener for device events seems to
come from the kernel. Every other message is shown as the real function left it. -/
theorem sender_seems_kernel (files : Files) (environment : Environment) (clock : Nat)
    (errno : Int) (events : List Event) {client : Client}
    (ran : Client.run { files, environment, clock, errno } events = .ok client) (number : Int)
    (descriptor : Descriptor) (message : Uevent.Message) (flags : Int) (reply : Reply) :
    let history := Client.history { files, environment, clock, errno } events
    let listens := latest history descriptor =
      some (.socket Uevent.netlinkFamily Uevent.eventProtocol)
    ∃ shown after, client.step (.call number (.receive descriptor (some message) flags) reply) =
        .ok (some { result := reply.result, output := .message (some shown) }, after) ∧
      (listens ∧ 0 < reply.result →
        (message.receive reply).SeemsFromKernel shown message.nameLength) ∧
      (¬ (listens ∧ 0 < reply.result) → shown = message.receive reply) := by
  intro history listens
  have faithful : Faithful history client.registries := by
    have ends := faithful_run (faithful_start rfl rfl rfl :
      Faithful [] (Client.registries { files, environment, clock, errno })) events
    rw [ran] at ends
    exact ends
  have known : client.sockets.contains descriptor = true ↔ listens := by
    refine (faithful.sockets.contains descriptor).trans (latestIs_listener.trans ?_)
    constructor
    · rintro ⟨domain, protocol, last, rfl, rfl⟩
      exact last
    · intro last
      exact ⟨_, _, last, rfl, rfl⟩
  obtain ⟨after, received⟩ := client.step_receive number descriptor message flags reply
  refine ⟨client.shown descriptor message reply, after, received, ?_, ?_⟩
  · rintro ⟨last, content⟩
    rw [Client.shown, if_pos ⟨content, known.mpr last⟩]
    exact Uevent.Message.seemsFromKernel_disguise _ _
  · intro other
    have untouched : ¬ (0 < reply.result ∧ client.sockets.contains descriptor = true) :=
      fun both => other ⟨known.mp both.2, both.1⟩
    rw [Client.shown, if_neg untouched]

def Uevent.credentials (process user group : Nat) : Bytes :=
  Bytes.littleEndian 8 28 ++ Bytes.littleEndian 4 1 ++ Bytes.littleEndian 4 2 ++
    Bytes.littleEndian 4 process ++ Bytes.littleEndian 4 user ++ Bytes.littleEndian 8 group

theorem sender_seems_kernel_on_listener :
    let start : Client := { files := Files.initial }
    let events : List Event :=
      [.call 0 (.socket 16 2 15) { result := 3 }, .call 0 (.socket 1 2 0) { result := 4 }]
    let message : Uevent.Message :=
      { name := some (List.replicate 12 0), nameLength := 12
        control := some (List.replicate 32 0), controlLength := 32 }
    let reply : Reply :=
      { result := 5, name := Bytes.littleEndian 2 1, nameLength := 2
        data := Uevent.credentials 77 1000 1000, controlLength := 32 }
    let receiving (descriptor : Descriptor) : Event :=
      .call 0 (.receive descriptor (some message) 0) reply
    ∃ client, start.run events = .ok client ∧
      (∃ shown after, client.step (receiving 3) =
          .ok (some { result := 5, output := .message (some shown) }, after) ∧
        (message.receive reply).SeemsFromKernel shown 12) ∧
      ∃ after, client.step (receiving 4) =
        .ok (some { result := 5, output := .message (some (message.receive reply)) }, after) := by
  intro start events message reply receiving
  have ran : start.run events = .ok _ := rfl
  have seen (descriptor : Descriptor) :=
    sender_seems_kernel Files.initial {} 0 0 events ran 0 descriptor message 0 reply
  refine ⟨_, ran, ?_, ?_⟩
  · obtain ⟨shown, after, received, disguised, -⟩ := seen 3
    exact ⟨shown, after, received, disguised ⟨rfl, by decide⟩⟩
  · obtain ⟨shown, after, received, -, untouched⟩ := seen 4
    rw [untouched (by decide)] at received
    exact ⟨after, received⟩

/-- A message without content shows a listener the local family and the user 1000. -/
theorem sender_seen_without_content :
    let start : Client := { files := Files.initial }
    let events : List Event := [.call 0 (.socket 16 2 15) { result := 3 }]
    let message : Uevent.Message :=
      { name := some (List.replicate 12 0), nameLength := 12
        control := some (List.replicate 32 0), controlLength := 32 }
    let reply : Reply :=
      { result := 0, name := Bytes.littleEndian 2 1, nameLength := 2
        data := Uevent.credentials 77 1000 1000, controlLength := 32 }
    ∃ client after shown name control, start.run events = .ok client ∧
      latest (start.history events) 3 =
        some (.socket Uevent.netlinkFamily Uevent.eventProtocol) ∧
      client.step (.call 0 (.receive 3 (some message) 0) reply) =
        .ok (some { result := 0, output := .message (some shown) }, after) ∧
      shown.name = some name ∧ Uevent.family name = 1 ∧ shown.nameLength = 2 ∧
      shown.control = some control ∧ Uevent.controlMessages shown.controlLength control = [control] ∧
      Uevent.isCredentials control = true ∧ Uevent.user control = 1000 := by
  intro start events message reply
  have length : Uevent.messageLength (Uevent.credentials 77 1000 1000) = 28 := by decide
  have messages : Uevent.controlMessages 32 (Uevent.credentials 77 1000 1000) =
      [Uevent.credentials 77 1000 1000] := by
    rw [Uevent.controlMessages_of_whole (by decide) (by rw [length]; decide),
      Uevent.controlMessages_of_short (by rw [length]; decide), length]
    rfl
  refine ⟨_, _, message.receive reply, Bytes.littleEndian 12 1, Uevent.credentials 77 1000 1000,
    rfl, rfl, rfl, rfl, ?_, rfl, rfl, messages, ?_, ?_⟩
  · decide
  · decide
  · decide

end DeviceTestbed
