import DeviceTestbed.Proofs.Client.Redirection
import DeviceTestbed.Proofs.Files.Removal
import DeviceTestbed.Proofs.Uevent.Address

/-!
Where a listener is bound. Each has an address of its own in the testbed, and to be bound there it
removes at most what stands at the end of that path. Other descriptors are bound as the program asks
for.
-/

namespace DeviceTestbed

open Uevent (LocalAddress eventName eventPath)

namespace Client

/-- The ways in which a descriptor is bound. A listener in a testbed gets the address of its own
path, unless that is too long; then nothing is called, and nothing is removed. -/
inductive Binds (client : Client) (descriptor : Descriptor) (address : Option Bytes)
    (reply : Reply) : Answer × Client → Prop
  | tooLong {root : Path} (listener : client.sockets.contains descriptor = true)
      (uses : client.UsesTestbed root)
      (long : LocalAddress.ofPath? (eventPath root descriptor) = none) :
      Binds client descriptor address reply
        ({ result := -1 }, { client with errno := nameTooLong })
  | own {root : Path} {own : LocalAddress} {files : Files}
      (listener : client.sockets.contains descriptor = true) (uses : client.UsesTestbed root)
      (stored : LocalAddress.ofPath? (eventPath root descriptor) = some own)
      (unlinks :
        client.files.Unlinks (eventPath root descriptor) (eventName descriptor) files) :
      Binds client descriptor address reply
        ({ result := reply.result },
          { client with
            files
            errno := reply.errnoAfter client.errno
            calls := client.calls ++ [.bind descriptor (some own.encode)] })
  | forwarded
      (other : ¬ (client.sockets.contains descriptor = true ∧ ∃ root, client.UsesTestbed root)) :
      Binds client descriptor address reply
        ({ result := reply.result },
          { client with
            errno := reply.errnoAfter client.errno
            calls := client.calls ++ [.bind descriptor address] })

theorem binds_bind (client : Client) (descriptor : Descriptor) (address : Option Bytes)
    (reply : Reply) :
    client.Binds descriptor address reply (client.bind descriptor address reply) := by
  obtain ⟨root, listener, testbed, long, bound⟩ | ⟨root, own, listener, testbed, stored, bound⟩ |
      ⟨other, bound⟩ := client.bind_cases descriptor address reply
  · rw [bound]
    exact .tooLong listener (testbed?_eq_some.mp testbed) long
  · obtain ⟨before, named⟩ := Path.names_append_slash root (Uevent.isWhole_eventName descriptor)
    rw [bound]
    exact .own listener (testbed?_eq_some.mp testbed) stored (Files.unlinks_remove named)
  · simp only [testbed?_eq_some] at other
    rw [bound]
    exact .forwarded other

end Client

/-- Two listeners never have the same path. A path without a zero byte is stored as an address just
if it has at most 107 bytes; the address is then a local one, and what it holds before its first
zero byte is the path, so the addresses of two listeners are different too. Binding never ends the
program: in any state it fails for a listener whose path is too long, with everything left as it
was, binds another listener to its own address, with at most the entry there removed, and leaves the
rest to the real function. -/
theorem listeners_bound_apart :
    (∀ root, Function.Injective (eventPath root)) ∧
    (∀ path : Path, 0 ∉ path →
      ((∃ address, LocalAddress.ofPath? path = some address) ↔ path.length ≤ 107) ∧
      ∀ address, LocalAddress.ofPath? path = some address →
        address.encode = 1 :: 0 :: address.path ∧
          address.path = Bytes.overlay path (List.replicate 108 0) ∧
          address.path.takeWhile (· ≠ 0) = path) ∧
    (∀ (root : Path) (first second : Descriptor) (own other : LocalAddress), 0 ∉ root →
      first ≠ second →
      LocalAddress.ofPath? (eventPath root first) = some own →
      LocalAddress.ofPath? (eventPath root second) = some other →
      own.path.takeWhile (· ≠ 0) ≠ other.path.takeWhile (· ≠ 0)) ∧
    ∀ (client : Client) (errno : Int) (descriptor : Descriptor) (address : Option Bytes)
      (reply : Reply), ∃ answer after,
        client.step (.call errno (.bind descriptor address) reply) = .ok (some answer, after) ∧
        (client.entering errno reply.conditions).Binds descriptor address reply
          (answer, after) := by
  refine ⟨Uevent.eventPath_injective, fun path clean => ?_, ?_, ?_⟩
  · refine ⟨LocalAddress.exists_ofPath?.trans Nat.lt_succ_iff, fun address stored => ?_⟩
    exact ⟨address.encode_eq, LocalAddress.path_of_stored stored,
      LocalAddress.toPath_of_stored clean stored⟩
  · intro root first second own other clean different stored otherStored
    exact Uevent.toPath_ne_of_stored clean different stored otherStored
  · intro client errno descriptor address reply
    exact ⟨_, _, rfl, Client.binds_bind _ descriptor address reply⟩

/-- The root of a testbed is so long that an address has room for the number 5 but none for 51. Of
the two files below it only the one at the path of 5 goes. -/
theorem listeners_bound_apart_below_long_root :
    let root : Path := List.replicate 100 0x61
    let client : Client :=
      { files := Files.ofFixtures [.file (eventPath root 5) [], .file (eventPath root 51) []]
        environment := Mapping.insert {} "DEVBED_DIR" root
        sockets := { states := { entries := [(5, ()), (7, ()), (51, ())] } } }
    let binding (descriptor : Descriptor) : Event :=
      .call 0 (.bind descriptor (some [16, 0])) { result := 0 }
    ∃ own other,
      LocalAddress.ofPath? (eventPath root 5) = some own ∧
      LocalAddress.ofPath? (eventPath root 7) = some other ∧
      own.path.takeWhile (· ≠ 0) ≠ other.path.takeWhile (· ≠ 0) ∧
      (∃ after, client.step (binding 5) = .ok (some { result := 0 }, after) ∧
        after.calls = [.bind 5 (some own.encode)] ∧
        client.files.LosesEntry after.files 5 (eventName 5)) ∧
      client.step (binding 51) =
        .ok (some { result := -1 }, { client.entering 0 {} with errno := 36 }) ∧
      ∃ after, client.step (binding 6) = .ok (some { result := 0 }, after) ∧
        after.calls = [.bind 6 (some [16, 0])] ∧ after.files = client.files := by
  intro root client binding
  obtain ⟨-, fits, apart, binds⟩ := listeners_bound_apart
  have clean : 0 ∉ root := by decide
  obtain ⟨own, stored⟩ :=
    (fits _ (Uevent.zero_not_mem_eventPath clean 5)).1.mpr (by decide)
  obtain ⟨other, otherStored⟩ :=
    (fits _ (Uevent.zero_not_mem_eventPath clean 7)).1.mpr (by decide)
  have tooLong : LocalAddress.ofPath? (eventPath root 51) = none := by decide
  have listens : client.sockets.contains 5 = true ∧ client.sockets.contains 51 = true := by decide
  have elsewhere : client.sockets.contains 6 = false := by decide
  have inUse (found : Path) : client.UsesTestbed found ↔ found = root := by
    constructor
    · rintro ⟨set, -⟩
      exact (Option.some.inj set).symm
    · rintro rfl
      exact ⟨rfl, by decide⟩
  have stands : client.files.resolve .entry (eventPath root 5) =
      .ok (.entry 5 (eventName 5) 6) := by decide +kernel
  have noDirectory : client.files.isDirectory 6 = false := by decide +kernel
  -- From here on neither the root nor what the client holds has to be evaluated.
  clear_value client root
  refine ⟨own, other, stored, otherStored,
    apart root 5 7 own other clean (by decide) stored otherStored, ?_, ?_, ?_⟩
  · obtain ⟨answer, after, stepped, bound⟩ := binds client 0 5 (some [16, 0]) { result := 0 }
    cases bound with
    | tooLong listener uses long =>
      obtain rfl := (inUse _).mp uses
      cases long.symm.trans stored
    | own listener uses kept unlinks =>
      obtain rfl := (inUse _).mp uses
      obtain rfl := Option.some.inj (stored.symm.trans kept)
      refine ⟨_, stepped, rfl, ?_⟩
      cases unlinks with
      | removed found _ loses =>
        obtain ⟨rfl, -⟩ := Files.Place.entry.inj (Except.ok.inj (stands.symm.trans found))
        exact loses
      | kept nothing => cases (nothing 5 6 stands).symm.trans noDirectory
    | forwarded unheard => exact absurd ⟨listens.1, root, (inUse root).mpr rfl⟩ unheard
  · obtain ⟨answer, after, stepped, bound⟩ := binds client 0 51 (some [16, 0]) { result := 0 }
    cases bound with
    | tooLong => exact stepped
    | own listener uses kept =>
      obtain rfl := (inUse _).mp uses
      cases tooLong.symm.trans kept
    | forwarded unheard => exact absurd ⟨listens.2, root, (inUse root).mpr rfl⟩ unheard
  · obtain ⟨answer, after, stepped, bound⟩ := binds client 0 6 (some [16, 0]) { result := 0 }
    cases bound with
    | forwarded => exact ⟨_, stepped, rfl, rfl⟩
    | tooLong listener => cases listener.symm.trans elsewhere
    | own listener => cases listener.symm.trans elsewhere

end DeviceTestbed
