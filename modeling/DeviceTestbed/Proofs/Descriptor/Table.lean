import DeviceTestbed.Descriptor.Table

/-!
What the operations on a descriptor table do to the set of tracked descriptors and to the number of
entries. Releasing a descriptor never fails, and tracking one that was just handed out fails only
if the table is full.
-/

namespace DeviceTestbed

namespace Mapping

variable {Key Value : Type} [DecidableEq Key]

theorem contains_erase_self (mapping : Mapping Key Value) (key : Key) :
    (mapping.erase key).contains key = false := by
  rw [contains, get?_erase_self]
  rfl

theorem contains_erase_ne (mapping : Mapping Key Value) {key other : Key}
    (different : other ≠ key) : (mapping.erase key).contains other = mapping.contains other := by
  rw [contains, get?_erase_ne mapping different]
  rfl

theorem contains_insert_self (mapping : Mapping Key Value) (key : Key) (value : Value) :
    (mapping.insert key value).contains key = true := by
  rw [contains, get?_insert_self]
  rfl

theorem contains_insert_ne (mapping : Mapping Key Value) {key other : Key} (value : Value)
    (different : other ≠ key) :
    (mapping.insert key value).contains other = mapping.contains other := by
  rw [contains, get?_insert_ne mapping value different]
  rfl

theorem contains_modify (mapping : Mapping Key Value) (key other : Key) (change : Value → Value) :
    (mapping.modify key change).contains other = mapping.contains other := by
  rw [contains, get?_modify, Option.isSome_map]
  rfl

theorem size_eq_zero_of_absent {mapping : Mapping Key Value}
    (absent : ∀ key, mapping.contains key = false) : mapping.size = 0 := by
  obtain ⟨entries, unique⟩ := mapping
  cases entries with
  | nil => rfl
  | cons entry rest => simpa [contains, get?, find] using absent entry.1

theorem size_erase_le (mapping : Mapping Key Value) (key : Key) :
    (mapping.erase key).size ≤ mapping.size := by
  change (mapping.others key).length ≤ mapping.entries.length
  rw [others_eq]
  exact List.length_filter_le _ _

theorem erase_of_absent {mapping : Mapping Key Value} {key : Key}
    (absent : mapping.contains key = false) : mapping.erase key = mapping := by
  obtain ⟨entries, unique⟩ := mapping
  simp [erase, others, absent]

theorem size_insert (mapping : Mapping Key Value) {key : Key} (value : Value)
    (absent : mapping.contains key = false) :
    (mapping.insert key value).size = mapping.size + 1 := by
  change (mapping.others key).length + 1 = mapping.entries.length + 1
  rw [others, absent]
  rfl

theorem size_modify (mapping : Mapping Key Value) (key : Key) (change : Value → Value) :
    (mapping.modify key change).size = mapping.size :=
  List.length_map _

end Mapping

namespace DescriptorTable

variable {State : Type}

theorem get?_drop_self (table : DescriptorTable State) (descriptor : Descriptor) :
    (table.drop descriptor).get? descriptor = none :=
  table.states.get?_erase_self descriptor

theorem get?_drop_ne (table : DescriptorTable State) {descriptor other : Descriptor}
    (different : other ≠ descriptor) : (table.drop descriptor).get? other = table.get? other :=
  table.states.get?_erase_ne different

theorem get?_modify (table : DescriptorTable State) (descriptor other : Descriptor)
    (change : State → State) :
    (table.modify descriptor change).get? other =
      (table.get? other).map fun state => if other = descriptor then change state else state :=
  table.states.get?_modify descriptor other change

theorem get?_of_isEmpty {table : DescriptorTable State} (empty : table.isEmpty = true)
    (descriptor : Descriptor) : table.get? descriptor = none := by
  obtain ⟨limit, entries, unique⟩ := table
  obtain rfl := List.isEmpty_iff.mp empty
  rfl

theorem contains_of_isEmpty {table : DescriptorTable State} (empty : table.isEmpty = true)
    (descriptor : Descriptor) : table.contains descriptor = false :=
  congrArg Option.isSome (get?_of_isEmpty empty descriptor)

theorem drop_of_absent {table : DescriptorTable State} {descriptor : Descriptor}
    (absent : table.contains descriptor = false) : table.drop descriptor = table := by
  rw [drop, Mapping.erase_of_absent absent]

theorem drop_of_isEmpty {table : DescriptorTable State} (empty : table.isEmpty = true)
    (descriptor : Descriptor) : table.drop descriptor = table :=
  drop_of_absent (contains_of_isEmpty empty descriptor)

structure Keeps (before after : DescriptorTable State) : Prop where
  contains : ∀ descriptor, after.contains descriptor = before.contains descriptor
  limit : after.limit = before.limit
  room : before.size ≤ before.limit → after.size ≤ after.limit

structure Moves (before after : DescriptorTable State) (descriptor : Descriptor)
    (tracked : Prop) : Prop where
  self : after.contains descriptor = true ↔ tracked
  others : ∀ other, other ≠ descriptor → after.contains other = before.contains other
  limit : after.limit = before.limit
  room : before.size ≤ before.limit → after.size ≤ after.limit

theorem Keeps.refl (table : DescriptorTable State) : table.Keeps table :=
  ⟨fun _ => rfl, rfl, id⟩

theorem Moves.trans {first second third : DescriptorTable State} {descriptor : Descriptor}
    {tracked still : Prop} (earlier : first.Moves second descriptor tracked)
    (later : second.Moves third descriptor still) : first.Moves third descriptor still where
  self := later.self
  others := by
    intro other different
    rw [later.others other different, earlier.others other different]
  limit := later.limit.trans earlier.limit
  room := later.room ∘ earlier.room

theorem Moves.congr {before after : DescriptorTable State} {descriptor : Descriptor}
    {tracked same : Prop} (moves : before.Moves after descriptor tracked) (iff : tracked ↔ same) :
    before.Moves after descriptor same where
  self := moves.self.trans iff
  others := moves.others
  limit := moves.limit
  room := moves.room

theorem keeps_modify (table : DescriptorTable State) (descriptor : Descriptor)
    (change : State → State) : table.Keeps (table.modify descriptor change) where
  contains := fun other => table.states.contains_modify descriptor other change
  limit := rfl
  room := by
    intro fits
    change (table.states.modify descriptor change).size ≤ table.limit
    rw [Mapping.size_modify]
    exact fits

theorem moves_drop (table : DescriptorTable State) (descriptor : Descriptor) :
    table.Moves (table.drop descriptor) descriptor False where
  self := by
    have absent : (table.drop descriptor).contains descriptor = false :=
      table.states.contains_erase_self descriptor
    simp [absent]
  others := fun _ different => table.states.contains_erase_ne different
  limit := rfl
  room := Nat.le_trans (table.states.size_erase_le descriptor)

theorem add_of_tracked {table : DescriptorTable State} {descriptor : Descriptor}
    (tracked : table.contains descriptor = true) (state : State) :
    table.add descriptor state = .error (.alreadyTracked descriptor) :=
  if_pos tracked

theorem add_of_full {table : DescriptorTable State} {descriptor : Descriptor}
    (absent : table.contains descriptor = false) (full : table.limit ≤ table.size)
    (state : State) : table.add descriptor state = .error (.full descriptor table.limit) := by
  rw [add, absent]
  exact if_pos full

theorem add_eq_ok {table after : DescriptorTable State} {descriptor : Descriptor} {state : State} :
    table.add descriptor state = .ok after ↔
      table.contains descriptor = false ∧ table.size < table.limit ∧
        after = { table with states := table.states.insert descriptor state } := by
  cases tracked : table.contains descriptor with
  | true => simp [add_of_tracked tracked]
  | false =>
    by_cases full : table.limit ≤ table.size
    · simp [add_of_full tracked full, Nat.not_lt.mpr full]
    · simp [add, tracked, full, Nat.not_le.mp full, eq_comm]

theorem add_of_room {table : DescriptorTable State} {descriptor : Descriptor}
    (absent : table.contains descriptor = false) (room : table.size < table.limit)
    (state : State) :
    table.add descriptor state =
      .ok { table with states := table.states.insert descriptor state } :=
  add_eq_ok.mpr ⟨absent, room, rfl⟩

theorem moves_add {table after : DescriptorTable State} {descriptor : Descriptor} {state : State}
    (added : table.add descriptor state = .ok after) : table.Moves after descriptor True := by
  obtain ⟨absent, room, rfl⟩ := add_eq_ok.mp added
  refine ⟨?_, ?_, rfl, ?_⟩
  · exact iff_true_intro (table.states.contains_insert_self descriptor state)
  · intro other different
    exact table.states.contains_insert_ne state different
  · intro _
    exact Nat.le_trans (Nat.le_of_eq (table.states.size_insert state absent)) room

theorem moves_restart {table after : DescriptorTable State} {descriptor : Descriptor}
    {state : State} (restarted : table.restart descriptor state = .ok after) :
    table.Moves after descriptor True :=
  (table.moves_drop descriptor).trans (moves_add restarted)

structure Tracks (table : DescriptorTable State) (tracked : Descriptor → Prop) : Prop where
  contains : ∀ descriptor, table.contains descriptor = true ↔ tracked descriptor
  limit : table.limit = 1024
  room : table.size ≤ table.limit

theorem tracks_empty {tracked : Descriptor → Prop} (nothing : ∀ descriptor, ¬ tracked descriptor) :
    ({} : DescriptorTable State).Tracks tracked where
  contains := by
    intro descriptor
    exact iff_of_false Bool.false_ne_true (nothing descriptor)
  limit := rfl
  room := Nat.zero_le _

theorem Tracks.keeps {before after : DescriptorTable State} {tracked : Descriptor → Prop}
    (tracks : before.Tracks tracked) (keeps : before.Keeps after) : after.Tracks tracked where
  contains := by
    intro descriptor
    rw [keeps.contains]
    exact tracks.contains descriptor
  limit := keeps.limit.trans tracks.limit
  room := keeps.room tracks.room

theorem Tracks.moves {before after : DescriptorTable State} {tracked now : Descriptor → Prop}
    {descriptor : Descriptor} (tracks : before.Tracks tracked)
    (moves : before.Moves after descriptor (now descriptor))
    (others : ∀ other, other ≠ descriptor → (now other ↔ tracked other)) : after.Tracks now where
  contains := by
    intro other
    by_cases same : other = descriptor
    · rw [same]
      exact moves.self
    · rw [moves.others other same, others other same]
      exact tracks.contains other
  limit := moves.limit.trans tracks.limit
  room := moves.room tracks.room

theorem contains_drop_self (table : DescriptorTable State) (descriptor : Descriptor) :
    (table.drop descriptor).contains descriptor = false :=
  table.states.contains_erase_self descriptor

theorem restart_eq {table : DescriptorTable State} {descriptor : Descriptor}
    (room : (table.drop descriptor).size < table.limit) (state : State) :
    table.restart descriptor state =
      .ok { table with states := (table.drop descriptor).states.insert descriptor state } :=
  add_of_room (table.contains_drop_self descriptor) room state

theorem restart_eq_error {table : DescriptorTable State} {descriptor : Descriptor} {state : State}
    {fault : Fault} :
    table.restart descriptor state = .error fault ↔
      table.limit ≤ (table.drop descriptor).size ∧ fault = .full descriptor table.limit := by
  by_cases full : table.limit ≤ (table.drop descriptor).size
  · have fails : table.restart descriptor state = .error (.full descriptor table.limit) :=
      add_of_full (table.contains_drop_self descriptor) full state
    rw [fails, Except.error.injEq, eq_comm]
    simp [full]
  · rw [restart_eq (Nat.not_le.mp full)]
    simp [full]

theorem eq_full_of_restart {table : DescriptorTable State} {descriptor : Descriptor}
    {state : State} {fault : Fault} (failed : table.restart descriptor state = .error fault) :
    fault = .full descriptor table.limit :=
  (restart_eq_error.mp failed).2

theorem get?_add_self {table after : DescriptorTable State} {descriptor : Descriptor}
    {state : State} (added : table.add descriptor state = .ok after) :
    after.get? descriptor = some state := by
  obtain ⟨-, -, rfl⟩ := add_eq_ok.mp added
  exact table.states.get?_insert_self descriptor state

theorem get?_add_ne {table after : DescriptorTable State} {descriptor other : Descriptor}
    {state : State} (added : table.add descriptor state = .ok after)
    (different : other ≠ descriptor) : after.get? other = table.get? other := by
  obtain ⟨-, -, rfl⟩ := add_eq_ok.mp added
  exact table.states.get?_insert_ne state different

theorem get?_restart_self {table after : DescriptorTable State} {descriptor : Descriptor}
    {state : State} (restarted : table.restart descriptor state = .ok after) :
    after.get? descriptor = some state :=
  get?_add_self restarted

theorem get?_restart_ne {table after : DescriptorTable State} {descriptor other : Descriptor}
    {state : State} (restarted : table.restart descriptor state = .ok after)
    (different : other ≠ descriptor) : after.get? other = table.get? other :=
  (get?_add_ne restarted different).trans (table.get?_drop_ne different)

theorem release_eq (table : DescriptorTable State) (descriptor : Descriptor) :
    table.release descriptor = .ok (table.get? descriptor, table.drop descriptor) := by
  rw [release]
  cases found : table.get? descriptor with
  | none =>
    have absent : table.contains descriptor = false := by
      change (table.get? descriptor).isSome = false
      rw [found]
      rfl
    rw [if_neg (by simp [absent]), drop_of_absent absent]
  | some state =>
    have present : table.contains descriptor = true := by
      change (table.get? descriptor).isSome = true
      rw [found]
      rfl
    rw [if_pos present, remove, found]
    rfl

structure Puts (before after : DescriptorTable State) (descriptor : Descriptor) (state : State) :
    Prop where
  own : after.get? descriptor = some state
  others : ∀ {other known}, other ≠ descriptor → after.get? other = some known →
    before.get? other = some known

theorem Puts.own_or_other {before after : DescriptorTable State} {descriptor other : Descriptor}
    {state known : State} (puts : before.Puts after descriptor state)
    (found : after.get? other = some known) :
    (other = descriptor ∧ known = state) ∨
      (other ≠ descriptor ∧ before.get? other = some known) := by
  by_cases same : other = descriptor
  · rw [same, puts.own] at found
    exact .inl ⟨same, (Option.some.inj found).symm⟩
  · exact .inr ⟨same, puts.others same found⟩

theorem puts_restart {table after : DescriptorTable State} {descriptor : Descriptor} {state : State}
    (restarted : table.restart descriptor state = .ok after) :
    table.Puts after descriptor state where
  own := get?_restart_self restarted
  others := fun different found => (get?_restart_ne restarted different).symm.trans found

theorem puts_modify {table : DescriptorTable State} {descriptor : Descriptor} {state known : State}
    (tracked : table.get? descriptor = some known) :
    table.Puts (table.modify descriptor fun _ => state) descriptor state where
  own := by
    rw [get?_modify, tracked]
    simp
  others := by
    intro other before different found
    simpa [get?_modify, different] using found

end DescriptorTable

end DeviceTestbed
