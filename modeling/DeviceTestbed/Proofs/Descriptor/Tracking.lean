import DeviceTestbed.Proofs.Descriptor.Table
import Mathlib.Data.Set.Card

/-!
Tracking a descriptor in place. A table that is in use never holds more than it may, so after a
stale entry was dropped there is room, and what was dropped need not be put back.
-/

namespace DeviceTestbed

namespace Mapping

variable {Key Value : Type} [DecidableEq Key]

theorem ncard_contains (mapping : Mapping Key Value) :
    {key | mapping.contains key = true}.ncard = mapping.size := by
  have keys : {key | mapping.contains key = true} =
      ((mapping.entries.map Prod.fst).toFinset : Set Key) := by
    ext key
    simp only [Set.mem_ofPred_eq, contains_iff_mem, List.coe_toFinset]
  rw [keys, Set.ncard_coe_finset, List.toFinset_card_of_nodup mapping.unique, List.length_map]
  rfl

theorem size_erase_lt {mapping : Mapping Key Value} {key : Key}
    (present : mapping.contains key = true) : (mapping.erase key).size < mapping.size := by
  obtain ⟨entry, member, same⟩ := List.mem_map.mp (contains_iff_mem.mp present)
  change (mapping.others key).length < mapping.entries.length
  rw [others_eq, List.length_filter_lt_length_iff_exists]
  exact ⟨entry, member, by simp [same]⟩

end Mapping

namespace DescriptorTable

variable {State Error : Type} {table : DescriptorTable State} {descriptor : Descriptor}

inductive Reached : DescriptorTable State → Prop
  | empty : Reached {}
  | track {table : DescriptorTable State} {Error : Type} (before : Reached table)
      (descriptor : Descriptor) (fresh : Except Error State) (ofTable : Fault → Error) :
      Reached (table.track descriptor fresh ofTable).2
  | drop {table : DescriptorTable State} (before : Reached table) (descriptor : Descriptor) :
      Reached (table.drop descriptor)
  | modify {table : DescriptorTable State} (before : Reached table) (descriptor : Descriptor)
      (change : State → State) : Reached (table.modify descriptor change)

/-! In place or not. -/

theorem track_ok (table : DescriptorTable State) (descriptor : Descriptor) (state : State)
    (ofTable : Fault → Error) :
    table.track descriptor (.ok state) ofTable =
      match table.restart descriptor state with
      | .ok after => (.ok (), after)
      | .error fault => (.error (ofTable fault), table.drop descriptor) := rfl

/-! How many descriptors a table holds. -/

theorem limit_room_of_reached (reached : table.Reached) :
    table.limit = 1024 ∧ table.size ≤ table.limit := by
  induction reached with
  | empty => exact ⟨rfl, Nat.zero_le _⟩
  | @track table Error before descriptor fresh ofTable ih =>
    cases fresh with
    | error error => exact ih
    | ok state =>
      rw [track_ok]
      cases restarted : table.restart descriptor state with
      | error fault =>
        have moves := table.moves_drop descriptor
        exact ⟨moves.limit.trans ih.1, moves.room ih.2⟩
      | ok after =>
        have moves := moves_restart restarted
        exact ⟨moves.limit.trans ih.1, moves.room ih.2⟩
  | @drop table before descriptor ih =>
    have moves := table.moves_drop descriptor
    exact ⟨moves.limit.trans ih.1, moves.room ih.2⟩
  | @modify table before descriptor change ih =>
    have keeps := table.keeps_modify descriptor change
    exact ⟨keeps.limit.trans ih.1, keeps.room ih.2⟩

theorem reached_of_entries {entries : List (Descriptor × State)}
    (unique : (entries.map Prod.fst).Nodup) (room : entries.length ≤ 1024) :
    Reached { states := { entries, unique } } := by
  induction entries with
  | nil => exact .empty
  | cons entry rest ih =>
    obtain ⟨descriptor, state⟩ := entry
    obtain ⟨fresh, uniqueRest⟩ := List.nodup_cons.mp unique
    rw [List.length_cons] at room
    let table : DescriptorTable State := { states := { entries := rest, unique := uniqueRest } }
    have before : table.Reached := ih uniqueRest (Nat.le_of_succ_le room)
    have absent : table.states.contains descriptor = false :=
      eq_false_of_ne_true (mt Mapping.contains_iff_mem.mp fresh)
    have dropped : table.drop descriptor = table := drop_of_absent absent
    have fits : (table.drop descriptor).size < table.limit := by
      rw [dropped]
      exact room
    have inserted : table.states.insert descriptor state =
        { entries := (descriptor, state) :: rest, unique } := by
      simp [Mapping.insert, Mapping.others, absent, table]
    have tracked := before.track descriptor (.ok state) id
    rwa [track_ok, restart_eq fits, dropped, inserted] at tracked

theorem reached_iff : table.Reached ↔ table.limit = 1024 ∧ table.size ≤ table.limit := by
  constructor
  · exact limit_room_of_reached
  · rintro ⟨limit, room⟩
    obtain ⟨_, entries, unique⟩ := table
    obtain rfl := limit
    exact reached_of_entries unique room

theorem exists_reached_below (state : State) {count : Nat} (room : count ≤ 1024) :
    ∃ table : DescriptorTable State, table.Reached ∧ table.size = count ∧
      ∀ number : Nat, table.contains number = true ↔ number < count := by
  let entries := (List.range count).map fun number => (Int.ofNat number, state)
  have numbers : entries.map Prod.fst = (List.range count).map Int.ofNat := List.map_map
  have unique : (entries.map Prod.fst).Nodup := by
    rw [numbers]
    exact List.nodup_range.map fun _ _ => Int.ofNat.inj
  have length : entries.length = count := by simp [entries]
  refine ⟨{ states := { entries, unique } }, reached_of_entries unique (length ▸ room), length, ?_⟩
  intro number
  refine Mapping.contains_iff_mem.trans ?_
  simp [numbers]

theorem ncard_others (absent : table.contains descriptor = false) :
    {other | other ≠ descriptor ∧ table.contains other = true}.ncard = table.size := by
  have all : {other | other ≠ descriptor ∧ table.contains other = true} =
      {other | table.contains other = true} := by
    ext other
    refine and_iff_right_of_imp ?_
    rintro present rfl
    exact Bool.false_ne_true (absent.symm.trans present)
  rw [all]
  exact table.states.ncard_contains

def FullOfOthers (table : DescriptorTable State) (descriptor : Descriptor) : Prop :=
  table.contains descriptor = false ∧
    {other | other ≠ descriptor ∧ table.contains other = true}.ncard = 1024

theorem Reached.fullOfOthers_iff (reached : table.Reached) :
    table.FullOfOthers descriptor ↔ table.limit ≤ (table.drop descriptor).size := by
  obtain ⟨limit, room⟩ := limit_room_of_reached reached
  unfold FullOfOthers
  cases tracked : table.contains descriptor with
  | true =>
    -- Dropping the stale entry makes room, so a full table is full without it.
    have smaller : (table.drop descriptor).size < table.size := Mapping.size_erase_lt tracked
    refine iff_of_false ?_ (by omega)
    rintro ⟨absent, -⟩
    cases absent
  | false =>
    rw [drop_of_absent tracked, ncard_others tracked]
    simp only [true_and]
    omega

/-! What tracking can end with. -/

theorem Reached.track_cases (reached : table.Reached) (descriptor : Descriptor)
    (fresh : Except Error State) (ofTable : Fault → Error) :
    (∃ error, fresh = .error error ∧
      table.track descriptor fresh ofTable = (.error error, table)) ∨
    (∃ state, fresh = .ok state ∧ table.FullOfOthers descriptor ∧
      table.track descriptor fresh ofTable =
        (.error (ofTable (.full descriptor 1024)), table)) ∨
    ∃ state after, fresh = .ok state ∧ ¬ table.FullOfOthers descriptor ∧
      table.restart descriptor state = .ok after ∧
      table.track descriptor fresh ofTable = (.ok (), after) := by
  cases fresh with
  | error error => exact .inl ⟨error, rfl, rfl⟩
  | ok state =>
    right
    rw [track_ok]
    cases restarted : table.restart descriptor state with
    | error fault =>
      obtain ⟨full, rfl⟩ := restart_eq_error.mp restarted
      have others := reached.fullOfOthers_iff.mpr full
      have limit := (limit_room_of_reached reached).1
      refine .inl ⟨state, rfl, others, ?_⟩
      rw [drop_of_absent others.1, limit]
    | ok after =>
      refine .inr ⟨state, after, rfl, ?_, restarted, rfl⟩
      intro others
      have fails : table.restart descriptor state = .error (.full descriptor table.limit) :=
        restart_eq_error.mpr ⟨reached.fullOfOthers_iff.mp others, rfl⟩
      rw [restarted] at fails
      cases fails

/-- A descriptor is tracked with a fresh state, or nothing changes. The only fault of the table is
that it is full of others, so never that the descriptor is tracked already. -/
structure StartsAtomically (table : DescriptorTable State) (descriptor : Descriptor)
    (fresh : Except Error State) (ofTable : Fault → Error)
    (result : Except Error Unit × DescriptorTable State) : Prop where
  unchanged : ∀ error, result.1 = .error error → result.2 = table
  onlyFull : ∀ fault, result.1 = .error (ofTable fault) → fault = .full descriptor 1024
  full_iff : result.1 = .error (ofTable (.full descriptor 1024)) ↔
    (∃ state, fresh = .ok state) ∧ table.FullOfOthers descriptor
  otherwise : ∀ error, (∀ fault, error ≠ ofTable fault) →
    (result.1 = .error error ↔ fresh = .error error)
  tracked : result.1 = .ok () → ∃ state, fresh = .ok state ∧
    result.2.get? descriptor = some state ∧
    ∀ other, other ≠ descriptor → result.2.get? other = table.get? other

theorem Reached.startsAtomically (reached : table.Reached) (descriptor : Descriptor)
    {fresh : Except Error State} {ofTable : Fault → Error}
    (injective : Function.Injective ofTable) (apart : ∀ fault, fresh ≠ .error (ofTable fault)) :
    table.StartsAtomically descriptor fresh ofTable (table.track descriptor fresh ofTable) := by
  obtain ⟨error, rfl, ends⟩ | ⟨state, rfl, others, ends⟩ |
      ⟨state, after, rfl, notFull, restarted, ends⟩ :=
    reached.track_cases descriptor fresh ofTable <;> rw [ends]
  · have apart (fault : Fault) : error ≠ ofTable fault :=
      fun same => apart fault (congrArg Except.error same)
    refine ⟨fun _ _ => rfl, ?_, ?_, ?_, nofun⟩
    · intro fault same
      exact absurd (Except.error.inj same) (apart fault)
    · refine iff_of_false (fun same => apart _ (Except.error.inj same)) ?_
      rintro ⟨⟨state, made⟩, -⟩
      cases made
    · intro cause _
      rw [Except.error.injEq, Except.error.injEq]
  · refine ⟨fun _ _ => rfl, ?_, ?_, ?_, nofun⟩
    · intro fault same
      exact (injective (Except.error.inj same)).symm
    · exact iff_of_true rfl ⟨⟨state, rfl⟩, others⟩
    · intro cause otherCause
      refine iff_of_false (fun same => ?_) nofun
      exact otherCause _ (Except.error.inj same).symm
  · refine ⟨nofun, nofun, ?_, fun _ _ => iff_of_false nofun nofun, ?_⟩
    · refine iff_of_false nofun ?_
      rintro ⟨-, others⟩
      exact notFull others
    · intro done
      exact ⟨state, rfl, get?_restart_self restarted, fun _ => get?_restart_ne restarted⟩

end DescriptorTable

end DeviceTestbed
