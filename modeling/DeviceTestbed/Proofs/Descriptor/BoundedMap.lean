import DeviceTestbed.Proofs.Descriptor.Tracking

/-!
A descriptor table is a partial function from descriptors to states that has room for so many of
them. Whatever is asked of the table, one thing after the other, it answers what the function
answers, and in the end it holds what the function holds.
-/

namespace DeviceTestbed

structure BoundedMap (State : Type) (limit : Nat) where
  state : Descriptor → Option State := fun _ => none
  tracked : Finset Descriptor := ∅
  mem_tracked : ∀ descriptor, descriptor ∈ tracked ↔ (state descriptor).isSome = true := by simp
  room : tracked.card ≤ limit := by simp

namespace DescriptorTable

variable {State : Type}

inductive Step (State : Type) where
  | add (descriptor : Descriptor) (state : State)
  | remove (descriptor : Descriptor)
  | takeStale (descriptor : Descriptor)
  | release (descriptor : Descriptor)
  | update (descriptor : Descriptor) (change : State → State)
  | contains (descriptor : Descriptor)
  | size
  | isEmpty

inductive Result (State : Type) where
  | done
  | state (found : Option State)
  | holds (answer : Bool)
  | count (number : Nat)
  | failed (fault : Fault)
  deriving DecidableEq, Repr

def Step.descriptor? : Step State → Option Descriptor
  | .add descriptor _ => some descriptor
  | .remove descriptor => some descriptor
  | .takeStale descriptor => some descriptor
  | .release descriptor => some descriptor
  | .update descriptor _ => some descriptor
  | .contains descriptor => some descriptor
  | .size => none
  | .isEmpty => none

/-- One step, in place: an entry is dropped before it is known whether there was one, so a removal
that fails leaves the table without the descriptor. -/
def perform (table : DescriptorTable State) : Step State → Result State × DescriptorTable State
  | .add descriptor state =>
    match table.add descriptor state with
    | .ok added => (.done, added)
    | .error fault => (.failed fault, table)
  | .remove descriptor =>
    match table.remove descriptor with
    | .ok (state, removed) => (.state (some state), removed)
    | .error fault => (.failed fault, table.drop descriptor)
  | .takeStale descriptor => (.state (table.get? descriptor), table.drop descriptor)
  | .release descriptor =>
    match table.release descriptor with
    | .ok (state, released) => (.state state, released)
    | .error fault => (.failed fault, table.drop descriptor)
  | .update descriptor change => (.state (table.get? descriptor), table.modify descriptor change)
  | .contains descriptor => (.holds (table.contains descriptor), table)
  | .size => (.count table.size, table)
  | .isEmpty => (.holds table.isEmpty, table)

def history {Subject : Type} (perform : Subject → Step State → Result State × Subject)
    (subject : Subject) : List (Step State) → List (Result State) × Subject
  | [] => ([], subject)
  | step :: rest =>
    let (result, next) := perform subject step
    let (results, last) := history perform next rest
    (result :: results, last)

end DescriptorTable

namespace BoundedMap

open DescriptorTable (Fault Step Result)

variable {State : Type} {limit : Nat}

def put (map : BoundedMap State limit) (descriptor : Descriptor) (state : State)
    (room : map.tracked.card < limit) : BoundedMap State limit where
  state := Function.update map.state descriptor (some state)
  tracked := insert descriptor map.tracked
  mem_tracked := by
    intro other
    by_cases same : other = descriptor <;> simp [same, map.mem_tracked]
  room := Nat.le_trans (Finset.card_insert_le _ _) room

def clear (map : BoundedMap State limit) (descriptor : Descriptor) : BoundedMap State limit where
  state := Function.update map.state descriptor none
  tracked := map.tracked.erase descriptor
  mem_tracked := by
    intro other
    by_cases same : other = descriptor <;> simp [same, map.mem_tracked]
  room := Nat.le_trans (Finset.card_erase_le) map.room

def change (map : BoundedMap State limit) (descriptor : Descriptor) (change : State → State) :
    BoundedMap State limit where
  state := Function.update map.state descriptor ((map.state descriptor).map change)
  tracked := map.tracked
  mem_tracked := by
    intro other
    by_cases same : other = descriptor <;> simp [same, map.mem_tracked]
  room := map.room

/-- That a descriptor is tracked already comes before that there is no room. -/
def perform (map : BoundedMap State limit) : Step State → Result State × BoundedMap State limit
  | .add descriptor state =>
    if descriptor ∈ map.tracked then (.failed (.alreadyTracked descriptor), map)
    else if room : map.tracked.card < limit then (.done, map.put descriptor state room)
    else (.failed (.full descriptor limit), map)
  | .remove descriptor =>
    match map.state descriptor with
    | none => (.failed (.notTracked descriptor), map)
    | some state => (.state (some state), map.clear descriptor)
  | .takeStale descriptor => (.state (map.state descriptor), map.clear descriptor)
  | .release descriptor => (.state (map.state descriptor), map.clear descriptor)
  | .update descriptor change => (.state (map.state descriptor), map.change descriptor change)
  | .contains descriptor => (.holds (descriptor ∈ map.tracked), map)
  | .size => (.count map.tracked.card, map)
  | .isEmpty => (.holds (map.tracked = ∅), map)

/-- The ways in which a step can fail. What was closed unnoticed is dropped, and a descriptor is
released, without any. -/
inductive FailsWith (map : BoundedMap State limit) : Step State → Fault → Prop
  | alreadyTracked {descriptor : Descriptor} {state : State} (tracked : descriptor ∈ map.tracked) :
      FailsWith map (.add descriptor state) (.alreadyTracked descriptor)
  | full {descriptor : Descriptor} {state : State} (untracked : descriptor ∉ map.tracked)
      (full : map.tracked.card = limit) :
      FailsWith map (.add descriptor state) (.full descriptor limit)
  | notTracked {descriptor : Descriptor} (untracked : descriptor ∉ map.tracked) :
      FailsWith map (.remove descriptor) (.notTracked descriptor)

theorem perform_eq_failed {map : BoundedMap State limit} {step : Step State} {fault : Fault} :
    (map.perform step).1 = .failed fault ↔ map.FailsWith step fault := by
  constructor
  · intro failed
    cases step with
    | add descriptor state =>
      rw [perform] at failed
      split at failed
      · rename_i tracked
        obtain rfl := Result.failed.inj failed
        exact .alreadyTracked tracked
      · rename_i untracked
        split at failed
        · cases failed
        · rename_i full
          obtain rfl := Result.failed.inj failed
          exact .full untracked (Nat.le_antisymm map.room (Nat.not_lt.mp full))
    | remove descriptor =>
      rw [perform] at failed
      split at failed
      · rename_i absent
        obtain rfl := Result.failed.inj failed
        refine .notTracked ?_
        simp [map.mem_tracked, absent]
      · cases failed
    | _ => cases failed
  · intro fails
    cases fails with
    | alreadyTracked tracked => rw [perform, if_pos tracked]
    | full untracked full =>
      rw [perform, if_neg untracked, dif_neg (by omega)]
    | notTracked untracked =>
      have absent := Option.not_isSome_iff_eq_none.mp (mt (map.mem_tracked _).mpr untracked)
      rw [perform, absent]

end BoundedMap

namespace DescriptorTable

variable {State : Type} {limit : Nat} {table : DescriptorTable State}
  {map : BoundedMap State limit}

structure Represents (table : DescriptorTable State) (map : BoundedMap State limit) : Prop where
  limit : table.limit = limit
  state : table.get? = map.state

theorem represents_empty (limit : Nat) :
    ({ limit } : DescriptorTable State).Represents ({} : BoundedMap State limit) where
  limit := rfl
  state := rfl

theorem Represents.mem_tracked (represents : table.Represents map) {descriptor : Descriptor} :
    descriptor ∈ map.tracked ↔ table.contains descriptor = true := by
  rw [map.mem_tracked, ← represents.state]
  rfl

theorem Represents.size (represents : table.Represents map) :
    table.size = map.tracked.card := by
  have same : {descriptor | table.states.contains descriptor = true} =
      (map.tracked : Set Descriptor) := by
    ext descriptor
    exact represents.mem_tracked.symm
  rw [← Set.ncard_coe_finset, ← same]
  exact table.states.ncard_contains.symm

theorem Represents.isEmpty (represents : table.Represents map) :
    table.isEmpty = decide (map.tracked = ∅) := by
  rw [Bool.eq_iff_iff, decide_eq_true_iff, ← Finset.card_eq_zero, ← represents.size]
  exact List.isEmpty_iff.trans List.length_eq_zero_iff.symm

/-! One step. -/

theorem get?_drop (table : DescriptorTable State) (descriptor : Descriptor) :
    (table.drop descriptor).get? = Function.update table.get? descriptor none :=
  Function.eq_update_iff.mpr
    ⟨table.get?_drop_self descriptor, fun _ different => table.get?_drop_ne different⟩

theorem get?_modify_eq_update (table : DescriptorTable State) (descriptor : Descriptor)
    (change : State → State) :
    (table.modify descriptor change).get? =
      Function.update table.get? descriptor ((table.get? descriptor).map change) := by
  refine Function.eq_update_iff.mpr ⟨?_, fun other different => ?_⟩
  · simp [get?_modify]
  · simp [get?_modify, different]

theorem get?_add {table after : DescriptorTable State} {descriptor : Descriptor} {state : State}
    (added : table.add descriptor state = .ok after) :
    after.get? = Function.update table.get? descriptor (some state) :=
  Function.eq_update_iff.mpr ⟨get?_add_self added, fun _ => get?_add_ne added⟩

theorem Represents.add {after : DescriptorTable State} (represents : table.Represents map)
    {descriptor : Descriptor} {state : State} (added : table.add descriptor state = .ok after)
    (room : map.tracked.card < limit) : after.Represents (map.put descriptor state room) where
  limit := by
    obtain ⟨-, -, rfl⟩ := add_eq_ok.mp added
    exact represents.limit
  state := by
    rw [get?_add added, represents.state]
    rfl

theorem Represents.drop (represents : table.Represents map) (descriptor : Descriptor) :
    (table.drop descriptor).Represents (map.clear descriptor) where
  limit := represents.limit
  state := by
    rw [get?_drop, represents.state]
    rfl

theorem Represents.modify (represents : table.Represents map) (descriptor : Descriptor)
    (change : State → State) :
    (table.modify descriptor change).Represents (map.change descriptor change) where
  limit := represents.limit
  state := by
    rw [get?_modify_eq_update, represents.state]
    rfl

theorem perform_remove_of_absent {descriptor : Descriptor}
    (absent : table.get? descriptor = none) :
    table.perform (.remove descriptor) = (.failed (.notTracked descriptor), table) := by
  have untracked : table.contains descriptor = false := congrArg Option.isSome absent
  simp only [perform, remove, absent, drop_of_absent untracked]

theorem perform_remove_of_found {descriptor : Descriptor} {state : State}
    (found : table.get? descriptor = some state) :
    table.perform (.remove descriptor) = (.state (some state), table.drop descriptor) := by
  simp only [perform, remove, found]

theorem perform_release (table : DescriptorTable State) (descriptor : Descriptor) :
    table.perform (.release descriptor) =
      (.state (table.get? descriptor), table.drop descriptor) := by
  simp only [perform, release_eq]

theorem Represents.perform (represents : table.Represents map) (step : Step State) :
    (table.perform step).1 = (map.perform step).1 ∧
      (table.perform step).2.Represents (map.perform step).2 := by
  have found (descriptor : Descriptor) : table.get? descriptor = map.state descriptor :=
    congrFun represents.state descriptor
  cases step with
  | add descriptor state =>
    rw [DescriptorTable.perform, BoundedMap.perform]
    by_cases tracked : descriptor ∈ map.tracked
    · rw [add_of_tracked (represents.mem_tracked.mp tracked), if_pos tracked]
      exact ⟨rfl, represents⟩
    have absent := eq_false_of_ne_true (mt represents.mem_tracked.mpr tracked)
    rw [if_neg tracked]
    by_cases room : map.tracked.card < limit
    · have fits : table.size < table.limit := by
        rwa [represents.size, represents.limit]
      have added := add_of_room absent fits state
      rw [added, dif_pos room]
      exact ⟨rfl, represents.add added room⟩
    · have full : table.limit ≤ table.size := by
        rw [represents.size, represents.limit]
        exact Nat.not_lt.mp room
      rw [add_of_full absent full, dif_neg room, represents.limit]
      exact ⟨rfl, represents⟩
  | remove descriptor =>
    cases known : map.state descriptor with
    | none =>
      rw [perform_remove_of_absent ((found descriptor).trans known), BoundedMap.perform, known]
      exact ⟨rfl, represents⟩
    | some state =>
      rw [perform_remove_of_found ((found descriptor).trans known), BoundedMap.perform, known]
      exact ⟨rfl, represents.drop descriptor⟩
  | takeStale descriptor =>
    exact ⟨congrArg Result.state (found descriptor), represents.drop descriptor⟩
  | release descriptor =>
    rw [perform_release]
    exact ⟨congrArg Result.state (found descriptor), represents.drop descriptor⟩
  | update descriptor change =>
    exact ⟨congrArg Result.state (found descriptor), represents.modify descriptor change⟩
  | contains descriptor =>
    refine ⟨congrArg Result.holds ?_, represents⟩
    rw [Bool.eq_iff_iff, decide_eq_true_iff, represents.mem_tracked]
  | size => exact ⟨congrArg Result.count represents.size, represents⟩
  | isEmpty => exact ⟨congrArg Result.holds represents.isEmpty, represents⟩

theorem eq_of_perform_failed {step : Step State} {fault : Fault}
    (failed : (table.perform step).1 = .failed fault) : (table.perform step).2 = table := by
  cases step with
  | add descriptor state =>
    rw [perform] at failed ⊢
    cases added : table.add descriptor state with
    | error fault => rfl
    | ok after =>
      rw [added] at failed
      cases failed
  | remove descriptor =>
    cases found : table.get? descriptor with
    | none => rw [perform_remove_of_absent found]
    | some state =>
      rw [perform_remove_of_found found] at failed
      cases failed
  | release descriptor =>
    rw [perform_release] at failed
    cases failed
  | _ => cases failed

theorem get?_perform_ne {step : Step State} {other : Descriptor}
    (different : step.descriptor? ≠ some other) :
    (table.perform step).2.get? other = table.get? other := by
  have apart (descriptor : Descriptor) (about : step.descriptor? = some descriptor) :
      other ≠ descriptor := fun same => different (about.trans (congrArg some same.symm))
  cases step with
  | add descriptor state =>
    rw [perform]
    cases added : table.add descriptor state with
    | error fault => rfl
    | ok after => exact get?_add_ne added (apart descriptor rfl)
  | remove descriptor =>
    cases found : table.get? descriptor with
    | none => rw [perform_remove_of_absent found]
    | some state =>
      rw [perform_remove_of_found found]
      exact table.get?_drop_ne (apart descriptor rfl)
  | takeStale descriptor => exact table.get?_drop_ne (apart descriptor rfl)
  | release descriptor =>
    rw [perform_release]
    exact table.get?_drop_ne (apart descriptor rfl)
  | update descriptor change =>
    rw [perform, get?_modify_eq_update, Function.update_of_ne (apart descriptor rfl)]
  | contains descriptor => rfl
  | size => rfl
  | isEmpty => rfl

/-! Histories. -/

theorem Represents.run (represents : table.Represents map) (steps : List (Step State)) :
    let run := history DescriptorTable.perform table steps
    let meant := history BoundedMap.perform map steps
    run.1 = meant.1 ∧ run.2.Represents meant.2 := by
  induction steps generalizing table map with
  | nil => exact ⟨rfl, represents⟩
  | cons step rest ih =>
    obtain ⟨same, after⟩ := represents.perform step
    obtain ⟨results, last⟩ := ih after
    exact ⟨congrArg₂ List.cons same results, last⟩

/-- Whatever was asked of a table that was empty at first, it answered as the map does, and holds
what the map holds. Its size tells how many descriptors it tracks, which are never more than its
limit. The next step fails in the ways that are told, and then leaves the table as it is; it
changes no state but that of the descriptor that it is about. -/
theorem refines_bounded_map (limit : Nat) (steps : List (Step State)) :
    let run := history perform ({ limit } : DescriptorTable State) steps
    let meant := history BoundedMap.perform ({} : BoundedMap State limit) steps
    run.1 = meant.1 ∧ run.2.get? = meant.2.state ∧
      run.2.size = meant.2.tracked.card ∧ run.2.size ≤ limit ∧
      ∀ step,
        (∀ fault, (run.2.perform step).1 = .failed fault ↔ meant.2.FailsWith step fault) ∧
        (∀ fault, (run.2.perform step).1 = .failed fault → (run.2.perform step).2 = run.2) ∧
        ∀ other, step.descriptor? ≠ some other →
          (run.2.perform step).2.get? other = run.2.get? other := by
  intro run meant
  obtain ⟨results, represents⟩ := (represents_empty limit).run steps
  refine ⟨results, represents.state, represents.size, ?_, ?_⟩
  · rw [represents.size]
    exact meant.2.room
  · intro step
    refine ⟨fun fault => ?_, fun _ => eq_of_perform_failed, fun _ => get?_perform_ne⟩
    rw [(represents.perform step).1]
    exact BoundedMap.perform_eq_failed

example :
    (history perform ({ limit := 1 } : DescriptorTable Nat)
      [.add 5 7, .add 5 8, .add 6 9, .takeStale 5, .add 6 9, .remove 5, .release 6, .size]).1 =
      [.done, .failed (.alreadyTracked 5), .failed (.full 6 1), .state (some 7), .done,
        .failed (.notTracked 5), .state (some 9), .count 0] := by
  decide

end DescriptorTable

end DeviceTestbed
