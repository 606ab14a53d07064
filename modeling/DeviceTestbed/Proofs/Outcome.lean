import Mathlib.Data.List.Forall2

/-!
Steps that may fail, one after the other: when a chain of them succeeds, and which of its faults is
reported.
-/

namespace DeviceTestbed.Outcome

variable {Fault α β : Type}

theorem bind_eq_ok {first : Except Fault α} {next : α → Except Fault β} {value : β} :
    (first >>= next) = .ok value ↔ ∃ reached, first = .ok reached ∧ next reached = .ok value := by
  cases first <;> simp [bind, Except.bind]

theorem bind_eq_error {first : Except Fault α} {next : α → Except Fault β} {fault : Fault} :
    (first >>= next) = .error fault ↔
      first = .error fault ∨ ∃ reached, first = .ok reached ∧ next reached = .error fault := by
  cases first <;> simp [bind, Except.bind]

theorem pure_eq_ok {value other : α} :
    (pure value : Except Fault α) = .ok other ↔ value = other := by
  simp [pure, Except.pure]

theorem map_eq_ok {first : Except Fault α} {change : α → β} {value : β} :
    first.map change = .ok value ↔ ∃ reached, first = .ok reached ∧ change reached = value := by
  cases first <;> simp [Except.map]

theorem map_eq_error {first : Except Fault α} {change : α → β} {fault : Fault} :
    first.map change = .error fault ↔ first = .error fault := by
  cases first <;> simp [Except.map]

theorem mapError_eq_ok {Other : Type} {outcome : Except Fault α} {rename : Fault → Other}
    {value : α} : outcome.mapError rename = .ok value ↔ outcome = .ok value := by
  cases outcome with
  | ok known => exact ⟨fun same => by cases same; rfl, fun same => by cases same; rfl⟩
  | error fault => exact ⟨nofun, nofun⟩

theorem mapError_eq_error {Other : Type} {outcome : Except Fault α} {rename : Fault → Other}
    {renamed : Other} :
    outcome.mapError rename = .error renamed ↔
      ∃ fault, outcome = .error fault ∧ rename fault = renamed := by
  cases outcome with
  | ok known => exact ⟨nofun, nofun⟩
  | error fault =>
    constructor
    · intro same
      exact ⟨fault, rfl, Except.error.inj same⟩
    · rintro ⟨known, same, rfl⟩
      cases same
      rfl

theorem mapM_eq_ok {step : α → Except Fault β} {inputs : List α} {values : List β} :
    inputs.mapM step = .ok values ↔
      List.Forall₂ (fun input value => step input = .ok value) inputs values := by
  induction inputs generalizing values with
  | nil => rw [List.mapM_nil, pure_eq_ok, List.forall₂_nil_left_iff, eq_comm]
  | cons input inputs ih =>
    rw [List.mapM_cons, List.forall₂_cons_left_iff]
    simp only [bind_eq_ok, pure_eq_ok, ih]
    constructor
    · rintro ⟨value, first, others, later, rfl⟩
      exact ⟨value, others, first, later, rfl⟩
    · rintro ⟨value, others, first, later, rfl⟩
      exact ⟨value, first, others, later, rfl⟩

theorem mapM_eq_error {step : α → Except Fault β} {inputs : List α} {fault : Fault} :
    inputs.mapM step = .error fault ↔
      ∃ before input after, inputs = before ++ input :: after ∧
        (∀ earlier ∈ before, ∃ value, step earlier = .ok value) ∧ step input = .error fault := by
  induction inputs with
  | nil => simp [pure, Except.pure]
  | cons first inputs ih =>
    rw [List.mapM_cons, bind_eq_error]
    simp only [bind_eq_error, ih]
    constructor
    · rintro (failed | ⟨value, fine, ⟨before, input, after, rfl, earlier, failed⟩ | ⟨_, -, done⟩⟩)
      · exact ⟨[], first, inputs, rfl, fun _ member => absurd member List.not_mem_nil, failed⟩
      · exact ⟨first :: before, input, after, rfl,
          List.forall_mem_cons.mpr ⟨⟨value, fine⟩, earlier⟩, failed⟩
      · contradiction
    · rintro ⟨before, input, after, same, earlier, failed⟩
      cases before with
      | nil =>
        cases same
        exact .inl failed
      | cons other before =>
        cases same
        obtain ⟨⟨value, fine⟩, others⟩ := List.forall_mem_cons.mp earlier
        exact .inr ⟨value, fine, .inl ⟨before, input, after, rfl, others, failed⟩⟩

theorem mapM_congr {step other : α → Except Fault β} {inputs : List α}
    (same : ∀ input ∈ inputs, step input = other input) : inputs.mapM step = inputs.mapM other := by
  induction inputs with
  | nil => rfl
  | cons input inputs ih =>
    obtain ⟨first, later⟩ := List.forall_mem_cons.mp same
    rw [List.mapM_cons, List.mapM_cons, first, ih later]

theorem any_toOption {outcome : Except Fault α} {test : α → Bool} :
    outcome.toOption.any test = true ↔ ∃ value, outcome = .ok value ∧ test value = true := by
  cases outcome <;> simp [Except.toOption]

end DeviceTestbed.Outcome
