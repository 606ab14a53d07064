import DeviceTestbed.Hook

/-!
What a call through a hook comes to. Without a guard the body runs once, and whatever it calls in
turn is called directly. In place of a body that may not run, or that panics before the function had
a result, the function is called once. The thread holds as many guards afterwards as before.
-/

namespace DeviceTestbed

theorem HookThread.intercepts_iff {thread : HookThread} :
    thread.intercepts = true ↔ thread.enabled = true ∧ thread.depth = 0 := by
  simp [intercepts, isFree]

theorem HookThread.isFree_acquire (thread : HookThread) : thread.acquire.isFree = false := by
  simp [isFree, acquire]

def HookNote.results {Result : Type} (notes : List (HookNote Result)) : List Result :=
  notes.filterMap fun
    | .real result => some result
    | .hooked _ | .free _ => none

namespace Hooks

variable {World Function Arguments Result : Type}

/-- What the actions of a body come to while no hook intercepts. Every call is one call of the
function itself, and the thread is never free. -/
inductive Passes (hooks : Hooks World Function Arguments Result) (function : Function) :
    World → List (HookAction World Function Arguments) → List (Function × Arguments) →
      List (HookNote Result) → World → Prop
  | done {world} : Passes hooks function world [] [] [] world
  | real {world next final arguments result rest calls notes}
      (given : hooks.real function arguments world = (result, next))
      (later : Passes hooks function next rest calls notes final) :
      Passes hooks function world (.real arguments :: rest) ((function, arguments) :: calls)
        (.real result :: notes) final
  | hooked {world next final other arguments result rest calls notes}
      (given : hooks.real other arguments world = (result, next))
      (later : Passes hooks function next rest calls notes final) :
      Passes hooks function world (.hooked other arguments :: rest) ((other, arguments) :: calls)
        (.hooked result :: notes) final
  | observe {world final rest calls notes}
      (later : Passes hooks function world rest calls notes final) :
      Passes hooks function world (.observe :: rest) calls (.free false :: notes) final
  | work {world final change rest calls notes}
      (later : Passes hooks function (change world) rest calls notes final) :
      Passes hooks function world (.work change :: rest) calls notes final

/-- How a call can go. Either the function is called directly, or its body runs and returns, or the
body panics. After a panic the last result of the function counts, and a body that had none is
replaced by a call of the function. -/
inductive Answers (hooks : Hooks World Function Arguments Result) (thread : HookThread)
    (function : Function) (arguments : Arguments) (world : World) :
    HookOutcome World Function Arguments Result → Prop
  | direct {result next} (passes : thread.enabled = false ∨ 0 < thread.depth)
      (given : hooks.real function arguments world = (result, next)) :
      Answers hooks thread function arguments world
        { result, thread, world := next, calls := [(function, arguments)] }
  | returned {actions result calls notes next} (free : thread.enabled = true ∧ thread.depth = 0)
      (runs : hooks.body function arguments world = { actions, ending := .value result })
      (passes : hooks.Passes function world actions calls notes next) :
      Answers hooks thread function arguments world
        { result, thread, world := next, bodies := [(function, arguments)], calls, notes }
  | recovered {actions result calls notes next} (free : thread.enabled = true ∧ thread.depth = 0)
      (runs : hooks.body function arguments world = { actions, ending := .panic })
      (passes : hooks.Passes function world actions calls notes next)
      (last : (HookNote.results notes).getLast? = some result) :
      Answers hooks thread function arguments world
        { result, thread, world := next, bodies := [(function, arguments)], calls, notes }
  | replaced {actions result calls notes next final}
      (free : thread.enabled = true ∧ thread.depth = 0)
      (runs : hooks.body function arguments world = { actions, ending := .panic })
      (passes : hooks.Passes function world actions calls notes next)
      (unknown : HookNote.results notes = [])
      (given : hooks.real function arguments next = (result, final)) :
      Answers hooks thread function arguments world
        { result, thread, world := final, bodies := [(function, arguments)]
          calls := calls ++ [(function, arguments)], notes }

variable {hooks : Hooks World Function Arguments Result} {thread : HookThread} {function : Function}
  {arguments : Arguments} {world : World}

theorem exists_passes (hooks : Hooks World Function Arguments Result) (function : Function)
    (world : World) (actions : List (HookAction World Function Arguments)) :
    ∃ calls notes final, hooks.Passes function world actions calls notes final := by
  induction actions generalizing world with
  | nil => exact ⟨_, _, _, .done⟩
  | cons action rest ih =>
    cases action with
    | real arguments =>
      obtain ⟨calls, notes, final, later⟩ := ih (hooks.real function arguments world).2
      exact ⟨_, _, _, .real rfl later⟩
    | hooked other arguments =>
      obtain ⟨calls, notes, final, later⟩ := ih (hooks.real other arguments world).2
      exact ⟨_, _, _, .hooked rfl later⟩
    | observe =>
      obtain ⟨calls, notes, final, later⟩ := ih world
      exact ⟨_, _, _, .observe later⟩
    | work change =>
      obtain ⟨calls, notes, final, later⟩ := ih (change world)
      exact ⟨_, _, _, .work later⟩

theorem call_eq_direct (passes : thread.intercepts = false) :
    (hooks.call thread function arguments world).val =
      hooks.direct thread function arguments world := by
  rw [call, if_neg (by simp [passes])]

section

variable {other : Function} {next final : World} {result : Result}
  {progress : HookProgress World Function Arguments Result}
  {actions rest : List (HookAction World Function Arguments)}
  {calls : List (Function × Arguments)} {notes : List (HookNote Result)}

theorem runActions_real
    (given : hooks.real function arguments progress.world = (result, next)) :
    (hooks.runActions function (.real arguments :: rest) progress).val =
      (hooks.runActions function rest
        { progress with
          world := next
          calls := progress.calls ++ [(function, arguments)]
          notes := progress.notes ++ [.real result]
          last := some result }).val := by
  rw [runActions, given]

theorem runActions_hooked (held : progress.thread.isFree = false)
    (given : hooks.real other arguments progress.world = (result, next)) :
    (hooks.runActions function (.hooked other arguments :: rest) progress).val =
      (hooks.runActions function rest
        { progress with
          world := next
          calls := progress.calls ++ [(other, arguments)]
          notes := progress.notes ++ [.hooked result] }).val := by
  have passes : progress.thread.intercepts = false := by simp [HookThread.intercepts, held]
  have outcome : (hooks.call progress.thread other arguments progress.world).val =
      { result, thread := progress.thread, world := next, calls := [(other, arguments)] } := by
    rw [call_eq_direct passes, direct, given]
  rw [runActions]
  exact congrArg (fun progress => (hooks.runActions function rest progress).val)
    (by simp [outcome])

theorem runActions_eq (passes : hooks.Passes function world actions calls notes final)
    (progress : HookProgress World Function Arguments Result) (start : progress.world = world)
    (held : progress.thread.isFree = false) :
    (hooks.runActions function actions progress).val =
      { progress with
        world := final
        calls := progress.calls ++ calls
        notes := progress.notes ++ notes
        last := (HookNote.results notes).getLast?.or progress.last } := by
  induction passes generalizing progress with
  | done => simp [runActions, HookNote.results, ← start]
  | real given later ih =>
    rw [runActions_real (start ▸ given)]
    refine Eq.trans (ih _ rfl held) ?_
    simp [HookNote.results, List.getLast?_cons]
  | hooked given later ih =>
    rw [runActions_hooked held (start ▸ given)]
    refine Eq.trans (ih _ rfl held) ?_
    simp [HookNote.results]
  | observe later ih =>
    rw [runActions, held]
    refine Eq.trans (ih _ start held) ?_
    simp [HookNote.results]
  | work later ih =>
    rw [runActions, start]
    exact ih _ rfl held

theorem call_eq_finish {ending : HookEnding Result}
    (free : thread.enabled = true ∧ thread.depth = 0)
    (runs : hooks.body function arguments world = { actions, ending })
    (passes : hooks.Passes function world actions calls notes next) :
    (hooks.call thread function arguments world).val =
      hooks.finish function arguments
        { thread := thread.acquire, world := next, bodies := [(function, arguments)], calls, notes
          last := (HookNote.results notes).getLast? } ending := by
  have progress := runActions_eq passes
    { thread := thread.acquire, world, bodies := [(function, arguments)] }
    rfl (HookThread.isFree_acquire thread)
  rw [call, if_pos (HookThread.intercepts_iff.mpr free)]
  simp only [runs, progress, List.nil_append, Option.or_none]

theorem exists_answer (hooks : Hooks World Function Arguments Result) (thread : HookThread)
    (function : Function) (arguments : Arguments) (world : World) :
    ∃ outcome, hooks.Answers thread function arguments world outcome := by
  by_cases free : thread.intercepts = true
  · obtain ⟨calls, notes, next, passes⟩ :=
      hooks.exists_passes function world (hooks.body function arguments world).actions
    have free := HookThread.intercepts_iff.mp free
    generalize runs : hooks.body function arguments world = body at passes
    obtain ⟨actions, ending⟩ := body
    cases ending with
    | value result => exact ⟨_, .returned free runs passes⟩
    | panic =>
      cases last : (HookNote.results notes).getLast? with
      | some result => exact ⟨_, .recovered free runs passes last⟩
      | none => exact ⟨_, .replaced free runs passes (List.getLast?_eq_none_iff.mp last) rfl⟩
  · refine ⟨_, .direct ?_ rfl⟩
    rw [HookThread.intercepts_iff] at free
    cases enabled : thread.enabled with
    | false => exact .inl rfl
    | true => exact .inr (Nat.pos_of_ne_zero fun zero => free ⟨enabled, zero⟩)

theorem Answers.call_eq {outcome : HookOutcome World Function Arguments Result}
    (answers : hooks.Answers thread function arguments world outcome) :
    (hooks.call thread function arguments world).val = outcome := by
  cases answers with
  | direct passes given =>
    have passes : thread.intercepts = false := by
      rcases passes with disabled | held
      · simp [HookThread.intercepts, disabled]
      · simp [HookThread.intercepts, HookThread.isFree, Nat.ne_of_gt held]
    rw [call_eq_direct passes, Hooks.direct, given]
  | returned free runs passes =>
    rw [call_eq_finish free runs passes]
    rfl
  | recovered free runs passes last =>
    rw [call_eq_finish free runs passes, last]
    rfl
  | replaced free runs passes unknown given =>
    rw [call_eq_finish free runs passes, unknown, finish]
    simp only [List.getLast?_nil, given, finish.kept, HookThread.release_acquire]

end

/-- A call leaves the thread as it was, and it goes in the one way that the state of the thread, the
ending of the body and the results that the body had allow. -/
theorem call_iff_answers (hooks : Hooks World Function Arguments Result) (thread : HookThread)
    (function : Function) (arguments : Arguments) (world : World) :
    (hooks.call thread function arguments world).val.thread = thread ∧
      ∀ outcome, (hooks.call thread function arguments world).val = outcome ↔
        hooks.Answers thread function arguments world outcome := by
  refine ⟨(hooks.call thread function arguments world).property, fun outcome => ?_⟩
  constructor
  · rintro rfl
    obtain ⟨outcome, answers⟩ := hooks.exists_answer thread function arguments world
    rwa [answers.call_eq]
  · exact Answers.call_eq

/-- A body that panics once it has taken a number hands out that number, and takes no other. -/
example :
    let hooks : Hooks Nat Unit Unit Nat :=
      { real := fun _ _ number => (number, number + 1)
        body := fun _ _ _ => { actions := [.real (), .hooked () ()], ending := .panic } }
    (hooks.call {} () () 3).val =
      { result := 3, thread := {}, world := 5, bodies := [((), ())], calls := [((), ()), ((), ())]
        notes := [.real 3, .hooked 4] } := by cbv

end Hooks

end DeviceTestbed
