/-!
Hooks stand in front of functions. A call runs the hook's body instead of the function, and the body
may call the function itself or any other hooked function. While it runs its thread holds a guard,
and under a guard every hooked function is called directly.
-/

namespace DeviceTestbed

/-- What decides whether hooks run on a thread: they are enabled, and no guard is held. -/
structure HookThread where
  enabled : Bool := true
  depth : Nat := 0
  deriving DecidableEq, Repr

namespace HookThread

def isFree (thread : HookThread) : Bool :=
  thread.depth == 0

def intercepts (thread : HookThread) : Bool :=
  thread.enabled && thread.isFree

def acquire (thread : HookThread) : HookThread :=
  { thread with depth := thread.depth + 1 }

def release (thread : HookThread) : HookThread :=
  { thread with depth := thread.depth - 1 }

theorem release_acquire (thread : HookThread) : thread.acquire.release = thread := rfl

theorem intercepts_acquire (thread : HookThread) : thread.acquire.intercepts = false := by
  simp [intercepts, isFree, acquire]

end HookThread

/-- One thing that a hook's body does. Work is all that calls no function with a hook. -/
inductive HookAction (World Function Arguments : Type) where
  | real (arguments : Arguments)
  | hooked (function : Function) (arguments : Arguments)
  | observe
  | work (change : World → World)

inductive HookEnding (Result : Type) where
  | value (result : Result)
  | panic
  deriving DecidableEq, Repr

structure HookBody (World Function Arguments Result : Type) where
  actions : List (HookAction World Function Arguments)
  ending : HookEnding Result

inductive HookNote (Result : Type) where
  | real (result : Result)
  | hooked (result : Result)
  | free (observed : Bool)
  deriving DecidableEq, Repr

/-- The functions, which read and change the world, and the bodies in front of them. The world that
a body starts in decides all results that the body will see, and so all that it does. -/
structure Hooks (World Function Arguments Result : Type) where
  real : Function → Arguments → World → Result × World
  body : Function → Arguments → World → HookBody World Function Arguments Result

structure HookProgress (World Function Arguments Result : Type) where
  thread : HookThread
  world : World
  bodies : List (Function × Arguments) := []
  calls : List (Function × Arguments) := []
  notes : List (HookNote Result) := []
  last : Option Result := none
  deriving DecidableEq, Repr

/-- What a call comes to: its result and the state it leaves, the bodies that were run, the calls
that reached the functions themselves, and what the body of the call noted. -/
structure HookOutcome (World Function Arguments Result : Type) where
  result : Result
  thread : HookThread
  world : World
  bodies : List (Function × Arguments) := []
  calls : List (Function × Arguments)
  notes : List (HookNote Result) := []
  deriving DecidableEq, Repr

namespace Hooks

variable {World Function Arguments Result : Type}

def direct (hooks : Hooks World Function Arguments Result) (thread : HookThread)
    (function : Function) (arguments : Arguments) (world : World) :
    HookOutcome World Function Arguments Result :=
  let (result, world) := hooks.real function arguments world
  { result, thread, world, calls := [(function, arguments)] }

/-- What a call returns once the body has ended. A panic yields the result of the body's last call
to the function, and if there was none the function is called after all. Either way the guard of the
body is given up. -/
def finish (hooks : Hooks World Function Arguments Result) (function : Function)
    (arguments : Arguments) (progress : HookProgress World Function Arguments Result) :
    HookEnding Result → HookOutcome World Function Arguments Result
  | .value result => kept result
  | .panic =>
    match progress.last with
    | some result => kept result
    | none =>
      let (result, world) := hooks.real function arguments progress.world
      { kept result with world, calls := progress.calls ++ [(function, arguments)] }
where
  kept (result : Result) : HookOutcome World Function Arguments Result :=
    { result, thread := progress.thread.release, world := progress.world
      bodies := progress.bodies, calls := progress.calls, notes := progress.notes }

theorem finish_thread (hooks : Hooks World Function Arguments Result) (function : Function)
    (arguments : Arguments) (progress : HookProgress World Function Arguments Result)
    (ending : HookEnding Result) :
    (hooks.finish function arguments progress ending).thread = progress.thread.release := by
  unfold finish
  split
  · rfl
  · split <;> rfl

mutual

/-- Every call hands the thread back as it got it. So the calls within a body all find the guard of
that body, and run no other. -/
def call (hooks : Hooks World Function Arguments Result) (thread : HookThread)
    (function : Function) (arguments : Arguments) (world : World) :
    { outcome : HookOutcome World Function Arguments Result // outcome.thread = thread } :=
  if thread.intercepts then
    let body := hooks.body function arguments world
    let progress := hooks.runActions function body.actions
      { thread := thread.acquire, world, bodies := [(function, arguments)] }
    ⟨hooks.finish function arguments progress body.ending, by
      rw [finish_thread, progress.property, HookThread.release_acquire]⟩
  else ⟨hooks.direct thread function arguments world, rfl⟩
termination_by (thread.intercepts.toNat, 0)
decreasing_by
  apply Prod.Lex.left
  simp_all [HookThread.intercepts_acquire]

def runActions (hooks : Hooks World Function Arguments Result) (function : Function)
    (actions : List (HookAction World Function Arguments))
    (progress : HookProgress World Function Arguments Result) :
    { later : HookProgress World Function Arguments Result // later.thread = progress.thread } :=
  match actions with
  | [] => ⟨progress, rfl⟩
  | .real arguments :: rest =>
    let (result, world) := hooks.real function arguments progress.world
    hooks.runActions function rest
      { progress with
        world
        calls := progress.calls ++ [(function, arguments)]
        notes := progress.notes ++ [.real result]
        last := some result }
  | .hooked other arguments :: rest =>
    let ⟨outcome, same⟩ := hooks.call progress.thread other arguments progress.world
    let ⟨later, unchanged⟩ := hooks.runActions function rest
      { progress with
        thread := outcome.thread
        world := outcome.world
        bodies := progress.bodies ++ outcome.bodies
        calls := progress.calls ++ outcome.calls
        notes := progress.notes ++ [.hooked outcome.result] }
    ⟨later, unchanged.trans same⟩
  | .observe :: rest =>
    hooks.runActions function rest
      { progress with notes := progress.notes ++ [.free progress.thread.isFree] }
  | .work change :: rest =>
    hooks.runActions function rest { progress with world := change progress.world }
termination_by (progress.thread.intercepts.toNat, actions.length + 1)
decreasing_by
  all_goals
    try rw [same]
    apply Prod.Lex.right
    simp

end

end Hooks

end DeviceTestbed
