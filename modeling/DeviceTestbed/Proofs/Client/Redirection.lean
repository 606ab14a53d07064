import DeviceTestbed.Proofs.Client.Forwarding

/-!
Which path the real function gets. Below `/dev` and `/sys` it gets the same path below the root of
the testbed as long as that is on and has such a node, of which `/sys` needs none; otherwise it gets
the path of the program. A path that is too long below the root reaches no real function.
-/

namespace DeviceTestbed

def Path.IsWithin (tree path : Path) : Prop :=
  path = tree ∨ ∃ below, path = tree ++ Path.slash :: below

def Files.Holds (files : Files) (path : Path) : Prop :=
  ∃ id, files.lookup .target path = .ok id

theorem Bytes.after?_eq_some {start bytes rest : Bytes} :
    Bytes.after? start bytes = some rest ↔ bytes = start ++ rest := by
  simp only [Bytes.after?, List.isPrefixOf_iff_prefix]
  constructor
  · intro found
    split at found
    · rename_i begins
      rw [← Option.some.inj found]
      exact (List.prefix_iff_eq_append.mp begins).symm
    · cases found
  · rintro rfl
    rw [if_pos (List.prefix_append start rest), List.drop_left]

theorem Path.isUnder_iff {tree path : Path} :
    Path.isUnder tree path = true ↔ Path.IsWithin tree path := by
  unfold Path.isUnder Path.IsWithin
  constructor
  · intro under
    split at under
    · cases under
    · rename_i rest found
      rw [Bytes.after?_eq_some] at found
      rcases Bool.or_eq_true_iff.mp under with nothing | begins
      · rw [List.isEmpty_iff.mp nothing, List.append_nil] at found
        exact .inl found
      · obtain ⟨below, rfl⟩ := List.head?_eq_some_iff.mp (beq_iff_eq.mp begins)
        exact .inr ⟨below, found⟩
  · rintro (rfl | ⟨below, rfl⟩)
    · rw [Bytes.after?_eq_some.mpr (List.append_nil path).symm]
      rfl
    · rw [Bytes.after?_eq_some.mpr rfl]
      rfl

theorem Files.pathExists_iff {files : Files} {path : Path} :
    files.pathExists path = true ↔ files.Holds path := by
  unfold Files.pathExists Files.fault? Files.Holds
  cases files.lookup .target path <;> simp

theorem Environment.testbed?_eq_some {environment : Environment} {root : Path} :
    environment.testbed? = some root ↔
      environment.get? "DEVBED_DIR" = some root ∧ root ≠ [] := by
  simp [Environment.testbed?, Option.filter_eq_some_iff]

namespace Redirection

def Covers (path : Path) : Prop :=
  Path.IsWithin devices path ∨ Path.IsWithin system path

structure Provides (files : Files) (root path : Path) : Prop where
  covers : Covers path
  on : ¬ files.Holds (root ++ Bytes.ofAscii "/disabled".toList)
  has : Path.IsWithin system path ∨ files.Holds (root ++ path)

theorem isCovered_iff {path : Path} : isCovered path = true ↔ Covers path := by
  rw [isCovered, Bool.or_eq_true_iff, Path.isUnder_iff, Path.isUnder_iff]
  rfl

theorem not_within_devices_of_system {path : Path} (within : Path.IsWithin system path) :
    ¬ Path.IsWithin devices path := by
  have second : path[1]? = some 0x73 := by
    rcases within with rfl | ⟨below, rfl⟩ <;> rfl
  rintro (rfl | ⟨below, rfl⟩) <;> cases second

theorem isProvided_iff {files : Files} {root path : Path} (covers : Covers path)
    (clean : 0 ∉ root ++ path) :
    isProvided files root path = true ↔ Provides files root path := by
  have noZero : (root ++ path).contains 0 = false := by
    simpa [← Bool.not_eq_true, List.contains_iff_mem] using clean
  simp only [isProvided, noZero, Bool.not_false, Bool.and_true, Bool.and_eq_true,
    Bool.or_eq_true, Bool.not_eq_true', ← Bool.not_eq_true, Files.pathExists_iff, Path.isUnder_iff]
  constructor
  · rintro ⟨on, has⟩
    refine ⟨covers, on, ?_⟩
    rcases has with outside | present
    · exact .inl (covers.resolve_left outside)
    · exact .inr present
  · rintro ⟨-, on, inSystem | present⟩
    · exact ⟨on, .inl (not_within_devices_of_system inSystem)⟩
    · exact ⟨on, .inr present⟩

theorem shadow_of_provided {files : Files} {root path : Path}
    (near : root.length + path.length < limit) (clean : 0 ∉ root ++ path)
    (provides : Provides files root path) :
    shadow files (some root) path = .ok (some (root ++ path)) := by
  have covered := isCovered_iff.mpr provides.covers
  have provided := (isProvided_iff provides.covers clean).mpr provides
  simp [shadow, covered, Nat.not_le.mpr near, provided]

theorem shadow_of_not_provided {files : Files} {root path : Path}
    (near : Covers path → root.length + path.length < limit)
    (clean : 0 ∉ root ++ path) (missing : ¬ Provides files root path) :
    shadow files (some root) path = .ok none := by
  by_cases covers : Covers path
  · have covered := isCovered_iff.mpr covers
    have notProvided := mt (isProvided_iff covers clean).mp missing
    simp [shadow, covered, Nat.not_le.mpr (near covers), notProvided]
  · have notCovered := mt isCovered_iff.mp covers
    simp [shadow, notCovered]

end Redirection

namespace Client

/-- The real function was called once, as `call`, and its result and error number are what the
caller gets. If the program was ended, then after this call, in the bookkeeping for a file that it
opened. -/
inductive CallsOnce (client : Client) (call : Call) (reply : Reply) :
    Except Halt (Option Answer × Client) → Prop where
  | answered {answer : Answer} {after : Client} (calls : after.calls = client.calls ++ [call])
      (result : answer.result = reply.result)
      (errno : after.errno = reply.errnoAfter client.errno) :
      CallsOnce client call reply (.ok (some answer, after))
  | ended {wide : Bool} {flags : Int} {mode : Nat} {given path : Option Path} {redirected : Bool}
      {halt : Halt} (opens : call = .onPath (.openFile wide flags mode) given)
      (bookkeeping : (client.callReal call reply).opened reply.result path redirected
        reply.device = .error halt) :
      CallsOnce client call reply (.error halt)

theorem callsOnce_onPath {client : Client} {path shadow : Option Path}
    (redirected : (client.redirect path).1 = .ok shadow) (function : PathFunction)
    (reply : Reply) :
    client.CallsOnce (.onPath function (shadow.or path)) reply
      (client.onPath function path reply >>= fun (answer, after) => pure (some answer, after)) := by
  have whole : client.redirect path = (.ok shadow, client) :=
    Prod.ext redirected (client.redirect_snd path)
  simp only [onPath, whole]
  cases function with
  | openFile wide flags mode =>
    let called := client.callReal (.onPath (.openFile wide flags mode) (shadow.or path)) reply
    simp only [quietlyTry]
    cases opened : called.opened reply.result path shadow.isSome reply.device with
    | ok after =>
      obtain ⟨_, _, _, _, _, _, _, rfl⟩ := eq_of_opened opened
      exact .answered rfl rfl rfl
    | error halt => exact .ended rfl opened
  | status function buffer =>
    simp only [statusOf_eq]
    exact .answered rfl rfl rfl
  | _ => exact .answered rfl rfl rfl

def UsesTestbed (client : Client) (root : Path) : Prop :=
  client.environment.get? "DEVBED_DIR" = some root ∧ root ≠ []

def StandsIn (client : Client) (shadow : Path) (path : Option Path) : Prop :=
  ∃ root named, client.UsesTestbed root ∧ path = some named ∧
    Redirection.Provides client.files root named ∧ shadow = root ++ named

section

variable {client : Client} {path : Option Path}

theorem testbed?_eq_some {root : Path} :
    client.testbed? = some root ↔ client.UsesTestbed root :=
  Environment.testbed?_eq_some

theorem redirect_eq_ok
    (cleanRoot : ∀ root, client.environment.get? "DEVBED_DIR" = some root → 0 ∉ root)
    (cleanPath : ∀ named, path = some named → 0 ∉ named)
    (near : ∀ root named, client.UsesTestbed root → path = some named →
      Redirection.Covers named → root.length + named.length < Redirection.limit) :
    ∃ shadow, (client.redirect path).1 = .ok shadow ∧
      (∀ known, client.StandsIn known path → shadow = some known) ∧
      ((¬ ∃ known, client.StandsIn known path) → shadow = none) := by
  cases path with
  | none =>
    refine ⟨none, rfl, ?_, fun _ => rfl⟩
    rintro known ⟨root, named, -, unnamed, -⟩
    cases unnamed
  | some named =>
    rw [redirect_eq]
    cases testbed : client.testbed? with
    | none =>
      refine ⟨none, rfl, ?_, fun _ => rfl⟩
      rintro known ⟨root, named, uses, -⟩
      cases testbed.symm.trans (testbed?_eq_some.mpr uses)
    | some root =>
      have uses := testbed?_eq_some.mp testbed
      have clean : 0 ∉ root ++ named :=
        List.not_mem_append (cleanRoot root uses.1) (cleanPath named rfl)
      by_cases provides : Redirection.Provides client.files root named
      · have short := near root named uses rfl provides.covers
        refine ⟨_, Redirection.shadow_of_provided short clean provides, ?_, ?_⟩
        · rintro known ⟨other, _, also, same, -, rfl⟩
          obtain rfl := Option.some.inj (uses.1.symm.trans also.1)
          rw [Option.some.inj same]
        · intro none
          exact absurd ⟨_, root, named, uses, rfl, provides, rfl⟩ none
      · refine ⟨none, Redirection.shadow_of_not_provided (near root named uses rfl) clean provides,
          ?_, fun _ => rfl⟩
        rintro known ⟨other, _, also, same, provided, -⟩
        obtain rfl := Option.some.inj (uses.1.symm.trans also.1)
        obtain rfl := Option.some.inj same
        exact absurd provided provides

end

end Client

/-- A call on a path fails for a path that is too long just if a testbed is in use that could stand
in for the path, and root and path have 8192 bytes or more, whether the testbed is on or not. Every
other call reaches the real function once, with all it was given but for the path: that is the path
below the root if the testbed provides it, and else the path of the program. -/
theorem path_redirected_exactly (client : Client) (errno : Int) (function : PathFunction)
    (path : Option Path) (reply : Reply)
    (cleanRoot : ∀ root, client.environment.get? "DEVBED_DIR" = some root → 0 ∉ root)
    (cleanPath : ∀ named, path = some named → 0 ∉ named) :
    let outcome := client.step (.call errno (.onPath function path) reply)
    let before := client.entering errno reply.conditions
    let tooLong := ∃ root named, client.UsesTestbed root ∧ path = some named ∧
      Redirection.Covers named ∧ 8192 ≤ root.length + named.length
    (tooLong → outcome = .ok (some { result := function.failure, output := function.untouched },
      { before with errno := 36 })) ∧
    (¬ tooLong → ∃ given, before.CallsOnce (.onPath function given) reply outcome ∧
      (∀ shadow, client.StandsIn shadow path → given = some shadow) ∧
      ((¬ ∃ shadow, client.StandsIn shadow path) → given = path)) := by
  intro outcome before tooLong
  constructor
  · rintro ⟨root, named, uses, rfl, covers, long⟩
    have far : before.LeadsTooFar (.onPath function (some named)) :=
      ⟨root, named, Client.testbed?_eq_some.mpr uses, rfl,
        Redirection.isCovered_iff.mpr covers, long⟩
    exact congrArg (· >>= fun (answer, after) => pure (some answer, after))
      (Client.onPath_of_leadsTooFar far)
  · intro short
    have near (root named : Path) (uses : before.UsesTestbed root) (same : path = some named)
        (covers : Redirection.Covers named) : root.length + named.length < Redirection.limit :=
      Nat.not_le.mp fun long => short ⟨root, named, uses, same, covers, long⟩
    have clean : ∀ root, before.environment.get? "DEVBED_DIR" = some root → 0 ∉ root := cleanRoot
    obtain ⟨shadow, redirected, standsIn, none⟩ := Client.redirect_eq_ok clean cleanPath near
    refine ⟨shadow.or path, Client.callsOnce_onPath redirected function reply, ?_, ?_⟩
    · intro known provided
      rw [standsIn known provided]
      rfl
    · intro unprovided
      rw [none unprovided]
      rfl

/-- A node of a testbed that is on, and a path too long for one that is off. -/
theorem path_redirected_exactly_of_node :
    let ascii (text : String) := Bytes.ofAscii text.toList
    let start (fixture : Files.Fixture) : Client :=
      { files := Files.ofFixtures [fixture]
        environment := Mapping.insert {} "DEVBED_DIR" (ascii "bed") }
    let on := start (.file (ascii "bed/dev/x") [])
    let off := start (.file (ascii "bed/disabled") [])
    let asking (path : Path) : Event :=
      .call 0 (.onPath (.access 4) (some path)) { result := -1, errno := 13 }
    let long := Redirection.system ++ List.replicate 8185 Path.slash
    (∃ answer after, on.step (asking (ascii "/dev//x")) = .ok (answer, after) ∧
        after.calls = [.onPath (.access 4) (some (ascii "bed/dev//x"))] ∧ after.errno = 13) ∧
      off.step (asking long) =
        .ok (some { result := -1 }, { off.entering 0 {} with errno := 36 }) := by
  intro ascii start on off asking long
  have uses (fixture : Files.Fixture) (root : Path) :
      (start fixture).UsesTestbed root ↔ root = ascii "bed" := by
    constructor
    · rintro ⟨set, -⟩
      exact (Option.some.inj set).symm
    · rintro rfl
      exact ⟨rfl, by decide⟩
  have clean (fixture : Files.Fixture) (root : Path)
      (set : (start fixture).environment.get? "DEVBED_DIR" = some root) : 0 ∉ root := by
    obtain rfl := Option.some.inj set
    decide
  constructor
  · obtain ⟨-, reached⟩ := path_redirected_exactly on 0 (.access 4) (some (ascii "/dev//x"))
      { result := -1, errno := 13 } (clean _) (by rintro _ ⟨⟩; decide)
    have standsIn : on.StandsIn (ascii "bed/dev//x") (some (ascii "/dev//x")) := by
      refine ⟨ascii "bed", ascii "/dev//x", (uses _ _).mpr rfl, rfl, ⟨?_, ?_, ?_⟩, rfl⟩
      · exact .inl (.inr ⟨ascii "/x", rfl⟩)
      · exact mt Files.pathExists_iff.mpr (by decide +kernel)
      · exact .inr (Files.pathExists_iff.mp (by decide +kernel))
    obtain ⟨given, once, provided, -⟩ := reached <| by
      rintro ⟨root, named, inUse, same, -, tooLong⟩
      obtain rfl := (uses _ _).mp inUse
      obtain rfl := Option.some.inj same
      exact absurd tooLong (by decide)
    rw [provided _ standsIn] at once
    generalize on.step (asking (ascii "/dev//x")) = outcome at once ⊢
    cases once with
    | answered calls result errno => exact ⟨_, _, rfl, calls, errno⟩
    | ended opens bookkeeping => cases opens
  · have below : long = Redirection.system ++ Path.slash :: List.replicate 8184 Path.slash :=
      congrArg (Redirection.system ++ ·) List.replicate_succ
    have length : long.length = 8189 :=
      List.length_append.trans (congrArg (Redirection.system.length + ·) List.length_replicate)
    have cleanLong : 0 ∉ long :=
      List.not_mem_append (by decide) fun member =>
        absurd (List.eq_of_mem_replicate member) (by decide)
    have cleanBed (root : Path) : off.environment.get? "DEVBED_DIR" = some root → 0 ∉ root :=
      clean _ root
    have inUse : off.UsesTestbed (ascii "bed") := (uses _ _).mpr rfl
    -- From here on neither the files nor the path have to be evaluated.
    clear_value long off
    obtain ⟨tooLong, -⟩ := path_redirected_exactly off 0 (.access 4) (some long)
      { result := -1, errno := 13 } cleanBed (by rintro _ ⟨⟩; exact cleanLong)
    refine tooLong ⟨ascii "bed", long, inUse, rfl, .inr (.inr ⟨_, below⟩), ?_⟩
    rw [length]
    decide

end DeviceTestbed
