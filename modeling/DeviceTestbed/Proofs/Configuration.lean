import DeviceTestbed.Configuration
import DeviceTestbed.Proofs.Text.Fields
import DeviceTestbed.Proofs.Text.Spelling
import DeviceTestbed.Proofs.Text.Numeral
import Mathlib.Data.List.Nodup
import Mathlib.Data.List.Perm.Subperm
import Mathlib.Data.Nat.Find
import Mathlib.Order.Bounds.Defs

/-!
What an environment asks for. Script devices are numbered from zero up to the first gap, which every
environment has. All variables before it are read, the first fault among them is reported, and
variables behind it have no effect.
-/

namespace DeviceTestbed

namespace Mapping

variable {Key Value : Type} [DecidableEq Key]

theorem exists_missing (mapping : Mapping Key Value) {name : Nat → Key}
    (different : Function.Injective name) :
    ∃ index ≤ mapping.size, mapping.get? (name index) = none := by
  by_contra all
  have present : (List.range (mapping.size + 1)).map name ⊆ mapping.entries.map Prod.fst := by
    intro key member
    obtain ⟨index, within, rfl⟩ := List.mem_map.mp member
    refine contains_iff_mem.mp (Option.isSome_iff_ne_none.mpr fun missing => all ?_)
    exact ⟨index, Nat.le_of_lt_succ (List.mem_range.mp within), missing⟩
  have fewer := (List.subperm_of_subset (List.nodup_range.map different) present).length_le
  simp only [List.length_map, List.length_range, size] at fewer
  omega

end Mapping

namespace Configuration

/-- The value is a decimal number of 64 bits, after an optional plus and with white space around. -/
def IsDevice (value : Bytes) (device : DeviceNumber) : Prop :=
  ∃ before number after, value = Utf8.encode (before ++ number ++ after) ∧ IsGap before ∧
    Numeral.SpellsNatural 10 number device.toNat ∧ IsGap after

section

variable {name : String} {value : Bytes} {device : DeviceNumber}

theorem parseDevice_eq_ok : parseDevice name value = .ok device ↔ IsDevice value device := by
  have small : 10 ≤ 16 := by decide
  constructor
  · intro parsed
    unfold parseDevice at parsed
    split at parsed
    · rename_i number read
      obtain ⟨spelled, within⟩ := (Numeral.natural_eq_ok small).mp read
      have known : device.toNat = number := by
        rw [← Except.ok.inj parsed]
        exact UInt64.toNat_ofNat_of_lt' (Nat.lt_succ_of_le within)
      obtain ⟨before, after, same, isBefore, isAfter⟩ := exists_gaps (Utf8.lenient value)
      have clean : '\uFFFD' ∉ Utf8.lenient value := by
        have notBlank : isBlank '\uFFFD' ≠ true := by decide
        rw [same]
        intro member
        rcases List.mem_append.mp member with inside | inAfter
        · rcases List.mem_append.mp inside with inBefore | inNumber
          · exact notBlank (isBefore _ inBefore)
          · exact absurd (spelled.isVisible small _ inNumber).2 (by decide)
        · exact notBlank (isAfter _ inAfter)
      refine ⟨before, trim (Utf8.lenient value), after, ?_, isBefore, known ▸ spelled, isAfter⟩
      rw [← same]
      exact Utf8.eq_encode_lenient clean
    · contradiction
  · rintro ⟨before, number, after, rfl, isBefore, spelled, isAfter⟩
    have whole : IsWhole isBlank number := fun character member =>
      (spelled.isVisible small character member).not_isBlank
    have present : number ≠ [] := (Numeral.SpellsInteger.natural spelled).ne_nil
    have within : device.toNat ≤ Numeral.largestWord := Nat.le_of_lt_succ device.toNat_lt
    rw [parseDevice, Utf8.lenient_encode, trim_between isBefore isAfter whole present,
      (Numeral.natural_eq_ok small).mpr ⟨spelled, within⟩]
    exact congrArg Except.ok (UInt64.ofNat_toNat)

theorem IsDevice.unique {other : DeviceNumber} (isDevice : IsDevice value device)
    (isOther : IsDevice value other) : device = other := by
  have read : parseDevice "" value = .ok device := parseDevice_eq_ok.mpr isDevice
  rw [parseDevice_eq_ok.mpr isOther] at read
  exact (Except.ok.inj read).symm

theorem parseDevice_eq_error {fault : Fault} :
    parseDevice name value = .error fault ↔
      (∀ device, ¬ IsDevice value device) ∧ fault = .invalidDevice name value := by
  constructor
  · intro failed
    constructor
    · intro device isDevice
      rw [parseDevice_eq_ok.mpr isDevice] at failed
      contradiction
    · unfold parseDevice at failed
      split at failed
      · contradiction
      · exact (Except.error.inj failed).symm
  · rintro ⟨malformed, rfl⟩
    cases parsed : parseDevice name value with
    | ok device => exact absurd (parseDevice_eq_ok.mp parsed) (malformed device)
    | error fault =>
      unfold parseDevice at parsed
      split at parsed
      · contradiction
      · exact parsed.symm

end

/-! The names of the variables. -/

theorem toString_injective {index other : Nat} (same : toString index = toString other) :
    index = other := by
  rw [Nat.toString_eq_repr, Nat.toString_eq_repr, Nat.repr_eq_ofList_toDigits,
    Nat.repr_eq_ofList_toDigits] at same
  exact Numeral.decimal_injective (String.ofList_injective same)

theorem scriptDevice_injective : Function.Injective scriptDevice := fun _ _ same =>
  toString_injective ((String.append_right_inj _).mp same)

theorem append_ne_append {first second : String} (position : Nat)
    (differ : first.toList[position]? ≠ second.toList[position]?)
    (inFirst : position < first.toList.length) (inSecond : position < second.toList.length)
    (rest other : String) : first ++ rest ≠ second ++ other := by
  intro same
  have letter := congrArg (fun name => name.toList[position]?) same
  simp only [String.toList_append, List.getElem?_append_left inFirst,
    List.getElem?_append_left inSecond] at letter
  exact differ letter

theorem scriptFile_injective : Function.Injective scriptFile := fun _ _ same =>
  toString_injective ((String.append_right_inj _).mp same)

theorem scriptDevice_ne_scriptFile (index other : Nat) : scriptDevice index ≠ scriptFile other :=
  append_ne_append 21 (by decide) (by decide) (by decide) _ _

/-- The names for ioctls differ from those for scripts in their eighth letter. -/
theorem ioctl_ne_script {name : String} (isIoctl : name = ioctlDevice ∨ name = ioctlFile)
    (index : Nat) : name ≠ scriptDevice index ∧ name ≠ scriptFile index := by
  rw [← String.append_empty (s := name)]
  rcases isIoctl with rfl | rfl
  · exact ⟨append_ne_append 7 (by decide) (by decide) (by decide) _ _,
      append_ne_append 7 (by decide) (by decide) (by decide) _ _⟩
  · exact ⟨append_ne_append 7 (by decide) (by decide) (by decide) _ _,
      append_ne_append 7 (by decide) (by decide) (by decide) _ _⟩

variable {environment : Environment} {index count : Nat} {fault : Fault}

def IsScriptCount (environment : Environment) (count : Nat) : Prop :=
  IsLeast {index | environment.get? (scriptDevice index) = none} count

theorem exists_scriptCount (environment : Environment) :
    ∃ count, IsScriptCount environment count := by
  obtain ⟨index, -, missing⟩ := environment.exists_missing scriptDevice_injective
  have exists_gap : ∃ index, environment.get? (scriptDevice index) = none := ⟨index, missing⟩
  exact ⟨Nat.find exists_gap, Nat.find_spec exists_gap, fun _ gap => Nat.find_min' exists_gap gap⟩

theorem IsScriptCount.set (ends : IsScriptCount environment count) (within : index < count) :
    ∃ value, environment.get? (scriptDevice index) = some value := by
  refine Option.ne_none_iff_exists'.mp fun missing => ?_
  exact Nat.not_lt.mpr (ends.2 missing) within

theorem scriptIndices_eq (ends : IsScriptCount environment count) :
    scriptIndices environment = List.range count := by
  obtain ⟨index, within, missing⟩ := environment.exists_missing scriptDevice_injective
  have bound : count ≤ environment.size := Nat.le_trans (ends.2 missing) within
  obtain ⟨more, total⟩ := Nat.exists_eq_add_of_le bound
  have before : ∀ index ∈ List.range count,
      environment.contains (scriptDevice index) = true := by
    intro index member
    obtain ⟨value, set⟩ := ends.set (List.mem_range.mp member)
    rw [Mapping.contains, set]
    rfl
  have gap : environment.contains (scriptDevice count) = false :=
    congrArg Option.isSome ends.1
  rw [scriptIndices, total, List.range_add, List.takeWhile_append_of_pos before]
  cases more with
  | zero => exact List.append_nil _
  | succ more =>
    rw [List.range_succ_eq_map, List.map_cons, List.takeWhile_cons_of_neg (by simp [gap]),
      List.append_nil]

/-! The target for ioctls. -/

/-- There is no target if the variable is not set or names the device 0. -/
inductive IsTarget (environment : Environment) : Option RecordTarget → Prop
  | unset (unset : environment.get? ioctlDevice = none) : IsTarget environment none
  | zero {value : Bytes} (set : environment.get? ioctlDevice = some value)
      (isDevice : IsDevice value 0) : IsTarget environment none
  | device {value : Bytes} {device : DeviceNumber} (set : environment.get? ioctlDevice = some value)
      (isDevice : IsDevice value device) (present : device ≠ 0) :
      IsTarget environment (some { device, file := environment.get? ioctlFile })

theorem readIoctl_eq_ok {target : Option RecordTarget} :
    readIoctl environment = .ok target ↔ IsTarget environment target := by
  constructor
  · intro known
    unfold readIoctl at known
    split at known
    · rename_i unset
      cases known
      exact .unset unset
    · rename_i value set
      split at known
      · contradiction
      · rename_i device parsed
        have isDevice := parseDevice_eq_ok.mp parsed
        cases known
        split
        · rename_i none
          exact .zero set (none ▸ isDevice)
        · rename_i present
          exact .device set isDevice present
  · intro isTarget
    cases isTarget with
    | unset unset => simp only [readIoctl, unset]
    | zero set isDevice =>
      simp only [readIoctl, set, parseDevice_eq_ok.mpr isDevice, if_true]
    | device set isDevice present =>
      simp only [readIoctl, set, parseDevice_eq_ok.mpr isDevice, if_neg present]

theorem readIoctl_eq_error :
    readIoctl environment = .error fault ↔
      ∃ value, environment.get? ioctlDevice = some value ∧ (∀ device, ¬ IsDevice value device) ∧
        fault = .invalidDevice ioctlDevice value := by
  unfold readIoctl
  cases set : environment.get? ioctlDevice with
  | none => simp
  | some value =>
    cases parsed : parseDevice ioctlDevice value with
    | error other =>
      obtain ⟨malformed, rfl⟩ := parseDevice_eq_error.mp parsed
      simp [parsed, malformed, eq_comm]
    | ok device =>
      have isDevice := parseDevice_eq_ok.mp parsed
      simp only [parsed]
      constructor
      · nofun
      · rintro ⟨_, same, malformed, -⟩
        cases same
        exact absurd isDevice (malformed device)

theorem IsTarget.eq_none_iff {target : Option RecordTarget}
    (isTarget : IsTarget environment target) :
    target = none ↔ ∀ value, environment.get? ioctlDevice = some value → IsDevice value 0 := by
  cases isTarget with
  | unset unset => simp [unset]
  | zero set isDevice => simp [set, isDevice]
  | device set isDevice present =>
    have other : ¬ IsDevice _ 0 := fun zero => present (isDevice.unique zero)
    simp [set, other]

/-! The script devices. -/

def NamesDevice (environment : Environment) (index : Nat) (device : DeviceNumber) : Prop :=
  ∃ value, environment.get? (scriptDevice index) = some value ∧ IsDevice value device

structure IsScript (environment : Environment) (index : Nat) (target : ScriptTarget) : Prop where
  device : NamesDevice environment index target.device
  file : environment.get? (scriptFile index) = some target.file

/-- The device is looked at before the file. -/
inductive IsScriptFault (environment : Environment) (index : Nat) : Fault → Prop
  | device {value : Bytes} (set : environment.get? (scriptDevice index) = some value)
      (malformed : ∀ device, ¬ IsDevice value device) :
      IsScriptFault environment index (.invalidDevice (scriptDevice index) value)
  | file {device : DeviceNumber} (names : NamesDevice environment index device)
      (unset : environment.get? (scriptFile index) = none) :
      IsScriptFault environment index (.missing (scriptFile index))

theorem NamesDevice.unique {device other : DeviceNumber}
    (names : NamesDevice environment index device)
    (namesOther : NamesDevice environment index other) : device = other := by
  obtain ⟨value, set, isDevice⟩ := names
  obtain ⟨same, setSame, isOther⟩ := namesOther
  rw [set] at setSame
  cases setSame
  exact isDevice.unique isOther

theorem readScript_eq_ok {target : ScriptTarget} :
    readScript environment index = .ok target ↔ IsScript environment index target := by
  constructor
  · intro known
    unfold readScript at known
    split at known
    · contradiction
    · rename_i device parsed
      split at known
      · contradiction
      · rename_i file set
        cases known
        refine ⟨?_, set⟩
        cases named : environment.get? (scriptDevice index) with
        | none =>
          -- Without a value the empty text is read, which is no number.
          rw [named] at parsed
          contradiction
        | some value =>
          rw [named] at parsed
          exact ⟨value, named, parseDevice_eq_ok.mp parsed⟩
  · rintro ⟨⟨value, set, isDevice⟩, file⟩
    simp only [readScript, set, Option.getD_some, parseDevice_eq_ok.mpr isDevice, file]

theorem readScript_eq_error {value : Bytes}
    (set : environment.get? (scriptDevice index) = some value) :
    readScript environment index = .error fault ↔ IsScriptFault environment index fault := by
  constructor
  · intro failed
    unfold readScript at failed
    rw [set, Option.getD_some] at failed
    split at failed
    · rename_i other parsed
      obtain ⟨malformed, rfl⟩ := parseDevice_eq_error.mp parsed
      cases failed
      exact .device set malformed
    · rename_i device parsed
      split at failed
      · rename_i unset
        cases failed
        exact .file ⟨value, set, parseDevice_eq_ok.mp parsed⟩ unset
      · contradiction
  · intro isFault
    cases isFault with
    | device set malformed =>
      have parsed := parseDevice_eq_error.mpr
        ⟨malformed, rfl (a := Fault.invalidDevice (scriptDevice index) _)⟩
      simp only [readScript, set, Option.getD_some, parsed]
    | file names unset =>
      obtain ⟨value, set, isDevice⟩ := names
      simp only [readScript, set, Option.getD_some, parseDevice_eq_ok.mpr isDevice, unset]

/-! The whole configuration. -/

/-- The variables for ioctls come first, and then those for scripts by their index. -/
inductive IsFirstFault (environment : Environment) (count : Nat) : Fault → Prop
  | ioctl {value : Bytes} (set : environment.get? ioctlDevice = some value)
      (malformed : ∀ device, ¬ IsDevice value device) :
      IsFirstFault environment count (.invalidDevice ioctlDevice value)
  | script {target : Option RecordTarget} {index : Nat} {fault : Fault}
      (isTarget : IsTarget environment target) (within : index < count)
      (earlier : ∀ before < index, ∃ script, IsScript environment before script)
      (isFault : IsScriptFault environment index fault) : IsFirstFault environment count fault

theorem read_eq_ok (ends : IsScriptCount environment count) {configuration : Configuration} :
    read environment = .ok configuration ↔
      IsTarget environment configuration.ioctl ∧
        List.Forall₂ (IsScript environment) (List.range count) configuration.scripts := by
  simp only [read, scriptIndices_eq ends, Outcome.bind_eq_ok, Outcome.pure_eq_ok,
    Outcome.mapM_eq_ok, readIoctl_eq_ok, readScript_eq_ok]
  constructor
  · rintro ⟨target, isTarget, scripts, isScripts, rfl⟩
    exact ⟨isTarget, isScripts⟩
  · rintro ⟨isTarget, isScripts⟩
    exact ⟨_, isTarget, _, isScripts, rfl⟩

theorem range_eq_append_cons {before after : List Nat} :
    List.range count = before ++ index :: after ↔
      index < count ∧ before = List.range index ∧
        after = List.range' (index + 1) (count - index - 1) := by
  rw [List.range_eq_range', List.range_eq_range', List.range'_eq_append_iff]
  constructor
  · rintro ⟨size, -, rfl, rest⟩
    obtain ⟨place, more, rfl⟩ := List.range'_eq_cons_iff.mp rest.symm
    obtain rfl : size = index := by omega
    exact ⟨by omega, rfl, rfl⟩
  · rintro ⟨within, rfl, rfl⟩
    refine ⟨index, Nat.le_of_lt within, rfl, ?_⟩
    exact (List.range'_eq_cons_iff.mpr ⟨by omega, by omega, by simp⟩).symm

theorem read_eq_error (ends : IsScriptCount environment count) :
    read environment = .error fault ↔ IsFirstFault environment count fault := by
  simp only [read, scriptIndices_eq ends, Outcome.bind_eq_error, Outcome.mapM_eq_error,
    readIoctl_eq_ok, readIoctl_eq_error, readScript_eq_ok]
  constructor
  · rintro (⟨value, set, malformed, rfl⟩ |
      ⟨target, isTarget, ⟨before, index, after, same, earlier, failed⟩ | ⟨_, -, done⟩⟩)
    · exact .ioctl set malformed
    · obtain ⟨within, rfl, -⟩ := range_eq_append_cons.mp same
      obtain ⟨value, set⟩ := ends.set within
      exact .script isTarget within (fun before less => earlier before (List.mem_range.mpr less))
        ((readScript_eq_error set).mp failed)
    · contradiction
  · intro faulty
    cases faulty with
    | ioctl set malformed => exact .inl ⟨_, set, malformed, rfl⟩
    | script isTarget within earlier isFault =>
      obtain ⟨value, set⟩ := ends.set within
      have split := range_eq_append_cons.mpr ⟨within, rfl, rfl⟩
      exact .inr ⟨_, isTarget, .inl ⟨_, _, _, split,
        fun before member => earlier before (List.mem_range.mp member),
        (readScript_eq_error set).mpr isFault⟩⟩

theorem forall₂_range {Value : Type} {Related : Nat → Value → Prop} {values : List Value} :
    List.Forall₂ Related (List.range count) values ↔
      values.length = count ∧
        ∀ index, (inside : index < values.length) → Related index values[index] := by
  simp only [List.forall₂_iff_get, List.length_range, List.get_eq_getElem, List.getElem_range,
    eq_comm (a := count)]
  refine and_congr_right fun length => ?_
  subst length
  exact forall_congr' fun index => ⟨fun related inside => related inside inside,
    fun related inside _ => related inside⟩

theorem exists_read (ends : IsScriptCount environment count) :
    (∃ configuration, read environment = .ok configuration) ↔
      (∀ value, environment.get? ioctlDevice = some value → ∃ device, IsDevice value device) ∧
        ∀ index < count, ∃ target, IsScript environment index target := by
  constructor
  · rintro ⟨configuration, known⟩
    obtain ⟨isTarget, isScripts⟩ := (read_eq_ok ends).mp known
    obtain ⟨rfl, isScript⟩ := forall₂_range.mp isScripts
    refine ⟨fun value set => ?_, fun index within => ⟨_, isScript index within⟩⟩
    generalize configuration.ioctl = target at isTarget
    cases isTarget with
    | unset unset => simp [unset] at set
    | zero same isDevice | device same isDevice _ =>
      rw [set] at same
      cases same
      exact ⟨_, isDevice⟩
  · rintro ⟨hasDevice, hasScript⟩
    cases known : read environment with
    | ok configuration => exact ⟨configuration, rfl⟩
    | error fault =>
      exfalso
      cases (read_eq_error ends).mp known with
      | ioctl set malformed =>
        obtain ⟨device, isDevice⟩ := hasDevice _ set
        exact malformed device isDevice
      | script _ within _ isFault =>
        obtain ⟨target, isScript⟩ := hasScript _ within
        have failed := (readScript_eq_error (ends.set within).choose_spec).mpr isFault
        rw [readScript_eq_ok.mpr isScript] at failed
        contradiction

theorem scriptFile?_eq_some {configuration : Configuration} {device : DeviceNumber} {file : Path}
    (isScripts : List.Forall₂ (IsScript environment) (List.range count) configuration.scripts) :
    configuration.scriptFile? device = some file ↔
      ∃ index < count, NamesDevice environment index device ∧
        environment.get? (scriptFile index) = some file ∧
        ∀ earlier < index, ¬ NamesDevice environment earlier device := by
  obtain ⟨rfl, isScript⟩ := forall₂_range.mp isScripts
  simp only [scriptFile?, Option.map_eq_some_iff, List.find?_eq_some_iff_getElem]
  constructor
  · rintro ⟨target, ⟨same, index, inside, rfl, earlier⟩, rfl⟩
    have device : configuration.scripts[index].device = device := by simpa using same
    refine ⟨index, inside, device ▸ (isScript index inside).device,
      (isScript index inside).file, ?_⟩
    intro before less names
    have different := earlier before less
    rw [(isScript before (Nat.lt_trans less inside)).device.unique names] at different
    simp at different
  · rintro ⟨index, inside, names, set, earlier⟩
    have named := (isScript index inside).device.unique names
    have given : configuration.scripts[index].file = file := by
      have given := (isScript index inside).file
      rw [set] at given
      exact (Option.some.inj given).symm
    refine ⟨_, ⟨by simpa using named, index, inside, rfl, ?_⟩, given⟩
    intro before less
    have different : configuration.scripts[before].device ≠ device := fun same =>
      earlier before less (same ▸ (isScript before (Nat.lt_trans less inside)).device)
    simpa using different

/-- The two environments differ at most in variables behind the first gap, and in the file that
belongs to the gap. -/
def AgreesUpTo (count : Nat) (environment other : Environment) : Prop :=
  ∀ name, (∀ index > count, name ≠ scriptDevice index) →
    (∀ index ≥ count, name ≠ scriptFile index) → other.get? name = environment.get? name

section

variable {other : Environment} (agrees : AgreesUpTo count environment other)

include agrees

theorem AgreesUpTo.scriptDevice (within : index ≤ count) :
    other.get? (scriptDevice index) = environment.get? (scriptDevice index) := by
  apply agrees
  · rintro later behind same
    have := scriptDevice_injective same
    omega
  · exact fun later _ => scriptDevice_ne_scriptFile _ _

theorem AgreesUpTo.scriptFile (within : index < count) :
    other.get? (scriptFile index) = environment.get? (scriptFile index) := by
  apply agrees
  · exact fun later _ same => scriptDevice_ne_scriptFile _ _ same.symm
  · rintro later behind same
    have := scriptFile_injective same
    omega

theorem AgreesUpTo.readIoctl : readIoctl other = readIoctl environment := by
  have device : other.get? ioctlDevice = environment.get? ioctlDevice :=
    agrees _ (fun index _ => (ioctl_ne_script (.inl rfl) index).1)
      (fun index _ => (ioctl_ne_script (.inl rfl) index).2)
  have file : other.get? ioctlFile = environment.get? ioctlFile :=
    agrees _ (fun index _ => (ioctl_ne_script (.inr rfl) index).1)
      (fun index _ => (ioctl_ne_script (.inr rfl) index).2)
  rw [Configuration.readIoctl, device, file, Configuration.readIoctl]

theorem AgreesUpTo.scriptCount (ends : IsScriptCount environment count) :
    IsScriptCount other count := by
  refine ⟨(agrees.scriptDevice (Nat.le_refl _)).trans ends.1, fun index missing => ?_⟩
  refine Nat.le_of_not_lt fun before => ?_
  rw [Set.mem_ofPred_eq, agrees.scriptDevice (Nat.le_of_lt before)] at missing
  exact Nat.not_lt.mpr (ends.2 missing) before

theorem AgreesUpTo.read (ends : IsScriptCount environment count) :
    read other = read environment := by
  have scripts : ∀ index ∈ List.range count,
      readScript other index = readScript environment index := by
    intro index member
    have within := List.mem_range.mp member
    rw [readScript, agrees.scriptDevice (Nat.le_of_lt within), agrees.scriptFile within, readScript]
  rw [Configuration.read, scriptIndices_eq (agrees.scriptCount ends), agrees.readIoctl,
    Outcome.mapM_congr scripts, Configuration.read, scriptIndices_eq ends]

end

/-- Every environment has a first index that names no script device, and is read up to it. Reading
succeeds just if all devices are numbers and all scripts have files, and then gives the target for
ioctls and the scripts in order, of which the first one for a device counts. Otherwise the first
fault is reported. What stands behind the gap is never looked at. -/
theorem read_up_to_gap (environment : Environment) :
    ∃ count, IsScriptCount environment count ∧
      ((∃ configuration, read environment = .ok configuration) ↔
        (∀ value, environment.get? ioctlDevice = some value → ∃ device, IsDevice value device) ∧
          ∀ index < count, ∃ target, IsScript environment index target) ∧
      (∀ configuration, read environment = .ok configuration →
        IsTarget environment configuration.ioctl ∧
          (configuration.ioctl = none ↔
            ∀ value, environment.get? ioctlDevice = some value → IsDevice value 0) ∧
          List.Forall₂ (IsScript environment) (List.range count) configuration.scripts ∧
          ∀ device file, configuration.scriptFile? device = some file ↔
            ∃ index < count, NamesDevice environment index device ∧
              environment.get? (scriptFile index) = some file ∧
              ∀ earlier < index, ¬ NamesDevice environment earlier device) ∧
      (∀ fault, read environment = .error fault ↔ IsFirstFault environment count fault) ∧
      ∀ other, AgreesUpTo count environment other → read other = read environment := by
  obtain ⟨count, ends⟩ := exists_scriptCount environment
  refine ⟨count, ends, exists_read ends, ?_, fun fault => read_eq_error ends,
    fun other agrees => agrees.read ends⟩
  intro configuration known
  obtain ⟨isTarget, isScripts⟩ := (read_eq_ok ends).mp known
  exact ⟨isTarget, isTarget.eq_none_iff, isScripts,
    fun device file => scriptFile?_eq_some isScripts⟩

end Configuration

end DeviceTestbed
