import DeviceTestbed.Device.Status
import DeviceTestbed.Files.Access

/-!
What is reported of an entry that stands for a device. Of its mode only the type and the sticky bit
change. The new type is laid over what is left of the old one when the bit of a regular file is
gone, so it comes out right for the entries that a testbed keeps devices as, and not for every other
one.
-/

namespace DeviceTestbed

namespace FileMode

def deviceType (mode : UInt32) : UInt32 :=
  if mode &&& sticky ≠ 0 then blockDevice else characterDevice

def fifo : UInt32 := 0o010000

theorem or_and (first second mask : UInt32) :
    (first ||| second) &&& mask = (first &&& mask) ||| (second &&& mask) := by
  apply UInt32.toBitVec_inj.mp
  simp only [UInt32.toBitVec_and, UInt32.toBitVec_or]
  exact BitVec.and_or_distrib_right

theorem and_complement {mode mask : UInt32} (disjoint : mode &&& mask = 0) :
    mode &&& ~~~mask = mode := by
  have whole : mask ||| ~~~mask = -1 := UInt32.or_not_self
  calc mode &&& ~~~mask = (mask &&& mode) ||| (~~~mask &&& mode) := by
        rw [UInt32.and_comm mask, disjoint, UInt32.zero_or, UInt32.and_comm]
    _ = mode := by rw [← or_and, whole, UInt32.neg_one_and]

/-- Whether the sticky bit was set or not, it is clear afterwards, and so is the bit of a regular
file; then the type of the device is added. -/
theorem ofDevice_eq (mode : UInt32) :
    ofDevice mode = (mode &&& ~~~(regular ||| sticky)) ||| deviceType mode := by
  have both : ~~~regular &&& ~~~sticky = ~~~(regular ||| sticky) := by decide
  have kept : ~~~regular &&& sticky = sticky := by decide
  simp only [ofDevice, deviceType, UInt32.and_assoc, kept]
  by_cases isSticky : mode &&& sticky = 0
  · have clear : mode &&& ~~~regular &&& ~~~sticky = mode &&& ~~~regular := by
      apply and_complement
      rw [UInt32.and_assoc, kept, isSticky]
    rw [if_neg (not_not_intro isSticky), if_neg (not_not_intro isSticky), ← both,
      ← UInt32.and_assoc, clear]
  · rw [if_pos isSticky, if_pos isSticky, both]

theorem ofDevice_and (mode mask : UInt32) :
    ofDevice mode &&& mask =
      (mode &&& (~~~(regular ||| sticky) &&& mask)) ||| (deviceType mode &&& mask) := by
  rw [ofDevice_eq, or_and, UInt32.and_assoc]

theorem deviceType_and_eq_zero {mask : UInt32} (block : blockDevice &&& mask = 0)
    (character : characterDevice &&& mask = 0) (mode : UInt32) : deviceType mode &&& mask = 0 := by
  unfold deviceType
  split
  · exact block
  · exact character

theorem sticky_ofDevice (mode : UInt32) : ofDevice mode &&& sticky = 0 := by
  have clear : ~~~(regular ||| sticky) &&& sticky = 0 := by decide
  rw [ofDevice_and, clear, UInt32.and_zero, UInt32.zero_or]
  exact deviceType_and_eq_zero (by decide) (by decide) mode

theorem others_ofDevice (mode : UInt32) :
    ofDevice mode &&& ~~~(typeMask ||| sticky) = mode &&& ~~~(typeMask ||| sticky) := by
  have kept : ~~~(regular ||| sticky) &&& ~~~(typeMask ||| sticky) = ~~~(typeMask ||| sticky) := by
    decide
  have clear : deviceType mode &&& ~~~(typeMask ||| sticky) = 0 :=
    deviceType_and_eq_zero (by decide) (by decide) mode
  rw [ofDevice_and, kept, clear, UInt32.or_zero]

/-! The type has four bits, so there are sixteen of them. -/

theorem and_typeMask (number : Nat) : number &&& 0xF000 = number / 0x1000 % 16 * 0x1000 := by
  have high : (number &&& 0xF000) / 2 ^ 12 = number / 0x1000 % 16 := by
    rw [Nat.and_div_two_pow]
    exact Nat.and_two_pow_sub_one_eq_mod (number / 0x1000) 4
  have low : (number &&& 0xF000) % 2 ^ 12 = 0 := by
    rw [Nat.and_mod_two_pow]
    exact Nat.and_zero _
  omega

theorem exists_fileType (mode : UInt32) :
    ∃ kind : Fin 16, fileType mode = UInt32.ofNat (kind * 0x1000) := by
  have bound : mode.toNat / 0x1000 % 16 < 16 := Nat.mod_lt _ (by decide)
  refine ⟨⟨mode.toNat / 0x1000 % 16, bound⟩, ?_⟩
  have mask : typeMask.toNat = 0xF000 := by decide
  apply UInt32.toNat_inj.mp
  rw [fileType, UInt32.toNat_and, mask, and_typeMask, UInt32.toNat_ofNat']
  exact (Nat.mod_eq_of_lt (by omega)).symm

/-- The reported type is right for regular files and links, for character devices, and for entries
of no type at all. With the sticky bit set it is right unless the bit of a fifo is set. -/
theorem fileType_ofDevice_iff (mode : UInt32) :
    fileType (ofDevice mode) = deviceType mode ↔
      fileType mode ∈ [0, regular, link, characterDevice] ∨
        mode &&& sticky ≠ 0 ∧ fileType mode &&& fifo = 0 := by
  have kept : ~~~(regular ||| sticky) &&& typeMask = typeMask &&& ~~~regular := by decide
  have reported : fileType (ofDevice mode) =
      (fileType mode &&& ~~~regular) ||| (deviceType mode &&& typeMask) := by
    rw [fileType, ofDevice_and, kept, ← UInt32.and_assoc]
    rfl
  obtain ⟨kind, same⟩ := exists_fileType mode
  rw [reported, same]
  clear reported same
  by_cases isSticky : mode &&& sticky = 0
  · simp only [deviceType, isSticky, ne_eq, not_true_eq_false, if_false, false_and, or_false]
    revert kind
    decide
  · simp only [deviceType, isSticky, ne_eq, not_false_eq_true, if_true, true_and]
    revert kind
    decide

end FileMode

namespace FileStatus

open FileMode

/-- What is reported of an entry that stands for a device has the number of its node and no sticky
bit. Its type is that of a block device if the sticky bit was set and else that of a character
device, just if the entry is of a type that leaves no other bit behind. All else is as it was, and
so is everything if the entry stands for no device. -/
theorem emulate_of_entry (files : Files) (root shadow : Path) (node : Name) (status : FileStatus) :
    let reported := status.emulate files root shadow node
    (isDevice files shadow status.mode = true →
      reported.device = DeviceNumber.ofNode files root node ∧
      reported.mode &&& sticky = 0 ∧
      reported.mode &&& ~~~(typeMask ||| sticky) = status.mode &&& ~~~(typeMask ||| sticky) ∧
      (fileType reported.mode =
          (if status.mode &&& sticky ≠ 0 then blockDevice else characterDevice) ↔
        fileType status.mode ∈ [0, regular, link, characterDevice] ∨
          status.mode &&& sticky ≠ 0 ∧ fileType status.mode &&& fifo = 0)) ∧
    (isDevice files shadow status.mode = false → reported = status) := by
  intro reported
  constructor
  · intro device
    have same : reported =
        { mode := ofDevice status.mode, device := DeviceNumber.ofNode files root node } :=
      if_pos device
    rw [same]
    exact ⟨rfl, sticky_ofDevice _, others_ofDevice _, fileType_ofDevice_iff _⟩
  · intro noDevice
    exact if_neg (Bool.eq_false_iff.mp noDevice)

theorem emulate_of_disk_and_directory :
    let path (text : String) := Bytes.ofAscii text.toList
    let files := Files.ofFixtures
      [.file (path "bed/dev/sda") [], .link (path "bed/dev/.node/sda") (path "8:0")]
    let disk : FileStatus := { mode := 0o101660 }
    let directory : FileStatus := { mode := 0o041777, device := 7 }
    let reported := disk.emulate files (path "bed") (path "bed/dev/sda") (path "sda")
    reported.device = 0x800 ∧ reported.mode &&& sticky = 0 ∧
      fileType reported.mode = blockDevice ∧
      directory.emulate files (path "bed") (path "bed/dev") [] = directory := by
  intro path files disk directory reported
  obtain ⟨ofDevice, -⟩ := emulate_of_entry files (path "bed") (path "bed/dev/sda") (path "sda") disk
  obtain ⟨-, ofOther⟩ := emulate_of_entry files (path "bed") (path "bed/dev") [] directory
  have number : DeviceNumber.ofNode files (path "bed") (path "sda") = 0x800 := by
    simp only [files, path]
    decide +kernel
  obtain ⟨device, clear, -, type⟩ := ofDevice (by decide)
  have block : fileType reported.mode = blockDevice :=
    (type.mpr (.inl (by decide))).trans (if_pos (by decide))
  exact ⟨device.trans number, clear, block, ofOther (by decide)⟩

/-- The bit of a fifo is left behind, and what is reported is of no type that there is. -/
theorem emulate_of_fifo :
    let path (text : String) := Bytes.ofAscii text.toList
    let pipe : FileStatus := { mode := 0o010644 }
    let reported := pipe.emulate Files.initial (path "bed") (path "bed/dev/p") (path "p")
    isDevice Files.initial (path "bed/dev/p") pipe.mode = true ∧ pipe.mode &&& sticky = 0 ∧
      fileType reported.mode = 0o030000 ∧ fileType reported.mode ≠ characterDevice := by
  decide +kernel

end FileStatus

end DeviceTestbed
