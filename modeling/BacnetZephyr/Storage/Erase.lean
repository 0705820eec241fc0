import BacnetZephyr.Foundation.AddressRange
import BacnetZephyr.Foundation.CString

/-!
# Erasing the storage partition

`bacnet_storage_erase` opens the settings partition, refuses to go on when the
partition overlaps the running firmware image on the same flash device, and
otherwise erases it. The flash driver is a parameter; the calls made to it are
recorded.

The guard compares ends computed in `uintptr_t`. `eraseGuarded_iff` says that the
firmware is safe except when the two ranges overlap and one of them ends exactly at
the top of the address space.
-/

namespace BacnetZephyr

open CLib AddressRange

/-- The build options of `bacnet_storage_erase`; nodes are flash devices. -/
structure EraseConfig (Node : Type) where
  settingsNvs : Bool
  xip : Bool
  /-- `DT_MTD_FROM_FIXED_PARTITION(SETTINGS_PARTITION_NODE)`. -/
  settingsMtdNode : Node
  /-- The flash device of the chosen `zephyr,code-partition`. -/
  codePartitionMtdNode : Option Node
  /-- The flash device of the chosen `zephyr,flash`. -/
  zephyrFlashNode : Option Node

/-- `FIRMWARE_MTD_NODE`, when it is defined. -/
def EraseConfig.firmwareMtdNode {Node : Type} (config : EraseConfig Node) : Option Node :=
  config.codePartitionMtdNode <|> config.zephyrFlashNode

/-- `same_device`. -/
def EraseConfig.sameDevice {Node : Type} [DecidableEq Node] (config : EraseConfig Node) : Bool :=
  match config.firmwareMtdNode with
  | none => true
  | some node => config.settingsMtdNode = node

/-- The memory map: where the flash and the firmware image lie. -/
structure FlashMap (w : ℕ) where
  baseAddress : BitVec w
  romRegionStart : BitVec w
  flashUsed : BitVec w

structure FlashArea (w : ℕ) where
  faOff : BitVec w
  faSize : BitVec w
deriving DecidableEq

structure FlashDriver (w : ℕ) where
  openResult : Int
  area : FlashArea w
  eraseResult : Int

inductive FlashCall (w : ℕ) where
  | open
  | erase (offset length : BitVec w)
  | close
deriving DecidableEq

section Erase

variable {Node : Type} [DecidableEq Node] {w : ℕ}

def overlapsFirmware (config : EraseConfig Node) (map : FlashMap w) (fa : FlashArea w) : Bool :=
  let partStart := map.baseAddress + fa.faOff
  let partEnd := partStart + fa.faSize
  let imageStart := map.romRegionStart
  let imageEnd := imageStart + map.flashUsed
  config.sameDevice && decide (partStart < imageEnd) && decide (imageStart < partEnd)

/-- `bacnet_storage_erase`: the value returned and the calls of the flash driver. -/
def bacnetStorageErase (config : EraseConfig Node) (map : FlashMap w) (driver : FlashDriver w) :
    Int × List (FlashCall w) :=
  if config.settingsNvs then
    let rc := driver.openResult
    let fa := driver.area
    if rc ≠ 0 then (rc, [.open])
    else if config.xip && overlapsFirmware config map fa then
      (-Errno.eperm, [.open, .close])
    else
      let rc := driver.eraseResult
      (rc, [.open, .erase 0 fa.faSize, .close])
  else (-Errno.enotsup, [])

def FlashMap.HoldsPartition (map : FlashMap w) (fa : FlashArea w) : Prop :=
  map.baseAddress.toNat + fa.faOff.toNat + fa.faSize.toNat ≤ 2 ^ w

def FlashMap.HoldsImage (map : FlashMap w) : Prop :=
  map.romRegionStart.toNat + map.flashUsed.toNat ≤ 2 ^ w

def FlashMap.partition (map : FlashMap w) (fa : FlashArea w) : Set ℕ :=
  addresses (map.baseAddress.toNat + fa.faOff.toNat) fa.faSize.toNat

def FlashMap.image (map : FlashMap w) : Set ℕ :=
  addresses map.romRegionStart.toNat map.flashUsed.toNat

/-- The partition or the image ends exactly at the top of the address space. -/
def FlashMap.EndsAtTop (map : FlashMap w) (fa : FlashArea w) : Prop :=
  map.baseAddress.toNat + fa.faOff.toNat + fa.faSize.toNat = 2 ^ w ∨
    map.romRegionStart.toNat + map.flashUsed.toNat = 2 ^ w

def Erased (calls : List (FlashCall w)) : Prop :=
  ∃ offset length, FlashCall.erase offset length ∈ calls

def Opened (driver : FlashDriver w) (calls : List (FlashCall w)) : Prop :=
  FlashCall.open ∈ calls ∧ driver.openResult = 0

/--
The erase is guarded: with an image executed in place on the flash device of the
partition, it is not reached when the two have an address in common; a refusal
returns `-EPERM`; every opened area is closed exactly once; errors are returned
unchanged.
-/
structure EraseGuarded (config : EraseConfig Node) (map : FlashMap w) (driver : FlashDriver w)
    (outcome : Int × List (FlashCall w)) : Prop where
  disjoint : config.xip → config.sameDevice → Erased outcome.2 →
    Disjoint (map.partition driver.area) map.image
  refused : Opened driver outcome.2 → ¬Erased outcome.2 → outcome.1 = -Errno.eperm
  closed : Opened driver outcome.2 → outcome.2.count .close = 1
  openError : FlashCall.open ∈ outcome.2 → driver.openResult ≠ 0 →
    outcome = (driver.openResult, [.open])
  eraseResult : Erased outcome.2 → outcome.1 = driver.eraseResult

/-! ## The guard -/

/-- Inside the address space the start of a partition that is not empty does not wrap. -/
theorem toNat_partStart {map : FlashMap w} {fa : FlashArea w} (inside : map.HoldsPartition fa)
    (notEmpty : 0 < fa.faSize.toNat) :
    (map.baseAddress + fa.faOff).toNat = map.baseAddress.toNat + fa.faOff.toNat := by
  apply toNat_end_of_lt
  rw [FlashMap.HoldsPartition] at inside
  omega

theorem overlapsFirmware_eq {config : EraseConfig Node} (same : config.sameDevice = true)
    (map : FlashMap w) (fa : FlashArea w) :
    overlapsFirmware config map fa =
      overlapTest (map.baseAddress + fa.faOff) fa.faSize map.romRegionStart map.flashUsed := by
  simp [overlapsFirmware, overlapTest, same]

/-- What the guard lets pass does not overlap the firmware, below the top of the space. -/
theorem disjoint_of_not_overlapsFirmware {config : EraseConfig Node}
    (same : config.sameDevice = true) {map : FlashMap w} {fa : FlashArea w}
    (partitionInside : map.HoldsPartition fa) (imageInside : map.HoldsImage)
    (belowTop : ¬map.EndsAtTop fa) (passed : overlapsFirmware config map fa = false) :
    Disjoint (map.partition fa) map.image := by
  by_cases empty : fa.faSize.toNat = 0
  · -- an empty partition has no address
    simp [FlashMap.partition, addresses, empty]
  · have start := toNat_partStart partitionInside (by omega)
    rw [FlashMap.HoldsPartition] at partitionInside
    rw [FlashMap.HoldsImage] at imageInside
    simp only [FlashMap.EndsAtTop, not_or] at belowTop
    rw [overlapsFirmware_eq same] at passed
    have apart := disjoint_of_overlapTest_false (by omega) (by omega) passed
    rw [start] at apart
    exact apart

/-- A range that overlaps and ends at the top of the space passes the guard. -/
theorem overlapsFirmware_eq_false_of_top {config : EraseConfig Node}
    {map : FlashMap w} {fa : FlashArea w} (partitionInside : map.HoldsPartition fa)
    (overlap : ¬Disjoint (map.partition fa) map.image) (top : map.EndsAtTop fa) :
    overlapsFirmware config map fa = false := by
  have notEmpty : 0 < fa.faSize.toNat := by
    apply Nat.pos_of_ne_zero
    intro empty
    simp [FlashMap.partition, addresses, empty] at overlap
  have start := toNat_partStart partitionInside notEmpty
  cases same : config.sameDevice with
  | false => simp [overlapsFirmware, same]
  | true =>
      rw [overlapsFirmware_eq same]
      apply overlapTest_eq_false_of_top
      rw [start]
      exact top

/-! ## The calls -/

theorem bacnetStorageErase_of_openError {config : EraseConfig Node}
    (nvs : config.settingsNvs = true) (map : FlashMap w) {driver : FlashDriver w}
    (failed : driver.openResult ≠ 0) :
    bacnetStorageErase config map driver = (driver.openResult, [.open]) := by
  simp [bacnetStorageErase, nvs, failed]

theorem bacnetStorageErase_of_noNvs {config : EraseConfig Node}
    (noNvs : config.settingsNvs = false) (map : FlashMap w) (driver : FlashDriver w) :
    bacnetStorageErase config map driver = (-Errno.enotsup, []) := by
  simp [bacnetStorageErase, noNvs]

theorem bacnetStorageErase_of_overlap {config : EraseConfig Node}
    (nvs : config.settingsNvs = true) {map : FlashMap w} {driver : FlashDriver w}
    (opened : driver.openResult = 0)
    (refuses : (config.xip && overlapsFirmware config map driver.area) = true) :
    bacnetStorageErase config map driver = (-Errno.eperm, [.open, .close]) := by
  simp only [bacnetStorageErase, nvs, opened, refuses]
  simp

theorem bacnetStorageErase_of_passed {config : EraseConfig Node}
    (nvs : config.settingsNvs = true) {map : FlashMap w} {driver : FlashDriver w}
    (opened : driver.openResult = 0)
    (passed : (config.xip && overlapsFirmware config map driver.area) = false) :
    bacnetStorageErase config map driver =
      (driver.eraseResult, [.open, .erase 0 driver.area.faSize, .close]) := by
  simp only [bacnetStorageErase, nvs, opened, passed]
  simp

/--
The erase is guarded exactly when it is not the case that the area opens, the
partition overlaps an image on the same device, and one of the two ends at the top of
the address space.
-/
theorem eraseGuarded_iff (config : EraseConfig Node) (map : FlashMap w) (driver : FlashDriver w)
    (partitionInside : map.HoldsPartition driver.area) (imageInside : map.HoldsImage) :
    EraseGuarded config map driver (bacnetStorageErase config map driver) ↔
      ¬(config.settingsNvs ∧ config.xip ∧ config.sameDevice ∧ driver.openResult = 0 ∧
        ¬Disjoint (map.partition driver.area) map.image ∧ map.EndsAtTop driver.area) := by
  have notErased_open : ¬Erased ([.open] : List (FlashCall w)) := by simp [Erased]
  have notErased_refused : ¬Erased ([.open, .close] : List (FlashCall w)) := by simp [Erased]
  have erased_passed : Erased ([.open, .erase 0 driver.area.faSize, .close] :
      List (FlashCall w)) := ⟨0, driver.area.faSize, by simp⟩
  constructor
  · rintro guarded ⟨nvs, xip, same, opened, overlap, top⟩
    have passed : overlapsFirmware config map driver.area = false :=
      overlapsFirmware_eq_false_of_top partitionInside overlap top
    apply overlap
    apply guarded.disjoint xip same
    rw [bacnetStorageErase_of_passed nvs opened (by simp [passed])]
    exact erased_passed
  · intro safe
    cases nvs : config.settingsNvs with
    | false =>
        rw [bacnetStorageErase_of_noNvs nvs]
        constructor <;> simp [Opened, Erased]
    | true =>
        by_cases opened : driver.openResult = 0
        · cases refuses : config.xip && overlapsFirmware config map driver.area with
          | true =>
              rw [bacnetStorageErase_of_overlap nvs opened refuses]
              exact
                { disjoint := fun _ _ erased => absurd erased notErased_refused
                  refused := fun _ _ => rfl
                  closed := fun _ => rfl
                  openError := fun _ failed => absurd opened failed
                  eraseResult := fun erased => absurd erased notErased_refused }
          | false =>
              rw [bacnetStorageErase_of_passed nvs opened refuses]
              refine
                { disjoint := fun xip same _ => ?_
                  refused := fun _ notErased => absurd erased_passed notErased
                  closed := fun _ => rfl
                  openError := fun _ failed => absurd opened failed
                  eraseResult := fun _ => rfl }
              have passed : overlapsFirmware config map driver.area = false := by
                simpa [xip] using refuses
              by_contra common
              have belowTop : ¬map.EndsAtTop driver.area :=
                fun top => safe ⟨nvs, xip, same, opened, common, top⟩
              exact common
                (disjoint_of_not_overlapsFirmware same partitionInside imageInside belowTop passed)
        · rw [bacnetStorageErase_of_openError nvs map opened]
          exact
            { disjoint := fun _ _ erased => absurd erased notErased_open
              refused := fun opened' => absurd opened'.2 opened
              closed := fun opened' => absurd opened'.2 opened
              openError := fun _ _ => rfl
              eraseResult := fun erased => absurd erased notErased_open }

end Erase

/-- An internal flash with the image below and the partition above, well apart. -/
theorem eraseGuarded_iff_apart :
    let config : EraseConfig ℕ := ⟨true, true, 0, some 0, none⟩
    let map : FlashMap 32 := ⟨0x08000000, 0x08000000, 0x40000⟩
    let driver : FlashDriver 32 := ⟨0, ⟨0xF8000, 0x8000⟩, 0⟩
    EraseGuarded config map driver (bacnetStorageErase config map driver) ↔
      ¬(config.settingsNvs ∧ config.xip ∧ config.sameDevice ∧ driver.openResult = 0 ∧
        ¬Disjoint (map.partition driver.area) map.image ∧ map.EndsAtTop driver.area) :=
  eraseGuarded_iff _ _ _ (by unfold FlashMap.HoldsPartition; decide)
    (by unfold FlashMap.HoldsImage; decide)

/-- A partition that covers the image and ends at the top of the space is erased. -/
theorem not_eraseGuarded_top :
    let config : EraseConfig ℕ := ⟨true, true, 0, some 0, none⟩
    let map : FlashMap 32 := ⟨0xFFF00000, 0xFFFF0000, 0x8000⟩
    let driver : FlashDriver 32 := ⟨0, ⟨0xF0000, 0x10000⟩, 0⟩
    ¬EraseGuarded config map driver (bacnetStorageErase config map driver) := by
  intro config map driver guarded
  have erased : Erased (bacnetStorageErase config map driver).2 := ⟨0, 0x10000, by decide⟩
  have apart := guarded.disjoint rfl rfl erased
  rw [FlashMap.partition, FlashMap.image, addresses, addresses, Set.Ico_disjoint_Ico] at apart
  revert apart
  decide

end BacnetZephyr
