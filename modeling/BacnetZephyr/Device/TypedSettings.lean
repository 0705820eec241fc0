import BacnetZephyr.Device.Restart
import BacnetZephyr.Settings.TypedValue

/-!
# What the typed settings of a device read

The getters of the settings read the entries whenever the application asks for a value.
`deviceRun_typedSettings` says what they return at any moment of a run with restarts,
power losses, writes by others and calls that fail. The last operation on the entry
decides: a set by the setter of the type is read back, an entry of another type or none
gives the default. The base name does not matter, as the getters do not load.
-/

namespace BacnetZephyr

open CLib NamedStore Transition

/-! ## The last operation on an entry -/

/-- The operation has nothing to do with the entry of the key. -/
def StoreEffect.Spares (key : BacnetStorageKey) : StoreEffect → Prop
  | .set other _ _ => other ≠ key
  | .delete other _ => other ≠ key
  | .clear _ => False
  | .unlink => False

theorem Knowledge.afterAll_of_spares {key : BacnetStorageKey} {effects : List StoreEffect}
    (spares : ∀ effect ∈ effects, effect.Spares key) (known : Knowledge) :
    known.afterAll effects key = known key := by
  induction effects generalizing known with
  | nil => rfl
  | cons effect rest ih =>
      rw [List.forall_mem_cons] at spares
      have same : known.after effect key = known key := by
        cases effect with
        | set other data rc => exact Function.update_of_ne (Ne.symm spares.1) _ _
        | delete other rc => exact Function.update_of_ne (Ne.symm spares.1) _ _
        | clear rc => exact spares.1.elim
        | unlink => exact spares.1.elim
      rw [← same]
      exact ih spares.2 (known.after effect)

/-- After a set that has succeeded and operations on other entries, the entry is known. -/
theorem Knowledge.afterAll_set {key : BacnetStorageKey} {data : List UInt8}
    {effects earlier later : List StoreEffect} (nonempty : data ≠ [])
    (split : effects = earlier ++ .set key data 0 :: later)
    (spares : ∀ effect ∈ later, effect.Spares key) (known : Knowledge) :
    known.afterAll effects key = some (some data) := by
  have last : known.afterAll effects =
      ((known.afterAll earlier).after (.set key data 0)).afterAll later := by
    rw [split, Knowledge.afterAll_append]
    rfl
  rw [last, Knowledge.afterAll_of_spares spares, Knowledge.after, Function.update_self,
    if_pos ⟨rfl, nonempty⟩]

/-! ## The getters of one type -/

section Typed

variable {setting : DeviceSetting} {values : TypedValues} {Content : Type}
  {known : Knowledge} {medium : PersistentMedium setting.settings}

/-- What the getter of a type returns, by what the operations have done to the entries. -/
structure ReadsTyped (setting : DeviceSetting) {values : TypedValues} {Content : Type}
    (typed : TypedSetting setting.settings.backend values Content) (first : Knowledge)
    (effects : List StoreEffect) (medium : PersistentMedium setting.settings) : Prop where
  lastSet : ∀ earlier later key content defaultValue value,
    effects = earlier ++
      .set key (values.encodeApplicationData (typed.value content)) 0 :: later →
    (∀ effect ∈ later, effect.Spares key) →
    (values.encodeApplicationData (typed.value content)).length ≤ bacnetStorageValueSizeMax →
    setting.settings.backend.loadResult (medium.store setting.config)
      (keyName setting.platform.baseName key) = 0 →
    typed.get (medium.store setting.config) key.objectType key.objectInstance key.propertyId
        key.arrayIndex defaultValue value =
      (((values.encodeApplicationData (typed.value content)).length : Int), content)
  present : ∀ key data defaultValue value,
    first.afterAll effects key = some (some data) →
    setting.settings.backend.loadResult (medium.store setting.config)
      (keyName setting.platform.baseName key) = 0 →
    typed.get (medium.store setting.config) key.objectType key.objectInstance key.propertyId
        key.arrayIndex defaultValue value =
      (((data.take (bacnetStorageValueSizeMax + 1)).length : Int),
        typed.contentOr (data.take (bacnetStorageValueSizeMax + 1)) defaultValue)
  absent : ∀ key defaultValue value, first.afterAll effects key = some none →
    setting.settings.backend.loadResult (medium.store setting.config)
      (keyName setting.platform.baseName key) = 0 →
    typed.get (medium.store setting.config) key.objectType key.objectInstance key.propertyId
        key.arrayIndex defaultValue value = (-Errno.enoent, defaultValue)

/-- The store represents the map of its own entries, which agrees with what is known. -/
theorem MediumKnown.storeInvariant (mediumKnown : MediumKnown setting known medium) :
    ∃ contents, StoreInvariant setting.platform setting.settings.backend
        (medium.store setting.config) contents ∧
      ∀ key entry, known key = some entry → contents key = entry :=
  ⟨fun key => setting.settings.backend.lookup (medium.store setting.config)
      (keyName setting.platform.baseName key),
    { represents := fun _ => rfl
      onlyKeys := mediumKnown.onlyKeys },
    mediumKnown.knows⟩

/-- Something is encoded, as it is decoded. -/
theorem TypedSetting.encode_ne_nil
    {typed : TypedSetting setting.settings.backend values Content}
    (encoded : DecodesEncoded (fun apdu => values.decodeApplicationData apdu values.zero)
      (fun value => values.tag value = typed.tag) typed.member
      (fun content => values.encodeApplicationData (typed.value content))) (content : Content) :
    values.encodeApplicationData (typed.value content) ≠ [] := by
  intro empty
  have positive := encoded.positive content
  have length := values.decode_le (values.encodeApplicationData (typed.value content)) values.zero
  rw [empty] at positive length
  simp only [List.length_nil] at length
  omega

/-- A setter that reports success is a storage call of the device with the encoded value. -/
theorem deviceStep_of_set {ram : DeviceRam setting} (ready : ram.settingsReady = true)
    {key : BacnetStorageKey} {value : values.Value} {store : setting.settings.backend.Store}
    (set : bacnetSettingsValueSet setting.platform setting.settings.backend
      values.toApplicationValues (medium.store setting.config) key.objectType key.objectInstance
      key.propertyId key.arrayIndex value = (true, store)) :
    (values.encodeApplicationData value).length ≤ bacnetStorageValueSizeMax ∧
      DeviceStep setting ⟨some ram, medium⟩
        ⟨.storageSet key (values.encodeApplicationData value),
          [.set key (values.encodeApplicationData value) 0], []⟩
        ⟨some ram, medium.setStore setting.config store⟩ := by
  have same : bacnetStorageKeyInit key.objectType key.objectInstance key.propertyId
      key.arrayIndex = key := rfl
  simp only [bacnetSettingsValueSet, same] at set
  split at set
  · cases set
  split at set
  · cases set
  rename_i nonempty fits
  rw [Prod.mk.injEq, decide_eq_true_eq] at set
  refine ⟨Nat.not_lt.mp fits, ?_⟩
  have handled : (DeviceEvent.storageSet key (values.encodeApplicationData value)).onRunning
      ⟨ram, medium, []⟩ =
        (false, ⟨ram, medium.setStore setting.config store,
          [.set key (values.encodeApplicationData value) 0]⟩) := by
    simp only [DeviceEvent.onRunning, DeviceWork.storageSet, DeviceWork.callSettings, ready,
      if_true, List.nil_append, set.1, set.2]
  exact .running (fun _ _ start => by cases start) handled

/-- A getter of what `bacnet_storage_get` returns reads what is known. -/
theorem readsTyped_of_known (short : setting.platform.baseName.length ≤ 25)
    (typed : TypedSetting setting.settings.backend values Content)
    (got : ∀ (store : setting.settings.backend.Store) (key : BacnetStorageKey)
      (defaultValue value : Content),
      typed.get store key.objectType key.objectInstance key.propertyId key.arrayIndex
          defaultValue value =
        let (storedLen, data) := bacnetStorageGet setting.platform setting.settings.backend store
          key (List.replicate (bacnetStorageValueSizeMax + 1) 0)
        (storedLen, typed.contentOr (data.take storedLen.toNat) defaultValue))
    (encoded : DecodesEncoded (fun apdu => values.decodeApplicationData apdu values.zero)
      (fun value => values.tag value = typed.tag) typed.member
      (fun content => values.encodeApplicationData (typed.value content)))
    {first : Knowledge} {effects : List StoreEffect}
    (mediumKnown : MediumKnown setting (first.afterAll effects) medium) :
    ReadsTyped setting typed first effects medium := by
  rcases mediumKnown.storeInvariant with ⟨contents, invariant, agrees⟩
  have present : ∀ key data defaultValue value,
      first.afterAll effects key = some (some data) →
      setting.settings.backend.loadResult (medium.store setting.config)
        (keyName setting.platform.baseName key) = 0 →
      typed.get (medium.store setting.config) key.objectType key.objectInstance key.propertyId
          key.arrayIndex defaultValue value =
        (((data.take (bacnetStorageValueSizeMax + 1)).length : Int),
          typed.contentOr (data.take (bacnetStorageValueSizeMax + 1)) defaultValue) := by
    intro key data defaultValue value knownKey loads
    rw [got, invariant.bacnetStorageGet_held (nameFits_of_short short key) _ loads
      (agrees key _ knownKey)]
    simp only [List.length_replicate, Int.toNat_natCast, List.take_left]
  refine ⟨?_, present, ?_⟩
  · intro earlier later key content defaultValue value split spares fits loads
    have nonempty := TypedSetting.encode_ne_nil encoded content
    have whole : (values.encodeApplicationData (typed.value content)).take
        (bacnetStorageValueSizeMax + 1) = values.encodeApplicationData (typed.value content) :=
      List.take_of_length_le (Nat.le_succ_of_le fits)
    rw [present key _ defaultValue value (Knowledge.afterAll_set nonempty split spares first) loads,
      whole, typed.contentOr_of_decodes (encoded.positive content) (encoded.ownTag content),
      encoded.content content]
  · intro key defaultValue value knownKey loads
    rw [got, invariant.bacnetStorageGet_absent (nameFits_of_short short key) _ loads
      (agrees key _ knownKey)]
    exact Prod.ext rfl (typed.contentOr_nil defaultValue)

end Typed

/-! ## Settings in a run -/

section Run

variable {setting : DeviceSetting}

/--
At any moment of a run the getters of the three types return what the last operation on
their entry has left: the value of their own setter, the value of another writer if it
has the type, and else the default.
-/
theorem deviceRun_typedSettings (values : TypedValues)
    (short : setting.platform.baseName.length ≤ 25) {known : Knowledge}
    {first last : DeviceState setting}
    {taken : List (Taken (DeviceState setting) (DeviceLabel setting))}
    (knows : MediumKnown setting known first.medium)
    (run : Run (DeviceStep setting) first taken last) :
    ReadsTyped setting (realSetting setting.platform setting.settings.backend values) known
        (effectsOfDevice taken) last.medium ∧
      ReadsTyped setting (unsignedSetting setting.platform setting.settings.backend values) known
        (effectsOfDevice taken) last.medium ∧
      ReadsTyped setting (signedSetting setting.platform setting.settings.backend values) known
        (effectsOfDevice taken) last.medium := by
  have mediumKnown := deviceRun_known short knows run
  refine ⟨?_, ?_, ?_⟩
  · apply readsTyped_of_known short _ _ _ mediumKnown
    · exact bacnetSettingsRealGet_eq
    · exact values.decode_realValue
  · apply readsTyped_of_known short _ _ _ mediumKnown
    · exact bacnetSettingsIntegerGet_eq _ values.unsignedApplicationDecode_own
    · exact values.decode_unsignedIntValue
  · apply readsTyped_of_known short _ _ _ mediumKnown
    · exact bacnetSettingsIntegerGet_eq _ values.signedApplicationDecode_own
    · exact values.decode_signedIntValue

/-- A signed value set before a loss of power is read after the restart. -/
theorem deviceRun_typedSettings_signed :
    let setting := DeviceSetting.reference bacnetSettingsBaseName
    let signed := signedSetting setting.platform setting.settings.backend TypedValues.reference
    let key := bacnetStorageKeyInit 2 1001 85 bacnetStorageArrayIndexNone
    let begun := (initHandler setting 0 ⟨0, 0, 0, 0⟩ (DeviceState.new setting).medium).2
    let stored := (signed.set (begun.medium.store setting.config) key.objectType
      key.objectInstance key.propertyId key.arrayIndex (-100000000)).2
    let restarted := (initHandler setting 0 ⟨0, 0, 0, 0⟩
      (begun.medium.setStore setting.config stored)).2
    signed.get (restarted.medium.store setting.config) key.objectType key.objectInstance
      key.propertyId key.arrayIndex 0 7 = (5, -100000000) := by
  intro setting signed key begun stored restarted
  have started : DeviceStep setting (.new setting) ⟨.start 0 ⟨0, 0, 0, 0⟩, begun.effects, _⟩
      ⟨some begun.ram, begun.medium⟩ := .start rfl
  rcases @deviceStep_of_set setting TypedValues.reference begun.medium begun.ram rfl key
    (TypedValues.reference.signedIntValue (-100000000)) stored rfl with ⟨fits, set⟩
  have lost : DeviceStep setting ⟨some begun.ram, begun.medium.setStore setting.config stored⟩
      ⟨.powerLoss, [], []⟩ ⟨none, begun.medium.setStore setting.config stored⟩ :=
    .running (fun _ _ start => by cases start) rfl
  have again : DeviceStep setting ⟨none, begun.medium.setStore setting.config stored⟩
      ⟨.start 0 ⟨0, 0, 0, 0⟩, restarted.effects, _⟩ ⟨some restarted.ram, restarted.medium⟩ :=
    .start rfl
  have reads := (deviceRun_typedSettings TypedValues.reference (by decide) (mediumKnown_new rfl)
    (.next (.next (.next (.next .start started) set) lost) again)).2.2
  have encoded : TypedValues.reference.encodeApplicationData (signed.value (-100000000)) =
      [0x34, 0xFA, 0x0A, 0x1F, 0x00] := by decide
  have got := reads.lastSet [] [] key (-100000000) 0 7 rfl (by simp) fits rfl
  apply got.trans
  exact Prod.ext (congrArg (fun bytes : List UInt8 => (bytes.length : Int)) encoded) rfl

end Run

end BacnetZephyr
