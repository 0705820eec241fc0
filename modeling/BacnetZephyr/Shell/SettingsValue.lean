import BacnetZephyr.Settings.ValueParse
import BacnetZephyr.Shell.Arguments
import BacnetZephyr.Storage.Access

/-!
# The command for the value of a setting

`cmd_value` shows the stored value of a key, or parses a text and stores the value. One
variable holds the length of the stored value, then the length of the name of the key,
and the latter is what the value is decoded with: `decodesStored_iff`. The tag among the
arguments is overwritten by that of the stored value: `writesRequested_iff`.
-/

namespace BacnetZephyr

open CLib NamedStore Procedure

/-- The functions of the BACnet library that the command calls. -/
structure Bacapp extends ValueLibrary where
  /-- The union of a value filled with zeros. -/
  zero : Other
  /-- The bytes `bacapp_encode_application_data` writes; none when it fails. -/
  encodeApplicationData : ApplicationDataValue toValueTypes → List UInt8
  /-- `bacapp_decode_application_data(apdu, apdu_len, &value)`. -/
  decodeApplicationData : List UInt8 → ApplicationDataValue toValueTypes →
    Int × ApplicationDataValue toValueTypes
  /-- `bacapp_decode_known_property(apdu, apdu_len, &value, object_type, property)`. -/
  decodeKnownProperty : List UInt8 → Int → ApplicationDataValue toValueTypes → UInt16 → UInt32 →
    Int × ApplicationDataValue toValueTypes
  /-- The text of `bacapp_snprintf_value` for a buffer of the size. -/
  snprintfValue : ℕ → BacnetStorageKey → ApplicationDataValue toValueTypes → CString
  /-- Decoding sets the tag, whatever it was. -/
  decode_tag : ∀ apdu value tag, 0 < (decodeApplicationData apdu value).1 →
    decodeApplicationData apdu { value with tag } = decodeApplicationData apdu value
  /-- An encoded primitive value starts with its tag. -/
  encode_tag : ∀ left right, left.tag ≤ tagObjectId → right.tag ≤ tagObjectId →
    encodeApplicationData left ≠ [] → encodeApplicationData left = encodeApplicationData right →
    left.tag = right.tag

/-- The settings behind the command, and the calls of `bacapp_decode_known_property`. -/
structure SettingsShell (backend : SettingsBackend) where
  store : backend.Store
  decoded : List (List UInt8 × Int)

section Definitions

variable (platform : StoragePlatform) (backend : SettingsBackend) (bacapp : Bacapp)
  (argv : List CString)

/-- The tag that the arguments assign, zero otherwise, and the text of the value. -/
def valueArguments : ShellProcedure (SettingsShell backend) Int (UInt8 × Option CString) := do
  if 5 < argv.length then
    let tagText ← argument argv 4
    match bacnetStorageStrtoul platform tagText with
    | some unsignedValue =>
        let valueString ← argument argv 5
        return (UInt8.ofNat unsignedValue, some valueString)
    | none => return (0, some tagText)
  else if 4 < argv.length then
    let valueString ← argument argv 4
    return (0, some valueString)
  else return (0, none)

/-- `cmd_value` with a text for the value, after the current value is read. -/
def cmdValueSet (key : BacnetStorageKey) (keyName : CString) (data : List UInt8) (dataLen : Int)
    (value : ApplicationDataValue bacapp.toValueTypes) (valueString : CString) :
    ShellProcedure (SettingsShell backend) Int Int := do
  let (len, value) := bacapp.decodeApplicationData (data.take dataLen.toNat) value
  if len ≤ 0 then
    fail (.shellError "Unable to decode value for %s" [keyName]) (-Errno.einval)
  else
    let (status, value) := bacnetSettingsValueParse platform bacapp.toValueLibrary
      (some valueString) key.objectType key.propertyId value
    if status then
      emit (.shellPrint "Parsed %s = %s as tag=%u"
        [keyName, valueString, unsignedText value.tag.toNat])
      -- the first encoding is for its length only
      let encoded := bacapp.encodeApplicationData value
      if encoded = [] then throw (-Errno.enotsup)
      else if encoded.length > bacnetStorageValueSizeMax + 1 then throw (-Errno.einval)
      else
        let store ← ask fun state => state.library.store
        let (rc, store) := bacnetStorageSet platform backend store key encoded
        modifyState fun state => { state with library := { state.library with store } }
        if rc = 0 then
          emit (.shellPrint "Set %s = %s" [keyName, valueString])
          return 0
        else
          fail (.shellError "Unable to set %s = %s" [keyName, valueString]) (-Errno.einval)
    else
      fail (.shellError "Unable to parse value for %s = %s" [keyName, valueString])
        (-Errno.einval)

/-- `cmd_value` without a text for the value, after the current value is read. -/
def cmdValueGet (key : BacnetStorageKey) (keyName : CString) (data : List UInt8) (rc : Int)
    (value : ApplicationDataValue bacapp.toValueTypes) :
    ShellProcedure (SettingsShell backend) Int Int := do
  modifyState fun state =>
    { state with library :=
        { state.library with decoded := state.library.decoded ++ [(data, rc)] } }
  let (len, value) := bacapp.decodeKnownProperty data rc value key.objectType key.propertyId
  if len < 0 then
    fail (.shellError "Unable to decode value for %s" [keyName]) (-Errno.einval)
  else
    let valueName := bacapp.snprintfValue 80 key value
    emit (.shellPrint "Get %s = %s" [keyName, valueName])
    return 0

def cmdValue : ShellProcedure (SettingsShell backend) Int Int := do
  let (rc, key) ← call (bacnetStorageKeyParse platform argv (bacnetStorageKeyInit 0 0 0 0))
  if rc < 0 then throw rc
  else
    let store ← ask fun state => state.library.store
    let (rc, data) := bacnetStorageGet platform backend store key
      (List.replicate (bacnetStorageValueSizeMax + 1) 0)
    if rc < 0 then
      -- the name of the key is still empty
      fail (.shellError "Unable to get %s" [[]]) (-Errno.einval)
    else
      let dataLen := rc
      let (rc, keyName) := bacnetStorageKeyEncode platform (settingsMaxNameLen + 1) key
      if rc < 0 then throw rc
      else
        let (tag, valueString) ← valueArguments platform backend argv
        let value := { tag, type := .other bacapp.zero }
        match valueString with
        | some valueString =>
            cmdValueSet platform backend bacapp key keyName data dataLen value valueString
        | none => cmdValueGet backend bacapp key keyName data rc value

end Definitions

/-! ## Up to the arguments for the value -/

section Start

variable {platform : StoragePlatform} {backend : SettingsBackend} {bacapp : Bacapp}
  {argv : List CString} {contents : BacnetStorageKey → Option (List UInt8)}
  {state after : ShellState (SettingsShell backend)} {key : BacnetStorageKey}
  {value : List UInt8}

/-- The buffer of the command after a value is got. -/
def gotten (value : List UInt8) : List UInt8 :=
  value ++ (List.replicate (bacnetStorageValueSizeMax + 1) 0).drop value.length

theorem gotten_take (value : List UInt8) : (gotten value).take value.length = value :=
  List.take_left

/-- The key is the result of parsing the arguments. -/
def KeyParsed (platform : StoragePlatform) (argv : List CString)
    (state : ShellState (SettingsShell backend)) (key : BacnetStorageKey) : Prop :=
  ∃ after, eval (bacnetStorageKeyParse platform argv (bacnetStorageKeyInit 0 0 0 0) :
    ShellProcedure (SettingsShell backend) Parsed Parsed) state = .ok (.ok (0, key), after)

/-- Parsing the key changes nothing else. -/
theorem KeyParsed.eval_call (parsed : KeyParsed platform argv state key) :
    eval (call (bacnetStorageKeyParse platform argv (bacnetStorageKeyInit 0 0 0 0)) :
      ShellProcedure (SettingsShell backend) Int Parsed) state = .ok (.ok (0, key), state) := by
  rcases parsed with ⟨after, parsed⟩
  have same := leavesState_bacnetStorageKeyParse _ _ _ _ _ _ parsed
  subst same
  rw [Procedure.eval_call, parsed]

/-- The value that the arguments start with. -/
def Bacapp.initial (bacapp : Bacapp) (tag : UInt8) : ApplicationDataValue bacapp.toValueTypes :=
  { tag, type := .other bacapp.zero }

/-- With a key that holds a value, the command goes on to the arguments for the value. -/
theorem eval_cmdValue (parsed : KeyParsed platform argv state key)
    (nameFits : NameFits platform key)
    (invariant : StoreInvariant platform backend state.library.store contents)
    (loads : backend.loadResult state.library.store (keyName platform.baseName key) = 0)
    (held : contents key = some value) (short : value.length ≤ settingsMaxValLen) :
    eval (cmdValue platform backend bacapp argv) state =
      eval (do
        let (tag, valueString) ← valueArguments platform backend argv
        match valueString with
        | some valueString =>
            cmdValueSet platform backend bacapp key (keyName platform.baseName key)
              (gotten value) value.length (bacapp.initial tag) valueString
        | none =>
            cmdValueGet backend bacapp key (keyName platform.baseName key) (gotten value)
              (keyName platform.baseName key).length (bacapp.initial tag)) state := by
  have large : ∀ bytes, contents key = some bytes → bytes.length ≤
      (List.replicate (bacnetStorageValueSizeMax + 1) (0 : UInt8)).length := by
    intro bytes found
    rw [held] at found
    cases found
    rw [List.length_replicate]
    exact Nat.le_succ_of_le short
  have got := invariant.bacnetStorageGet_eq nameFits _ loads large
  rw [held] at got
  have notNegative : ¬(value.length : Int) < 0 := by omega
  have named : ¬((keyName platform.baseName key).length : Int) < 0 := by omega
  rw [cmdValue, eval_bind_ok _ parsed.eval_call]
  simp only [if_neg (Int.lt_irrefl 0)]
  rw [eval_bind_ok _ (eval_ask _)]
  simp only [got, notNegative, if_false, bacnetStorageKeyEncode_of_fits nameFits, named]
  rfl

/-- The state after the call of the decoder is on record. -/
def recorded (state : ShellState (SettingsShell backend)) (data : List UInt8) (rc : Int) :
    ShellState (SettingsShell backend) :=
  { state with library :=
      { state.library with decoded := state.library.decoded ++ [(data, rc)] } }

/-- The command decodes the buffer with the length it is given, once. -/
theorem cmdValueGet_recorded (keyName : CString) (data : List UInt8) (rc : Int)
    (value : ApplicationDataValue bacapp.toValueTypes) :
    ∃ outcome output, eval (cmdValueGet backend bacapp key keyName data rc value) state =
      .ok (outcome, { recorded state data rc with output }) := by
  rw [cmdValueGet, eval_bind_ok _ (eval_modifyState _)]
  rcases bacapp.decodeKnownProperty data rc value key.objectType key.propertyId with ⟨len, decoded⟩
  simp only
  split
  · exact ⟨_, _, eval_fail _ _⟩
  · exact ⟨_, _, rfl⟩

/-- Without a text the command decodes the buffer with the length of the name of the key. -/
theorem eval_cmdValue_get (bacapp : Bacapp) (parsed : KeyParsed platform argv state key)
    (noValue : argv.length ≤ 4) (nameFits : NameFits platform key)
    (invariant : StoreInvariant platform backend state.library.store contents)
    (loads : backend.loadResult state.library.store (keyName platform.baseName key) = 0)
    (held : contents key = some value) (short : value.length ≤ settingsMaxValLen) :
    ∃ outcome output, eval (cmdValue platform backend bacapp argv) state =
      .ok (outcome, { recorded state (gotten value) (keyName platform.baseName key).length with
        output }) := by
  have arguments : eval (valueArguments platform backend argv) state =
      .ok (.ok (0, none), state) := by
    rw [valueArguments, if_neg (by omega), if_neg (by omega), eval_pure]
  rw [eval_cmdValue parsed nameFits invariant loads held short, eval_bind_ok _ arguments]
  exact cmdValueGet_recorded _ _ _ _

/-- The command decodes the stored bytes, with their length. -/
def DecodesStored (platform : StoragePlatform) (backend : SettingsBackend) (bacapp : Bacapp)
    (argv : List CString) (state : ShellState (SettingsShell backend)) (value : List UInt8) :
    Prop :=
  ∃ outcome after, ∃ (len : Int) (data : List UInt8),
    eval (cmdValue platform backend bacapp argv) state = .ok (outcome, after) ∧
    after.library.decoded = state.library.decoded ++ [(data, len)] ∧
    len = value.length ∧ data.take value.length = value

/-- The one call on record decides whether the stored bytes were decoded. -/
theorem decodesStored_iff_recorded {outcome : Except Int Int} {output : List ShellOutput}
    {data : List UInt8} {len : Int} (run : eval (cmdValue platform backend bacapp argv) state =
      .ok (outcome, { recorded state data len with output })) :
    DecodesStored platform backend bacapp argv state value ↔
      len = value.length ∧ data.take value.length = value := by
  constructor
  · rintro ⟨other, after, otherLen, otherData, ran, decoded, same, stored⟩
    rw [run] at ran
    cases ran
    have last := List.append_cancel_left decoded
    simp only [List.cons.injEq, Prod.mk.injEq, and_true] at last
    rw [last.1, last.2]
    exact ⟨same, stored⟩
  · rintro ⟨same, stored⟩
    exact ⟨_, _, _, _, run, rfl, same, stored⟩

/--
The stored bytes are decoded exactly when there are as many of them as characters in the
name of the key.
-/
theorem decodesStored_iff (bacapp : Bacapp) (parsed : KeyParsed platform argv state key)
    (noValue : argv.length ≤ 4) (nameFits : NameFits platform key)
    (invariant : StoreInvariant platform backend state.library.store contents)
    (loads : backend.loadResult state.library.store (keyName platform.baseName key) = 0)
    (held : contents key = some value) (short : value.length ≤ settingsMaxValLen) :
    DecodesStored platform backend bacapp argv state value ↔
      (keyName platform.baseName key).length = value.length := by
  rcases eval_cmdValue_get bacapp parsed noValue nameFits invariant loads held short with
    ⟨outcome, output, run⟩
  rw [decodesStored_iff_recorded run, Int.ofNat_inj, and_iff_left (gotten_take value)]

end Start

/-! ## With a text for the value -/

section Write

variable {platform : StoragePlatform} {backend : SettingsBackend} {bacapp : Bacapp}
  {argv : List CString} {contents : BacnetStorageKey → Option (List UInt8)}
  {state : ShellState (SettingsShell backend)} {key : BacnetStorageKey} {value : List UInt8}
  {text : CString} {parsed : ApplicationDataValue bacapp.toValueTypes}

/-- The number of the tag that the arguments ask for, if they do, and the text. -/
def valueRequest (platform : StoragePlatform) : List CString → Option (Option ℕ × CString)
  | [_, _, _, _, text] => some (none, text)
  | _ :: _ :: _ :: _ :: first :: text :: _ =>
      match bacnetStorageStrtoul platform first with
      | some tag => some (some tag, text)
      | none => some (none, first)
  | _ => none

theorem eval_valueArguments {tagArgument : Option ℕ}
    (request : valueRequest platform argv = some (tagArgument, text)) :
    ∃ tag, eval (valueArguments platform backend argv) state =
      .ok (.ok (tag, some text), state) := by
  rcases argv with _ | ⟨_, _ | ⟨_, _ | ⟨_, _ | ⟨_, _ | ⟨first, _ | ⟨second, rest⟩⟩⟩⟩⟩⟩
  · cases request
  · cases request
  · cases request
  · cases request
  · cases request
  · cases request
    exact ⟨0, rfl⟩
  · rcases number : bacnetStorageStrtoul platform first with _ | tag
    · simp only [valueRequest, number, Option.some.injEq, Prod.mk.injEq] at request
      rcases request with ⟨_, rfl⟩
      refine ⟨0, ?_⟩
      simp [valueArguments, argument, number]
    · simp only [valueRequest, number, Option.some.injEq, Prod.mk.injEq] at request
      rcases request with ⟨_, rfl⟩
      refine ⟨UInt8.ofNat tag, ?_⟩
      simp [valueArguments, argument, number]

/-- The stored value as an application value. -/
def Bacapp.previous (bacapp : Bacapp) (value : List UInt8) :
    ApplicationDataValue bacapp.toValueTypes :=
  (bacapp.decodeApplicationData value (bacapp.initial 0)).2

/-- The tag in front of the decoder's result does not matter. -/
theorem decode_initial (bacapp : Bacapp) (value : List UInt8) (tag : UInt8) :
    (¬0 < (bacapp.decodeApplicationData value (bacapp.initial tag)).1 ∧
      ¬0 < (bacapp.decodeApplicationData value (bacapp.initial 0)).1) ∨
    (0 < (bacapp.decodeApplicationData value (bacapp.initial 0)).1 ∧
      bacapp.decodeApplicationData value (bacapp.initial tag) =
        bacapp.decodeApplicationData value (bacapp.initial 0)) := by
  by_cases decodes : 0 < (bacapp.decodeApplicationData value (bacapp.initial 0)).1
  · exact Or.inr ⟨decodes, bacapp.decode_tag value (bacapp.initial 0) tag decodes⟩
  · refine Or.inl ⟨?_, decodes⟩
    intro decoded
    have same := bacapp.decode_tag value (bacapp.initial tag) 0 decoded
    rw [← same] at decoded
    exact decodes decoded

/-- The text is parsed under the tag of the stored value, encoded and saved. -/
structure Saves (platform : StoragePlatform) (backend : SettingsBackend) (bacapp : Bacapp)
    (store : backend.Store) (key : BacnetStorageKey) (value : List UInt8) (text : CString)
    (parsed : ApplicationDataValue bacapp.toValueTypes) : Prop where
  decodes : 0 < (bacapp.decodeApplicationData value (bacapp.initial 0)).1
  parses : bacnetSettingsValueParse platform bacapp.toValueLibrary (some text) key.objectType
    key.propertyId (bacapp.previous value) = (true, parsed)
  encodes : bacapp.encodeApplicationData parsed ≠ []
  fits : (bacapp.encodeApplicationData parsed).length ≤ bacnetStorageValueSizeMax + 1
  saves : (backend.saveOne store (keyName platform.baseName key)
    (bacapp.encodeApplicationData parsed)).1 = 0

theorem cmdValueSet_saves (nameFits : NameFits platform key) (tag : UInt8)
    (saves : Saves platform backend bacapp state.library.store key value text parsed) :
    ∃ output, eval (cmdValueSet platform backend bacapp key (keyName platform.baseName key)
        (gotten value) value.length (bacapp.initial tag) text) state =
      .ok (.ok 0, { library := { state.library with
        store := (backend.saveOne state.library.store (keyName platform.baseName key)
          (bacapp.encodeApplicationData parsed)).2 }, output }) := by
  rcases decode_initial bacapp value tag with ⟨_, fails⟩ | ⟨decodes, same⟩
  · exact absurd saves.decodes fails
  · have notFailed : ¬(bacapp.decodeApplicationData value (bacapp.initial 0)).1 ≤ 0 :=
      Int.not_le.mpr decodes
    have parses := saves.parses
    rw [Bacapp.previous] at parses
    rw [cmdValueSet]
    simp only [Int.toNat_natCast, gotten_take, same, notFailed, if_false, parses, if_true]
    rw [eval_bind_ok _ (eval_emit _), if_neg saves.encodes,
      if_neg (Nat.not_lt.mpr saves.fits), eval_bind_ok _ (eval_ask _)]
    simp only [bacnetStorageSet_eq nameFits]
    rw [eval_bind_ok _ (eval_modifyState _), if_pos saves.saves, eval_bind_ok _ (eval_emit _)]
    exact ⟨_, eval_pure _⟩

/-- Otherwise the command fails, and a save that fails changes no entry. -/
theorem cmdValueSet_refuses (nameFits : NameFits platform key) (tag : UInt8)
    (atomic : ∀ name bytes, (backend.saveOne state.library.store name bytes).1 ≠ 0 →
      backend.lookup (backend.saveOne state.library.store name bytes).2 name =
        backend.lookup state.library.store name)
    (unsaved : ∀ parsed,
      ¬Saves platform backend bacapp state.library.store key value text parsed) :
    ∃ rc after, eval (cmdValueSet platform backend bacapp key (keyName platform.baseName key)
        (gotten value) value.length (bacapp.initial tag) text) state = .ok (.error rc, after) ∧
      rc ≠ 0 ∧
      backend.lookup after.library.store (keyName platform.baseName key) =
        backend.lookup state.library.store (keyName platform.baseName key) := by
  rw [cmdValueSet]
  simp only [Int.toNat_natCast, gotten_take]
  rcases decode_initial bacapp value tag with ⟨fails, _⟩ | ⟨decodes, same⟩
  · rw [if_pos (Int.not_lt.mp fails)]
    exact ⟨_, _, eval_fail _ _, by decide, rfl⟩
  · have notFailed : ¬(bacapp.decodeApplicationData value (bacapp.initial 0)).1 ≤ 0 :=
      Int.not_le.mpr decodes
    simp only [same, notFailed, if_false]
    rcases parses : bacnetSettingsValueParse platform bacapp.toValueLibrary (some text)
      key.objectType key.propertyId (bacapp.decodeApplicationData value (bacapp.initial 0)).2 with
      ⟨_ | _, parsed⟩
    · exact ⟨_, _, eval_fail _ _, by decide, rfl⟩
    · simp only [if_true]
      rw [eval_bind_ok _ (eval_emit _)]
      by_cases encodes : bacapp.encodeApplicationData parsed = []
      · rw [if_pos encodes]
        exact ⟨_, _, eval_throw _, by decide, rfl⟩
      · rw [if_neg encodes]
        by_cases long : bacnetStorageValueSizeMax + 1 < (bacapp.encodeApplicationData parsed).length
        · rw [if_pos long]
          exact ⟨_, _, eval_throw _, by decide, rfl⟩
        · rw [if_neg long, eval_bind_ok _ (eval_ask _)]
          simp only [bacnetStorageSet_eq nameFits]
          rw [eval_bind_ok _ (eval_modifyState _)]
          have failed : (backend.saveOne state.library.store (keyName platform.baseName key)
              (bacapp.encodeApplicationData parsed)).1 ≠ 0 := by
            intro saves
            exact unsaved parsed ⟨decodes, parses, encodes, Nat.not_lt.mp long, saves⟩
          rw [if_neg failed]
          exact ⟨_, _, eval_fail _ _, by decide, atomic _ _ failed⟩

/-- The text parsed under the requested tag, which the value has unless it is relinquished. -/
structure ParsedAs (platform : StoragePlatform) (library : ValueLibrary) (key : BacnetStorageKey)
    (text : CString) (previous : ApplicationDataValue library.toValueTypes) (requested : ℕ)
    (parsed : ApplicationDataValue library.toValueTypes) : Prop where
  parses : bacnetSettingsValueParse platform library (some text) key.objectType key.propertyId
    { previous with tag := UInt8.ofNat requested } = (true, parsed)
  tag : parsed.tag.toNat = requested ∨ parsed.tag = tagNull ∧
    library.lists.commandableMember key.objectType.toUInt32 key.propertyId = true

/--
The command returns zero and has stored the text parsed under the tag among the
arguments, or under that of the stored value without one; or it returns an error, and the
stored bytes are as before.
-/
def WritesRequested (platform : StoragePlatform) (backend : SettingsBackend) (bacapp : Bacapp)
    (argv : List CString) (state : ShellState (SettingsShell backend)) (key : BacnetStorageKey)
    (value : List UInt8) (tagArgument : Option ℕ) (text : CString) : Prop :=
  ∃ rc after,
    eval (call (cmdValue platform backend bacapp argv) :
      ShellProcedure (SettingsShell backend) Int Int) state = .ok (.ok rc, after) ∧
    (rc = 0 → ∃ parsed,
      ParsedAs platform bacapp.toValueLibrary key text (bacapp.previous value)
        (tagArgument.getD (bacapp.previous value).tag.toNat) parsed ∧
      backend.lookup after.library.store (keyName platform.baseName key) =
        some (bacapp.encodeApplicationData parsed)) ∧
    (rc ≠ 0 → backend.lookup after.library.store (keyName platform.baseName key) =
      backend.lookup state.library.store (keyName platform.baseName key))

/--
The tag that the text gets is the requested one: that of a word, where the text is one,
and otherwise that of the stored value. NULL is the word that relinquishes.
-/
def TagAsRequested (library : ValueLibrary) (key : BacnetStorageKey) (text : CString)
    (stored : UInt8) (requested : ℕ) : Prop :=
  match wordTag library key.objectType key.propertyId text with
  | some word => word.toNat = requested ∨ word = tagNull
  | none => stored.toNat = requested

/-- What is saved is what was requested exactly if it has the requested tag. -/
theorem Saves.requested_iff {store : backend.Store} {requested : ℕ}
    (saves : Saves platform backend bacapp store key value text parsed) :
    (∃ asked, ParsedAs platform bacapp.toValueLibrary key text (bacapp.previous value) requested
        asked ∧ bacapp.encodeApplicationData parsed = bacapp.encodeApplicationData asked) ↔
      TagAsRequested bacapp.toValueLibrary key text (bacapp.previous value).tag requested := by
  have tag := bacnetSettingsValueParse_tag saves.parses
  rw [TagAsRequested]
  constructor
  · rintro ⟨asked, parsedAs, encoded⟩
    have same := bacapp.encode_tag parsed asked (bacnetSettingsValueParse_primitive saves.parses)
      (bacnetSettingsValueParse_primitive parsedAs.parses) saves.encodes encoded
    have asRequested := parsedAs.tag
    rw [← same] at asRequested
    rcases found : wordTag bacapp.toValueLibrary key.objectType key.propertyId text with _ | word
    · rw [found] at tag
      rcases asRequested with number | ⟨null, _⟩
      · rw [tag] at number
        exact number
      · -- no text is converted to NULL
        have mem := bacnetSettingsValueParse_tag_mem saves.parses found
        rw [tag] at null
        change (bacapp.previous value).tag = tagNull at null
        rw [null] at mem
        exact absurd mem (by decide)
    · rw [found] at tag
      rcases asRequested with number | ⟨null, _⟩
      · rw [tag] at number
        exact Or.inl number
      · rw [tag] at null
        exact Or.inr null
  · intro asRequested
    refine ⟨parsed, ?_, rfl⟩
    rcases found : wordTag bacapp.toValueLibrary key.objectType key.propertyId text with _ | word
    · rw [found] at tag asRequested
      change (bacapp.previous value).tag.toNat = requested at asRequested
      have number : UInt8.ofNat requested = (bacapp.previous value).tag := by
        rw [← asRequested, UInt8.ofNat_toNat]
      refine ⟨?_, Or.inl ?_⟩
      · rw [number]
        exact saves.parses
      · rw [tag]
        exact asRequested
    · have given : (wordTag bacapp.toValueLibrary key.objectType key.propertyId text).isSome := by
        rw [found]
        rfl
      refine ⟨?_, ?_⟩
      · rw [bacnetSettingsValueParse_of_word given]
        exact saves.parses
      · rw [found] at tag asRequested
        change parsed.tag = word at tag
        rcases asRequested with number | null
        · rw [tag]
          exact Or.inl number
        · rw [null] at found
          rw [tag, null]
          exact Or.inr ⟨rfl, commandable_of_wordTag found⟩

/-- With a text the command goes on to set the value. -/
theorem eval_cmdValue_set {tagArgument : Option ℕ} (keyParsed : KeyParsed platform argv state key)
    (request : valueRequest platform argv = some (tagArgument, text))
    (nameFits : NameFits platform key)
    (invariant : StoreInvariant platform backend state.library.store contents)
    (loads : backend.loadResult state.library.store (keyName platform.baseName key) = 0)
    (held : contents key = some value) (short : value.length ≤ settingsMaxValLen) :
    ∃ tag, eval (cmdValue platform backend bacapp argv) state =
      eval (cmdValueSet platform backend bacapp key (keyName platform.baseName key)
        (gotten value) value.length (bacapp.initial tag) text) state := by
  rcases @eval_valueArguments platform backend argv state text tagArgument request with
    ⟨tag, arguments⟩
  refine ⟨tag, ?_⟩
  rw [eval_cmdValue keyParsed nameFits invariant loads held short, eval_bind_ok _ arguments]

/-- What is saved decides whether the command has done what was requested. -/
theorem Saves.writes_iff_asRequested {tagArgument : Option ℕ} (nameFits : NameFits platform key)
    {tag : UInt8} (run : eval (cmdValue platform backend bacapp argv) state =
      eval (cmdValueSet platform backend bacapp key (keyName platform.baseName key)
        (gotten value) value.length (bacapp.initial tag) text) state)
    (saves : Saves platform backend bacapp state.library.store key value text parsed) :
    WritesRequested platform backend bacapp argv state key value tagArgument text ↔
      TagAsRequested bacapp.toValueLibrary key text (bacapp.previous value).tag
        (tagArgument.getD (bacapp.previous value).tag.toNat) := by
  rcases cmdValueSet_saves nameFits tag saves with ⟨output, returned⟩
  have stored := backend.saveOne_saved state.library.store (keyName platform.baseName key)
    (bacapp.encodeApplicationData parsed) saves.encodes saves.saves
  constructor
  · rintro ⟨rc, after, ran, written, _⟩
    rw [eval_call, run, returned] at ran
    cases ran
    rcases written rfl with ⟨asked, parsedAs, found⟩
    rw [stored, Option.some.injEq] at found
    exact saves.requested_iff.mp ⟨asked, parsedAs, found⟩
  · intro asRequested
    rcases saves.requested_iff.mpr asRequested with ⟨asked, parsedAs, encoded⟩
    refine ⟨0, _, by rw [eval_call, run, returned], ?_, fun nonzero => absurd rfl nonzero⟩
    intro _
    exact ⟨asked, parsedAs, by rw [← encoded]; exact stored⟩

/-- Without a value to get, the command fails. -/
theorem eval_cmdValue_of_get_neg (keyParsed : KeyParsed platform argv state key)
    (fails : (bacnetStorageGet platform backend state.library.store key
      (List.replicate (bacnetStorageValueSizeMax + 1) 0)).1 < 0) :
    ∃ output, eval (cmdValue platform backend bacapp argv) state =
      .ok (.error (-Errno.einval), { state with output }) := by
  rw [cmdValue, eval_bind_ok _ keyParsed.eval_call]
  simp only [if_neg (Int.lt_irrefl 0)]
  rw [eval_bind_ok _ (eval_ask _)]
  simp only [fails, if_true]
  exact ⟨_, eval_fail _ _⟩

/--
The command stores what was requested or nothing exactly when the text it saves gets the
requested tag.
-/
theorem writesRequested_iff {tagArgument : Option ℕ}
    (keyParsed : KeyParsed platform argv state key)
    (request : valueRequest platform argv = some (tagArgument, text))
    (nameFits : NameFits platform key)
    (invariant : StoreInvariant platform backend state.library.store contents)
    (status : backend.loadResult state.library.store (keyName platform.baseName key) ≤ 0)
    (held : contents key = some value) (short : value.length ≤ settingsMaxValLen)
    (atomic : ∀ name bytes, (backend.saveOne state.library.store name bytes).1 ≠ 0 →
      backend.lookup (backend.saveOne state.library.store name bytes).2 name =
        backend.lookup state.library.store name) :
    WritesRequested platform backend bacapp argv state key value tagArgument text ↔
      (backend.loadResult state.library.store (keyName platform.baseName key) = 0 →
        (∃ parsed, Saves platform backend bacapp state.library.store key value text parsed) →
        TagAsRequested bacapp.toValueLibrary key text (bacapp.previous value).tag
          (tagArgument.getD (bacapp.previous value).tag.toNat)) := by
  by_cases loads : backend.loadResult state.library.store (keyName platform.baseName key) = 0
  · rcases @eval_cmdValue_set platform backend bacapp argv contents state key value text
      tagArgument keyParsed request nameFits invariant loads held short with ⟨tag, run⟩
    by_cases saved :
      ∃ parsed, Saves platform backend bacapp state.library.store key value text parsed
    · rcases saved with ⟨parsed, saves⟩
      rw [saves.writes_iff_asRequested nameFits run]
      exact ⟨fun asRequested _ _ => asRequested,
        fun asRequested => asRequested loads ⟨parsed, saves⟩⟩
    · have unsaved := not_exists.mp saved
      rcases cmdValueSet_refuses nameFits tag atomic unsaved with
        ⟨rc, after, returned, nonzero, unchanged⟩
      apply iff_of_true
      · exact ⟨rc, after, by rw [eval_call, run, returned],
          fun zero => absurd zero nonzero, fun _ => unchanged⟩
      · exact fun _ some => absurd some saved
  · have fails : (bacnetStorageGet platform backend state.library.store key
        (List.replicate (bacnetStorageValueSizeMax + 1) 0)).1 < 0 := by
      rw [bacnetStorageGet_failed nameFits _ loads]
      omega
    rcases @eval_cmdValue_of_get_neg platform backend bacapp argv state key keyParsed fails with
      ⟨output, returned⟩
    apply iff_of_true
    · exact ⟨-Errno.einval, { state with output }, by rw [eval_call, returned],
        fun zero => absurd zero (by decide), fun _ => rfl⟩
    · exact fun loaded => absurd loaded loads

end Write

/-! ## Values of one octet -/

section Reference

/-- The encoding of the values of one octet, with the tag in front. -/
def encodeOctet (value : ApplicationDataValue ValueLibrary.reference.toValueTypes) : List UInt8 :=
  if value.tag = tagNull then [0x00]
  else
    match value.type with
    | .boolean status => if value.tag = tagBoolean then [if status then 0x11 else 0x10] else []
    | .unsignedInt number =>
        if value.tag = tagUnsignedInt ∧ number < 256 then [0x21, number.toUInt8] else []
    | .signedInt number =>
        if value.tag = tagSignedInt ∧ -128 ≤ number ∧ number < 128 then
          [0x31, number.toInt8.toUInt8]
        else []
    | .enumerated number =>
        if value.tag = tagEnumerated ∧ number < 256 then [0x91, number.toUInt8] else []
    | _ => []

def decodeOctet (apdu : List UInt8)
    (value : ApplicationDataValue ValueLibrary.reference.toValueTypes) :
    Int × ApplicationDataValue ValueLibrary.reference.toValueTypes :=
  match apdu with
  | 0x00 :: _ => (1, { value with tag := tagNull })
  | 0x10 :: _ => (1, { tag := tagBoolean, type := .boolean false })
  | 0x11 :: _ => (1, { tag := tagBoolean, type := .boolean true })
  | 0x21 :: octet :: _ => (2, { tag := tagUnsignedInt, type := .unsignedInt octet.toUInt64 })
  | 0x31 :: octet :: _ =>
      (2, { tag := tagSignedInt, type := .signedInt octet.toInt8.toInt32 })
  | 0x91 :: octet :: _ => (2, { tag := tagEnumerated, type := .enumerated octet.toUInt32 })
  | _ => (-1, value)

theorem headD_of_ite {condition : Prop} [Decidable condition] {bytes : List UInt8} {tag : UInt8}
    (encodes : (if condition then bytes else []) ≠ [])
    (head : condition → bytes.headD 0 / 16 = tag) :
    (if condition then bytes else []).headD 0 / 16 = tag := by
  split
  · rename_i holds
    exact head holds
  · rename_i fails
    rw [if_neg fails] at encodes
    exact absurd rfl encodes

/-- The tag is the upper half of the first octet. -/
theorem encodeOctet_tag
    (value : ApplicationDataValue ValueLibrary.reference.toValueTypes)
    (encodes : encodeOctet value ≠ []) :
    (encodeOctet value).headD 0 / 16 = value.tag := by
  rcases value with ⟨tag, type⟩
  rw [encodeOctet] at encodes ⊢
  by_cases null : tag = tagNull
  · rw [if_pos null, null]
    exact (by decide : (0x00 : UInt8) / 16 = tagNull)
  · rw [if_neg null] at encodes ⊢
    cases type with
    | boolean status =>
        apply headD_of_ite encodes
        rintro rfl
        cases status <;> decide
    | unsignedInt number =>
        apply headD_of_ite encodes
        rintro ⟨rfl, _⟩
        exact (by decide : (0x21 : UInt8) / 16 = tagUnsignedInt)
    | signedInt number =>
        apply headD_of_ite encodes
        rintro ⟨rfl, _⟩
        exact (by decide : (0x31 : UInt8) / 16 = tagSignedInt)
    | enumerated number =>
        apply headD_of_ite encodes
        rintro ⟨rfl, _⟩
        exact (by decide : (0x91 : UInt8) / 16 = tagEnumerated)
    | _ => exact absurd rfl encodes

/-- A library for the values of the examples, which take one octet. -/
def Bacapp.reference : Bacapp where
  toValueLibrary := ValueLibrary.reference
  zero := ()
  encodeApplicationData := encodeOctet
  decodeApplicationData := decodeOctet
  decodeKnownProperty := fun apdu len value _ _ => decodeOctet (apdu.take len.toNat) value
  snprintfValue := fun size _ value =>
    match value.type with
    | .unsignedInt number => (unsignedText number.toNat).take (size - 1)
    | .enumerated number => (unsignedText number.toNat).take (size - 1)
    | _ => []
  decode_tag := by
    intro apdu value tag decodes
    change 0 < (decodeOctet apdu value).1 at decodes
    unfold decodeOctet at decodes ⊢
    split at decodes <;> first | rfl | cases decodes
  encode_tag := by
    intro left right _ _ encodes same
    rw [← encodeOctet_tag left encodes, same]
    rw [same] at encodes
    exact encodeOctet_tag right encodes

def emptySettings : SettingsBackend.reference.Store := ⟨[], by simp⟩

/-- Settings with a value for one key. -/
def storedState (key : BacnetStorageKey) (value : List UInt8) :
    ShellState (SettingsShell SettingsBackend.reference) where
  library :=
    { store := (bacnetStorageSet (StoragePlatform.reference bacnetSettingsBaseName)
        SettingsBackend.reference emptySettings key value).2
      decoded := [] }
  output := []

theorem storeInvariant_storedState (key : BacnetStorageKey) {value : List UInt8}
    (nonempty : value ≠ []) :
    StoreInvariant (StoragePlatform.reference bacnetSettingsBaseName) SettingsBackend.reference
      (storedState key value).library.store (Function.update (fun _ => none) key (some value)) :=
  storeInvariant_reference (nameFits_of_short (by decide) key) nonempty

/-- The retries of a device: two octets, and a name of sixteen characters. -/
theorem decodesStored_iff_retries :
    let platform := StoragePlatform.reference bacnetSettingsBaseName
    let key := bacnetStorageKeyInit 8 200 73 bacnetStorageArrayIndexNone
    let value : List UInt8 := [0x21, 5]
    DecodesStored platform SettingsBackend.reference Bacapp.reference
        ["value".toList, "8".toList, "200".toList, "73".toList] (storedState key value) value ↔
      (keyName platform.baseName key).length = value.length := by
  intro platform key value
  exact decodesStored_iff Bacapp.reference ⟨_, rfl⟩ (by decide) (nameFits_of_short (by decide) key)
    (storeInvariant_storedState key (by decide)) rfl (Function.update_self _ _ _) (by decide)

/-- Of a description of twenty letters, sixteen octets are decoded. -/
theorem not_decodesStored_description :
    let platform := StoragePlatform.reference bacnetSettingsBaseName
    let key := bacnetStorageKeyInit 8 200 28 bacnetStorageArrayIndexNone
    let value : List UInt8 := [0x75, 21, 0] ++ List.replicate 20 0x61
    let argv := ["value".toList, "8".toList, "200".toList, "28".toList]
    ¬DecodesStored platform SettingsBackend.reference Bacapp.reference argv
      (storedState key value) value := by
  intro platform key value argv
  have noValue : argv.length ≤ 4 := by decide
  have short : value.length ≤ settingsMaxValLen := by decide
  have nonempty : value ≠ [] := List.cons_ne_nil _ _
  have run : ∃ outcome output,
      eval (cmdValue platform SettingsBackend.reference Bacapp.reference argv)
          (storedState key value) =
        .ok (outcome, { recorded (storedState key value) (gotten value)
          (keyName platform.baseName key).length with output }) :=
    eval_cmdValue_get Bacapp.reference ⟨_, rfl⟩ noValue (nameFits_of_short (by decide) key)
      (storeInvariant_storedState key nonempty) rfl (Function.update_self _ _ _) short
  rcases run with ⟨outcome, output, run⟩
  rw [decodesStored_iff_recorded run]
  rintro ⟨same, _⟩
  exact absurd same (by decide)

/-- The retries of a device are set without a tag. -/
theorem writesRequested_iff_retries :
    let platform := StoragePlatform.reference bacnetSettingsBaseName
    let backend := SettingsBackend.reference
    let key := bacnetStorageKeyInit 8 200 73 bacnetStorageArrayIndexNone
    let value : List UInt8 := [0x21, 5]
    let argv := ["value".toList, "8".toList, "200".toList, "73".toList, "7".toList]
    let state := storedState key value
    WritesRequested platform backend Bacapp.reference argv state key value none "7".toList ↔
      (backend.loadResult state.library.store (keyName platform.baseName key) = 0 →
        (∃ parsed, Saves platform backend Bacapp.reference state.library.store key value
          "7".toList parsed) →
        TagAsRequested Bacapp.reference.toValueLibrary key "7".toList
          (Bacapp.reference.previous value).tag
          ((none : Option ℕ).getD (Bacapp.reference.previous value).tag.toNat)) := by
  intro platform backend key value argv state
  exact writesRequested_iff ⟨_, rfl⟩ rfl (nameFits_of_short (by decide) key)
    (storeInvariant_storedState key (List.cons_ne_nil _ _)) (Int.le_refl 0)
    (Function.update_self _ _ _) (by decide) (fun name bytes fails => absurd rfl fails)

/-- With the tag of a signed number among the arguments, an unsigned number is stored. -/
theorem not_writesRequested_signed :
    let platform := StoragePlatform.reference bacnetSettingsBaseName
    let backend := SettingsBackend.reference
    let key := bacnetStorageKeyInit 8 200 73 bacnetStorageArrayIndexNone
    let value : List UInt8 := [0x21, 5]
    let argv := ["value".toList, "8".toList, "200".toList, "73".toList, "3".toList, "7".toList]
    ¬WritesRequested platform backend Bacapp.reference argv (storedState key value) key value
      (some 3) "7".toList := by
  intro platform backend key value argv
  have nameFits : NameFits platform key := nameFits_of_short (by decide) key
  have run : ∃ tag, eval (cmdValue platform backend Bacapp.reference argv)
      (storedState key value) =
        eval (cmdValueSet platform backend Bacapp.reference key (keyName platform.baseName key)
          (gotten value) value.length (Bacapp.reference.initial tag) "7".toList)
          (storedState key value) :=
    eval_cmdValue_set ⟨_, rfl⟩ rfl nameFits
      (storeInvariant_storedState key (List.cons_ne_nil _ _)) rfl (Function.update_self _ _ _)
      (by decide)
  rcases run with ⟨tag, run⟩
  have saves : Saves platform backend Bacapp.reference (storedState key value).library.store key
      value "7".toList { tag := tagUnsignedInt, type := .unsignedInt 7 } :=
    { decodes := by decide
      parses := rfl
      encodes := by decide
      fits := by decide
      saves := rfl }
  rw [saves.writes_iff_asRequested nameFits run]
  intro asRequested
  change tagUnsignedInt.toNat = 3 at asRequested
  exact absurd asRequested (by decide)

end Reference

end BacnetZephyr
