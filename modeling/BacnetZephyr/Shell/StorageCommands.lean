import BacnetZephyr.Foundation.StringBuffer
import BacnetZephyr.Shell.Designator
import BacnetZephyr.Storage.Access
import BacnetZephyr.Storage.Load

/-!
# The storage commands

`string` gets or sets the text of an entry, and `delete` deletes an entry. The entry is
the one of the key that `bacnet_storage_key_parse` reads from the arguments. What
follows the part of the third argument that its format matches is ignored, white space
and a sign before a number are skipped, and numbers that do not fit are cut down, so an
argument that names no entry may address one. `takenAsSpelled_iff` is the exact
condition.
-/

namespace BacnetZephyr

open CLib Procedure

/-- The settings behind the commands, and their calls of the storage. -/
structure StorageShell (backend : SettingsBackend) where
  store : backend.Store
  calls : List StorageOp

section Definitions

variable (platform : StoragePlatform) (backend : SettingsBackend) (argv : List CString)

/-- A call of the storage, with what it leaves of the settings. -/
def recordCall (call : StorageOp) (store : backend.Store) :
    ShellProcedure (StorageShell backend) Int Unit :=
  modifyState fun state =>
    { state with library := { store, calls := state.library.calls ++ [call] } }

/-- The bytes of a text. -/
def textBytes (text : CString) : List UInt8 :=
  text.map fun character => UInt8.ofNat character.toNat

/-- `%s` of a buffer. -/
def bufferText (buffer : List UInt8) : ShellProcedure (StorageShell backend) Int CString :=
  if 0 ∈ buffer then return (untilTerminator buffer).map fun byte => Char.ofNat byte.toNat
  else fault (.overrun buffer.length)

/-- `cmd_string` after the key is shown. -/
def cmdStringAccess (key : BacnetStorageKey) (keyName : CString) :
    ShellProcedure (StorageShell backend) Int Int := do
  let store ← ask fun state => state.library.store
  if 4 < argv.length then
    let valueText ← argument argv 4
    let (rc, store) := bacnetStorageSet platform backend store key (textBytes valueText)
    recordCall backend (.set key (textBytes valueText)) store
    if rc = 0 then
      emit (.shellPrint "Set %s = %s" [keyName, valueText])
      return 0
    else
      fail (.shellError "Unable to set %s = %s" [keyName, valueText]) (-Errno.einval)
  else
    let buffer := List.replicate (bacnetStorageValueSizeMax + 1) 0
    let (rc, data) := bacnetStorageGet platform backend store key buffer
    recordCall backend (.get key buffer) store
    if rc < 0 then
      fail (.shellError "Unable to get %s" [keyName]) (-Errno.einval)
    else
      let shown ← bufferText backend data
      emit (.shellPrint "Get %s = %s" [keyName, shown])
      return 0

def cmdString : ShellProcedure (StorageShell backend) Int Int := do
  let (rc, key) ← call (bacnetStorageKeyParse platform argv (bacnetStorageKeyInit 0 0 0 0))
  if rc < 0 then throw rc
  else
    let (rc, keyName) := bacnetStorageKeyEncode platform (settingsMaxNameLen + 1) key
    if rc < 0 then throw rc
    else
      let (decoded, testKey) := bacnetStorageKeyDecode platform (some keyName)
        (bacnetStorageKeyInit 0 0 0 0)
      if decoded = 0 then
        emit (.shellPrint "key=%s/%lu/%lu/%lu/%lu"
          [platform.baseName, unsignedText testKey.objectType.toNat,
            unsignedText testKey.objectInstance.toNat, unsignedText testKey.propertyId.toNat,
            unsignedText testKey.arrayIndex.toNat])
        cmdStringAccess platform backend argv key keyName
      else cmdStringAccess platform backend argv key keyName

def cmdDelete : ShellProcedure (StorageShell backend) Int Int := do
  let (rc, key) ← call (bacnetStorageKeyParse platform argv (bacnetStorageKeyInit 0 0 0 0))
  if rc < 0 then throw rc
  else
    let (rc, keyName) := bacnetStorageKeyEncode platform (settingsMaxNameLen + 1) key
    if rc < 0 then throw rc
    else if 3 < argv.length then
      let store ← ask fun state => state.library.store
      let (rc, store) := bacnetStorageDelete platform backend store key
      recordCall backend (.delete key) store
      if rc = 0 then
        emit (.shellPrint "Deleted %s" [keyName])
        return 0
      else
        fail (.shellError "Unable to delete %s" [keyName]) (-Errno.einval)
    else return 0

end Definitions

/-! ## The entries that the commands act on -/

section Calls

variable {platform : StoragePlatform} {backend : SettingsBackend} {argv : List CString}
  {α : Type}

/-- The calls made in between are on keys of the set. -/
def CallsOn (keys : BacnetStorageKey → Prop) (before after : ShellState (StorageShell backend)) :
    Prop :=
  ∃ calls, after.library.calls = before.library.calls ++ calls ∧ ∀ call ∈ calls, keys call.key

variable {keys : BacnetStorageKey → Prop}

theorem callsOn_refl (state : ShellState (StorageShell backend)) : CallsOn keys state state :=
  ⟨[], (List.append_nil _).symm, by simp⟩

theorem CallsOn.trans {first middle last : ShellState (StorageShell backend)}
    (front : CallsOn keys first middle) (back : CallsOn keys middle last) :
    CallsOn keys first last := by
  rcases front with ⟨calls, made, onKeys⟩
  rcases back with ⟨more, madeMore, onKeysMore⟩
  refine ⟨calls ++ more, ?_, ?_⟩
  · rw [madeMore, made, List.append_assoc]
  · intro call mem
    rcases List.mem_append.mp mem with mem | mem
    · exact onKeys call mem
    · exact onKeysMore call mem

/-- The procedure acts on keys of the set only. -/
def ActsOn (keys : BacnetStorageKey → Prop)
    (procedure : ShellProcedure (StorageShell backend) Int α) : Prop :=
  MovesAlong (CallsOn keys) procedure

theorem ActsOn.bind {β : Type} {procedure : ShellProcedure (StorageShell backend) Int α}
    {next : α → ShellProcedure (StorageShell backend) Int β} (first : ActsOn keys procedure)
    (rest : ∀ value, ActsOn keys (next value)) : ActsOn keys (procedure >>= next) := by
  have transitive : ∀ first middle last : ShellState (StorageShell backend),
      CallsOn keys first middle → CallsOn keys middle last → CallsOn keys first last :=
    fun _ _ _ front back => front.trans back
  exact MovesAlong.bind transitive first fun value _ => rest value

theorem actsOn_emit (output : ShellOutput) :
    ActsOn keys (emit output : ShellProcedure (StorageShell backend) Int Unit) :=
  MovesAlong.modifyState fun _ => ⟨[], (List.append_nil _).symm, by simp⟩

theorem actsOn_fail (output : ShellOutput) (result : Int) :
    ActsOn keys (fail output result : ShellProcedure (StorageShell backend) Int α) :=
  (actsOn_emit output).bind fun _ => MovesAlong.throw callsOn_refl result

theorem actsOn_argument (index : ℕ) :
    ActsOn keys (argument argv index : ShellProcedure (StorageShell backend) Int CString) := by
  rw [argument]
  split
  · exact MovesAlong.pure callsOn_refl _
  · exact MovesAlong.fault _

theorem actsOn_bufferText (buffer : List UInt8) : ActsOn keys (bufferText backend buffer) := by
  rw [bufferText]
  split
  · exact MovesAlong.pure callsOn_refl _
  · exact MovesAlong.fault _

theorem actsOn_recordCall {call : StorageOp} (onKeys : keys call.key) (store : backend.Store) :
    ActsOn keys (recordCall backend call store) :=
  MovesAlong.modifyState fun _ => ⟨[call], rfl, by simpa using onKeys⟩

theorem actsOn_cmdStringAccess {key : BacnetStorageKey} (onKeys : keys key) (keyName : CString) :
    ActsOn keys (cmdStringAccess platform backend argv key keyName) := by
  rw [cmdStringAccess]
  apply ActsOn.bind (MovesAlong.ask callsOn_refl _)
  intro store
  split
  · apply (actsOn_argument 4).bind
    intro valueText
    apply ActsOn.bind (@actsOn_recordCall _ _ (.set key (textBytes valueText)) onKeys _)
    intro _
    split
    · exact (actsOn_emit _).bind fun _ => MovesAlong.pure callsOn_refl _
    · exact actsOn_fail _ _
  · apply ActsOn.bind (@actsOn_recordCall _ _ (.get key _) onKeys _)
    intro _
    split
    · exact actsOn_fail _ _
    · apply (actsOn_bufferText _).bind
      intro shown
      exact (actsOn_emit _).bind fun _ => MovesAlong.pure callsOn_refl _

end Calls

/-! ## What the third argument spells -/

/-- The text is a number, alone or with an index in brackets, and the key has them. -/
def SpellsKey (text : CString) (key : BacnetStorageKey) : Prop :=
  ∃ digits index, text = digits ++ indexText index ∧ IsDecimal digits ∧
    digitsValue 10 digits = key.propertyId.toNat ∧
    (∀ number, index = some number → IsDecimal number ∧ digitsValue 10 number ≤ 4294967294) ∧
    key.arrayIndex = indexValue index

/-- The text spells a property and an index that are in range. -/
def WellSpelled (text : CString) : Prop :=
  ∃ digits index, text = digits ++ indexText index ∧ IsDecimal digits ∧
    digitsValue 10 digits ≤ 4294967295 ∧
    ∀ number, index = some number → IsDecimal number ∧ digitsValue 10 number ≤ 4294967294

/-- The number at the start of a text, after white space and a sign. -/
def leadingNumber (platform : StoragePlatform) (text : CString) : Option ℕ :=
  match (Directive.unsigned platform.ulongBits).convert text with
  | some (some (.number number), _) => some number
  | _ => none

section Spelling

variable {platform : StoragePlatform} {backend : SettingsBackend} {Library : Type}
  {command typeText instanceText text : CString} {rest : List CString}
  {out key : BacnetStorageKey} {state after : ShellState Library}
  {outcome : Except Parsed Parsed}

/-- The parser keeps the library, and gives an error or what its format converts. -/
theorem bacnetStorageKeyParse_spec
    (run : eval (bacnetStorageKeyParse platform
      (command :: typeText :: instanceText :: text :: rest) out) state = .ok (outcome, after)) :
    after.library = state.library ∧ (outcome = .error (-Errno.einval, out) ∨
      ∃ objectType objectInstance propertyId index,
        sscanf (numberFormat platform 32) text = .number propertyId :: index ∧
        propertyId ≤ ulongMax 32 ∧
        outcome = .ok (0, bacnetStorageKeyInit objectType objectInstance (UInt32.ofNat propertyId)
          (scannedIndex bacnetStorageArrayIndexNone index))) := by
  have enough : ¬(command :: typeText :: instanceText :: text :: rest).length < 3 := by
    simp only [List.length_cons]
    omega
  rw [bacnetStorageKeyParse, if_neg enough] at run
  rcases typeValue : bacnetStorageStrtoul platform typeText with _ | objectType
  · simp [argument, typeValue, eval_fail] at run
    rcases run with ⟨rfl, rfl⟩
    exact ⟨rfl, Or.inl rfl⟩
  · by_cases typeLarge : uint16Max ≤ objectType
    · simp [argument, typeValue, typeLarge, eval_fail] at run
      rcases run with ⟨rfl, rfl⟩
      exact ⟨rfl, Or.inl rfl⟩
    · rcases instanceValue : bacnetStorageStrtoul platform instanceText with _ | objectInstance
      · simp [argument, typeValue, typeLarge, instanceValue, eval_fail] at run
        rcases run with ⟨rfl, rfl⟩
        exact ⟨rfl, Or.inl rfl⟩
      · by_cases instanceLarge : bacnetMaxInstance.toNat < objectInstance
        · simp [argument, typeValue, typeLarge, instanceValue, instanceLarge, eval_fail] at run
          rcases run with ⟨rfl, rfl⟩
          exact ⟨rfl, Or.inl rfl⟩
        · rcases sscanf_unsigned platform.ulongBits
            [.literal '[', .unsigned 32, .literal ']'] text with none | ⟨propertyId, index, number⟩
          · simp [argument, typeValue, typeLarge, instanceValue, instanceLarge, numberFormat, none,
              eval_fail] at run
            rcases run with ⟨rfl, rfl⟩
            exact ⟨rfl, Or.inl rfl⟩
          · by_cases propertyLarge : ulongMax 32 < propertyId
            · simp [argument, typeValue, typeLarge, instanceValue, instanceLarge, numberFormat,
                number, propertyLarge, eval_fail] at run
              rcases run with ⟨rfl, rfl⟩
              exact ⟨rfl, Or.inl rfl⟩
            · simp [argument, typeValue, typeLarge, instanceValue, instanceLarge, numberFormat,
                number, propertyLarge] at run
              rcases run with ⟨rfl, rfl⟩
              exact ⟨rfl, Or.inr ⟨_, _, propertyId, index, number, Nat.not_lt.mp propertyLarge,
                rfl⟩⟩

/-- The number at the start is the first conversion. -/
theorem leadingNumber_eq {indexBits propertyId : ℕ} {index : List Conversion}
    (scanned : sscanf (numberFormat platform indexBits) text = .number propertyId :: index) :
    leadingNumber platform text = some propertyId := by
  rw [numberFormat, sscanf] at scanned
  rw [leadingNumber]
  rcases converted : (Directive.unsigned platform.ulongBits).convert text with
    _ | ⟨_ | ⟨number | characters⟩, after⟩
  · rw [converted] at scanned
    cases scanned
  · simp only [Directive.convert] at converted
    split at converted
    · cases converted
    · cases converted
  · rw [converted] at scanned
    cases scanned
    rfl
  · rw [converted] at scanned
    cases scanned

theorem sscanf_of_leadingNumber {propertyId : ℕ} (indexBits : ℕ)
    (leading : leadingNumber platform text = some propertyId) :
    ∃ index, sscanf (numberFormat platform indexBits) text = .number propertyId :: index := by
  rcases sscanf_unsigned platform.ulongBits [.literal '[', .unsigned indexBits, .literal ']'] text
    with none | ⟨number, index, scanned⟩
  · rw [leadingNumber] at leading
    rw [sscanf] at none
    split at leading
    · rename_i number rest converted
      rw [converted] at none
      cases none
    · cases leading
  · have same := @leadingNumber_eq platform _ indexBits _ _ scanned
    rw [leading] at same
    cases same
    exact ⟨index, scanned⟩

/-- What is well spelled is read as it is spelled. -/
theorem spellsKey_of_wellSpelled (wellSpelled : WellSpelled text) {propertyId : ℕ}
    {index : List Conversion}
    (scanned : sscanf (numberFormat platform 32) text = .number propertyId :: index)
    (objectType : UInt16) (objectInstance : UInt32) :
    SpellsKey text (bacnetStorageKeyInit objectType objectInstance (UInt32.ofNat propertyId)
      (scannedIndex bacnetStorageArrayIndexNone index)) := by
  rcases wellSpelled with ⟨digits, bracketed, rfl, decimal, small, indexDecimal⟩
  have value : digitsValue 10 digits = (UInt32.ofNat (digitsValue 10 digits)).toNat := by
    rw [UInt32.toNat_ofNat', Nat.mod_eq_of_lt (by omega)]
  have read := @sscanf_number _ platform _ _ _ (Nat.le_refl 32) decimal value indexDecimal
  rw [scanned] at read
  simp only [List.cons.injEq, Conversion.number.injEq] at read
  rcases read with ⟨rfl, rfl⟩
  refine ⟨digits, bracketed, rfl, decimal, ?_, indexDecimal, scannedIndex_storage bracketed⟩
  rw [bacnetStorageKeyInit, UInt32.ofNat_toNat, ← value]

theorem SpellsKey.wellSpelled (spells : SpellsKey text key) : WellSpelled text := by
  rcases spells with ⟨digits, index, equal, decimal, value, indexDecimal, _⟩
  have small := key.propertyId.toNat_lt
  exact ⟨digits, index, equal, decimal, by omega, indexDecimal⟩

end Spelling

/-! ## When the third argument is taken as it is spelled -/

/-- The parser and the commands take the text for the entry that it spells, or refuse it. -/
structure TakenAsSpelled (platform : StoragePlatform) (backend : SettingsBackend)
    (text : CString) : Prop where
  parse : ∀ (Library : Type) command typeText instanceText rest out key
    (state after : ShellState Library),
    eval (bacnetStorageKeyParse platform (command :: typeText :: instanceText :: text :: rest) out)
      state = .ok (.ok (0, key), after) → SpellsKey text key
  string : ∀ command typeText instanceText rest, ActsOn (SpellsKey text)
    (cmdString platform backend (command :: typeText :: instanceText :: text :: rest))
  delete : ∀ command typeText instanceText rest, ActsOn (SpellsKey text)
    (cmdDelete platform backend (command :: typeText :: instanceText :: text :: rest))

/-- A number at the start that is in range is there only if the whole text is well spelled. -/
def NumberOnlyWellSpelled (platform : StoragePlatform) (text : CString) : Prop :=
  ∀ number, leadingNumber platform text = some number → number ≤ 4294967295 → WellSpelled text

section Commands

variable {platform : StoragePlatform} {backend : SettingsBackend}
  {command typeText instanceText text : CString} {rest : List CString}
  {out key : BacnetStorageKey} {keys : BacnetStorageKey → Prop}
  {state after : ShellState (StorageShell backend)}

theorem spellsKey_of_parse {Library : Type} {state after : ShellState Library}
    (only : NumberOnlyWellSpelled platform text)
    (run : eval (bacnetStorageKeyParse platform
      (command :: typeText :: instanceText :: text :: rest) out) state =
        .ok (.ok (0, key), after)) :
    SpellsKey text key := by
  rcases (bacnetStorageKeyParse_spec run).2 with failed | ⟨_, _, propertyId, index, scanned, small,
    parsed⟩
  · cases failed
  · cases parsed
    have wellSpelled := only propertyId (leadingNumber_eq scanned) small
    exact spellsKey_of_wellSpelled wellSpelled scanned _ _

theorem movesAlong_bacnetStorageKeyParse :
    MovesAlong (CallsOn keys) (bacnetStorageKeyParse platform
      (command :: typeText :: instanceText :: text :: rest) out :
        ShellProcedure (StorageShell backend) Parsed Parsed) := by
  intro state outcome after run
  have same := (bacnetStorageKeyParse_spec run).1
  exact ⟨[], by rw [same, List.append_nil], by simp⟩

/-- A command goes on with a key only if the parser returned 0 with it. -/
theorem parse_of_call {value : Parsed} (nonnegative : ¬value.1 < 0)
    (run : eval (call (bacnetStorageKeyParse platform
      (command :: typeText :: instanceText :: text :: rest) out) :
        ShellProcedure (StorageShell backend) Int Parsed) state = .ok (.ok value, after)) :
    eval (bacnetStorageKeyParse platform
      (command :: typeText :: instanceText :: text :: rest) out :
        ShellProcedure (StorageShell backend) Parsed Parsed) state =
      .ok (.ok (0, value.2), after) := by
  rw [eval_call] at run
  rcases reached : eval (bacnetStorageKeyParse platform
      (command :: typeText :: instanceText :: text :: rest) out :
        ShellProcedure (StorageShell backend) Parsed Parsed) state with what | ⟨outcome, between⟩
  · rw [reached] at run
    cases run
  · rcases (bacnetStorageKeyParse_spec reached).2 with rfl | ⟨_, _, _, _, _, _, rfl⟩
    · rw [reached] at run
      cases run
      exact absurd (show -Errno.einval < (0 : Int) by decide) nonnegative
    · rw [reached] at run
      cases run
      rfl

/-- After the parser a command acts on the keys it goes on with. -/
theorem actsOn_parse {α : Type}
    {next : Parsed → ShellProcedure (StorageShell backend) Int α}
    (onKeys : ∀ (state after : ShellState (StorageShell backend)) key,
      eval (bacnetStorageKeyParse platform
        (command :: typeText :: instanceText :: text :: rest) out) state =
          .ok (.ok (0, key), after) → keys key)
    (early : ∀ rc key, rc < 0 → ActsOn keys (next (rc, key)))
    (goesOn : ∀ rc key, ¬rc < 0 → keys key → ActsOn keys (next (rc, key))) :
    ActsOn keys (call (bacnetStorageKeyParse platform
      (command :: typeText :: instanceText :: text :: rest) out) >>= next) := by
  have transitive : ∀ first middle last : ShellState (StorageShell backend),
      CallsOn keys first middle → CallsOn keys middle last → CallsOn keys first last :=
    fun _ _ _ front back => front.trans back
  refine MovesAlong.bind transitive movesAlong_bacnetStorageKeyParse.call ?_
  rintro ⟨rc, key⟩ ⟨state, after, run⟩
  by_cases negative : rc < 0
  · exact early rc key negative
  · exact goesOn rc key negative (onKeys state after key (parse_of_call negative run))

theorem actsOn_cmdString
    (onKeys : ∀ (state after : ShellState (StorageShell backend)) key,
      eval (bacnetStorageKeyParse platform (command :: typeText :: instanceText :: text :: rest)
        (bacnetStorageKeyInit 0 0 0 0)) state = .ok (.ok (0, key), after) → keys key) :
    ActsOn keys (cmdString platform backend
      (command :: typeText :: instanceText :: text :: rest)) := by
  rw [cmdString]
  apply actsOn_parse onKeys
  · intro rc key negative
    simp only [if_pos negative]
    exact MovesAlong.throw callsOn_refl rc
  · intro rc key nonnegative onKey
    simp only [if_neg nonnegative]
    split
    · exact MovesAlong.throw callsOn_refl _
    · split
      · exact (actsOn_emit _).bind fun _ => actsOn_cmdStringAccess onKey _
      · exact actsOn_cmdStringAccess onKey _

theorem actsOn_cmdDelete
    (onKeys : ∀ (state after : ShellState (StorageShell backend)) key,
      eval (bacnetStorageKeyParse platform (command :: typeText :: instanceText :: text :: rest)
        (bacnetStorageKeyInit 0 0 0 0)) state = .ok (.ok (0, key), after) → keys key) :
    ActsOn keys (cmdDelete platform backend
      (command :: typeText :: instanceText :: text :: rest)) := by
  rw [cmdDelete]
  apply actsOn_parse onKeys
  · intro rc key negative
    simp only [if_pos negative]
    exact MovesAlong.throw callsOn_refl rc
  · intro rc key nonnegative onKey
    simp only [if_neg nonnegative]
    split
    · exact MovesAlong.throw callsOn_refl _
    · split
      · apply ActsOn.bind (MovesAlong.ask callsOn_refl _)
        intro store
        apply ActsOn.bind (@actsOn_recordCall _ _ (.delete key) onKey _)
        intro _
        split
        · exact (actsOn_emit _).bind fun _ => MovesAlong.pure callsOn_refl _
        · exact actsOn_fail _ _
      · exact MovesAlong.pure callsOn_refl _

/-- With a valid object, a number in range at the start is enough for a key. -/
theorem parse_of_leadingNumber {propertyId : ℕ}
    {Library : Type} (leading : leadingNumber platform text = some propertyId)
    (small : propertyId ≤ 4294967295) (state : ShellState Library) :
    ∃ key, eval (bacnetStorageKeyParse platform [[], ['0'], ['0'], text] out) state =
      .ok (.ok (0, key), state) := by
  rcases sscanf_of_leadingNumber 32 leading with ⟨index, scanned⟩
  have zero : bacnetStorageStrtoul platform ['0'] = some 0 :=
    bacnetStorageStrtoul_toDigits platform (show 0 < 10 ^ settingsMaxDirDepth by decide)
  have inside : ¬ulongMax 32 < propertyId := Nat.not_lt.mpr small
  refine ⟨bacnetStorageKeyInit 0 0 (UInt32.ofNat propertyId)
    (scannedIndex bacnetStorageArrayIndexNone index), ?_⟩
  rw [bacnetStorageKeyParse, if_neg (show ¬[[], ['0'], ['0'], text].length < 3 by simp)]
  simp [argument, zero, scanned, inside, uint16Max]

end Commands

theorem numberOnlyWellSpelled_of_taken {platform : StoragePlatform} {backend : SettingsBackend}
    {text : CString} (taken : TakenAsSpelled platform backend text) :
    NumberOnlyWellSpelled platform text := by
  intro propertyId leading small
  rcases @parse_of_leadingNumber platform text (bacnetStorageKeyInit 0 0 0 0) _ Unit leading small
    ⟨(), []⟩ with ⟨key, parsed⟩
  exact (taken.parse _ _ _ _ _ _ _ _ _ parsed).wellSpelled

/--
A third argument is taken as it is spelled, or refused, exactly if it is well spelled or does not
start with a number in range after white space and a sign.
-/
theorem takenAsSpelled_iff (platform : StoragePlatform) (backend : SettingsBackend)
    (text : CString) :
    TakenAsSpelled platform backend text ↔ NumberOnlyWellSpelled platform text := by
  refine ⟨numberOnlyWellSpelled_of_taken, fun only => ⟨?_, ?_, ?_⟩⟩
  · exact fun _ _ _ _ _ _ _ _ _ run => spellsKey_of_parse only run
  · exact fun _ _ _ _ => actsOn_cmdString fun _ _ _ run => spellsKey_of_parse only run
  · exact fun _ _ _ _ => actsOn_cmdDelete fun _ _ _ run => spellsKey_of_parse only run

/-- An index whose bracket is not closed is taken for the index. -/
theorem not_takenAsSpelled_unclosed :
    ¬TakenAsSpelled (StoragePlatform.reference bacnetSettingsBaseName) SettingsBackend.reference
      "85[3".toList := by
  intro taken
  have wellSpelled := numberOnlyWellSpelled_of_taken taken 85 (by decide) (by decide)
  rcases wellSpelled with ⟨digits, _ | number, equal, decimal, _⟩
  · rw [indexText, List.append_nil] at equal
    have digit := decimal.2 '[' (by rw [← equal]; decide)
    cases digit
  · have last := congrArg List.getLast? equal
    simp [indexText, List.getLast?_append, List.getLast?_cons] at last

end BacnetZephyr
