import BacnetZephyr.Foundation.Transition
import BacnetZephyr.Shell.File.Listing

/-!
# The configuration files of the device

`bacnet file config` lists the configuration-files property and sets its entries. Other
code changes the File objects between the commands, but not the property.
`fileConfig_run` says what a run of commands makes of the property: each entry is the
last one that a command has accepted for it, which was a File object then.
-/

namespace BacnetZephyr

open CLib JsonText Transition

/-- `OBJECT_FILE`. -/
def objectFile : UInt32 := 10

/--
The configuration-files property of the device, of `FILE_CONFIG_COUNT` entries, and the
File objects.
-/
structure ConfigurationFiles where
  State : Type
  /-- `FILE_CONFIG_COUNT`. -/
  count : ℕ
  deviceConfigurationFile : State → ℕ → UInt32
  deviceConfigurationFileSet : State → ℕ → UInt32 → Bool × State
  bacfileValidInstance : State → UInt32 → Bool
  set_stored : ∀ state index objectInstance,
    (deviceConfigurationFileSet state index objectInstance).1 = true →
    deviceConfigurationFile (deviceConfigurationFileSet state index objectInstance).2 =
      Function.update (deviceConfigurationFile state) index objectInstance
  set_failed : ∀ state index objectInstance,
    (deviceConfigurationFileSet state index objectInstance).1 = false →
    deviceConfigurationFile (deviceConfigurationFileSet state index objectInstance).2 =
      deviceConfigurationFile state

structure ConfigReply where
  status : Int
  output : CString
  errors : List CString

section Command

/-- The members of an entry. -/
def configMembers (index : ℕ) (objectInstance : UInt32) : List (CString × CString) :=
  [("index".toList, unsignedText index), ("object-type".toList, unsignedText objectFile.toNat),
    ("instance".toList, unsignedText objectInstance.toNat)]

variable (files : ConfigurationFiles) (library : FileShellLibrary)
  (bactextObjectTypeStrtol : CString → Option UInt32)

/-- One round of the loop that lists the entries. -/
def fileConfigRound (entry : ℕ → UInt32) (index : ℕ) : CString :=
  objectText (configMembers (index + 1) (entry index)) ++
    (if index + 1 < files.count then ",".toList else []) ++ ['\n']

def fileConfigListing (entry : ℕ → UInt32) : CString :=
  "\x7b\"configuration-files\":[".toList ++ '\n' ::
    ((List.range files.count).flatMap (fileConfigRound files entry) ++
      ("],\"configuration-files-size\":".toList ++ (unsignedText files.count ++ ['\x7d', '\n'])))

def cmdFileConfig (state : files.State) (argv : List CString) : ConfigReply × files.State :=
  match argv with
  | [_] => (⟨0, fileConfigListing files (files.deviceConfigurationFile state), []⟩, state)
  | [_, indexText, typeText, instanceText] =>
      match library.bacnetStringToUint32 indexText with
      | none => (⟨-Errno.einval, [], ["Invalid configuration-files index: ".toList ++ indexText ++
          ". Must be 1-".toList ++ unsignedText files.count ++ ".".toList]⟩, state)
      | some index =>
          if index < 1 ∨ files.count < index.toNat then
            (⟨-Errno.einval, [], ["Invalid configuration-files index: ".toList ++ indexText ++
              ". Must be 1-".toList ++ unsignedText files.count ++ ".".toList]⟩, state)
          else
            match bactextObjectTypeStrtol typeText with
            | none => (⟨-Errno.einval, [], ["Invalid object-type: ".toList ++ typeText]⟩, state)
            | some objectType =>
                if objectType ≠ objectFile then
                  (⟨-Errno.einval, [],
                    ["configuration-files entries must be File objects".toList]⟩, state)
                else
                  match library.bacnetStringToUint32 instanceText with
                  | none => (⟨-Errno.einval, [], ["File instance ".toList ++ instanceText ++
                      " does not exist".toList]⟩, state)
                  | some objectInstance =>
                      if !files.bacfileValidInstance state objectInstance then
                        (⟨-Errno.einval, [], ["File instance ".toList ++ instanceText ++
                          " does not exist".toList]⟩, state)
                      else
                        let (set, state) := files.deviceConfigurationFileSet state
                          (index - 1).toNat objectInstance
                        if !set then
                          (⟨-Errno.eio, [], ["Unable to set configuration-files entry ".toList ++
                            unsignedText index.toNat]⟩, state)
                        else
                          (⟨0, objectText (configMembers index.toNat objectInstance) ++ ['\n'],
                            []⟩, state)
  | _ => (⟨-Errno.einval, [],
      ["Usage: bacnet file config [<index> <object-type> <instance>]".toList]⟩, state)

end Command

/-! ## One command -/

section Done

variable (files : ConfigurationFiles) (library : FileShellLibrary)
  (bactextObjectTypeStrtol : CString → Option UInt32)

/-- The fields of an entry. -/
def configFields (index : ℕ) (objectInstance : UInt32) : List (List Char × Json) :=
  [("index".toList, .number (unsignedText index)),
    ("object-type".toList, .number (unsignedText objectFile.toNat)),
    ("instance".toList, .number (unsignedText objectInstance.toNat))]

/-- The property as a document. -/
def configDocument (entry : ℕ → UInt32) : Json :=
  .object
    [("configuration-files".toList, .array ((List.range files.count).map fun index =>
        .object (configFields (index + 1) (entry index)))),
      ("configuration-files-size".toList, .number (unsignedText files.count))]

/-- An entry that a command has set: its index, from zero, and the instance. -/
structure ConfigUpdate where
  index : ℕ
  objectInstance : UInt32

/-- The entry that the arguments name. -/
def updateOf (argv : List CString) : Option ConfigUpdate :=
  match argv with
  | [_, indexText, _, instanceText] =>
      match library.bacnetStringToUint32 indexText, library.bacnetStringToUint32 instanceText with
      | some index, some objectInstance => some ⟨index.toNat - 1, objectInstance⟩
      | _, _ => none
  | _ => none

/-- What a command does to the entries, and what it prints. -/
inductive ConfigDone (before : files.State) (argv : List CString) :
    ConfigReply → (ℕ → UInt32) → Prop where
  | listed {output : CString} (alone : argv.length = 1)
      (printed : ElementText output
        (configDocument files (files.deviceConfigurationFile before))) :
      ConfigDone before argv ⟨0, output, []⟩ (files.deviceConfigurationFile before)
  | stored {output : CString} {update : ConfigUpdate}
      (named : updateOf library argv = some update)
      (isFile : argv[2]?.bind bactextObjectTypeStrtol = some objectFile)
      (inside : update.index < files.count)
      (valid : files.bacfileValidInstance before update.objectInstance = true)
      (printed : ElementText output
        (.object (configFields (update.index + 1) update.objectInstance))) :
      ConfigDone before argv ⟨0, output, []⟩
        (Function.update (files.deviceConfigurationFile before) update.index
          update.objectInstance)
  | rejected {status : Int} {message : CString} (failed : status ≠ 0) :
      ConfigDone before argv ⟨status, [], [message]⟩ (files.deviceConfigurationFile before)

theorem isField_configMembers (index : ℕ) (objectInstance : UInt32) :
    List.Forall₂ IsField (configMembers index objectInstance)
      (configFields index objectInstance) := by
  apply List.Forall₂.cons (isField_unsigned _ rfl _)
  apply List.Forall₂.cons (isField_unsigned _ rfl _)
  exact .cons (isField_unsigned _ rfl _) .nil

theorem fileConfigListing_eq (entry : ℕ → UInt32) :
    fileConfigListing files entry =
      '\x7b' :: commaText [memberText ("configuration-files".toList,
          dataText ((List.range files.count).map fun index =>
            objectText (configMembers (index + 1) (entry index)))),
        memberText ("configuration-files-size".toList, unsignedText files.count)] ++
      ['\x7d', '\n'] := by
  have rounds := @flatMap_rounds (fun index => objectText (configMembers (index + 1) (entry index)))
    (fileConfigRound files entry) files.count (fun _ => rfl) 0 files.count
    (Nat.zero_add files.count)
  rw [← List.range_eq_range'] at rounds
  have front : "\x7b\"configuration-files\":[".toList =
      '\x7b' :: '"' :: ("configuration-files".toList ++ ['"', ':', '[']) := rfl
  have back : "],\"configuration-files-size\":".toList =
      ']' :: ',' :: '"' :: ("configuration-files-size".toList ++ ['"', ':']) := rfl
  unfold fileConfigListing
  rw [rounds, front, back]
  simp only [commaText_cons_cons, memberText, dataText]
  simp

/-- The listing is one JSON value with the entries in their order. -/
theorem elementText_fileConfigListing (entry : ℕ → UInt32) :
    ElementText (fileConfigListing files entry) (configDocument files entry) := by
  have entries : List.Forall₂ ValueText
      ((List.range files.count).map fun index =>
        objectText (configMembers (index + 1) (entry index)))
      ((List.range files.count).map fun index =>
        .object (configFields (index + 1) (entry index))) := by
    rw [List.forall₂_map_left_iff, List.forall₂_map_right_iff]
    apply List.forall₂_same.mpr
    intro index _
    exact valueText_objectText (isField_configMembers _ _)
  have list : IsField ("configuration-files".toList, dataText _)
      ("configuration-files".toList, .array _) := ⟨rfl, rfl, valueText_dataText entries⟩
  have object := valueText_objectText (.cons list
    (.cons (isField_unsigned "configuration-files-size".toList rfl files.count) .nil))
  have element := ElementText.spaced blank_nil object blank_lineEnd
  rw [fileConfigListing_eq]
  simpa [objectText, configDocument] using element

theorem elementText_configMembers (index : ℕ) (objectInstance : UInt32) :
    ElementText (objectText (configMembers index objectInstance) ++ ['\n'])
      (.object (configFields index objectInstance)) :=
  .spaced blank_nil (valueText_objectText (isField_configMembers index objectInstance))
    blank_lineEnd

/-- An index from one is the place of its entry, plus one. -/
theorem toNat_pred_add_one {index : UInt32} (positive : ¬index < 1) :
    (index - 1).toNat + 1 = index.toNat ∧ (index - 1).toNat = index.toNat - 1 := by
  have lower : 1 ≤ index := UInt32.not_lt.mp positive
  have same := UInt32.toNat_sub_of_le index 1 lower
  have number : (1 : UInt32).toNat = 1 := rfl
  rw [UInt32.le_iff_toNat_le, number] at lower
  rw [number] at same
  omega

/-- Every command lists, stores one entry, or is rejected and changes no entry. -/
theorem configDone_cmdFileConfig (before : files.State) (argv : List CString) :
    ConfigDone files library bactextObjectTypeStrtol before argv
      (cmdFileConfig files library bactextObjectTypeStrtol before argv).1
      (files.deviceConfigurationFile
        (cmdFileConfig files library bactextObjectTypeStrtol before argv).2) := by
  unfold cmdFileConfig
  split
  · exact .listed rfl (elementText_fileConfigListing files _)
  · rename_i command indexText typeText instanceText
    cases number : library.bacnetStringToUint32 indexText with
    | none => exact .rejected einval_ne_zero
    | some index =>
        dsimp only
        split
        · exact .rejected einval_ne_zero
        rename_i inRange
        obtain ⟨positive, inside⟩ := not_or.mp inRange
        cases named : bactextObjectTypeStrtol typeText with
        | none => exact .rejected einval_ne_zero
        | some objectType =>
            dsimp only
            split
            · exact .rejected einval_ne_zero
            rename_i isFile
            rw [ne_eq, not_not] at isFile
            subst isFile
            cases parsed : library.bacnetStringToUint32 instanceText with
            | none => exact .rejected einval_ne_zero
            | some objectInstance =>
                dsimp only
                split
                · exact .rejected einval_ne_zero
                rename_i valid
                rw [Bool.not_eq_true, Bool.not_eq_false'] at valid
                split
                · rename_i failed
                  rw [Bool.not_eq_true'] at failed
                  rw [files.set_failed before _ _ failed]
                  exact .rejected (by decide)
                · rename_i set
                  rw [Bool.not_eq_true, Bool.not_eq_false'] at set
                  rw [files.set_stored before _ _ set]
                  have place := toNat_pred_add_one positive
                  have printed : ElementText
                      (objectText (configMembers index.toNat objectInstance) ++ ['\n'])
                      (.object (configFields ((index - 1).toNat + 1) objectInstance)) := by
                    rw [place.1]
                    exact elementText_configMembers index.toNat objectInstance
                  refine @ConfigDone.stored files library _ before _ _
                    ⟨(index - 1).toNat, objectInstance⟩ ?_ ?_ ?_ valid printed
                  · simp [updateOf, number, parsed, place.2]
                  · simp [named]
                  · dsimp only
                    omega
  · exact .rejected einval_ne_zero

end Done

/-! ## Runs -/

/-- A command with its reply, or a step of other code. -/
inductive ConfigEvent where
  | command (argv : List CString) (reply : ConfigReply)
  | other

section Runs

variable (files : ConfigurationFiles) (library : FileShellLibrary)
  (bactextObjectTypeStrtol : CString → Option UInt32)

inductive ConfigStep : files.State → ConfigEvent → files.State → Prop where
  | command {before after : files.State} {argv : List CString} {reply : ConfigReply}
      (done : cmdFileConfig files library bactextObjectTypeStrtol before argv = (reply, after)) :
      ConfigStep before (.command argv reply) after
  | other {before after : files.State}
      (kept : files.deviceConfigurationFile after = files.deviceConfigurationFile before) :
      ConfigStep before .other after

/-- The entry that a command has set. -/
def ConfigEvent.accepted (event : ConfigEvent) : Option ConfigUpdate :=
  match event with
  | .command argv reply => if reply.status = 0 then updateOf library argv else none
  | .other => none

def ConfigUpdate.store (entry : ℕ → UInt32) (update : ConfigUpdate) : ℕ → UInt32 :=
  Function.update entry update.index update.objectInstance

/-- The entries that the accepted commands leave, from those that were there first. -/
def storedEntries (entry : ℕ → UInt32) (taken : List (Taken files.State ConfigEvent)) :
    ℕ → UInt32 :=
  (taken.filterMap fun transition => transition.label.accepted library).foldl
    ConfigUpdate.store entry

end Runs

section Results

variable {files : ConfigurationFiles} {library : FileShellLibrary}
  {bactextObjectTypeStrtol : CString → Option UInt32} {first last : files.State}
  {taken : List (Taken files.State ConfigEvent)}

/-- What a command that is over has done. -/
theorem configDone_of_eq {before after : files.State} {argv : List CString} {reply : ConfigReply}
    (done : cmdFileConfig files library bactextObjectTypeStrtol before argv = (reply, after)) :
    ConfigDone files library bactextObjectTypeStrtol before argv reply
      (files.deviceConfigurationFile after) := by
  have command := configDone_cmdFileConfig files library bactextObjectTypeStrtol before argv
  rw [done] at command
  exact command

/-- A list of one argument names no entry. -/
theorem updateOf_of_length_eq_one {argv : List CString} (alone : argv.length = 1) :
    updateOf library argv = none := by
  obtain ⟨command, rfl⟩ := List.length_eq_one_iff.mp alone
  rfl

/-- A step leaves what the accepted command, if there is one, makes of the entries. -/
theorem ConfigStep.entries {before after : files.State} {event : ConfigEvent}
    (move : ConfigStep files library bactextObjectTypeStrtol before event after) :
    files.deviceConfigurationFile after =
      (event.accepted library).toList.foldl ConfigUpdate.store
        (files.deviceConfigurationFile before) := by
  cases move with
  | other kept => exact kept
  | command done =>
      have command := configDone_of_eq done
      generalize files.deviceConfigurationFile after = entries at command ⊢
      cases command with
      | listed alone printed =>
          simp [ConfigEvent.accepted, updateOf_of_length_eq_one alone]
      | stored named isFile inside valid printed =>
          simp [ConfigEvent.accepted, named, ConfigUpdate.store]
      | rejected failed => simp [ConfigEvent.accepted, failed]

theorem storedEntries_append (entry : ℕ → UInt32) (taken : List (Taken files.State ConfigEvent))
    (transition : Taken files.State ConfigEvent) :
    storedEntries files library entry (taken ++ [transition]) =
      (transition.label.accepted library).toList.foldl ConfigUpdate.store
        (storedEntries files library entry taken) := by
  cases accepted : transition.label.accepted library <;> simp [storedEntries, accepted]

/-- The entries are those that the accepted commands have left. -/
theorem entries_of_run
    (run : Run (ConfigStep files library bactextObjectTypeStrtol) first taken last) :
    files.deviceConfigurationFile last =
      storedEntries files library (files.deviceConfigurationFile first) taken := by
  induction run with
  | start => rfl
  | @next taken middle last event run move ih =>
      rw [storedEntries_append, move.entries, ih]

/--
In every run the entries are those that the accepted commands have left, before each
command and at the end; each command lists them, sets one of them to a File object that is
there at that moment, or is rejected.
-/
theorem fileConfig_run
    (run : Run (ConfigStep files library bactextObjectTypeStrtol) first taken last) :
    files.deviceConfigurationFile last =
        storedEntries files library (files.deviceConfigurationFile first) taken ∧
      ∀ early before argv reply after late,
        taken = early ++ ⟨before, .command argv reply, after⟩ :: late →
        files.deviceConfigurationFile before =
            storedEntries files library (files.deviceConfigurationFile first) early ∧
          ConfigDone files library bactextObjectTypeStrtol before argv reply
            (files.deviceConfigurationFile after) := by
  refine ⟨entries_of_run run, ?_⟩
  rintro early before argv reply after late rfl
  obtain ⟨front, move, back⟩ := run.split
  refine ⟨entries_of_run front, ?_⟩
  cases move with
  | command done => exact configDone_of_eq done

end Results

section Example

/-- One entry, and the File object 7. -/
def ConfigurationFiles.single : ConfigurationFiles where
  State := ℕ → UInt32
  count := 1
  deviceConfigurationFile := id
  deviceConfigurationFileSet := fun entry index objectInstance =>
    (true, Function.update entry index objectInstance)
  bacfileValidInstance := fun _ objectInstance => objectInstance = 7
  set_stored := fun _ _ _ _ => rfl
  set_failed := fun _ _ _ failed => by contradiction

def objectTypeTen (text : CString) : Option UInt32 :=
  if text = "10".toList then some objectFile else none

def configSeven : List CString := ["config".toList, "1".toList, "10".toList, "7".toList]

/-- The entry is set. -/
def configStored : ConfigReply × (ℕ → UInt32) :=
  cmdFileConfig .single .reference objectTypeTen (fun _ => 0) configSeven

/-- Then the entries are listed. -/
def configListed : ConfigReply × (ℕ → UInt32) :=
  cmdFileConfig .single .reference objectTypeTen configStored.2 ["config".toList]

def configTaken : List (Taken (ℕ → UInt32) ConfigEvent) :=
  [⟨fun _ => 0, .command configSeven configStored.1, configStored.2⟩,
    ⟨configStored.2, .command ["config".toList] configListed.1, configListed.2⟩]

theorem fileConfig_run_seven :
    configListed.2 = storedEntries .single .reference (fun _ => 0) configTaken ∧
      ∀ early before argv reply after late,
        configTaken = early ++ ⟨before, .command argv reply, after⟩ :: late →
        before = storedEntries .single .reference (fun _ => 0) early ∧
          ConfigDone .single .reference objectTypeTen before argv reply after :=
  @fileConfig_run .single .reference objectTypeTen (fun _ => 0) configListed.2 configTaken
    ((Run.start.next (.command rfl)).next (.command rfl))

example : configListed.2 0 = 7 := by decide

end Example

end BacnetZephyr
