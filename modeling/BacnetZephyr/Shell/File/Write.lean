import BacnetZephyr.Shell.File.ExportRun
import BacnetZephyr.Shell.File.Import
import BacnetZephyr.Shell.File.Read

/-!
# Writing to a file

`cmd_file_write` and `cmd_file_import` read an instance, an offset and hexadecimal digits in
two ways and share `file_write_hex`. Nothing is assumed of the answers. A command that
rejects its request has not written, one that succeeds has written once, and the two agree
on equal fields: `fileWrite_kept`.
-/

namespace BacnetZephyr

open CLib Program

def FileCall.isWrite : FileCall → Bool
  | .bacfileWriteOffset _ _ _ => true
  | _ => false

/-- The calls of `bacfile_write_offset`, with the number of bytes each has written. -/
def writeEvents (trace : List FileEvent) : List FileEvent :=
  trace.filter fun event => event.1.isWrite

/-- The call that writes the data, and writes all of it. -/
def wholeWrite (objectInstance : UInt32) (offset : ℕ) (data : List UInt8) : FileEvent :=
  ⟨.bacfileWriteOffset objectInstance offset data, data.length⟩

@[simp]
theorem writeEvents_nil : writeEvents [] = [] := rfl

@[simp]
theorem writeEvents_cons_of_not_write {event : FileEvent} (other : event.1.isWrite = false)
    (trace : List FileEvent) : writeEvents (event :: trace) = writeEvents trace :=
  List.filter_cons_of_neg (Bool.eq_false_iff.mp other)

@[simp]
theorem writeEvents_append (first second : List FileEvent) :
    writeEvents (first ++ second) = writeEvents first ++ writeEvents second :=
  List.filter_append ..

/-! ## What a request is -/

section Requests

variable (library : FileShellLibrary)

/-- The instance, the offset and the digits that the arguments of a write give. -/
def writeRequest : List CString → Option (UInt32 × UInt32 × CString)
  | [_, instanceText, offsetText, hex] =>
      match library.bacnetStringToUint32 instanceText, library.bacnetStringToUint32 offsetText with
      | some objectInstance, some offset => some (objectInstance, offset, hex)
      | _, _ => none
  | _ => none

/-- The instance, the offset and the digits that the chunk of an import gives. -/
def importRequest : List CString → Option (UInt32 × UInt32 × CString)
  | [_, json] =>
      let (parsedFields, chunk) := library.jsonObjParse json
      if parsedFields = 7 then
        match fileImportUint32Parse chunk.objectInstance, fileImportUint32Parse chunk.offset,
            chunk.data with
        | some objectInstance, some offset, some hex => some (objectInstance, offset, hex)
        | _, _, _ => none
      else none
  | _ => none

end Requests

/--
A command has not written unless it succeeds or reports a failed write. If it succeeds, it
has written the bytes of the request once, and all of them.
-/
structure WritesRequest (request : Option (UInt32 × UInt32 × CString)) (status : Int)
    (trace : List FileEvent) : Prop where
  rejected : status ≠ 0 → status ≠ -Errno.eio → writeEvents trace = []
  written : status = 0 → ∃ objectInstance offset hex data,
    request = some (objectInstance, offset, hex) ∧ offset.toNat ≤ int32Max ∧
      hexPairs hex = some data ∧
      writeEvents trace = [wholeWrite objectInstance offset.toNat data]

/-- The two programs end alike and do the same to the file, in every world. -/
structure AgreeOnFile (program other : FileProgram Int) (world : FileWorld)
    (state : world.State) : Prop where
  value : (program.run world state).value = (other.run world state).value
  writes : writeEvents (program.run world state).trace = writeEvents (other.run world state).trace
  /-- What only writes can change is the same afterwards. -/
  file : ∀ {Content : Type} (file : world.State → Content),
    (∀ state call, call.isWrite = false → file (world.respond state call).2 = file state) →
    file (program.run world state).state = file (other.run world state).state

/-! ## What is written -/

section Writes

variable {config : FileShellConfig} {library : FileShellLibrary}

/-- A request that is rejected: an error, and nothing written. -/
def Rejected (status : Int) (trace : List FileEvent) : Prop :=
  status ≠ 0 ∧ writeEvents trace = []

theorem Rejected.writesRequest {request : Option (UInt32 × UInt32 × CString)} {status : Int}
    {trace : List FileEvent} (rejected : Rejected status trace) :
    WritesRequest request status trace where
  rejected _ _ := rejected.2
  written success := absurd success rejected.1

/-- A program that only reports an error. -/
theorem always_reported {request : Option (UInt32 × UInt32 × CString)} (text : CString) {err : Int}
    (nonzero : err ≠ 0) :
    Always (do
      shellError text
      return err) (WritesRequest request) := by
  apply Always.call
  intro _
  exact Always.pure (Rejected.writesRequest ⟨nonzero, rfl⟩)

theorem always_filePathRequire (objectInstance : UInt32) :
    Always (filePathRequire objectInstance) fun required trace => writeEvents trace = [] ∧
      ∀ err, required = .error err → err ≠ 0 := by
  simp only [filePathRequire]
  apply Always.call
  intro pathname
  split
  · exact Always.pure ⟨rfl, fun err impossible => by cases impossible⟩
  · apply Always.call
    intro _
    refine Always.pure ⟨rfl, fun err same => ?_⟩
    cases same
    decide

theorem always_fileWritablePathRequire (objectInstance : UInt32) :
    Always (fileWritablePathRequire objectInstance) fun required trace => writeEvents trace = [] ∧
      ∀ err, required = .error err → err ≠ 0 := by
  simp only [fileWritablePathRequire]
  apply Always.bind (always_filePathRequire objectInstance)
  rintro (err | pathname) trace ⟨quiet, nonzero⟩
  · refine Always.pure ⟨?_, fun err' same => ?_⟩
    · simp [quiet]
    · cases same
      exact nonzero _ rfl
  · apply Always.call
    intro readOnly
    split
    · apply Always.call
      intro _
      refine Always.pure ⟨?_, fun err same => ?_⟩
      · rw [writeEvents_append, quiet]
        rfl
      · cases same
        decide
    · refine Always.pure ⟨?_, fun err impossible => by cases impossible⟩
      rw [writeEvents_append, quiet]
      rfl

theorem always_fileStreamRequire (objectInstance : UInt32) :
    Always (fileStreamRequire objectInstance) fun _ trace => writeEvents trace = [] := by
  simp only [fileStreamRequire]
  apply Always.call
  intro stream
  split
  · exact Always.pure rfl
  · apply Always.call
    intro _
    exact Always.pure rfl

/-- Bytes are converted only from pairs of digits. -/
theorem hexPairs_of_hex2bin {hex : CString} {size : ℕ} (nonempty : hex.length ≠ 0)
    (even : hex.length % 2 = 0) (small : hex.length / 2 ≤ size)
    (whole : (library.hex2bin hex size).length = hex.length / 2) :
    hexPairs hex = some (library.hex2bin hex size) := by
  rw [library.hex2bin_eq hex size even small] at whole ⊢
  cases pairs : hexPairs hex with
  | none =>
      rw [pairs, Option.getD_none, List.length_nil] at whole
      omega
  | some data => rfl

/-- Every check of the digits and of the file comes before the one write. -/
theorem always_fileWriteHex (objectInstance : UInt32) {offset : UInt32}
    (inside : offset.toNat ≤ int32Max) (hex : CString) :
    Always (fileWriteHex config library objectInstance offset.toNat hex)
      (WritesRequest (some (objectInstance, offset, hex))) := by
  simp only [fileWriteHex]
  split
  · exact always_reported _ (by decide)
  · rename_i nonempty
    split
    · exact always_reported _ (by decide)
    · rename_i small
      split
      · exact always_reported _ (by decide)
      · rename_i even
        split
        · exact always_reported _ (by decide)
        · rename_i whole
          apply Always.bind (always_fileWritablePathRequire objectInstance)
          rintro (err | pathname) pathTrace ⟨pathQuiet, nonzero⟩
          · refine Always.pure (Rejected.writesRequest ⟨nonzero err rfl, ?_⟩)
            simp [pathQuiet]
          · apply Always.bind (always_fileStreamRequire objectInstance)
            intro err streamTrace streamQuiet
            split
            · rename_i failed
              refine Always.pure (Rejected.writesRequest ⟨failed, ?_⟩)
              simp [pathQuiet, streamQuiet]
            · apply Always.call
              intro bytesWritten
              split
              · apply Always.call
                intro _
                apply Always.pure
                exact ⟨fun _ reported => absurd rfl reported,
                  fun success => absurd success (by decide)⟩
              · rename_i complete
                apply Always.call
                intro _
                apply Always.pure
                refine ⟨fun failed => absurd rfl failed, fun _ => ?_⟩
                rw [ne_eq, not_not] at even whole complete
                have pairs := hexPairs_of_hex2bin nonempty even (by omega) whole
                refine ⟨objectInstance, offset, hex, _, rfl, inside, pairs, ?_⟩
                simp only [writeEvents_append, pathQuiet, streamQuiet, List.nil_append]
                rw [wholeWrite, whole, ← complete]
                rfl

theorem WritesRequest.after_quiet {request : Option (UInt32 × UInt32 × CString)} {status : Int}
    {before trace : List FileEvent} (quiet : writeEvents before = [])
    (writes : WritesRequest request status trace) :
    WritesRequest request status (before ++ trace) where
  rejected failed other := by
    rw [writeEvents_append, quiet, writes.rejected failed other]
    rfl
  written success := by
    rw [writeEvents_append, quiet]
    exact writes.written success

theorem einval_ne_zero : -Errno.einval ≠ 0 := by decide

theorem always_fileInstanceParse (value : CString) :
    Always (fileInstanceParse library value) fun parsed trace => writeEvents trace = [] ∧
      match parsed with
      | .error err => err ≠ 0
      | .ok objectInstance => library.bacnetStringToUint32 value = some objectInstance := by
  simp only [fileInstanceParse]
  split
  · apply Always.call
    intro _
    exact Always.pure ⟨rfl, einval_ne_zero⟩
  · rename_i number
    apply Always.call
    intro valid
    split
    · exact Always.pure ⟨rfl, number⟩
    · apply Always.call
      intro _
      exact Always.pure ⟨rfl, einval_ne_zero⟩

theorem always_fileOffsetParse (value : CString) :
    Always (fileOffsetParse library value) fun parsed trace => writeEvents trace = [] ∧
      match parsed with
      | .error err => err ≠ 0
      | .ok offset => ∃ number : UInt32, library.bacnetStringToUint32 value = some number ∧
          offset = number.toNat ∧ number.toNat ≤ int32Max := by
  simp only [fileOffsetParse]
  split
  · apply Always.call
    intro _
    exact Always.pure ⟨rfl, einval_ne_zero⟩
  · rename_i offset number
    split
    · apply Always.call
      intro _
      exact Always.pure ⟨rfl, einval_ne_zero⟩
    · rename_i inside
      exact Always.pure ⟨rfl, offset, number, rfl, Nat.not_lt.mp inside⟩

theorem always_cmdFileWrite (argv : List CString) :
    Always (cmdFileWrite config library argv) (WritesRequest (writeRequest library argv)) := by
  simp only [cmdFileWrite]
  split
  · rename_i command instanceText offsetText hex
    apply Always.bind (always_fileInstanceParse instanceText)
    rintro (err | objectInstance) instanceTrace ⟨instanceQuiet, parsed⟩
    · refine Always.pure (Rejected.writesRequest ⟨parsed, ?_⟩)
      rw [writeEvents_append, instanceQuiet]
      rfl
    · apply Always.bind (always_fileOffsetParse offsetText)
      rintro (err | offset) offsetTrace ⟨offsetQuiet, read⟩
      · refine Always.pure (Rejected.writesRequest ⟨read, ?_⟩)
        rw [writeEvents_append, writeEvents_append, instanceQuiet, offsetQuiet]
        rfl
      · rcases read with ⟨number, isNumber, rfl, inside⟩
        have request : writeRequest library [command, instanceText, offsetText, hex] =
            some (objectInstance, number, hex) := by
          simp only [writeRequest, parsed, isNumber]
        rw [request]
        apply wp_mono (always_fileWriteHex objectInstance inside hex)
        intro status trace writes
        exact (writes.after_quiet offsetQuiet).after_quiet instanceQuiet
  · exact always_reported _ (by decide)

theorem always_cmdFileImport (argv : List CString) :
    Always (cmdFileImport config library argv) (WritesRequest (importRequest library argv)) := by
  simp only [cmdFileImport]
  split
  · rename_i command json
    split
    · exact always_reported _ (by decide)
    · rename_i fields
      rw [ne_eq, not_not] at fields
      split
      · rename_i objectInstance offset data isInstance isOffset isData
        apply Always.call
        intro valid
        split
        · apply Always.call
          intro _
          exact Always.pure (Rejected.writesRequest ⟨einval_ne_zero, rfl⟩)
        · split
          · apply Always.call
            intro _
            exact Always.pure (Rejected.writesRequest ⟨einval_ne_zero, rfl⟩)
          · rename_i inside
            have request : importRequest library [command, json] =
                some (objectInstance, offset, data) := by
              simp only [importRequest, fields, if_true, isInstance, isOffset, isData]
            rw [request]
            apply wp_mono (always_fileWriteHex objectInstance (Nat.not_lt.mp inside) data)
            intro status trace writes
            exact @WritesRequest.after_quiet _ _ [_] _ rfl writes
      · exact always_reported _ (by decide)
  · exact always_reported _ (by decide)

end Writes

/-! ## Programs that do the same to the file -/

section Agree

variable {world : FileWorld} {state : world.State}

/-- Without a write, what only writes can change stays. -/
theorem file_run {Content : Type} {file : world.State → Content}
    (keeps : ∀ state call, call.isWrite = false → file (world.respond state call).2 = file state)
    (program : FileProgram Int) (state : world.State)
    (quiet : writeEvents (program.run world state).trace = []) :
    file (program.run world state).state = file state := by
  induction program generalizing state with
  | done value => rfl
  | call op next ih =>
      simp only [run] at quiet ⊢
      cases written : op.isWrite with
      | true =>
          exact absurd written (List.filter_eq_nil_iff.mp quiet _ List.mem_cons_self)
      | false =>
          rw [writeEvents_cons_of_not_write written] at quiet
          rw [ih _ _ quiet, keeps state op written]

theorem AgreeOnFile.refl (program : FileProgram Int) : AgreeOnFile program program world state :=
  ⟨rfl, rfl, fun _ _ => rfl⟩

/-- Programs that agree for every response agree behind the call. -/
theorem AgreeOnFile.call {op : FileCall} {next other : op.Response → FileProgram Int}
    (agree : ∀ response after, AgreeOnFile (next response) (other response) world after) :
    AgreeOnFile (op.perform >>= next) (op.perform >>= other) world state := by
  have after := agree (world.respond state op).1 (world.respond state op).2
  refine ⟨after.value, ?_, after.file⟩
  show writeEvents (⟨op, _⟩ :: _) = writeEvents (⟨op, _⟩ :: _)
  simp only [writeEvents, List.filter_cons]
  exact congrArg (fun writes => if op.isWrite = true then _ :: writes else writes) after.writes

/-- The program reports an invalid argument and writes nothing. -/
abbrev Refuses (program : FileProgram Int) : Prop :=
  Always program fun status trace => status = -Errno.einval ∧ writeEvents trace = []

theorem AgreeOnFile.of_refuses {program other : FileProgram Int} (first : Refuses program)
    (second : Refuses other) : AgreeOnFile program other world state := by
  have ⟨value, quiet⟩ := wp_sound first world state fun _ _ => trivial
  have ⟨value', quiet'⟩ := wp_sound second world state fun _ _ => trivial
  refine ⟨value.trans value'.symm, quiet.trans quiet'.symm, ?_⟩
  intro Content file keeps
  rw [file_run keeps program state quiet, file_run keeps other state quiet']

theorem refuses_shellError (text : CString) :
    Refuses (do
      shellError text
      return -Errno.einval) := by
  apply Always.call
  intro _
  exact Always.pure ⟨rfl, rfl⟩

end Agree

/-! ## The two ways to read a number -/

/-- `bacnet_string_to_uint32` reads the decimal text of a number that has 32 bits. -/
structure ParsesDecimal (library : FileShellLibrary) : Prop where
  number : ParsesNumbers library
  tooLarge : ∀ number, uint32Max < number →
    library.bacnetStringToUint32 (unsignedText number) = none

/-- Digits whose value has more than 32 bits are not read. -/
theorem importDigits_of_lt {digits : CString} {parsed : ℕ}
    (digit : ∀ character ∈ digits, character.isDigit) (small : parsed ≤ uint32Max)
    (large : uint32Max < Nat.ofDigitChars 10 digits parsed) :
    importDigits parsed digits = none := by
  induction digits generalizing parsed with
  | nil =>
      rw [Nat.ofDigitChars_nil] at large
      omega
  | cons first rest ih =>
      rw [List.forall_mem_cons] at digit
      rw [Nat.ofDigitChars_cons] at large
      rw [importDigits_cons digit.1]
      split
      · rename_i room
        exact ih digit.2 room large
      · rfl

theorem fileImportUint32Parse_large {number : ℕ} (large : uint32Max < number) :
    fileImportUint32Parse (some (unsignedText number)) = none := by
  have value : Nat.ofDigitChars 10 (unsignedText number) 0 = number :=
    Nat.ofDigitChars_toDigits (by decide) (by decide)
  have digits : importDigits 0 (unsignedText number) = none :=
    importDigits_of_lt (fun _ mem => isDigit_of_mem_toDigits mem) (Nat.zero_le _)
      (by rw [value]; exact large)
  simp only [fileImportUint32Parse, digits]
  split
  · rfl
  · rfl

variable {config : FileShellConfig} {library : FileShellLibrary}

/-- Decimal texts without leading zeros are the same number for both commands. -/
theorem fileImportUint32Parse_eq (parses : ParsesDecimal library) (number : ℕ) :
    fileImportUint32Parse (some (unsignedText number)) =
      library.bacnetStringToUint32 (unsignedText number) := by
  by_cases large : uint32Max < number
  · rw [fileImportUint32Parse_large large, parses.tooLarge number large]
  · have back : (UInt32.ofNat number).toNat = number := by
      rw [UInt32.toNat_ofNat', Nat.mod_eq_of_lt]
      simp only [uint32Max] at large
      omega
    have parsed := parses.number (UInt32.ofNat number)
    rw [back] at parsed
    rw [fileImportUint32Parse_unsignedText (Nat.not_lt.mp large), parsed]

/-- With the fields of the arguments in its chunk, an import does what the write does. -/
theorem cmdFileImport_agree (parses : ParsesDecimal library) {command other json hex : CString}
    {objectInstance offset : ℕ}
    (parsed : library.jsonObjParse json =
      (7, ⟨some (unsignedText objectInstance), some (unsignedText offset), some hex⟩))
    (world : FileWorld) (state : world.State) :
    AgreeOnFile (cmdFileImport config library [command, json])
      (cmdFileWrite config library
        [other, unsignedText objectInstance, unsignedText offset, hex]) world state := by
  have sameInstance := fileImportUint32Parse_eq parses objectInstance
  have sameOffset := fileImportUint32Parse_eq parses offset
  simp only [cmdFileImport, cmdFileWrite, parsed, sameInstance, sameOffset, fileInstanceParse,
    fileOffsetParse]
  rcases library.bacnetStringToUint32 (unsignedText objectInstance) with _ | number
  · apply AgreeOnFile.of_refuses
    · exact refuses_shellError _
    · exact refuses_shellError _
  · rcases library.bacnetStringToUint32 (unsignedText offset) with _ | place
    · apply AgreeOnFile.of_refuses
      · exact refuses_shellError _
      · apply Always.call
        intro valid
        cases valid with
        | true => exact refuses_shellError _
        | false => exact refuses_shellError _
    · apply AgreeOnFile.call
      intro valid after
      cases valid with
      | true =>
          by_cases large : int32Max < place.toNat
          · simp only [large, if_true]
            exact AgreeOnFile.of_refuses (refuses_shellError _) (refuses_shellError _)
          · simp only [large, if_false]
            exact AgreeOnFile.refl _
      | false => exact AgreeOnFile.of_refuses (refuses_shellError _) (refuses_shellError _)

/-- What is promised of the two commands that write. -/
structure FileWriteKept (config : FileShellConfig) (library : FileShellLibrary) : Prop where
  written : ∀ (argv : List CString) (world : FileWorld) (state : world.State),
    let outcome := (cmdFileWrite config library argv).run world state
    WritesRequest (writeRequest library argv) outcome.value outcome.trace
  imported : ∀ (argv : List CString) (world : FileWorld) (state : world.State),
    let outcome := (cmdFileImport config library argv).run world state
    WritesRequest (importRequest library argv) outcome.value outcome.trace
  agree : ∀ (command other json hex : CString) (objectInstance offset : ℕ),
    library.jsonObjParse json =
      (7, ⟨some (unsignedText objectInstance), some (unsignedText offset), some hex⟩) →
    ∀ (world : FileWorld) (state : world.State),
      AgreeOnFile (cmdFileImport config library [command, json])
        (cmdFileWrite config library
          [other, unsignedText objectInstance, unsignedText offset, hex]) world state

/--
A rejected write or import has written nothing, a successful one its data at once and as a
whole, and for the same decimal fields the two do the same.
-/
theorem fileWrite_kept (config : FileShellConfig) (library : FileShellLibrary)
    (parses : ParsesDecimal library) : FileWriteKept config library where
  written argv _ state := wp_sound (always_cmdFileWrite argv) _ state fun _ _ => trivial
  imported argv _ state := wp_sound (always_cmdFileImport argv) _ state fun _ _ => trivial
  agree _ _ _ _ _ _ parsed world state := cmdFileImport_agree parses parsed world state

theorem parsesDecimal_reference : ParsesDecimal FileShellLibrary.reference where
  number := parsesNumbers_reference
  tooLarge number large := by
    have value : digitsValue 10 (unsignedText number) = number := digitsValue_toDigits number
    have long : ¬digitsValue 10 (unsignedText number) < 2 ^ 32 := by
      simp only [uint32Max] at large
      omega
    exact if_neg fun decimal => long decimal.2.2

/-- Two bytes at offset four, and an offset that is too large. -/
theorem fileWrite_kept_seven :
    AgreeOnFile
        (cmdFileImport .pairs .reference ["import".toList, importChunkText 7 4 "0a0b".toList])
        (cmdFileWrite .pairs .reference
          ["write".toList, "7".toList, "4".toList, "0a0b".toList])
        WritableFile.seven.world ([] : List UInt8) ∧
      AgreeOnFile
        (cmdFileImport .pairs .reference
          ["import".toList, importChunkText 7 4294967296 "0a0b".toList])
        (cmdFileWrite .pairs .reference
          ["write".toList, "7".toList, "4294967296".toList, "0a0b".toList])
        WritableFile.seven.world ([] : List UInt8) := by
  have kept := fileWrite_kept .pairs .reference parsesDecimal_reference
  have digits : ∀ character ∈ "0a0b".toList, isDigitOf 16 character := List.all_eq_true.mp rfl
  exact ⟨kept.agree _ _ _ _ 7 4 (FileShellLibrary.reference.jsonObjParse_chunk _ _ _ digits) _ _,
    kept.agree _ _ _ _ 7 4294967296
      (FileShellLibrary.reference.jsonObjParse_chunk _ _ _ digits) _ _⟩

end BacnetZephyr
