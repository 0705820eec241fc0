import BacnetZephyr.Shell.File.Import
import BacnetZephyr.Shell.File.Reference

/-!
# Downloading a file

`cmd_file_read` prints one chunk of a file and reports the end of the file when the
chunk is shorter than requested. A host that reads chunk after chunk until then gets
the whole file: `hostDownload_file`.
-/

namespace BacnetZephyr

open CLib Program

/-- The fields of the object printed by `cmd_file_read`. -/
structure ReadReply where
  objectInstance : ℕ
  offset : ℕ
  length : ℕ
  data : CString
  eof : Bool
deriving DecidableEq, Repr

def ReadReply.text (reply : ReadReply) : CString :=
  "\x7b\"instance\":".toList ++ unsignedText reply.objectInstance ++ ",\"offset\":".toList ++
    unsignedText reply.offset ++ ",\"length\":".toList ++ unsignedText reply.length ++
    ",\"data\":\"".toList ++ reply.data ++ "\",\"eof\":".toList ++
    (if reply.eof then "true" else "false").toList ++ "\x7d".toList

section Commands

variable (config : FileShellConfig) (library : FileShellLibrary)

/-- The length option, a whole chunk when it is missing. -/
def fileReadLength (options : List CString) : FileProgram (Except Int ℕ) :=
  let invalid : FileProgram (Except Int ℕ) := do
    shellError ("Read length must be between 1 and ".toList ++ unsignedText config.chunkSize)
    return .error (-Errno.einval)
  match options with
  | [] => return .ok config.chunkSize
  | value :: _ =>
      match library.bacnetStringToUint32 value with
      | none => invalid
      | some requested =>
          if requested = 0 ∨ config.chunkSize < requested.toNat then invalid
          else return .ok requested.toNat

def cmdFileRead (argv : List CString) : FileProgram Int := do
  if argv.length < 3 ∨ 4 < argv.length then
    shellError "Usage: bacnet file read <instance> <offset> [len]".toList
    return -Errno.einval
  else
    match ← fileInstanceParse library (argv[1]?.getD []) with
    | .error err => return err
    | .ok objectInstance =>
        match ← fileOffsetParse library (argv[2]?.getD []) with
        | .error err => return err
        | .ok offset =>
            match ← fileReadLength config library (argv.drop 3) with
            | .error err => return err
            | .ok requested =>
                match ← filePathRequire objectInstance with
                | .error err => return err
                | .ok _ =>
                    let err ← fileStreamRequire objectInstance
                    if err ≠ 0 then return err
                    else if (← bacfileFileSize objectInstance) < offset then
                      let fileSize ← bacfileFileSize objectInstance
                      shellError ("Offset ".toList ++ unsignedText offset ++
                        " is past end of file (".toList ++ unsignedText fileSize ++ ")".toList)
                      return -Errno.einval
                    else
                      let data ← bacfileReadOffset objectInstance offset requested
                      let bytesRead := data.1.length
                      let hex :=
                        if 0 < bytesRead then library.bin2hex data.1 (2 * config.chunkSize + 1)
                        else []
                      if 0 < bytesRead ∧ hex.length ≠ 2 * bytesRead then
                        shellError "Unable to encode read data as hex".toList
                        return -Errno.eio
                      else
                        let reply : ReadReply :=
                          { objectInstance := objectInstance.toNat, offset, length := bytesRead,
                            data := hex, eof := decide (bytesRead < requested) }
                        shellPrint reply.text
                        return 0

end Commands

/-! ## The host -/

/-- The fields of a reply without white space. -/
def decodeReadReply (text : CString) : Option ReadReply :=
  (tokenAfter "\x7b\"instance\":".toList Char.isDigit text).bind fun objectInstance =>
    (tokenAfter ",\"offset\":".toList Char.isDigit objectInstance.2).bind fun offset =>
      (tokenAfter ",\"length\":".toList Char.isDigit offset.2).bind fun length =>
        (tokenAfter ",\"data\":\"".toList (isDigitOf 16) length.2).bind fun data =>
          (tokenAfter "\",\"eof\":".toList Char.isLower data.2).map fun eof =>
            { objectInstance := digitsValue 10 objectInstance.1
              offset := digitsValue 10 offset.1
              length := digitsValue 10 length.1
              data := data.1
              eof := eof.1 = "true".toList }

theorem decodeReadReply_text (reply : ReadReply)
    (hex : ∀ character ∈ reply.data, isDigitOf 16 character) :
    decodeReadReply reply.text = some reply := by
  have decimal : ∀ number, ∀ character ∈ unsignedText number, character.isDigit :=
    fun _ _ mem => isDigit_of_mem_toDigits mem
  have nested : ∀ a b c d e f g h i j k : CString,
      a ++ b ++ c ++ d ++ e ++ f ++ g ++ h ++ i ++ j ++ k =
        a ++ (b ++ (c ++ (d ++ (e ++ (f ++ (g ++ (h ++ (i ++ (j ++ k))))))))) := by
    simp only [List.append_assoc, implies_true]
  have offsetHead : (",\"offset\":".toList).head? = some ',' := rfl
  have lengthHead : (",\"length\":".toList).head? = some ',' := rfl
  have dataHead : (",\"data\":\"".toList).head? = some ',' := rfl
  have eofHead : ("\",\"eof\":".toList).head? = some '"' := rfl
  have endHead : ("\x7d".toList).head? = some '\x7d' := rfl
  have lower : ∀ character ∈ (if reply.eof then "true" else "false").toList,
      character.isLower := by
    cases reply.eof <;> simp
  have truth : decide ((if reply.eof then "true" else "false").toList = "true".toList) =
      reply.eof := by
    cases reply.eof <;> decide
  unfold ReadReply.text decodeReadReply
  rw [nested, tokenAfter_append (decimal _) (head?_append_of_some offsetHead _) rfl,
    Option.bind_some, tokenAfter_append (decimal _) (head?_append_of_some lengthHead _) rfl,
    Option.bind_some, tokenAfter_append (decimal _) (head?_append_of_some dataHead _) rfl,
    Option.bind_some, tokenAfter_append hex (head?_append_of_some eofHead _) rfl,
    Option.bind_some, tokenAfter_append lower endHead rfl, Option.map_some]
  dsimp only
  rw [digitsValue_toDigits, digitsValue_toDigits, digitsValue_toDigits, truth]

section Download

variable (config : FileShellConfig) (library : FileShellLibrary) (world : FileWorld)

/-- One exchange: the reply to an accepted `read` command, and the state it leaves. -/
def hostRead (objectInstance : UInt32) (offset length : ℕ) (state : world.State) :
    Option (ReadReply × world.State) :=
  let outcome := (bacnetShellLockHandler (cmdFileRead config library
    ["read".toList, unsignedText objectInstance.toNat, unsignedText offset,
      unsignedText length])).run world state
  if outcome.value = 0 then
    match printedLines (observations outcome.trace) with
    | [line] => (decodeReadReply line).map fun reply => (reply, outcome.state)
    | _ => none
  else none

/--
The loop of the host with a bound on the number of reads: the replies it gets, and the
bytes it has received when a reply says that the end is reached.
-/
def hostDownload (objectInstance : UInt32) (length : ℕ) :
    ℕ → ℕ → List UInt8 → world.State → Option (List ReadReply × List UInt8)
  | 0, _, _, _ => none
  | bound + 1, offset, received, state =>
      match hostRead config library world objectInstance offset length state with
      | none => none
      | some (reply, state) =>
          match hexPairs reply.data with
          | none => none
          | some bytes =>
              if reply.eof then some ([reply], received ++ bytes)
              else
                (hostDownload objectInstance length bound (offset + reply.length)
                  (received ++ bytes) state).map fun later => (reply :: later.1, later.2)

end Download

/-! ## Reading a file that does not change -/

/-- The answers of the file as long as it does not change. -/
def StoredFile.AnswersReads (file : StoredFile) (call : FileCall) (response : call.Response) :
    Prop :=
  (∀ size, call ≠ .kMalloc size) → file.Answers call response

/-- `bacnet_string_to_uint32` reads back the decimal text of a number. -/
def ParsesNumbers (library : FileShellLibrary) : Prop :=
  ∀ number : UInt32, library.bacnetStringToUint32 (unsignedText number.toNat) = some number

def readBytes (file : StoredFile) (offset length : ℕ) : List UInt8 :=
  (file.content.drop offset).take length

def readReply (file : StoredFile) (offset length : ℕ) : ReadReply where
  objectInstance := file.objectInstance.toNat
  offset := offset
  length := (readBytes file offset length).length
  data := hexText (readBytes file offset length)
  eof := decide ((readBytes file offset length).length < length)

section Unchanging

variable {config : FileShellConfig} {library : FileShellLibrary} {file : StoredFile}

theorem ensures_fileInstanceParse_reads
    (parsed : library.bacnetStringToUint32 (unsignedText file.objectInstance.toNat) =
      some file.objectInstance) :
    FileEnsures file.AnswersReads
      (fileInstanceParse library (unsignedText file.objectInstance.toNat))
      (fun result => result = .ok file.objectInstance) [] := by
  simp only [fileInstanceParse, parsed]
  apply FileEnsures.quiet_call rfl
  intro valid validAllowed
  rw [validAllowed (by simp) rfl]
  exact Ensures.pure rfl

theorem ensures_filePathRequire_reads :
    FileEnsures file.AnswersReads (filePathRequire file.objectInstance)
      (fun required => required = .ok file.pathname) [] := by
  simp only [filePathRequire]
  apply FileEnsures.quiet_call rfl
  intro pathname pathnameAllowed
  rw [pathnameAllowed (by simp) rfl]
  rcases List.exists_cons_of_ne_nil file.pathname_ne with ⟨first, rest, path⟩
  simp only [path]
  exact Ensures.pure rfl

theorem ensures_fileStreamRequire_reads :
    FileEnsures file.AnswersReads (fileStreamRequire file.objectInstance) (fun err => err = 0)
      [] := by
  simp only [fileStreamRequire]
  apply FileEnsures.quiet_call rfl
  intro stream streamAllowed
  rw [streamAllowed (by simp) rfl]
  exact Ensures.pure rfl

theorem ensures_fileReadLength (parses : ParsesNumbers library) {length : ℕ}
    (positive : 1 ≤ length) (small : length ≤ config.chunkSize) :
    FileEnsures file.AnswersReads (fileReadLength config library [unsignedText length])
      (fun result => result = .ok length) [] := by
  have chunkSize := config.chunkSize_range
  have back : (UInt32.ofNat length).toNat = length := by
    rw [UInt32.toNat_ofNat', Nat.mod_eq_of_lt]
    omega
  have parsed := parses (UInt32.ofNat length)
  rw [back] at parsed
  have inRange : ¬(UInt32.ofNat length = 0 ∨ config.chunkSize < (UInt32.ofNat length).toNat) := by
    rintro (zero | large)
    · rw [zero] at back
      simp at back
      omega
    · omega
  simp only [fileReadLength, parsed]
  rw [if_neg inRange, back]
  exact Ensures.pure rfl

/-- A read at any offset up to the end is accepted, the one at the end included. -/
theorem ensures_cmdFileRead (parses : ParsesNumbers library) (command : CString)
    {offset length : ℕ} (inside : offset ≤ file.content.length) (positive : 1 ≤ length)
    (small : length ≤ config.chunkSize) :
    FileEnsures file.AnswersReads
      (cmdFileRead config library [command, unsignedText file.objectInstance.toNat,
        unsignedText offset, unsignedText length])
      (fun rc => rc = 0)
      [.bacfileReadOffset file.objectInstance offset length,
        .shellPrint (readReply file offset length).text] := by
  have size := file.content_le
  have back : (UInt32.ofNat offset).toNat = offset := by
    rw [UInt32.toNat_ofNat', Nat.mod_eq_of_lt]
    simp only [int32Max] at size
    omega
  have parsed := parses (UInt32.ofNat offset)
  rw [back] at parsed
  simp only [cmdFileRead, List.length_cons, List.length_nil, List.drop_succ_cons, List.drop_zero,
    List.getElem?_cons_succ, List.getElem?_cons_zero, Option.getD_some]
  rw [if_neg (by omega)]
  apply Ensures.quiet_bind (ensures_fileInstanceParse_reads (parses file.objectInstance))
  rintro _ rfl
  apply Ensures.quiet_bind (ensures_fileOffsetParse parsed (by omega))
  rintro _ rfl
  apply Ensures.quiet_bind (ensures_fileReadLength parses positive small)
  rintro _ rfl
  apply Ensures.quiet_bind ensures_filePathRequire_reads
  rintro _ rfl
  apply Ensures.quiet_bind ensures_fileStreamRequire_reads
  rintro _ rfl
  rw [if_neg (by simp)]
  apply FileEnsures.quiet_call rfl
  intro fileSize sizeAllowed
  obtain rfl : fileSize = file.content.length := sizeAllowed (by simp) rfl
  rw [back, if_neg (by omega)]
  apply FileEnsures.observed_call rfl
  rintro ⟨data, short⟩ dataAllowed
  obtain rfl : data = readBytes file offset length := dataAllowed (by simp) rfl
  have hex : (if 0 < (readBytes file offset length).length then
      library.bin2hex (readBytes file offset length) (2 * config.chunkSize + 1) else []) =
        hexText (readBytes file offset length) := by
    split
    · exact library.bin2hex_eq _ _ (by omega)
    · have none : readBytes file offset length = [] := List.eq_nil_of_length_eq_zero (by omega)
      rw [none]
      rfl
  simp only [hex]
  rw [if_neg (by rw [length_hexText]; omega)]
  apply FileEnsures.observed_call rfl
  intro _ _
  exact Ensures.pure rfl

/-- A world in which the file does not change. -/
def Unchanging (file : StoredFile) (world : FileWorld) : Prop :=
  ∀ state call, file.AnswersReads call (world.respond state call).1

variable {world : FileWorld}

theorem hostRead_file (parses : ParsesNumbers library) (unchanging : Unchanging file world)
    {offset length : ℕ} (inside : offset ≤ file.content.length) (positive : 1 ≤ length)
    (small : length ≤ config.chunkSize) (state : world.State) :
    ∃ next, hostRead config library world file.objectInstance offset length state =
      some (readReply file offset length, next) := by
  have ensures := ensures_bacnetShellLockHandler
    (ensures_cmdFileRead parses "read".toList inside positive small)
  rcases ensures.sound world state (mem_trace_allowed unchanging _ state) with ⟨accepted, observed⟩
  have decoded := decodeReadReply_text (readReply file offset length)
    fun _ mem => isDigitOf_of_mem_hexText mem
  simp only [hostRead]
  rw [if_pos accepted, observations, observed]
  simp only [printedLines, List.filterMap_cons, List.filterMap_nil, decoded, Option.map_some]
  exact ⟨_, rfl⟩

/-- From an offset on, the host gets the rest of the file. -/
theorem hostDownload_from (parses : ParsesNumbers library) (unchanging : Unchanging file world)
    {offset length : ℕ} (inside : offset ≤ file.content.length) (positive : 1 ≤ length)
    (small : length ≤ config.chunkSize) (state : world.State) :
    ∃ replies, hostDownload config library world file.objectInstance length
        ((file.content.length - offset) / length + 1) offset (file.content.take offset) state =
          some (replies, file.content) ∧
      replies.length = (file.content.length - offset) / length + 1 := by
  induction remaining : file.content.length - offset using Nat.strong_induction_on
    generalizing offset state with
  | _ left ih =>
      rcases hostRead_file parses unchanging inside positive small state with ⟨next, answered⟩
      have bytes : hexPairs (readReply file offset length).data =
          some (readBytes file offset length) := hexPairs_hexText _
      have size : (readBytes file offset length).length =
          min length (file.content.length - offset) := by
        rw [readBytes, List.length_take, List.length_drop]
      simp only [hostDownload, answered, bytes]
      by_cases short : file.content.length - offset < length
      · have ended : (readReply file offset length).eof = true := by
          simp only [readReply, size, decide_eq_true_eq]
          omega
        have rest : readBytes file offset length = file.content.drop offset := by
          apply List.take_of_length_le
          rw [List.length_drop]
          omega
        rw [if_pos ended, rest, List.take_append_drop, ← remaining, Nat.div_eq_of_lt short]
        exact ⟨_, rfl, rfl⟩
      · have goesOn : ¬(readReply file offset length).eof = true := by
          simp only [readReply, size, decide_eq_true_eq]
          omega
        have advance : (readReply file offset length).length = length := by
          simp only [readReply, size]
          omega
        have more : left / length =
            (file.content.length - (offset + length)) / length + 1 := by
          rw [Nat.div_eq_sub_div positive (by omega)]
          congr 2
          omega
        rcases ih (file.content.length - (offset + length)) (by omega) (by omega) next rfl
          with ⟨replies, received, count⟩
        rw [if_neg goesOn, advance, readBytes, ← List.take_add, more, received]
        refine ⟨_, rfl, ?_⟩
        rw [List.length_cons, count]

/--
The host that reads in steps of the length gets every read accepted, stops after
`size / length + 1` reads, and has the bytes of the file.
-/
theorem hostDownload_file (config : FileShellConfig) (library : FileShellLibrary)
    (parses : ParsesNumbers library) (file : StoredFile) (world : FileWorld)
    (unchanging : Unchanging file world) (state : world.State) (length : ℕ)
    (positive : 1 ≤ length) (small : length ≤ config.chunkSize) :
    ∃ replies, hostDownload config library world file.objectInstance length
        (file.content.length / length + 1) 0 [] state = some (replies, file.content) ∧
      replies.length = file.content.length / length + 1 := by
  exact hostDownload_from parses unchanging (Nat.zero_le _) positive small state

end Unchanging

theorem parsesNumbers_reference : ParsesNumbers FileShellLibrary.reference := by
  intro number
  have nonempty : unsignedText number.toNat ≠ [] := by
    rw [← List.length_pos_iff]
    exact Nat.length_toDigits_pos
  have decimal : (unsignedText number.toNat).all Char.isDigit = true := by
    rw [List.all_eq_true]
    exact fun _ mem => isDigit_of_mem_toDigits mem
  have value := digitsValue_toDigits number.toNat
  simp only [FileShellLibrary.reference, value]
  rw [if_pos ⟨nonempty, decimal, number.toNat_lt⟩, UInt32.ofNat_toNat]

/-- Five bytes in steps of two take three reads. -/
theorem hostDownload_file_five :
    ∃ replies, hostDownload .pairs .reference StoredFile.five.world 7 2 3 0 [] (0 : ℕ) =
        some (replies, [0, 1, 254, 255, 16]) ∧
      replies.length = 3 :=
  hostDownload_file .pairs .reference parsesNumbers_reference .five StoredFile.five.world
    (fun state call _ => StoredFile.five.world_answers state call) (0 : ℕ) 2 (by decide)
    (by decide)

end BacnetZephyr
