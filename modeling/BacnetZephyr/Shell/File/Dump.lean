import BacnetZephyr.Foundation.ByteStream
import BacnetZephyr.Foundation.HexDump
import BacnetZephyr.Shell.File.Reference
import BacnetZephyr.Shell.File.Transfer

/-!
# Dumping a file

`cmd_file_dump` prints rows of sixteen bytes. The two blanks in the middle of a row end
the row for `xxd -r`, so that only its first half is read back: `dumpRestored_iff` says
that a dump restores its range exactly when the range has no more than eight bytes.
-/

namespace BacnetZephyr

open CLib Program ByteStream

/-- A byte of a row; blanks stand for a missing one. -/
def dumpByte (data : List UInt8) (index : ℕ) : CString :=
  match data[index]? with
  | some byte => hexByte byte
  | none => [' ', ' ']

def dumpCharacter (data : List UInt8) (index : ℕ) : Char :=
  match data[index]? with
  | some byte => if 0x20 ≤ byte ∧ byte ≤ 0x7e then Char.ofNat byte.toNat else '.'
  | none => '.'

def dumpPair (data : List UInt8) (index : ℕ) : CString :=
  dumpByte data index ++ (dumpByte data (index + 1) ++ if index = 6 then [' ', ' '] else [' '])

/-- `file_dump_line`: the printed row. -/
def fileDumpLine (offset : ℕ) (data : List UInt8) : CString :=
  hexWord offset ++ ':' :: ' ' ::
    ([0, 2, 4, 6, 8, 10, 12, 14].flatMap (dumpPair data) ++
      (" |".toList ++ ((List.range 16).map (dumpCharacter data) ++ "|".toList)))

/-- The loop of `cmd_file_dump`, with the release after it. -/
def fileDumpLoop (transfer : FileTransfer) (offset remaining : ℕ) : FileProgram Int :=
  if 0 < remaining then do
    let requested := min remaining 16
    match ← fileTransferRead transfer offset requested with
    | .error err =>
        transfer.release
        fileTransferChanged transfer.objectInstance err
    | .ok data =>
        let bytesRead := data.1.length
        if bytesRead = 0 then
          transfer.release
          return 0
        else
          shellPrint (fileDumpLine offset data.1)
          if bytesRead < requested then
            transfer.release
            return 0
          else fileDumpLoop transfer (offset + bytesRead) (remaining - bytesRead)
  else do
    transfer.release
    return 0
termination_by remaining
decreasing_by omega

section Command

variable (library : FileShellLibrary)

/-- The offset option, 0 when it is missing. -/
def fileDumpOffset (options : List CString) : FileProgram (Except Int ℕ) :=
  match options with
  | [] => return .ok 0
  | value :: _ => fileOffsetParse library value

def fileDumpLength (options : List CString) : FileProgram (Except Int (Option ℕ)) :=
  match options with
  | [_, value] =>
      match library.bacnetStringToUint32 value with
      | none => do
          shellError ("Invalid dump length: ".toList ++ value)
          return .error (-Errno.einval)
      | some length => return .ok (some length.toNat)
  | _ => return .ok none

def cmdFileDump (argv : List CString) : FileProgram Int := do
  if argv.length < 2 ∨ 4 < argv.length then
    shellError "Usage: bacnet file dump <instance> [offset] [len]".toList
    return -Errno.einval
  else
    match ← fileInstanceNumberParse library (argv[1]?.getD []) with
    | .error err => return err
    | .ok objectInstance =>
        match ← fileDumpOffset library (argv.drop 2) with
        | .error err => return err
        | .ok offset =>
            match ← fileDumpLength library (argv.drop 2) with
            | .error err => return err
            | .ok length =>
                match ← fileTransferOpen objectInstance with
                | .error err => return err
                | .ok transfer =>
                    if transfer.fileSize < offset then
                      shellError ("Offset ".toList ++ unsignedText offset ++
                        " is past end of file (".toList ++ unsignedText transfer.fileSize ++
                        ")".toList)
                      transfer.release
                      return -Errno.einval
                    else
                      match length with
                      | none => fileDumpLoop transfer offset (transfer.fileSize - offset)
                      | some remaining =>
                          if int32Max - offset < remaining then
                            shellError "Dump range exceeds the stream offset limit".toList
                            transfer.release
                            return -Errno.eoverflow
                          else fileDumpLoop transfer offset remaining

end Command

/-! ## Rows that are read back -/

/-- Of a row its offset and its first eight bytes are read back. -/
theorem xxdRow_fileDumpLine (offset : ℕ) {data : List UInt8} (nonempty : data ≠ []) :
    xxdRow (fileDumpLine offset data) = (offset, data.take 8) := by
  have colon : digitValue ':' = none := rfl
  have blank : digitValue ' ' = none := rfl
  rw [fileDumpLine, xxdRow_hexWord offset colon, rowBytes_before blank]
  generalize " |".toList ++ ((List.range 16).map (dumpCharacter data) ++ "|".toList) = column
  -- the row ends with its last byte when that is one of the first eight
  match data, nonempty with
  | [_], _ | [_, _], _ | [_, _, _], _ | [_, _, _, _], _ | [_, _, _, _, _], _
  | [_, _, _, _, _, _], _ | [_, _, _, _, _, _, _], _
  | _ :: _ :: _ :: _ :: _ :: _ :: _ :: _ :: _, _ =>
      simp [dumpPair, dumpByte]

/-- What a reader sees in a row: the number before the colon, and the digits before the bar. -/
def dumpLineRow (line : CString) : ℕ × Option (List UInt8) :=
  let place := line.takeWhile (isDigitOf 16)
  let columns := (line.dropWhile (isDigitOf 16)).takeWhile (· ≠ '|')
  (digitsValue 16 place, hexPairs (columns.filter (isDigitOf 16)))

/-- The digits of a byte of a row, if there is such a byte. -/
def byteDigits (data : List UInt8) (index : ℕ) : CString := (data[index]?.map hexByte).getD []

theorem filter_dumpByte (data : List UInt8) (index : ℕ) :
    (dumpByte data index).filter (isDigitOf 16) = byteDigits data index := by
  rw [dumpByte, byteDigits]
  cases data[index]? with
  | none => rfl
  | some byte => exact List.filter_eq_self.mpr fun _ mem => isDigitOf_of_mem_hexByte mem

theorem filter_dumpPair (data : List UInt8) (index : ℕ) :
    (dumpPair data index).filter (isDigitOf 16) =
      byteDigits data index ++ byteDigits data (index + 1) := by
  have blanks : (if index = 6 then [' ', ' '] else [' ']).filter (isDigitOf 16) = [] := by
    split <;> rfl
  rw [dumpPair, List.filter_append, List.filter_append, filter_dumpByte, filter_dumpByte, blanks,
    List.append_nil]

theorem flatMap_byteDigits {data : List UInt8} {count : ℕ} (short : data.length ≤ count) :
    (List.range count).flatMap (byteDigits data) = hexText data := by
  induction data generalizing count with
  | nil => simp [byteDigits, hexText]
  | cons byte data ih =>
      rcases Nat.exists_eq_add_of_le' short with ⟨more, rfl⟩
      rw [List.length_cons, ← Nat.add_assoc, List.range_succ_eq_map, List.flatMap_cons,
        List.flatMap_map]
      exact congrArg (hexByte byte ++ ·) (ih (Nat.le_add_left _ _))

theorem ne_bar_of_mem_dumpPair {data : List UInt8} {index : ℕ} {character : Char}
    (mem : character ∈ dumpPair data index) : character ≠ '|' := by
  have ofByte : ∀ {index : ℕ}, character ∈ dumpByte data index → character ≠ '|' := by
    intro index mem
    rw [dumpByte] at mem
    rintro rfl
    split at mem
    · exact absurd (isDigitOf_of_mem_hexByte mem) (by decide)
    · exact absurd mem (by decide)
  rw [dumpPair, List.mem_append, List.mem_append] at mem
  rcases mem with first | second | blank
  · exact ofByte first
  · exact ofByte second
  · rintro rfl
    split at blank <;> exact absurd blank (by decide)

/-- A row determines its offset and all its bytes. -/
theorem dumpLineRow_fileDumpLine (offset : ℕ) {data : List UInt8} (short : data.length ≤ 16) :
    dumpLineRow (fileDumpLine offset data) = (offset, some data) := by
  have digits : ∀ character ∈ hexWord offset, isDigitOf 16 character :=
    fun _ mem => isDigitOf_of_mem_hexWord mem
  have colon : ¬isDigitOf 16 ':' = true := by decide
  have pairs : ([0, 2, 4, 6, 8, 10, 12, 14].flatMap (dumpPair data)).filter (isDigitOf 16) =
      hexText data := by
    rw [← flatMap_byteDigits short]
    simp only [List.flatMap_cons, List.flatMap_nil, List.filter_append, filter_dumpPair,
      List.filter_nil, List.range, List.range.loop, List.append_assoc]
  have columns : (':' :: ' ' :: ([0, 2, 4, 6, 8, 10, 12, 14].flatMap (dumpPair data) ++
      (" |".toList ++ ((List.range 16).map (dumpCharacter data) ++ "|".toList)))).takeWhile
        (· ≠ '|') = ':' :: ' ' :: ([0, 2, 4, 6, 8, 10, 12, 14].flatMap (dumpPair data) ++ [' ']) := by
    have noBar : ∀ character ∈ [0, 2, 4, 6, 8, 10, 12, 14].flatMap (dumpPair data),
        decide (character ≠ '|') = true := by
      intro character mem
      rcases List.mem_flatMap.mp mem with ⟨_, _, memPair⟩
      exact decide_eq_true (ne_bar_of_mem_dumpPair memPair)
    rw [List.takeWhile_cons_of_pos (by decide), List.takeWhile_cons_of_pos (by decide),
      List.takeWhile_append_of_pos noBar]
    rfl
  have kept : (':' :: ' ' :: ([0, 2, 4, 6, 8, 10, 12, 14].flatMap (dumpPair data) ++
      [' '])).filter (isDigitOf 16) = hexText data := by
    have colons : (':' :: ' ' :: ([0, 2, 4, 6, 8, 10, 12, 14].flatMap (dumpPair data) ++
        [' '])).filter (isDigitOf 16) =
          ([0, 2, 4, 6, 8, 10, 12, 14].flatMap (dumpPair data) ++ [' ']).filter (isDigitOf 16) :=
      rfl
    have blank : [' '].filter (isDigitOf 16) = [] := rfl
    rw [colons, List.filter_append, pairs, blank, List.append_nil]
  simp only [dumpLineRow, fileDumpLine]
  rw [List.takeWhile_append_of_pos digits, List.takeWhile_cons_of_neg colon, List.append_nil,
    List.dropWhile_append_of_pos digits, List.dropWhile_cons_of_neg colon, columns, kept,
    hexPairs_hexText, digitsValue_hexWord]

/-- The lines of rows show their offsets and bytes. -/
theorem map_dumpLineRow {rows : List (ℕ × List UInt8)}
    (short : ∀ row ∈ rows, row.2.length ≤ 16) :
    (rows.map fun row => fileDumpLine row.1 row.2).map dumpLineRow =
      rows.map fun row => (row.1, some row.2) := by
  rw [List.map_map]
  apply List.map_congr_left
  intro row mem
  exact dumpLineRow_fileDumpLine row.1 (short row mem)

/--
The rows of a dump, when they are read back, write exactly the bytes of the content in
the range.
-/
def DumpRestored (content : List UInt8) (offset length : ℕ) (rows : List CString) : Prop :=
  ∀ address byte, (address, byte) ∈ placed (rows.map xxdRow) ↔
    offset ≤ address ∧ address < offset + length ∧ content[address]? = some byte

def dumpRows (content : List UInt8) (offset length : ℕ) : List CString :=
  (pieces 16 (by decide) offset ((content.drop offset).take length)).map fun row =>
    fileDumpLine row.1 row.2

theorem map_xxdRow_dumpRows (content : List UInt8) (offset length : ℕ) :
    (dumpRows content offset length).map xxdRow =
      (pieces 16 (by decide) offset ((content.drop offset).take length)).map fun row =>
        (row.1, row.2.take 8) := by
  rw [dumpRows, List.map_map]
  apply List.map_congr_left
  intro row mem
  exact xxdRow_fileDumpLine row.1 (mem_pieces mem).1

theorem length_range {content : List UInt8} {offset length : ℕ}
    (inside : offset + length ≤ content.length) :
    ((content.drop offset).take length).length = length := by
  rw [List.length_take, List.length_drop]
  omega

/-- The ninth byte of a row is not read back, and no other row writes it. -/
theorem length_le_of_dumpRestored {content : List UInt8} {offset length : ℕ}
    (inside : offset + length ≤ content.length)
    (restored : DumpRestored content offset length (dumpRows content offset length)) :
    length ≤ 8 := by
  by_contra long
  have rangeLength := length_range inside
  have nonempty : (content.drop offset).take length ≠ [] :=
    List.ne_nil_of_length_pos (by omega)
  have beyond : offset + 8 < content.length := by omega
  have ninth := (restored (offset + 8) content[offset + 8]).mpr
    ⟨by omega, by omega, List.getElem?_eq_getElem beyond⟩
  rw [map_xxdRow_dumpRows, pieces_of_ne_nil nonempty, mem_placed] at ninth
  rcases ninth with ⟨row, memRow, index, present, address⟩
  rcases List.mem_map.mp memRow with ⟨piece, memPiece, rfl⟩
  have short := (List.getElem?_eq_some_iff.mp present).1
  rw [List.length_take] at short
  simp only at address
  rcases List.mem_cons.mp memPiece with rfl | later
  · omega
  · have := le_of_mem_pieces later
    omega

/-- A range of at most eight bytes is read back from its only row. -/
theorem dumpRestored_of_length_le {content : List UInt8} {offset length : ℕ}
    (inside : offset + length ≤ content.length) (short : length ≤ 8) :
    DumpRestored content offset length (dumpRows content offset length) := by
  intro address byte
  have rangeLength := length_range inside
  rw [map_xxdRow_dumpRows]
  by_cases empty : length = 0
  · rw [empty, List.take_zero, pieces_nil]
    simp only [placed, List.map_nil, List.flatMap_nil, List.not_mem_nil, false_iff, not_and]
    omega
  · have nonempty : (content.drop offset).take length ≠ [] :=
      List.ne_nil_of_length_pos (by omega)
    have nothing : ((content.drop offset).take length).drop 16 = [] :=
      List.drop_of_length_le (by omega)
    have oneRow : (((content.drop offset).take length).take 16).take 8 =
        (content.drop offset).take length := by
      rw [List.take_take, List.take_of_length_le (by omega)]
    rw [pieces_of_ne_nil nonempty, nothing, pieces_nil, mem_placed]
    simp only [List.map_cons, List.map_nil, List.mem_singleton, exists_eq_left, oneRow,
      List.getElem?_take, List.getElem?_drop]
    constructor
    · rintro ⟨index, present, rfl⟩
      by_cases within : index < length
      · rw [if_pos within] at present
        exact ⟨by omega, by omega, present⟩
      · rw [if_neg within] at present
        contradiction
    · rintro ⟨lower, upper, present⟩
      refine ⟨address - offset, ?_, by omega⟩
      rw [if_pos (by omega), Nat.add_sub_cancel' lower]
      exact present

/-- A range is restored exactly when it fits into the first half of a row. -/
theorem dumpRestored_dumpRows_iff {content : List UInt8} {offset length : ℕ}
    (inside : offset + length ≤ content.length) :
    DumpRestored content offset length (dumpRows content offset length) ↔ length ≤ 8 := by
  constructor
  · exact length_le_of_dumpRestored inside
  · exact dumpRestored_of_length_le inside

/-! ## Dumping a file that does not change -/

/-- The reads and the rows of the loop; at the end of the file a read gives less than asked. -/
def dumpCalls (file : StoredFile) (offset remaining : ℕ) : List FileCall :=
  if 0 < remaining then
    .bacfileReadOffset file.objectInstance offset (min remaining 16) ::
      if (file.content.drop offset).take (min remaining 16) = [] then []
      else
        .shellPrint (fileDumpLine offset ((file.content.drop offset).take (min remaining 16))) ::
          if ((file.content.drop offset).take (min remaining 16)).length < min remaining 16 then []
          else dumpCalls file (offset + min remaining 16) (remaining - min remaining 16)
  else []
termination_by remaining
decreasing_by omega

/-- The options of a dump, with the offset and the length that they ask for. -/
inductive DumpRequest (library : FileShellLibrary) : List CString → ℕ → Option ℕ → Prop where
  | whole : DumpRequest library [] 0 none
  | rest {value : CString} {offset : UInt32}
      (parsed : library.bacnetStringToUint32 value = some offset) :
      DumpRequest library [value] offset.toNat none
  | range {value value' : CString} {offset length : UInt32}
      (parsed : library.bacnetStringToUint32 value = some offset)
      (parsed' : library.bacnetStringToUint32 value' = some length) :
      DumpRequest library [value, value'] offset.toNat (some length.toNat)

/-- Options that ask for a range of the file. -/
inductive DumpRange (library : FileShellLibrary) (file : StoredFile) :
    List CString → ℕ → ℕ → Prop where
  | whole : DumpRange library file [] 0 file.content.length
  | rest {value : CString} {offset : UInt32}
      (parsed : library.bacnetStringToUint32 value = some offset)
      (inside : offset.toNat ≤ file.content.length) :
      DumpRange library file [value] offset.toNat (file.content.length - offset.toNat)
  | range {value value' : CString} {offset length : UInt32}
      (parsed : library.bacnetStringToUint32 value = some offset)
      (parsed' : library.bacnetStringToUint32 value' = some length)
      (inside : offset.toNat + length.toNat ≤ file.content.length) :
      DumpRange library file [value, value'] offset.toNat length.toNat

theorem DumpRange.inside {library : FileShellLibrary} {file : StoredFile} {options : List CString}
    {offset length : ℕ} (range : DumpRange library file options offset length) :
    offset + length ≤ file.content.length := by
  cases range with
  | whole => omega
  | rest parsed inside => omega
  | range parsed parsed' inside => exact inside

theorem DumpRange.request {library : FileShellLibrary} {file : StoredFile}
    {options : List CString} {offset length : ℕ}
    (range : DumpRange library file options offset length) :
    ∃ asked, DumpRequest library options offset asked ∧
      asked.getD (file.content.length - offset) = length := by
  cases range with
  | whole => exact ⟨none, .whole, rfl⟩
  | rest parsed inside => exact ⟨none, .rest parsed, rfl⟩
  | range parsed parsed' inside => exact ⟨_, .range parsed parsed', rfl⟩

/-- The rows of the calls are the pieces of the range, cut off at the end of the file. -/
theorem printedLines_dumpCalls (file : StoredFile) (offset remaining : ℕ) :
    printedLines (dumpCalls file offset remaining) = dumpRows file.content offset remaining := by
  induction remaining using Nat.strong_induction_on generalizing offset with
  | _ remaining ih =>
      rw [dumpCalls]
      split
      · rename_i positive
        have range : (file.content.drop offset).take remaining =
            (file.content.drop offset).take (min remaining 16) ++
              (file.content.drop (offset + min remaining 16)).take
                (remaining - min remaining 16) := by
          rw [← List.drop_drop, ← List.take_add, Nat.add_sub_cancel' (Nat.min_le_left _ _)]
        have rowLength : ((file.content.drop offset).take (min remaining 16)).length ≤
            min remaining 16 := List.length_take_le _ _
        split
        · rename_i ended
          have empty : file.content.drop offset = [] :=
            (List.take_eq_nil_iff.mp ended).resolve_left (by omega)
          rw [dumpRows, empty, List.take_nil, pieces_nil]
          rfl
        · rename_i nonempty
          split
          · rename_i short
            -- the file ends in this row
            have none : file.content.drop (offset + min remaining 16) = [] := by
              rw [List.length_take] at short
              rw [List.drop_eq_nil_iff]
              rw [List.length_drop] at short
              omega
            rw [dumpRows, range, none, List.take_nil,
              pieces_append nonempty (Or.inr ⟨by omega, rfl⟩), pieces_nil]
            rfl
          · rename_i whole
            have full : ((file.content.drop offset).take (min remaining 16)).length =
                min remaining 16 := by omega
            have whole : ((file.content.drop offset).take (min remaining 16)).length = 16 ∨
                ((file.content.drop offset).take (min remaining 16)).length ≤ 16 ∧
                  (file.content.drop (offset + min remaining 16)).take
                    (remaining - min remaining 16) = [] := by
              by_cases long : 16 ≤ remaining
              · exact Or.inl (by omega)
              · refine Or.inr ⟨by omega, ?_⟩
                rw [show remaining - min remaining 16 = 0 by omega, List.take_zero]
            have later := ih (remaining - min remaining 16) (by omega) (offset + min remaining 16)
            rw [dumpRows, range, pieces_append nonempty whole, full, List.map_cons, ← dumpRows,
              ← later]
            rfl
      · rename_i finished
        rw [dumpRows, Nat.eq_zero_of_not_pos finished, List.take_zero, pieces_nil]
        rfl

section Unchanging

variable {library : FileShellLibrary} {file : StoredFile}
  {allows : (call : FileCall) → call.Response → Prop}

/-- From an offset on, the loop prints the rows of the remaining range. -/
theorem ensures_fileDumpLoop (serves : Serves file allows) {transfer : FileTransfer}
    (captured : transfer.Of file) (offset remaining : ℕ) :
    FileEnsures allows (fileDumpLoop transfer offset remaining) (fun rc => rc = 0)
      (dumpCalls file offset remaining) := by
  have released : FileEnsures allows (transfer.release >>= fun _ => pure 0)
      (fun rc : Int => rc = 0) [] := by
    apply Ensures.quiet_bind (ensures_fileTransferRelease _ _ _)
    intro _ _
    exact Ensures.pure rfl
  induction remaining using Nat.strong_induction_on generalizing offset with
  | _ remaining ih =>
      rw [fileDumpLoop, dumpCalls]
      split
      · rename_i positive
        apply Ensures.observed_bind (ensures_fileTransferRead serves captured offset _)
        rintro _ ⟨⟨data, small⟩, rfl, bytes⟩
        simp only at bytes
        subst bytes
        simp only [List.length_eq_zero_iff]
        split
        · exact released
        · apply FileEnsures.observed_call rfl
          intro _ _
          split
          · exact released
          · rename_i whole
            have rowLength : ((file.content.drop offset).take (min remaining 16)).length =
                min remaining 16 := Nat.le_antisymm (List.length_take_le _ _) (Nat.not_lt.mp whole)
            rw [rowLength]
            exact ih (remaining - min remaining 16) (by omega) (offset + min remaining 16)
      · exact released

theorem ensures_fileDumpOffset {options : List CString} {offset : ℕ} {asked : Option ℕ}
    (request : DumpRequest library options offset asked) (small : offset ≤ int32Max) :
    FileEnsures allows (fileDumpOffset library options) (fun result => result = .ok offset) [] := by
  cases request with
  | whole => exact Ensures.pure rfl
  | rest parsed => exact ensures_fileOffsetParse parsed small
  | range parsed parsed' => exact ensures_fileOffsetParse parsed small

theorem ensures_fileDumpLength {options : List CString} {offset : ℕ} {asked : Option ℕ}
    (request : DumpRequest library options offset asked) :
    FileEnsures allows (fileDumpLength library options) (fun result => result = .ok asked) [] := by
  cases request with
  | whole => exact Ensures.pure rfl
  | rest parsed => exact Ensures.pure rfl
  | range parsed parsed' =>
      simp only [fileDumpLength, parsed']
      exact Ensures.pure rfl

/-- A request for an offset of the file is rejected for its length only. -/
theorem ensures_cmdFileDump (serves : Serves file allows) {command value : CString}
    {options : List CString} {offset : ℕ} {asked : Option ℕ}
    (parsed : library.bacnetStringToUint32 value = some file.objectInstance)
    (request : DumpRequest library options offset asked) (inside : offset ≤ file.content.length) :
    FileEnsures allows (cmdFileDump library (command :: value :: options))
      (fun rc => rc = if asked.any (int32Max < offset + ·) then -Errno.eoverflow else 0)
      (if asked.any (int32Max < offset + ·) then
        [.shellError "Dump range exceeds the stream offset limit".toList]
      else dumpCalls file offset (asked.getD (file.content.length - offset))) := by
  have small := Nat.le_trans inside file.content_le
  have usage : ¬((command :: value :: options).length < 2 ∨
      4 < (command :: value :: options).length) := by
    cases request <;> simp
  simp only [cmdFileDump]
  rw [if_neg usage]
  apply Ensures.quiet_bind (ensures_fileInstanceNumberParse parsed)
  rintro _ rfl
  apply Ensures.quiet_bind (ensures_fileDumpOffset request small)
  rintro _ rfl
  apply Ensures.quiet_bind (ensures_fileDumpLength request)
  rintro _ rfl
  apply Ensures.quiet_bind (ensures_fileTransferOpen serves)
  rintro _ ⟨transfer, rfl, captured⟩
  simp only [captured.fileSize]
  rw [if_neg (Nat.not_lt.mpr inside)]
  cases asked with
  | none => exact ensures_fileDumpLoop serves captured offset _
  | some asked =>
      by_cases long : int32Max < offset + asked
      · have exceeds : int32Max - offset < asked := by omega
        simp only [Option.any_some, long, exceeds, decide_true, if_true]
        apply FileEnsures.observed_call rfl
        intro _ _
        apply Ensures.quiet_bind (ensures_fileTransferRelease _ _ _)
        intro _ _
        exact Ensures.pure rfl
      · have fits : ¬int32Max - offset < asked := by omega
        simp only [Option.any_some, long, fits, decide_false, Bool.false_eq_true, if_false,
          Option.getD_some]
        exact ensures_fileDumpLoop serves captured offset asked

theorem cmdFileDump_dumpRows {command value : CString} {options : List CString}
    {offset length : ℕ} (world : FileWorld) (state : world.State)
    (parsed : library.bacnetStringToUint32 value = some file.objectInstance)
    (range : DumpRange library file options offset length)
    (unchanged : ∀ event ∈ ((cmdFileDump library (command :: value :: options)).run world
      state).trace, file.Answers event.1 event.2) :
    ((cmdFileDump library (command :: value :: options)).run world state).value = 0 ∧
      printedLines (observations
        ((cmdFileDump library (command :: value :: options)).run world state).trace) =
      dumpRows file.content offset length := by
  have serves : Serves file file.Answers := fun _ _ allowed => allowed
  have inside := range.inside
  have small := file.content_le
  rcases range.request with ⟨asked, request, rfl⟩
  have short : asked.any (int32Max < offset + ·) = false := by
    cases asked with
    | none => rfl
    | some asked =>
        rw [Option.getD_some] at inside
        exact decide_eq_false (by omega)
  have dumped := (ensures_cmdFileDump serves parsed request (by omega)).sound world state unchanged
  simp only [short, Bool.false_eq_true, if_false] at dumped
  refine ⟨dumped.1, ?_⟩
  rw [observations, dumped.2, printedLines_dumpCalls]

end Unchanging

/-- A dump is turned back into the bytes of its range exactly when these are at most eight. -/
theorem dumpRestored_iff (library : FileShellLibrary) (file : StoredFile) (world : FileWorld)
    (state : world.State) {command value : CString} {options : List CString} {offset length : ℕ}
    (parsed : library.bacnetStringToUint32 value = some file.objectInstance)
    (range : DumpRange library file options offset length)
    (unchanged : ∀ event ∈ ((cmdFileDump library (command :: value :: options)).run world
      state).trace, file.Answers event.1 event.2) :
    DumpRestored file.content offset length (printedLines (observations
        ((cmdFileDump library (command :: value :: options)).run world state).trace)) ↔
      length ≤ 8 := by
  rw [(cmdFileDump_dumpRows world state parsed range unchanged).2]
  exact dumpRestored_dumpRows_iff range.inside

/-- A file with a full row, the printable characters from the blank on, and one more byte. -/
def StoredFile.seventeen : StoredFile :=
  .plain 7 [32, 33, 34, 35, 36, 37, 38, 39, 40, 41, 42, 43, 44, 45, 46, 47, 255] (by decide)

/-- Eight bytes of the file from offset 9 on are restored. -/
theorem dumpRestored_iff_eight :
    DumpRestored StoredFile.seventeen.content 9 8 (printedLines (observations
        ((cmdFileDump .reference ["dump".toList, "7".toList, "9".toList]).run
          StoredFile.seventeen.world (0 : ℕ)).trace)) ↔
      8 ≤ 8 :=
  dumpRestored_iff .reference .seventeen StoredFile.seventeen.world (0 : ℕ) rfl
    (.rest (show FileShellLibrary.reference.bacnetStringToUint32 "9".toList = some 9 from rfl)
      (by decide))
    (mem_trace_allowed StoredFile.seventeen.world_answers _ _)

/-- The dump of the whole file does not restore it. -/
theorem not_dumpRestored_seventeen :
    ¬DumpRestored StoredFile.seventeen.content 0 17 (printedLines (observations
        ((cmdFileDump .reference ["dump".toList, "7".toList]).run
          StoredFile.seventeen.world (0 : ℕ)).trace)) := by
  have dumped := @cmdFileDump_dumpRows .reference .seventeen "dump".toList "7".toList [] 0 17
    StoredFile.seventeen.world (0 : ℕ) rfl .whole
    (mem_trace_allowed StoredFile.seventeen.world_answers _ _)
  rw [dumped.2, dumpRestored_dumpRows_iff (by decide)]
  decide

end BacnetZephyr
