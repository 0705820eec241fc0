import BacnetZephyr.Foundation.Moments
import BacnetZephyr.Shell.File.Dump
import BacnetZephyr.Shell.File.Torn

/-!
# Dumps of a file that is written to

`cmd_file_dump` takes the task lock for every row, and other threads write to the file in
between. The command does not notice that: a row is the content of the moment of its read.

`DumpedAlong` follows the loop through the contents of the moments; `cmdFileDump_moments`
is the result for the command. What a part of a command prints is kept as `PrintsLines`,
which the decoding of a backup file shares.
-/

namespace BacnetZephyr

open CLib Program ByteStream Moments

/-! ## What is printed -/

/-- What a part of a command prints: its lines, and an error exactly when it fails. -/
structure PrintsLines (lines : List CString) (failed : Prop) (trace : List FileEvent) : Prop where
  lines : printedLines (observations trace) = lines
  errors : printedErrors (observations trace) ≠ [] ↔ failed

section Prints

variable {lines : List CString} {failed : Prop} {first second : List FileEvent}

theorem printedLines_observations_append :
    printedLines (observations (first ++ second)) =
      printedLines (observations first) ++ printedLines (observations second) := by
  rw [observations_append]
  exact List.filterMap_append

theorem printedErrors_observations_append :
    printedErrors (observations (first ++ second)) =
      printedErrors (observations first) ++ printedErrors (observations second) := by
  rw [observations_append]
  exact List.filterMap_append

theorem Quiet.prints {trace : List FileEvent} (quiet : Quiet trace) (succeeds : ¬failed) :
    PrintsLines [] failed trace := by
  have nothing := quiet.observations_eq
  constructor
  · rw [nothing]
    rfl
  · rw [nothing]
    exact ⟨fun printed => absurd rfl printed, fun fails => absurd fails succeeds⟩

/-- A part that prints lines only, before the rest. -/
theorem PrintsLines.append {later : List CString} (printed : PrintsLines lines False first)
    (rest : PrintsLines later failed second) :
    PrintsLines (lines ++ later) failed (first ++ second) := by
  have silent : printedErrors (observations first) = [] := by
    by_contra some
    exact printed.errors.mp some
  constructor
  · rw [printedLines_observations_append, printed.lines, rest.lines]
  · rw [printedErrors_observations_append, silent, List.nil_append]
    exact rest.errors

/-- A part that prints nothing, before the rest. -/
theorem PrintsLines.after_quiet (rest : PrintsLines lines failed second) (quiet : Quiet first) :
    PrintsLines lines failed (first ++ second) :=
  (quiet.prints not_false).append rest

theorem printsLines_print (text : CString) :
    PrintsLines [text] False [⟨.shellPrint text, ()⟩] :=
  ⟨rfl, fun printed => printed rfl, False.elim⟩

theorem prints_error {trace : List FileEvent} {message : CString} (fails : failed)
    (printed : observations trace = [.shellError message]) : PrintsLines [] failed trace := by
  constructor
  · rw [printed]
    rfl
  · rw [printed]
    simp [printedErrors, fails]

end Prints

/-! ## Dumps -/

section Dump

variable {library : FileShellLibrary} {file : SharedFile} {moment offset remaining : ℕ}
  {rows : List (ℕ × List UInt8)} {value : Int}

/-- The rows and the result of the loop of a dump whose reads are at one moment after the other. -/
inductive DumpedAlong (file : SharedFile) :
    ℕ → ℕ → ℕ → List (ℕ × List UInt8) → Int → Prop where
  | finished (moment offset : ℕ) : DumpedAlong file moment offset 0 [] 0
  | tooLarge {moment offset remaining : ℕ} (more : 0 < remaining)
      (large : int32Max < (file.contentAt moment).length) :
      DumpedAlong file moment offset remaining [] (-Errno.eoverflow)
  | ended {moment offset remaining : ℕ} (pastEnd : (file.contentAt moment).length ≤ offset) :
      DumpedAlong file moment offset remaining [] 0
  | last {moment offset remaining : ℕ} (inside : offset < (file.contentAt moment).length)
      (short : (file.contentAt moment).length < offset + min remaining 16) :
      DumpedAlong file moment offset remaining [(offset, (file.contentAt moment).drop offset)] 0
  | row {moment offset remaining : ℕ} {rows : List (ℕ × List UInt8)} {value : Int}
      (more : 0 < remaining)
      (whole : offset + min remaining 16 ≤ (file.contentAt moment).length)
      (later : DumpedAlong file (moment + 1) (offset + min remaining 16)
        (remaining - min remaining 16) rows value) :
      DumpedAlong file moment offset remaining
        ((offset, ((file.contentAt moment).drop offset).take (min remaining 16)) :: rows) value

def dumpRowLine (row : ℕ × List UInt8) : CString := fileDumpLine row.1 row.2

theorem length_row (whole : offset + min remaining 16 ≤ (file.contentAt moment).length) :
    (((file.contentAt moment).drop offset).take (min remaining 16)).length = min remaining 16 := by
  rw [List.length_take, List.length_drop]
  omega

theorem yields_released {transfer : FileTransfer} {result : Int} {state : SharedState} :
    Yields file.world state (transfer.release >>= fun _ => pure result) fun value trace _ =>
      value = result ∧ Quiet trace := by
  apply Yields.bind ((yields_fileTransferRelease _ _ _ state).and_wp
    (always_fileTransferRelease _ _ _))
  rintro _ trace _ ⟨-, silent⟩
  apply Yields.pure
  refine ⟨rfl, ?_⟩
  rw [List.append_nil]
  exact silent.quiet

/-- A transfer whose file has become too large is released with an error. -/
theorem yields_changed {transfer : FileTransfer} {err : Int} {state : SharedState}
    {failed : Prop} (fails : failed) :
    Yields file.world state
      (do
        transfer.release
        fileTransferChanged transfer.objectInstance err)
      fun value trace _ => value = err ∧ PrintsLines [] failed trace := by
  apply Yields.bind ((yields_fileTransferRelease _ _ _ state).and_wp
    (always_fileTransferRelease _ _ _))
  rintro _ releaseTrace after ⟨-, silent⟩
  apply Yields.mono ((yields_fileTransferChanged transfer.objectInstance err after).and_wp
    (always_fileTransferChanged _ _))
  rintro value trace _ ⟨rfl, -, message, printed⟩
  exact ⟨rfl, (prints_error fails printed).after_quiet silent.quiet⟩

theorem prints_of_read {readTrace trace : List FileEvent} {lines : List CString} {failed : Prop}
    {objectInstance : UInt32} {requested : ℕ}
    (read : observations readTrace = [.bacfileReadOffset objectInstance offset requested])
    (rest : PrintsLines lines failed trace) : PrintsLines lines failed (readTrace ++ trace) := by
  have alone : PrintsLines [] False readTrace := by
    constructor
    · rw [read]
      rfl
    · rw [read]
      simp [printedErrors]
  exact alone.append rest

theorem yields_fileDumpLoop {transfer : FileTransfer} (shares : transfer.Shares file)
    (offset remaining : ℕ) (state : SharedState) :
    Yields file.world state (fileDumpLoop transfer offset remaining) fun value trace _ =>
      ∃ rows, DumpedAlong file state.locks offset remaining rows value ∧
        PrintsLines (rows.map dumpRowLine) (value ≠ 0) trace := by
  induction remaining using Nat.strong_induction_on generalizing offset state with
  | _ remaining ih =>
      rw [fileDumpLoop]
      split
      · rename_i more
        apply Yields.bind ((yields_fileTransferRead shares offset (min remaining 16) state).and_wp
          (always_fileTransferRead transfer _ _))
        rintro result readTrace after ⟨⟨afterLocks, isResult⟩, outcome⟩
        by_cases large : int32Max < (file.contentAt state.locks).length
        · -- the file has become too large
          rw [if_pos large] at isResult
          rcases isResult with rfl
          have fails : -Errno.eoverflow ≠ 0 := by decide
          apply Yields.mono (yields_changed fails)
          rintro value trace _ ⟨rfl, printed⟩
          exact ⟨[], .tooLarge more large, printed.after_quiet outcome.2⟩
        rw [if_neg large] at isResult
        rcases isResult with rfl
        rcases outcome with ⟨read, -, -⟩
        simp only
        split
        · -- nothing is left at the offset
          rename_i nothing
          rw [List.length_take, List.length_drop] at nothing
          apply Yields.mono yields_released
          rintro value trace _ ⟨rfl, quiet⟩
          refine ⟨[], .ended (by omega), prints_of_read read (quiet.prints ?_)⟩
          exact not_not.mpr rfl
        · rename_i some
          rw [List.length_take, List.length_drop] at some
          apply Yields.call (answer_shellPrint after _)
          split
          · -- the file ends in this row
            rename_i short
            rw [List.length_take, List.length_drop] at short
            have rest : ((file.contentAt state.locks).drop offset).take (min remaining 16) =
                (file.contentAt state.locks).drop offset := by
              apply List.take_of_length_le
              rw [List.length_drop]
              omega
            apply Yields.mono yields_released
            rintro value trace _ ⟨rfl, quiet⟩
            refine ⟨_, .last (by omega) (by omega), prints_of_read read ?_⟩
            rw [rest]
            exact (printsLines_print _).append (quiet.prints (not_not.mpr rfl))
          · rename_i whole
            have full : offset + min remaining 16 ≤ (file.contentAt state.locks).length := by
              rw [List.length_take, List.length_drop] at whole
              omega
            rw [length_row full]
            apply Yields.mono (ih (remaining - min remaining 16) (by omega)
              (offset + min remaining 16) after)
            rintro value trace _ ⟨rows, dumped, printed⟩
            rw [afterLocks] at dumped
            refine ⟨_, .row more full dumped, prints_of_read read ?_⟩
            exact (printsLines_print _).append printed
      · rename_i finished
        rw [Nat.eq_zero_of_not_pos finished]
        apply Yields.mono yields_released
        rintro value trace _ ⟨rfl, quiet⟩
        exact ⟨[], .finished _ _, quiet.prints (not_not.mpr rfl)⟩

/-! ### What the rows are -/

theorem pieceData_cons (data : List UInt8) :
    pieceData ((offset, data) :: rows) = data ++ pieceData rows := rfl

theorem DumpedAlong.reads (dumped : DumpedAlong file moment offset remaining rows value) :
    ReadAlong file.contentAt 1 moment offset rows := by
  induction dumped with
  | finished | tooLarge | ended => exact .nil _ _
  | last inside short => exact .cons List.prefix_rfl (.nil _ _)
  | row more whole later ih =>
      apply ReadAlong.cons (List.take_prefix _ _)
      rw [length_row whole]
      exact ih

theorem DumpedAlong.length_le (dumped : DumpedAlong file moment offset remaining rows value) :
    (pieceData rows).length ≤ remaining := by
  induction dumped with
  | finished | tooLarge | ended => exact Nat.zero_le _
  | last inside short =>
      rw [pieceData_cons, List.length_append, List.length_drop]
      simp only [pieceData, List.flatMap_nil, List.length_nil]
      omega
  | row more whole later ih =>
      rw [pieceData_cons, List.length_append, length_row whole]
      omega

/-- Every row but the last is full. -/
theorem DumpedAlong.rows_eq (dumped : DumpedAlong file moment offset remaining rows value) :
    rows = pieces 16 (by decide) offset (pieceData rows) := by
  induction dumped with
  | finished | tooLarge | ended => exact pieces_nil.symm
  | @last moment offset remaining inside short =>
      have nonempty : (file.contentAt moment).drop offset ≠ [] := by
        apply List.ne_nil_of_length_pos
        rw [List.length_drop]
        omega
      rw [pieceData_cons, pieces_append nonempty, pieceData, List.flatMap_nil, pieces_nil]
      refine Or.inr ⟨?_, rfl⟩
      rw [List.length_drop]
      omega
  | @row moment offset remaining rows value more whole later ih =>
      have length := length_row whole
      have nonempty : ((file.contentAt moment).drop offset).take (min remaining 16) ≠ [] := by
        apply List.ne_nil_of_length_pos
        omega
      rw [pieceData_cons, pieces_append nonempty, length, ← ih]
      by_cases long : 16 ≤ remaining
      · exact Or.inl (by omega)
      · -- a row shorter than sixteen bytes ends the range
        refine Or.inr ⟨by omega, List.eq_nil_of_length_eq_zero ?_⟩
        have rest := later.length_le
        omega

/-- The loop ends with the range, with the file, or with a file that is too large. -/
theorem DumpedAlong.stops (dumped : DumpedAlong file moment offset remaining rows value) :
    (value = 0 ∧ ((pieceData rows).length = remaining ∨
        ∃ last, moment ≤ last ∧ last ≤ moment + rows.length ∧
          (file.contentAt last).length ≤ offset + (pieceData rows).length)) ∨
      (value = -Errno.eoverflow ∧ int32Max < (file.contentAt (moment + rows.length)).length) := by
  induction dumped with
  | finished => exact .inl ⟨rfl, .inl rfl⟩
  | tooLarge more large => exact .inr ⟨rfl, large⟩
  | @ended moment offset remaining pastEnd =>
      exact .inl ⟨rfl, .inr ⟨moment, le_rfl, Nat.le_add_right _ _, pastEnd⟩⟩
  | @last moment offset remaining inside short =>
      refine .inl ⟨rfl, .inr ⟨moment, le_rfl, Nat.le_add_right _ _, ?_⟩⟩
      rw [pieceData_cons, List.length_append, List.length_drop]
      omega
  | @row moment offset remaining rows value more whole later ih =>
      rw [pieceData_cons, List.length_append, length_row whole, List.length_cons]
      rcases ih with ⟨success, all | ⟨last, lower, upper, pastEnd⟩⟩ | ⟨failed, large⟩
      · exact .inl ⟨success, .inl (by omega)⟩
      · exact .inl ⟨success, .inr ⟨last, by omega, by omega, by omega⟩⟩
      · refine .inr ⟨failed, ?_⟩
        rw [Nat.add_comm rows.length, ← Nat.add_assoc]
        exact large

/-- Reads that all see one content dump the range of this content. -/
theorem DumpedAlong.of_same (dumped : DumpedAlong file moment offset remaining rows value)
    {content : List UInt8} (fits : content.length ≤ int32Max)
    (same : ∀ turn, turn * 16 < remaining → file.contentAt (moment + turn) = content) :
    value = 0 ∧ pieceData rows = (content.drop offset).take remaining := by
  induction dumped with
  | finished => exact ⟨rfl, List.take_zero.symm⟩
  | tooLarge more large =>
      have here := same 0 (by omega)
      rw [Nat.add_zero] at here
      rw [here] at large
      omega
  | @ended moment offset remaining pastEnd =>
      refine ⟨rfl, ?_⟩
      by_cases more : 0 < remaining
      · have here := same 0 (by omega)
        rw [Nat.add_zero] at here
        rw [here] at pastEnd
        rw [List.drop_of_length_le pastEnd, List.take_nil]
        rfl
      · rw [Nat.eq_zero_of_not_pos more, List.take_zero]
        rfl
  | @last moment offset remaining inside short =>
      have here := same 0 (by omega)
      rw [Nat.add_zero] at here
      rw [here] at short ⊢
      refine ⟨rfl, ?_⟩
      rw [pieceData_cons, List.take_of_length_le (by rw [List.length_drop]; omega)]
      exact List.append_nil _
  | @row moment offset remaining rows value more whole later ih =>
      have here := same 0 (by omega)
      rw [Nat.add_zero] at here
      have rest := ih fun turn inside => by
        rw [Nat.add_assoc, Nat.add_comm 1]
        exact same (turn + 1) (by omega)
      refine ⟨rest.1, ?_⟩
      rw [pieceData_cons, rest.2, here, ← List.drop_drop, ← List.take_add]
      congr 1
      omega

/-! ### The command -/

theorem fileDumpOffset_eq {options : List CString} {asked : Option ℕ}
    (request : DumpRequest library options offset asked) (small : offset ≤ int32Max) :
    fileDumpOffset library options = pure (.ok offset) := by
  have parse : ∀ {value : CString} {offset : UInt32},
      library.bacnetStringToUint32 value = some offset → offset.toNat ≤ int32Max →
      fileOffsetParse library value = pure (.ok offset.toNat) := by
    intro value offset parsed small
    rw [fileOffsetParse, parsed]
    simp only
    rw [if_neg (Nat.not_lt.mpr small)]
  cases request with
  | whole => rfl
  | rest parsed => exact parse parsed small
  | range parsed parsed' => exact parse parsed small

theorem fileDumpLength_eq {options : List CString} {asked : Option ℕ}
    (request : DumpRequest library options offset asked) :
    fileDumpLength library options = pure (.ok asked) := by
  cases request with
  | whole => rfl
  | rest parsed => rfl
  | range parsed parsed' =>
      simp only [fileDumpLength, parsed']

/-- The run of the command while the writers are at work. -/
def SharedFile.dumpRun (file : SharedFile) (library : FileShellLibrary) (argv : List CString)
    (block : ℕ) : Outcome FileCall FileCall.Response Int SharedState :=
  (cmdFileDump library argv).run file.world ⟨0, block⟩

/-- The loop follows the moments, and the rows are printed. -/
theorem yields_cmdFileDump {command value : CString} {options : List CString}
    {asked : Option ℕ} (parsed : library.bacnetStringToUint32 value = some file.objectInstance)
    (request : DumpRequest library options offset asked)
    (fits : (file.contentAt 0).length ≤ int32Max) (inside : offset ≤ (file.contentAt 0).length)
    (range : ∀ length, asked = some length → offset + length ≤ int32Max) (block : ℕ) :
    Yields file.world ⟨0, block⟩ (cmdFileDump library (command :: value :: options))
      fun value trace _ => ∃ rows,
        DumpedAlong file 1 offset (asked.getD ((file.contentAt 0).length - offset)) rows value ∧
          PrintsLines (rows.map dumpRowLine) (value ≠ 0) trace := by
  have usage : ¬((command :: value :: options).length < 2 ∨
      4 < (command :: value :: options).length) := by
    cases request <;> simp
  simp only [cmdFileDump]
  rw [if_neg usage]
  simp only [List.getElem?_cons_succ, List.getElem?_cons_zero, Option.getD_some,
    fileInstanceNumberParse, parsed, List.drop_succ_cons, List.drop_zero,
    fileDumpOffset_eq request (Nat.le_trans inside fits), fileDumpLength_eq request, pure_bind]
  apply Yields.bind ((yields_fileTransferOpen ⟨0, block⟩ rfl).and_wp (always_fileTransferOpen _))
  rintro (err | transfer) openTrace after ⟨⟨shared, opens⟩, outcome⟩
  · rcases opens fits with ⟨_, ⟨⟩⟩
  rcases shared transfer rfl with ⟨shares, locks⟩
  have dumped : ∀ remaining, Yields file.world after (fileDumpLoop transfer offset remaining)
      fun value trace _ => ∃ rows, DumpedAlong file 1 offset remaining rows value ∧
        PrintsLines (rows.map dumpRowLine) (value ≠ 0) (openTrace ++ trace) := by
    intro remaining
    apply Yields.mono (yields_fileDumpLoop shares offset remaining after)
    rintro value trace _ ⟨rows, along, printed⟩
    rw [locks] at along
    exact ⟨rows, along, printed.after_quiet outcome.1⟩
  simp only [shares.size]
  rw [if_neg (Nat.not_lt.mpr inside)]
  cases asked with
  | none => exact dumped _
  | some length =>
      have within := range length rfl
      simp only
      rw [if_neg (by omega)]
      exact dumped length

/-- What a dump prints and returns while others write, with the bytes of its rows. -/
structure DumpedRange (file : SharedFile) (offset length : ℕ) (value : Int)
    (calls : List FileCall) (bytes : List UInt8) : Prop where
  printed : printedLines calls = (pieces 16 (by decide) offset bytes).map dumpRowLine
  shown : (printedLines calls).map dumpLineRow =
    (pieces 16 (by decide) offset bytes).map fun row => (row.1, some row.2)
  errors : printedErrors calls ≠ [] ↔ value ≠ 0
  moments : ReadAlong file.contentAt 1 1 offset (pieces 16 (by decide) offset bytes)
  short : bytes.length ≤ length
  stops : (value = 0 ∧ (bytes.length = length ∨
      ∃ last, 1 ≤ last ∧ last ≤ 1 + (pieces 16 (by decide) offset bytes).length ∧
        (file.contentAt last).length ≤ offset + bytes.length)) ∨
    (value = -Errno.eoverflow ∧
      int32Max < (file.contentAt (1 + (pieces 16 (by decide) offset bytes).length)).length)
  oneMoment : ∀ content, Shows content (pieces 16 (by decide) offset bytes) →
    printedLines calls = dumpRows content offset bytes.length
  undisturbed : (∀ gap, 1 ≤ gap → (gap - 1) * 16 < length → file.writes gap = []) →
    value = 0 ∧ printedLines calls = dumpRows (file.contentAt 0) offset length

theorem contentAt_of_writes {last : ℕ}
    (nothing : ∀ gap, 1 ≤ gap → gap ≤ last → file.writes gap = []) {gap : ℕ}
    (inside : gap ≤ last) : file.contentAt gap = file.contentAt 0 := by
  induction gap with
  | zero => rfl
  | succ gap ih =>
      have step : file.contentAt (gap + 1) =
          applyWrites (file.writes (gap + 1)) (file.contentAt gap) := rfl
      rw [step, nothing (gap + 1) (by omega) inside]
      exact ih (by omega)

/--
Every row of a dump is the content of the file at the moment of its read, rows and moments
in the same order; the dump goes on to the end of the range or of the file. It is the dump
of every content that shows all the rows, in particular of the captured one when nothing is
written up to the last read.
-/
theorem cmdFileDump_moments (library : FileShellLibrary) (file : SharedFile)
    {command value : CString} {options : List CString} {offset : ℕ} {asked : Option ℕ}
    (parsed : library.bacnetStringToUint32 value = some file.objectInstance)
    (request : DumpRequest library options offset asked)
    (fits : (file.contentAt 0).length ≤ int32Max) (inside : offset ≤ (file.contentAt 0).length)
    (range : ∀ length, asked = some length → offset + length ≤ int32Max) (block : ℕ) :
    ∃ bytes, DumpedRange file offset (asked.getD ((file.contentAt 0).length - offset))
      (file.dumpRun library (command :: value :: options) block).value
      (observations (file.dumpRun library (command :: value :: options) block).trace) bytes := by
  rcases @yields_cmdFileDump library file offset command value options asked parsed request fits
    inside range block with ⟨rows, along, printed⟩
  have isRows := along.rows_eq
  have same : ∀ content, Shows content rows →
      rows.map dumpRowLine = dumpRows content offset (pieceData rows).length := by
    intro content shown
    rw [dumpRows, shown.take_drop along.reads.contiguous, ← isRows]
    rfl
  refine ⟨pieceData rows, ?_⟩
  exact
    { printed := isRows ▸ printed.lines
      shown := by
        rw [SharedFile.dumpRun, printed.lines]
        have short : ∀ row ∈ rows, row.2.length ≤ 16 := by
          rw [isRows]
          exact fun row mem => (mem_pieces mem).2.1
        exact isRows ▸ map_dumpLineRow short
      errors := printed.errors
      moments := isRows ▸ along.reads
      short := along.length_le
      stops := isRows ▸ along.stops
      oneMoment := fun content shown => printed.lines.trans (same content (isRows ▸ shown))
      undisturbed := by
        intro nothing
        have same : ∀ turn,
            turn * 16 < asked.getD ((file.contentAt 0).length - offset) →
              file.contentAt (1 + turn) = file.contentAt 0 := by
          intro turn more
          exact contentAt_of_writes (fun gap first before => nothing gap first (by omega)) le_rfl
        have captured := along.of_same fits same
        refine ⟨captured.1, printed.lines.trans ?_⟩
        rw [isRows, captured.2]
        rfl }

/-- A file of seventeen bytes that is rewritten between the reads of its two rows. -/
def SharedFile.rewritten : SharedFile where
  objectInstance := 7
  pathname := "/lfs/rewritten".toList
  name := none
  mimeType := none
  readOnly := false
  pathname_ne := by decide
  initial := StoredFile.seventeen.content
  writes := fun gap => if gap = 2 then [.write 0 (List.replicate 17 9)] else []
  supported := fun _ => true

theorem SharedFile.rewritten_contentAt (gap : ℕ) :
    rewritten.contentAt gap =
      if gap < 2 then StoredFile.seventeen.content else List.replicate 17 9 := by
  induction gap with
  | zero => rfl
  | succ gap ih =>
      have step : rewritten.contentAt (gap + 1) =
          applyWrites (rewritten.writes (gap + 1)) (rewritten.contentAt gap) := rfl
      rw [step, ih]
      rcases gap with _ | _ | gap
      · rfl
      · decide
      · rw [if_neg (by omega), if_neg (by omega)]
        rfl

theorem SharedFile.rewritten_length (gap : ℕ) : (rewritten.contentAt gap).length = 17 := by
  rw [rewritten_contentAt]
  split <;> rfl

/-- The first row shows the bytes before the write, the second one those after it. -/
theorem cmdFileDump_moments_rewritten :
    let run := SharedFile.rewritten.dumpRun .reference ["dump".toList, "7".toList] 0
    run.value = 0 ∧ (printedLines (observations run.trace)).map dumpLineRow =
      [(0, some [32, 33, 34, 35, 36, 37, 38, 39, 40, 41, 42, 43, 44, 45, 46, 47]),
        (16, some [9])] := by
  intro run
  rcases @cmdFileDump_moments .reference .rewritten "dump".toList "7".toList [] 0 none rfl .whole
    (by decide) (by decide) (fun _ none => by contradiction) 0 with ⟨bytes, dumped⟩
  have short : bytes.length ≤ 17 := dumped.short
  have stops := dumped.stops
  simp only [SharedFile.rewritten_length] at stops
  have whole : run.value = 0 ∧ bytes.length = 17 := by
    rcases stops with ⟨value, full | ⟨_, _, _, full⟩⟩ | ⟨_, large⟩
    · exact ⟨value, full⟩
    · exact ⟨value, by omega⟩
    · exact absurd large (by decide)
  refine ⟨whole.1, dumped.shown.trans ?_⟩
  have first : bytes ≠ [] := List.ne_nil_of_length_pos (by omega)
  have second : bytes.drop 16 ≠ [] :=
    List.ne_nil_of_length_pos (by rw [List.length_drop]; omega)
  have nothing : (bytes.drop 16).drop 16 = [] := by
    rw [List.drop_drop, List.drop_eq_nil_iff]
    omega
  have rows : pieces 16 (by decide) 0 bytes = [(0, bytes.take 16), (16, bytes.drop 16)] := by
    have lastRow : (bytes.drop 16).take 16 = bytes.drop 16 :=
      List.take_of_length_le (by rw [List.length_drop]; omega)
    rw [pieces_of_ne_nil first, pieces_of_ne_nil second, nothing, pieces_nil, lastRow]
  have moments := dumped.moments
  rw [rows] at moments ⊢
  have before := List.prefix_iff_eq_take.mp (@ReadAlong.present _ _ _ _ _ _ moments 0 _ rfl)
  have after := List.prefix_iff_eq_take.mp (@ReadAlong.present _ _ _ _ _ _ moments 1 _ rfl)
  rw [List.length_take, whole.2, SharedFile.rewritten_contentAt] at before
  rw [List.length_drop, whole.2, SharedFile.rewritten_contentAt] at after
  rw [List.map_cons, List.map_cons, before, after]
  rfl

end Dump

end BacnetZephyr
