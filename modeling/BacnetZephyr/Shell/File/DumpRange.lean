import BacnetZephyr.Shell.File.Dump
import BacnetZephyr.Shell.File.ExportRun

/-!
# The range of a dump

The variables of `cmd_file_dump` have 32 bits, and a length may ask for more than there is.
`cmdFileDumpWord` is the command with these variables. `dump_kept` says that its rows cover
the range up to the end of the file, and that its arithmetic does not wrap, whatever the
reads give.
-/

namespace BacnetZephyr

open CLib Program ByteStream

/-- `(uint32_t)INT32_MAX`. -/
def int32MaxWord : UInt32 := 2147483647

/-! ## The variables of the loop -/

theorem toNat_min (left right : UInt32) : (min left right).toNat = min left.toNat right.toNat := by
  show (if left ≤ right then left else right).toNat = _
  split
  · rename_i le
    exact (Nat.min_eq_left le).symm
  · rename_i lt
    exact (Nat.min_eq_right (Nat.le_of_lt (UInt32.not_le.mp lt))).symm

section Words

variable {remaining : UInt32} {length : ℕ} (atMost : length ≤ (min remaining 16).toNat)
include atMost

theorem length_le_remaining : length ≤ min remaining.toNat 16 := by
  rw [toNat_min] at atMost
  exact atMost

theorem toNat_bytesRead : (UInt32.ofNat length).toNat = length := by
  have small := length_le_remaining atMost
  rw [UInt32.toNat_ofNat', Nat.mod_eq_of_lt]
  omega

/-- `remaining` does not wrap when it is decreased. -/
theorem toNat_remaining :
    (remaining - UInt32.ofNat length).toNat = remaining.toNat - length := by
  have small := length_le_remaining atMost
  have read := toNat_bytesRead atMost
  rw [UInt32.toNat_sub_of_le, read]
  rw [UInt32.le_iff_toNat_le, read]
  omega

/-- `offset` does not wrap when it is increased. -/
theorem toNat_offset {offset : UInt32} (bound : offset.toNat + remaining.toNat ≤ int32Max) :
    (offset + UInt32.ofNat length).toNat = offset.toNat + length := by
  have small := length_le_remaining atMost
  simp only [int32Max] at bound
  rw [UInt32.toNat_add, toNat_bytesRead atMost, Nat.mod_eq_of_lt]
  omega

theorem bytesRead_eq_zero_iff : UInt32.ofNat length = 0 ↔ length = 0 := by
  rw [← UInt32.toNat_inj, toNat_bytesRead atMost]
  rfl

end Words

/-- The loop, with what `offset` and `remaining` are after it. -/
def fileDumpLoopWord (transfer : FileTransfer) (offset remaining : UInt32) :
    FileProgram (Int × UInt32 × UInt32) :=
  if 0 < remaining then do
    let requested := min remaining 16
    match ← fileTransferRead transfer offset.toNat requested.toNat with
    | .error err =>
        transfer.release
        let status ← fileTransferChanged transfer.objectInstance err
        return (status, offset, remaining)
    | .ok data =>
        let bytesRead := UInt32.ofNat data.1.length
        if bytesRead = 0 then
          transfer.release
          return (0, offset, remaining)
        else
          shellPrint (fileDumpLine offset.toNat data.1)
          if bytesRead < requested then
            transfer.release
            return (0, offset + bytesRead, remaining - bytesRead)
          else fileDumpLoopWord transfer (offset + bytesRead) (remaining - bytesRead)
  else do
    transfer.release
    return (0, offset, remaining)
termination_by remaining.toNat
decreasing_by
  rename_i nonzero _
  have some := mt (bytesRead_eq_zero_iff data.2).mpr nonzero
  have small := length_le_remaining data.2
  rw [toNat_remaining data.2]
  omega

section Command

variable (library : FileShellLibrary)

/-- `cmd_file_dump` with variables of 32 bits. -/
def cmdFileDumpWord (argv : List CString) : FileProgram Int := do
  if argv.length < 2 ∨ 4 < argv.length then
    shellError "Usage: bacnet file dump <instance> [offset] [len]".toList
    return -Errno.einval
  else
    match ← fileInstanceNumberParse library (argv[1]?.getD []) with
    | .error err => return err
    | .ok objectInstance =>
        match ← fileDumpOffset library (argv.drop 2) with
        | .error err => return err
        | .ok offset =>
            match ← fileDumpLength library (argv.drop 2) with
            | .error err => return err
            | .ok length =>
                match ← fileTransferOpen objectInstance with
                | .error err => return err
                | .ok transfer =>
                    let offset := UInt32.ofNat offset
                    let fileSize := UInt32.ofNat transfer.fileSize
                    if fileSize < offset then
                      shellError ("Offset ".toList ++ unsignedText offset.toNat ++
                        " is past end of file (".toList ++ unsignedText fileSize.toNat ++
                        ")".toList)
                      transfer.release
                      return -Errno.einval
                    else
                      match length with
                      | none => Prod.fst <$> fileDumpLoopWord transfer offset (fileSize - offset)
                      | some length =>
                          let remaining := UInt32.ofNat length
                          if int32MaxWord - offset < remaining then
                            shellError "Dump range exceeds the stream offset limit".toList
                            transfer.release
                            return -Errno.eoverflow
                          else Prod.fst <$> fileDumpLoopWord transfer offset remaining

end Command

/-! ## The arithmetic is exact -/

theorem bytesRead_lt_iff {remaining : UInt32} {length : ℕ}
    (atMost : length ≤ (min remaining 16).toNat) :
    UInt32.ofNat length < min remaining 16 ↔ length < (min remaining 16).toNat := by
  rw [UInt32.lt_iff_toNat_lt, toNat_bytesRead atMost]

/-- Within the range of offsets the loop is the one with numbers. -/
theorem fileDumpLoopWord_fst (transfer : FileTransfer) (offset remaining : UInt32)
    (bound : offset.toNat + remaining.toNat ≤ int32Max) :
    Prod.fst <$> fileDumpLoopWord transfer offset remaining =
      fileDumpLoop transfer offset.toNat remaining.toNat := by
  induction size : remaining.toNat using Nat.strong_induction_on generalizing offset remaining with
  | _ size' ih =>
      have requested : min size' 16 = (min remaining 16).toNat := by
        rw [toNat_min, size]
        rfl
      rw [fileDumpLoopWord, fileDumpLoop, requested]
      by_cases positive : 0 < size'
      · have positive' : 0 < remaining := by
          rw [UInt32.lt_iff_toNat_lt, size]
          exact positive
        rw [if_pos positive, if_pos positive', map_bind]
        apply congrArg (fileTransferRead transfer offset.toNat _ >>= ·)
        funext result
        rcases result with err | data
        · simp only [map_bind, map_pure, bind_pure]
        · have read := data.2
          simp only [bytesRead_eq_zero_iff read, bytesRead_lt_iff read]
          by_cases empty : data.1.length = 0
          · simp only [empty, if_true, map_bind, map_pure]
          · simp only [empty, if_false, map_bind]
            apply congrArg (shellPrint _ >>= ·)
            funext _
            by_cases short : data.1.length < (min remaining 16).toNat
            · simp only [short, if_true, map_bind, map_pure]
            · simp only [short, if_false]
              have left := length_le_remaining read
              have remains := toNat_remaining read
              have advances := toNat_offset read bound
              have later := ih (size' - data.1.length) (by omega)
                (offset + UInt32.ofNat data.1.length) (remaining - UInt32.ofNat data.1.length)
                (by omega) (by rw [remains, size])
              rw [later, advances]
      · have finished : ¬0 < remaining := by
          rw [UInt32.lt_iff_toNat_lt, size]
          exact positive
        rw [if_neg positive, if_neg finished, map_bind]
        simp only [map_pure]

theorem toNat_ofNat_of_le {number : ℕ} (small : number ≤ int32Max) :
    (UInt32.ofNat number).toNat = number := by
  simp only [int32Max] at small
  rw [UInt32.toNat_ofNat', Nat.mod_eq_of_lt]
  omega

theorem toNat_int32MaxWord_sub {offset : UInt32} (inside : offset.toNat ≤ int32Max) :
    (int32MaxWord - offset).toNat = int32Max - offset.toNat := by
  rw [UInt32.toNat_sub_of_le]
  · rfl
  · exact UInt32.le_iff_toNat_le.mpr inside

/-- An offset that is read is a signed number. -/
theorem fileDumpOffset_cases (library : FileShellLibrary) (options : List CString) :
    (∃ offset ≤ int32Max, fileDumpOffset library options = pure (.ok offset)) ∨
      ∃ text err, fileDumpOffset library options = (do
        shellError text
        return .error err) := by
  cases options with
  | nil => exact Or.inl ⟨0, Nat.zero_le _, rfl⟩
  | cons value options =>
      simp only [fileDumpOffset, fileOffsetParse]
      split
      · exact Or.inr ⟨_, _, rfl⟩
      · rename_i offset parsed
        by_cases large : int32Max < offset.toNat
        · simp only [large, if_true]
          exact Or.inr ⟨_, _, rfl⟩
        · simp only [large, if_false]
          exact Or.inl ⟨_, Nat.not_lt.mp large, rfl⟩

theorem fileDumpLength_cases (library : FileShellLibrary) (options : List CString) :
    (∃ length : Option UInt32,
      fileDumpLength library options = pure (.ok (length.map UInt32.toNat))) ∨
      ∃ text err, fileDumpLength library options = (do
        shellError text
        return .error err) := by
  simp only [fileDumpLength]
  split
  · split
    · exact Or.inr ⟨_, _, rfl⟩
    · rename_i length parsed
      exact Or.inl ⟨some length, rfl⟩
  · exact Or.inl ⟨none, rfl⟩

/-- The command never leaves the range of offsets, so that its arithmetic is exact. -/
theorem cmdFileDumpWord_eq (library : FileShellLibrary) (argv : List CString) :
    cmdFileDumpWord library argv = cmdFileDump library argv := by
  simp only [cmdFileDumpWord, cmdFileDump]
  split
  · rfl
  · apply congrArg (fileInstanceNumberParse library (argv[1]?.getD []) >>= ·)
    funext objectInstance
    rcases objectInstance with err | objectInstance
    · rfl
    rcases fileDumpOffset_cases library (argv.drop 2) with
      ⟨offset, inside, read⟩ | ⟨text, err, failed⟩
    · simp only [read, pure_bind]
      rcases fileDumpLength_cases library (argv.drop 2) with ⟨length, asked⟩ | ⟨text, err, failed⟩
      · simp only [asked, pure_bind]
        apply congrArg (fileTransferOpen objectInstance >>= ·)
        funext opened
        rcases opened with err | transfer
        · rfl
        · have offsetBack := toNat_ofNat_of_le inside
          have sizeBack := toNat_ofNat_of_le transfer.fileSize_le
          have beyond : UInt32.ofNat transfer.fileSize < UInt32.ofNat offset ↔
              transfer.fileSize < offset := by
            rw [UInt32.lt_iff_toNat_lt, offsetBack, sizeBack]
          have size := transfer.fileSize_le
          simp only [beyond, offsetBack, sizeBack]
          split
          · rfl
          · rename_i within
            cases length with
            | none =>
                have rest : (UInt32.ofNat transfer.fileSize - UInt32.ofNat offset).toNat =
                    transfer.fileSize - offset := by
                  rw [UInt32.toNat_sub_of_le, offsetBack, sizeBack]
                  rw [UInt32.le_iff_toNat_le, offsetBack, sizeBack]
                  exact Nat.not_lt.mp within
                simp only [Option.map_none]
                rw [fileDumpLoopWord_fst _ _ _ (by omega), offsetBack, rest]
            | some length =>
                have room := toNat_int32MaxWord_sub (by rw [offsetBack]; exact inside)
                have exceeds : int32MaxWord - UInt32.ofNat offset < length ↔
                    int32Max - offset < length.toNat := by
                  rw [UInt32.lt_iff_toNat_lt, room, offsetBack]
                simp only [Option.map_some, UInt32.ofNat_toNat, exceeds]
                split
                · rfl
                · rw [fileDumpLoopWord_fst _ _ _ (by omega), offsetBack]
      · simp only [failed]
        rfl
    · simp only [failed]
      rfl

/-! ## Whatever the reads give -/

/-- The reads of a trace: offsets and requested lengths. -/
def readsOf (trace : List FileEvent) : List (ℕ × ℕ) := readRequests (observations trace)

theorem readsOf_append (first second : List FileEvent) :
    readsOf (first ++ second) = readsOf first ++ readsOf second := by
  rw [readsOf, observations_append, readRequests_append]
  rfl

theorem Quiet.readsOf_eq {trace : List FileEvent} (quiet : Quiet trace) : readsOf trace = [] := by
  rw [readsOf, quiet.observations_eq]
  rfl

/--
The variables at the end of the loop are those before it less what was read, and the reads
lie between them. The loop has ended after as many reads as there are rows.
-/
structure DumpLoopEnded (offset remaining : UInt32) (ended : Int × UInt32 × UInt32)
    (trace : List FileEvent) : Prop where
  unwrapped : ended.2.1.toNat + ended.2.2.toNat = offset.toNat + remaining.toNat
  advanced : offset.toNat ≤ ended.2.1.toNat
  reads : ∀ read ∈ readsOf trace, offset.toNat ≤ read.1 ∧
    read.1 + read.2 ≤ offset.toNat + remaining.toNat
  rounds : (readsOf trace).length ≤ (remaining.toNat + 15) / 16

/-- Without a read the variables stay as they are. -/
theorem DumpLoopEnded.of_none (offset remaining : UInt32) (status : Int)
    {trace : List FileEvent} (none : readsOf trace = []) :
    DumpLoopEnded offset remaining (status, offset, remaining) trace := by
  refine ⟨rfl, Nat.le_refl _, ?_, ?_⟩
  · simp [none]
  · simp [none]

/-- A round in front of the rest of the loop, which reads nothing after a short read. -/
theorem DumpLoopEnded.round {offset remaining : UInt32} {ended : Int × UInt32 × UInt32}
    {length : ℕ} (atMost : length ≤ (min remaining 16).toNat)
    (bound : offset.toNat + remaining.toNat ≤ int32Max) {readTrace trace : List FileEvent}
    (positive : 0 < remaining.toNat)
    (whole : readsOf trace = [] ∨ length = (min remaining 16).toNat)
    (read : readsOf readTrace = [(offset.toNat, (min remaining 16).toNat)])
    (rest : DumpLoopEnded (offset + UInt32.ofNat length) (remaining - UInt32.ofNat length) ended
      trace) :
    DumpLoopEnded offset remaining ended (readTrace ++ trace) := by
  have requested : (min remaining 16).toNat = min remaining.toNat 16 := toNat_min _ _
  have advances := toNat_offset atMost bound
  have remains := toNat_remaining atMost
  have unwrapped := rest.unwrapped
  have advanced := rest.advanced
  have rounds := rest.rounds
  rw [advances, remains] at unwrapped
  rw [advances] at advanced
  rw [remains] at rounds
  refine ⟨by omega, by omega, ?_, ?_⟩
  · rw [readsOf_append, read, List.forall_mem_append, List.forall_mem_singleton]
    refine ⟨⟨Nat.le_refl _, by omega⟩, ?_⟩
    intro later mem
    have inside := rest.reads later mem
    rw [advances, remains] at inside
    exact ⟨by omega, by omega⟩
  · rw [readsOf_append, read, List.length_append, List.length_singleton]
    rcases whole with none | same
    · rw [none, List.length_nil]
      omega
    · omega

theorem always_fileDumpLoopWord (transfer : FileTransfer) (offset remaining : UInt32)
    (bound : offset.toNat + remaining.toNat ≤ int32Max) :
    Always (fileDumpLoopWord transfer offset remaining) (DumpLoopEnded offset remaining) := by
  induction size : remaining.toNat using Nat.strong_induction_on generalizing offset remaining with
  | _ size' ih =>
      rw [fileDumpLoopWord]
      split
      · rename_i goesOn
        have positive : 0 < remaining.toNat := goesOn
        apply Always.bind (always_fileTransferRead _ _ _)
        rintro (err | data) readTrace outcome
        · apply Always.bind (always_fileTransferRelease _ _ _)
          intro _ releaseTrace released
          apply Always.bind (always_fileTransferChanged _ _)
          rintro status changedTrace ⟨rfl, message, reported⟩
          apply Always.pure
          apply DumpLoopEnded.of_none
          have error : readsOf changedTrace = [] := by
            rw [readsOf, reported]
            rfl
          rw [List.append_nil, readsOf_append, readsOf_append, outcome.2.readsOf_eq,
            released.quiet.readsOf_eq, error]
          rfl
        · have read : readsOf readTrace = [(offset.toNat, (min remaining 16).toNat)] := by
            rw [readsOf, outcome.1]
            rfl
          simp only [bytesRead_eq_zero_iff data.2, bytesRead_lt_iff data.2]
          split
          · rename_i empty
            apply Always.bind (always_fileTransferRelease _ _ _)
            intro _ releaseTrace released
            apply Always.pure
            have unmoved : DumpLoopEnded (offset + UInt32.ofNat 0) (remaining - UInt32.ofNat 0)
                (0, offset, remaining) (releaseTrace ++ []) := by
              have none : readsOf (releaseTrace ++ []) = [] := by
                rw [List.append_nil, released.quiet.readsOf_eq]
              have zero : UInt32.ofNat 0 = 0 := rfl
              rw [zero, UInt32.add_zero, UInt32.sub_zero]
              exact DumpLoopEnded.of_none offset remaining 0 none
            exact unmoved.round (Nat.zero_le _) bound positive
              (Or.inl (by rw [List.append_nil, released.quiet.readsOf_eq])) read
          · rename_i nonempty
            apply Always.call
            intro _
            split
            · apply Always.bind (always_fileTransferRelease _ _ _)
              intro _ releaseTrace released
              apply Always.pure
              have quiet : readsOf (⟨.shellPrint (fileDumpLine offset.toNat data.1), ()⟩ ::
                  (releaseTrace ++ [])) = [] := by
                rw [List.append_nil]
                exact released.quiet.readsOf_eq
              have stopped := DumpLoopEnded.of_none (offset + UInt32.ofNat data.1.length)
                (remaining - UInt32.ofNat data.1.length) 0 quiet
              exact stopped.round data.2 bound positive (Or.inl quiet) read
            · rename_i whole
              have same : data.1.length = (min remaining 16).toNat :=
                Nat.le_antisymm data.2 (Nat.not_lt.mp whole)
              have left := length_le_remaining data.2
              have advances := toNat_offset data.2 bound
              have remains := toNat_remaining data.2
              apply wp_mono (ih (size' - data.1.length) (by omega)
                (offset + UInt32.ofNat data.1.length) (remaining - UInt32.ofNat data.1.length)
                (by omega) (by rw [remains, size]))
              intro ended trace rest
              have printed : DumpLoopEnded (offset + UInt32.ofNat data.1.length)
                  (remaining - UInt32.ofNat data.1.length) ended
                  (⟨.shellPrint (fileDumpLine offset.toNat data.1), ()⟩ :: trace) :=
                ⟨rest.unwrapped, rest.advanced, rest.reads, rest.rounds⟩
              exact printed.round data.2 bound positive (Or.inr same) read
      · apply Always.bind (always_fileTransferRelease _ _ _)
        intro _ releaseTrace released
        apply Always.pure
        apply DumpLoopEnded.of_none
        rw [List.append_nil]
        exact released.quiet.readsOf_eq

/-- All reads of a trace end at or before the largest offset. -/
def ReadsBelow (trace : List FileEvent) : Prop :=
  ∀ read ∈ readsOf trace, read.1 + read.2 ≤ int32Max

theorem ReadsBelow.of_none {trace : List FileEvent} (none : readsOf trace = []) :
    ReadsBelow trace := by
  simp [ReadsBelow, none]

/-- Whatever the answers, the reads of the program end at or before the largest offset. -/
abbrev StaysBelow {α : Type} (program : FileProgram α) : Prop :=
  Always program fun _ trace => ReadsBelow trace

theorem StaysBelow.bind {α β : Type} {program : FileProgram α} {next : α → FileProgram β}
    (first : StaysBelow program) (rest : ∀ value, StaysBelow (next value)) :
    StaysBelow (program >>= next) := by
  apply Always.bind first
  intro value trace below
  apply wp_mono (rest value)
  intro value' trace' below'
  rw [ReadsBelow, readsOf_append, List.forall_mem_append]
  exact ⟨below, below'⟩

theorem StaysBelow.pure {α : Type} (value : α) : StaysBelow (pure value) :=
  Always.pure (ReadsBelow.of_none rfl)

theorem staysBelow_shellError (text : CString) : StaysBelow (shellError text) :=
  fun _ _ => ReadsBelow.of_none rfl

theorem staysBelow_release (transfer : FileTransfer) : StaysBelow transfer.release := by
  apply wp_mono (always_fileTransferRelease _ _ _)
  intro _ trace silent
  exact ReadsBelow.of_none silent.quiet.readsOf_eq

theorem staysBelow_fileInstanceNumberParse (library : FileShellLibrary) (value : CString) :
    StaysBelow (fileInstanceNumberParse library value) := by
  simp only [fileInstanceNumberParse]
  split
  · exact (staysBelow_shellError _).bind fun _ => .pure _
  · exact .pure _

theorem staysBelow_fileTransferOpen (objectInstance : UInt32) :
    StaysBelow (fileTransferOpen objectInstance) := by
  apply wp_mono (always_fileTransferOpen objectInstance)
  rintro (err | transfer) trace opened
  · rcases opened with ⟨_, message, reported⟩
    apply ReadsBelow.of_none
    rw [readsOf, reported]
    rfl
  · exact ReadsBelow.of_none opened.1.readsOf_eq

theorem staysBelow_fileDumpLoop (transfer : FileTransfer) {offset remaining : ℕ}
    (bound : offset + remaining ≤ int32Max) :
    StaysBelow (fileDumpLoop transfer offset remaining) := by
  have offsetBack := toNat_ofNat_of_le (Nat.le_trans (Nat.le_add_right _ _) bound)
  have remainingBack := toNat_ofNat_of_le (Nat.le_trans (Nat.le_add_left _ _) bound)
  have words := fileDumpLoopWord_fst transfer (UInt32.ofNat offset) (UInt32.ofNat remaining)
    (by rw [offsetBack, remainingBack]; exact bound)
  rw [offsetBack, remainingBack] at words
  rw [← words, map_eq_pure_bind]
  apply Always.bind (always_fileDumpLoopWord transfer _ _
    (by rw [offsetBack, remainingBack]; exact bound))
  intro ended trace loop
  apply Always.pure
  rw [List.append_nil]
  intro read mem
  have inside := (loop.reads read mem).2
  rw [offsetBack, remainingBack] at inside
  exact Nat.le_trans inside bound

/-- Nothing is read behind the largest offset, whatever the arguments and the answers. -/
theorem staysBelow_cmdFileDump (library : FileShellLibrary) (argv : List CString) :
    StaysBelow (cmdFileDump library argv) := by
  have reported : ∀ (text : CString) (err : Int), StaysBelow (do
      shellError text
      return err) := fun text err => (staysBelow_shellError text).bind fun _ => .pure err
  simp only [cmdFileDump]
  split
  · exact reported _ _
  · apply (staysBelow_fileInstanceNumberParse _ _).bind
    rintro (err | objectInstance)
    · exact .pure err
    rcases fileDumpOffset_cases library (argv.drop 2) with
      ⟨offset, inside, read⟩ | ⟨text, err, failed⟩
    · simp only [read, pure_bind]
      rcases fileDumpLength_cases library (argv.drop 2) with ⟨length, asked⟩ | ⟨text, err, failed⟩
      · simp only [asked, pure_bind]
        apply (staysBelow_fileTransferOpen objectInstance).bind
        rintro (err | transfer)
        · exact .pure err
        · have size := transfer.fileSize_le
          simp only
          split
          · apply (staysBelow_shellError _).bind
            intro _
            exact (staysBelow_release transfer).bind fun _ => .pure _
          · cases length with
            | none => exact staysBelow_fileDumpLoop transfer (by omega)
            | some length =>
                simp only [Option.map_some]
                split
                · apply (staysBelow_shellError _).bind
                  intro _
                  exact (staysBelow_release transfer).bind fun _ => .pure _
                · exact staysBelow_fileDumpLoop transfer (by omega)
      · simp only [failed]
        exact reported text err
    · simp only [failed]
      exact reported text err

/-! ## The rows -/

/-- The rows follow one another in steps of sixteen, and hold the content up to the stop. -/
structure RowsCover (content : List UInt8) (offset stop : ℕ) (rows : List (ℕ × List UInt8)) :
    Prop where
  place : ∀ index row, rows[index]? = some row → row.1 = offset + 16 * index
  full : ∀ index row, rows[index]? = some row → index + 1 < rows.length → row.2.length = 16
  last : ∀ row ∈ rows, row.2 ≠ [] ∧ row.2.length ≤ 16
  data : rows.flatMap Prod.snd = (content.drop offset).take (stop - offset)

/-- Rows that cover a range are its pieces. -/
theorem RowsCover.eq_pieces {content : List UInt8} {offset stop : ℕ}
    {rows : List (ℕ × List UInt8)} (cover : RowsCover content offset stop rows) :
    rows = pieces 16 (by decide) offset ((content.drop offset).take (stop - offset)) := by
  rcases cover with ⟨place, full, last, data⟩
  rw [← data]
  clear data
  induction rows generalizing offset with
  | nil => rw [List.flatMap_nil, pieces_nil]
  | cons row rows ih =>
      rw [List.forall_mem_cons] at last
      have isPlace : row.1 = offset := place 0 row rfl
      have nonempty : (row :: rows).flatMap Prod.snd ≠ [] := by
        rw [List.flatMap_cons]
        exact List.append_ne_nil_of_left_ne_nil last.1.1 _
      have split : ((row :: rows).flatMap Prod.snd).take 16 = row.2 ∧
          ((row :: rows).flatMap Prod.snd).drop 16 = rows.flatMap Prod.snd := by
        rw [List.flatMap_cons]
        cases rows with
        | nil =>
            rw [List.flatMap_nil, List.append_nil, List.take_of_length_le last.1.2,
              List.drop_eq_nil_of_le last.1.2]
            exact ⟨rfl, rfl⟩
        | cons next rows =>
            have whole : row.2.length = 16 := full 0 row rfl (by simp)
            exact ⟨List.take_left' whole, List.drop_left' whole⟩
      have later := @ih (offset + 16)
        (fun index found present => by
          have placed := place (index + 1) found present
          omega)
        (fun index found present more => full (index + 1) found present
          (Nat.succ_lt_succ more))
        last.2
      rw [pieces_of_ne_nil nonempty, split.1, split.2, ← later, ← isPlace]

theorem rowsCover_pieces (content : List UInt8) (offset length : ℕ) :
    RowsCover content offset (min (offset + length) content.length)
      (pieces 16 (by decide) offset ((content.drop offset).take length)) where
  place index row present := by
    rw [getElem?_pieces] at present
    split at present
    · cases present
      exact congrArg (offset + ·) (Nat.mul_comm _ _)
    · cases present
  full index row present more := by
    -- the next row has a byte, so that this one is whole
    have next := List.getElem?_eq_getElem more
    rw [getElem?_pieces] at present next
    split at present
    · split at next
      · cases present
        rw [List.length_take, List.length_drop]
        omega
      · cases next
    · cases present
  last row mem := ⟨(mem_pieces mem).1, (mem_pieces mem).2.1⟩
  data := by
    have joined : (pieces 16 (by decide) offset ((content.drop offset).take length)).flatMap
      Prod.snd = (content.drop offset).take length := pieceData_pieces
    rw [joined, List.take_eq_take_iff, List.length_drop]
    omega

/-- The offset up to which a request asks for the file. -/
def dumpStop (file : StoredFile) (offset : ℕ) (asked : Option ℕ) : ℕ :=
  match asked with
  | none => file.content.length
  | some length => min (offset + length) file.content.length

theorem min_dumpStop {file : StoredFile} {offset : ℕ} (inside : offset ≤ file.content.length)
    (asked : Option ℕ) :
    min (offset + asked.getD (file.content.length - offset)) file.content.length =
      dumpStop file offset asked := by
  cases asked with
  | none =>
      rw [Option.getD_none, Nat.add_sub_cancel' inside, Nat.min_self]
      rfl
  | some length => rfl

/-- What is promised of a dump. -/
structure DumpKept (library : FileShellLibrary) : Prop where
  /-- Of a file that does not change, the rows cover the range, and their lines show them. -/
  covers : ∀ (file : StoredFile) (world : FileWorld) (state : world.State)
    (command value : CString) (options : List CString) (offset : ℕ) (asked : Option ℕ),
    library.bacnetStringToUint32 value = some file.objectInstance →
    DumpRequest library options offset asked → offset ≤ file.content.length →
    let outcome := (cmdFileDumpWord library (command :: value :: options)).run world state
    (∀ event ∈ outcome.trace, file.Answers event.1 event.2) →
    if asked.any (int32Max < offset + ·) then
      outcome.value = -Errno.eoverflow ∧ printedLines (observations outcome.trace) = []
    else
      outcome.value = 0 ∧ ∃ rows, RowsCover file.content offset (dumpStop file offset asked) rows ∧
        printedLines (observations outcome.trace) = (rows.map fun row =>
          fileDumpLine row.1 row.2) ∧
        (printedLines (observations outcome.trace)).map dumpLineRow =
          rows.map fun row => (row.1, some row.2)
  /-- Whatever the answers, nothing is read behind the largest offset. -/
  below : ∀ (argv : List CString) (world : FileWorld) (state : world.State),
    ReadsBelow ((cmdFileDumpWord library argv).run world state).trace
  /-- Whatever the reads give, the variables of the loop do not wrap. -/
  loop : ∀ (transfer : FileTransfer) (offset remaining : UInt32),
    offset.toNat + remaining.toNat ≤ int32Max →
    ∀ (world : FileWorld) (state : world.State),
      let outcome := (fileDumpLoopWord transfer offset remaining).run world state
      DumpLoopEnded offset remaining outcome.value outcome.trace
  /-- The command is the one with exact arithmetic. -/
  words : ∀ argv, cmdFileDumpWord library argv = cmdFileDump library argv

/-- A dump covers the range that is asked for, and its loop stays in the range of offsets. -/
theorem dump_kept (library : FileShellLibrary) : DumpKept library where
  covers file world state command value options offset asked parsed request inside := by
    rw [cmdFileDumpWord_eq]
    intro outcome unchanged
    have serves : Serves file file.Answers := fun _ _ allowed => allowed
    have ⟨result, calls⟩ := (ensures_cmdFileDump serves parsed request inside).sound world state
      unchanged
    split
    · rename_i long
      rw [if_pos long] at result calls
      refine ⟨result, ?_⟩
      rw [observations, calls]
      rfl
    · rename_i short
      rw [if_neg short] at result calls
      have cover := rowsCover_pieces file.content offset
        (asked.getD (file.content.length - offset))
      rw [min_dumpStop inside] at cover
      have lines : printedLines (observations ((cmdFileDump library
          (command :: value :: options)).run world state).trace) =
            (pieces 16 (by decide) offset ((file.content.drop offset).take
              (asked.getD (file.content.length - offset)))).map fun row =>
                fileDumpLine row.1 row.2 := by
        rw [observations, calls, printedLines_dumpCalls, dumpRows]
      refine ⟨result, _, cover, lines, ?_⟩
      rw [lines]
      exact map_dumpLineRow fun row mem => (cover.last row mem).2
  below argv world state := by
    rw [cmdFileDumpWord_eq]
    exact wp_sound (staysBelow_cmdFileDump library argv) world state fun _ _ => trivial
  loop transfer offset remaining bound world state :=
    wp_sound (always_fileDumpLoopWord transfer offset remaining bound) world state
      fun _ _ => trivial
  words := cmdFileDumpWord_eq library

/-- The dump of a file of seventeen bytes has two rows. -/
theorem dump_kept_seventeen :
    let outcome := (cmdFileDumpWord .reference ["dump".toList, "7".toList]).run
      StoredFile.seventeen.world (0 : ℕ)
    outcome.value = 0 ∧ (printedLines (observations outcome.trace)).map dumpLineRow =
      [(0, some [32, 33, 34, 35, 36, 37, 38, 39, 40, 41, 42, 43, 44, 45, 46, 47]),
        (16, some [255])] := by
  intro outcome
  have unchanged : ∀ event ∈ outcome.trace, StoredFile.seventeen.Answers event.1 event.2 :=
    mem_trace_allowed StoredFile.seventeen.world_answers _ _
  rcases (dump_kept .reference).covers .seventeen StoredFile.seventeen.world (0 : ℕ) "dump".toList
    "7".toList [] 0 none rfl .whole (Nat.zero_le _) unchanged with ⟨value, rows, cover, -, shown⟩
  refine ⟨value, shown.trans ?_⟩
  rw [cover.eq_pieces, pieces_of_ne_nil (by decide), pieces_of_ne_nil (by decide)]
  have nothing : ((((StoredFile.seventeen.content.drop 0).take
      (dumpStop StoredFile.seventeen 0 none - 0)).drop 16).drop 16) = [] := by decide
  rw [nothing, pieces_nil]
  rfl

end BacnetZephyr
