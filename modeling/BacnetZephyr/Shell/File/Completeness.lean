import BacnetZephyr.Shell.File.ExportRun
import BacnetZephyr.Shell.File.Import
import BacnetZephyr.Shell.File.WellFormed
import Mathlib.Algebra.GroupWithZero.Nat

/-!
# Successful exports are complete

The document of a file is one JSON value with all chunks of its content and its checksum.
With the outcome of a run in any world, this is what a successful export prints.
-/

namespace BacnetZephyr

open CLib Program ByteStream JsonText

/-! ## The checksum -/

/-- The IEEE CRC-32. -/
def crc32Ieee (data : List UInt8) : UInt32 := ~~~(data.foldl crc32IeeeByte (~~~0))

/-- The documented behaviour of `crc32_ieee_update`. -/
def FileShellLibrary.UpdatesCrc32 (library : FileShellLibrary) : Prop :=
  ∀ first second, library.crc32IeeeUpdate (crc32Ieee first) second = crc32Ieee (first ++ second)

theorem FileShellLibrary.reference_updatesCrc32 : FileShellLibrary.reference.UpdatesCrc32 := by
  intro first second
  simp only [reference, crc32Ieee, UInt32.not_not, List.foldl_append]

theorem foldl_crc32IeeeUpdate {library : FileShellLibrary} (updates : library.UpdatesCrc32)
    (chunks : List (ℕ × List UInt8)) (first : List UInt8) :
    chunks.foldl (fun crc chunk => library.crc32IeeeUpdate crc chunk.2) (crc32Ieee first) =
      crc32Ieee (first ++ pieceData chunks) := by
  induction chunks generalizing first with
  | nil => rw [pieceData, List.flatMap_nil, List.append_nil, List.foldl_nil]
  | cons chunk chunks ih =>
      rw [List.foldl_cons, updates, ih, pieceData, pieceData, List.flatMap_cons,
        List.append_assoc]

theorem exportCrc_eq {library : FileShellLibrary} (updates : library.UpdatesCrc32)
    (config : FileShellConfig) (file : StoredFile) :
    exportCrc config library file = crc32Ieee file.content := by
  have fold := foldl_crc32IeeeUpdate updates (exportChunks config 0 file.content) []
  rw [List.nil_append, pieceData_pieces] at fold
  exact fold

/-! ## The document -/

section Document

variable {config : FileShellConfig} {library : FileShellLibrary}

def entryJson (objectInstance : UInt32) (chunk : ℕ × List UInt8) : Json :=
  .object
    [("instance".toList, .number (unsignedText objectInstance.toNat)),
      ("offset".toList, .number (unsignedText chunk.1)),
      ("data".toList, .string (hexText chunk.2))]

theorem valueText_entry (objectInstance : UInt32) (chunk : ℕ × List UInt8) :
    ValueText (importChunkText objectInstance.toNat chunk.1 (hexText chunk.2))
      (entryJson objectInstance chunk) := by
  have instanceField : IsField ("instance".toList, unsignedText objectInstance.toNat)
      ("instance".toList, .number (unsignedText objectInstance.toNat)) :=
    ⟨rfl, rfl, valueText_unsignedText objectInstance.toNat⟩
  have offsetField : IsField ("offset".toList, unsignedText chunk.1)
      ("offset".toList, .number (unsignedText chunk.1)) :=
    ⟨rfl, rfl, valueText_unsignedText chunk.1⟩
  have dataField : IsField ("data".toList, quoted (hexText chunk.2))
      ("data".toList, .string (hexText chunk.2)) :=
    ⟨rfl, rfl, valueText_quoted (isPlain_of_isDigitOf fun _ mem => isDigitOf_of_mem_hexText mem)⟩
  have object := valueText_objectText
    (.cons instanceField (.cons offsetField (.cons dataField .nil)))
  delta importChunkText
  simpa [entryJson, objectText, memberText, quoted, commaText, List.intercalate] using object

/-- Lines of entries with a comma after every entry but the last are elements. -/
theorem elementsText_entryLines {entries : List CString} {values : List Json}
    (isEntries : List.Forall₂ ValueText entries values) (nonempty : entries ≠ []) :
    ElementsText ('\n' :: joinLines (entryLines entries)) values := by
  induction isEntries with
  | nil => contradiction
  | @cons entry value entries values isEntry isEntries ih =>
      cases isEntries with
      | nil =>
          have element := ElementText.spaced blank_lineEnd isEntry blank_lineEnd
          simpa [entryLines, joinLines] using ElementsText.last element
      | @cons second _ others _ isSecond isOthers =>
          have element := ElementText.spaced blank_lineEnd isEntry blank_nil
          have rest := ih (List.cons_ne_nil _ _)
          have lines : '\n' :: joinLines (entryLines (entry :: second :: others)) =
              ['\n'] ++ (entry ++ []) ++
                ',' :: ('\n' :: joinLines (entryLines (second :: others))) := by
            simp [entryLines, joinLines]
          rw [lines]
          exact .more element rest

def dataText (entries : List CString) : CString :=
  '[' :: ('\n' :: joinLines (entryLines entries) ++ [']'])

theorem valueText_dataText {entries : List CString} {values : List Json}
    (isEntries : List.Forall₂ ValueText entries values) :
    ValueText (dataText entries) (.array values) := by
  cases isEntries with
  | nil => exact .emptyArray blank_lineEnd
  | cons isEntry others =>
      exact .array (elementsText_entryLines (.cons isEntry others) (List.cons_ne_nil _ _))

/-- The JSON value of an export with the given chunks. -/
def exportJson (objectInstance : UInt32) (name mimeType : List Char) (size : ℕ) (readOnly : Bool)
    (chunks : List (ℕ × List UInt8)) : Json :=
  .object
    [("instance".toList, .number (unsignedText objectInstance.toNat)),
      ("name".toList, .string name), ("mime_type".toList, .string mimeType),
      ("size".toList, .number (unsignedText size)), ("read_only".toList, .bool readOnly),
      ("data".toList, .array (chunks.map (entryJson objectInstance))),
      ("crc32".toList, .string (hexWord (crc32Ieee (pieceData chunks)).toNat))]

/-- The text of the document without its last line end. -/
def exportText (config : FileShellConfig) (file : StoredFile) : CString :=
  '\x7b' :: (commaText
    ['\n' :: (memberText ("instance".toList, unsignedText file.objectInstance.toNat) ++ []),
      '\n' :: (memberText ("name".toList, fileJsonString (file.name.getD [])) ++ []),
      '\n' :: (memberText ("mime_type".toList, fileJsonString (file.mimeType.getD [])) ++ []),
      '\n' :: (memberText ("size".toList, unsignedText file.content.length) ++ []),
      '\n' :: (memberText
        ("read_only".toList, (if file.readOnly then "true" else "false").toList) ++ []),
      '\n' :: (memberText ("data".toList, dataText (exportEntries config file)) ++ []),
      '\n' :: (memberText
        ("crc32".toList, quoted (hexWord (crc32Ieee file.content).toNat)) ++ ['\n'])] ++
    ['\x7d'])

theorem joinLines_exportDocument (updates : library.UpdatesCrc32) (file : StoredFile) :
    joinLines (exportDocument config library file) = exportText config file ++ ['\n'] := by
  rw [exportDocument, exportFooter, exportCrc_eq updates]
  simp [exportText, exportHeader, joinLines, memberText, quoted, dataText, commaText,
    List.intercalate]

theorem valueText_exportText {file : StoredFile} {name mimeType : List Char}
    (isName : IsUtf8 (file.name.getD []) name) (isType : IsUtf8 (file.mimeType.getD []) mimeType) :
    ValueText (exportText config file)
      (exportJson file.objectInstance name mimeType file.content.length file.readOnly
        (exportChunks config 0 file.content)) := by
  have entries : List.Forall₂ ValueText (exportEntries config file)
      ((exportChunks config 0 file.content).map (entryJson file.objectInstance)) := by
    rw [exportEntries, List.forall₂_map_left_iff, List.forall₂_map_right_iff, List.forall₂_same]
    exact fun chunk _ => valueText_entry file.objectInstance chunk
  have access : ValueText (if file.readOnly then "true" else "false").toList
      (.bool file.readOnly) := by
    cases file.readOnly
    · exact .false
    · exact .true
  have crc := valueText_quoted (isPlain_of_isDigitOf fun _ mem =>
    @isDigitOf_of_mem_hexWord (crc32Ieee file.content).toNat _ mem)
  rw [exportJson, pieceData_pieces]
  apply valueText_object
  refine .cons (memberText_line ⟨rfl, rfl, valueText_unsignedText _⟩ blank_nil) ?_
  refine .cons (memberText_line ⟨rfl, rfl, valueText_fileJsonString isName⟩ blank_nil) ?_
  refine .cons (memberText_line ⟨rfl, rfl, valueText_fileJsonString isType⟩ blank_nil) ?_
  refine .cons (memberText_line ⟨rfl, rfl, valueText_unsignedText _⟩ blank_nil) ?_
  refine .cons (memberText_line ⟨rfl, rfl, access⟩ blank_nil) ?_
  refine .cons (memberText_line ⟨rfl, rfl, valueText_dataText entries⟩ blank_nil) ?_
  exact .cons (memberText_line ⟨rfl, rfl, crc⟩ blank_lineEnd) .nil

end Document

/-! ## Successful exports are complete -/

/-- The chunks cover a file of the given size: the offsets are the multiples of the chunk size. -/
structure Chunking (chunkSize size : ℕ) (chunks : List (ℕ × List UInt8)) : Prop where
  offsets : ∀ index chunk, chunks[index]? = some chunk → chunk.1 = index * chunkSize
  whole : ∀ index chunk, chunks[index]? = some chunk → index + 1 < chunks.length →
    chunk.2.length = chunkSize
  bounds : ∀ chunk ∈ chunks, 0 < chunk.2.length ∧ chunk.2.length ≤ chunkSize
  total : (chunks.map fun chunk => chunk.2.length).sum = size

theorem chunking_exportChunks (config : FileShellConfig) (content : List UInt8) :
    Chunking config.chunkSize content.length (exportChunks config 0 content) where
  offsets := by
    intro index chunk isChunk
    rw [exportChunks, getElem?_pieces] at isChunk
    split at isChunk
    · rcases Option.some.inj isChunk with rfl
      exact Nat.zero_add _
    · contradiction
  whole := by
    intro index chunk isChunk more
    rcases (⟨_, List.getElem?_eq_getElem more⟩ :
      ∃ next, (exportChunks config 0 content)[index + 1]? = some next) with ⟨next, isNext⟩
    rw [exportChunks, getElem?_pieces] at isChunk isNext
    split at isNext
    · rename_i beyond
      rw [Nat.add_mul, Nat.one_mul] at beyond
      rw [if_pos (by omega)] at isChunk
      rcases Option.some.inj isChunk with rfl
      rw [List.length_take_of_le]
      rw [List.length_drop]
      omega
    · contradiction
  bounds := by
    intro chunk mem
    have properties := mem_pieces mem
    exact ⟨List.length_pos_iff.mpr properties.1, properties.2.1⟩
  total := by
    have data := congrArg List.length
      (@pieceData_pieces _ config.chunkSize config.chunkSize_range.1 0 content)
    rw [pieceData, List.length_flatMap] at data
    exact data

/-- A name or a type the object answers with is valid UTF-8. -/
def AnswersUtf8 : (call : FileCall) → call.Response → Prop
  | .bacfileNameAnsi _, name => ∀ text ∈ name, ∃ characters, IsUtf8 text characters
  | .bacfileFileType _, mimeType => ∀ text ∈ mimeType, ∃ characters, IsUtf8 text characters
  | _, _ => True

/-- A read is short, or the object is no longer the same. -/
def Disturbed (trace : List FileEvent) : Prop :=
  (∃ objectInstance offset requested bytes,
    (⟨.bacfileReadOffset objectInstance offset requested, bytes⟩ : FileEvent) ∈ trace ∧
      bytes.1.length < requested) ∨
  (∃ objectInstance,
    (⟨.bacfileValidInstance objectInstance, false⟩ : FileEvent) ∈ trace) ∨
  (∃ objectInstance,
    (⟨.bacfileFileAccessStream objectInstance, false⟩ : FileEvent) ∈ trace) ∨
  ∃ objectInstance first second,
    (⟨.bacfilePathname objectInstance, first⟩ : FileEvent) ∈ trace ∧
      (⟨.bacfilePathname objectInstance, second⟩ : FileEvent) ∈ trace ∧ first ≠ second

theorem not_disturbed_of_confirms {pathname : CString} {trace : List FileEvent}
    (confirms : ∀ event ∈ trace, Confirms pathname event) : ¬Disturbed trace := by
  rintro (⟨_, _, _, _, mem, short⟩ | ⟨_, mem⟩ | ⟨_, mem⟩ |
    ⟨_, first, second, memFirst, memSecond, differ⟩)
  · have whole := confirms _ mem
    simp only [Confirms] at whole
    omega
  · have valid := confirms _ mem
    simp [Confirms] at valid
  · have stream := confirms _ mem
    simp [Confirms] at stream
  · have isFirst : first = some pathname := confirms _ memFirst
    have isSecond : second = some pathname := confirms _ memSecond
    exact differ (isFirst.trans isSecond.symm)

theorem exists_isUtf8 {text : Option CString}
    (valid : ∀ value ∈ text, ∃ characters, IsUtf8 value characters) :
    ∃ characters, IsUtf8 (text.getD []) characters := by
  cases text with
  | none => exact ⟨[], rfl⟩
  | some value => exact valid value rfl

/-- The output of a successful export: the JSON document of all bytes read. -/
def CompleteExport (config : FileShellConfig) (trace : List FileEvent) : Prop :=
  ∃ objectInstance name mimeType size readOnly chunks text,
    standardOutput (observations trace) = text ++ ['\n'] ∧
    printedErrors (observations trace) = [] ∧
    ValueText text (exportJson objectInstance name mimeType size readOnly chunks) ∧
    Chunking config.chunkSize size chunks ∧ pieceData chunks = bytesRead trace ∧
    size ≤ int32Max

theorem completeExport_of_run {config : FileShellConfig} {library : FileShellLibrary}
    (updates : library.UpdatesCrc32) {argv : List CString} {file : StoredFile}
    {trace : List FileEvent} (run : ExportRun config library argv file trace)
    (utf8 : ∀ event ∈ trace, AnswersUtf8 event.1 event.2) : CompleteExport config trace := by
  rcases exists_isUtf8 (utf8 _ run.name) with ⟨name, isName⟩
  rcases exists_isUtf8 (utf8 _ run.mimeType) with ⟨mimeType, isType⟩
  refine ⟨file.objectInstance, name, mimeType, file.content.length, file.readOnly,
    exportChunks config 0 file.content, exportText config file, ?_, ?_,
    valueText_exportText isName isType, chunking_exportChunks config file.content, ?_,
    file.content_le⟩
  · rw [run.calls, standardOutput_exportObservations, joinLines_exportDocument updates]
  · rw [run.calls]
    have entries : ∀ chunks : List (ℕ × List UInt8),
        printedErrors (chunks.flatMap (exportCalls file)) = [] := by
      intro chunks
      induction chunks with
      | nil => rfl
      | cons chunk chunks ih =>
          rw [List.flatMap_cons, printedErrors_append, ih]
          rfl
    rw [exportObservations, printedErrors_append, printedErrors_append, entries]
    rfl
  · rw [pieceData_pieces, run.content]

/--
A successful export is one JSON value whose entries are the chunks of the bytes read, with
their checksum. A short read or a changed object makes the command fail, and no read goes
beyond the printed size.
-/
theorem cmdFileExport_complete (config : FileShellConfig) (library : FileShellLibrary)
    (updates : library.UpdatesCrc32) (argv : List CString) (world : FileWorld)
    (state : world.State)
    (utf8 : ∀ event ∈ ((cmdFileExport config library argv).run world state).trace,
      AnswersUtf8 event.1 event.2) :
    (((cmdFileExport config library argv).run world state).value = 0 →
      CompleteExport config ((cmdFileExport config library argv).run world state).trace) ∧
    (Disturbed ((cmdFileExport config library argv).run world state).trace →
      ((cmdFileExport config library argv).run world state).value ≠ 0) ∧
    ∃ size, ReadsInside 0 size
        (observations ((cmdFileExport config library argv).run world state).trace) ∧
      (readRequests (observations
          ((cmdFileExport config library argv).run world state).trace) ≠ [] →
        sizeLine size ∈ printedLines
          (observations ((cmdFileExport config library argv).run world state).trace)) := by
  have outcome := wp_sound (@always_cmdFileExport config library argv) world state
    fun _ _ => trivial
  refine ⟨?_, ?_, outcome.reads⟩
  · intro success
    rcases outcome.success success with ⟨file, run⟩
    exact completeExport_of_run updates run utf8
  · intro disturbed success
    rcases outcome.success success with ⟨file, run⟩
    exact not_disturbed_of_confirms run.confirms disturbed

/-- The export of five bytes in three chunks. -/
theorem cmdFileExport_complete_five :
    CompleteExport .pairs ((cmdFileExport .pairs .reference ["export".toList, "7".toList]).run
      StoredFile.five.world (0 : ℕ)).trace := by
  have serves : Serves .five StoredFile.five.Answers := fun _ _ allowed => allowed
  have parsed : FileShellLibrary.reference.bacnetStringToUint32 "7".toList =
      some StoredFile.five.objectInstance := rfl
  have success := (@ensures_cmdFileExport .pairs .reference .five _ serves "export".toList
    "7".toList parsed).sound StoredFile.five.world (0 : ℕ)
    (mem_trace_allowed StoredFile.five.world_answers _ _)
  have ascii : ∀ c ∈ "File \"7\"".toList, c.toNat < 0x80 := by simp
  have utf8 : ∀ (block : ℕ) (call : FileCall),
      AnswersUtf8 call (StoredFile.five.world.respond block call).1 := by
    intro block call
    cases call with
    | bacfileNameAnsi objectInstance =>
        intro text isName
        have answer : (if objectInstance = 7 then some "File \"7\"".toList else none) =
            some text := isName
        split at answer
        · rcases Option.some.inj answer with rfl
          exact ⟨_, isUtf8_of_ascii ascii⟩
        · cases answer
    | bacfileFileType objectInstance =>
        intro text isType
        have answer : (if objectInstance = 7 then none else none) = some text := isType
        simp at answer
    | _ => trivial
  exact (cmdFileExport_complete .pairs .reference FileShellLibrary.reference_updatesCrc32
    ["export".toList, "7".toList] StoredFile.five.world (0 : ℕ)
    (mem_trace_allowed utf8 _ _)).1 success.1

end BacnetZephyr
