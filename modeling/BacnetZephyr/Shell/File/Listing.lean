import BacnetZephyr.Shell.File.Completeness
import BacnetZephyr.Shell.File.Write

/-!
# Listing files

`bacnet file list` prints the attributes of all File objects as one JSON value, and
`bacnet file info` those of one. Names and paths are printed by the string encoder, so
that this holds for any text: `fileList_printed` and `always_cmdFileInfo`.
-/

namespace BacnetZephyr

open CLib Program JsonText

/-- What the File functions give for an object. -/
@[ext]
structure FileAttributes where
  name : Option CString
  mimeType : Option CString
  fileSize : ℕ
  readOnly : Bool
  pathname : Option CString
  streamAccess : Bool

/-- `bacfile_count`, `bacfile_index_to_instance`, and the objects. -/
structure FileTable where
  count : ℕ
  indexToInstance : ℕ → UInt32
  attributes : UInt32 → FileAttributes

section Commands

def truthText (value : Bool) : CString := (if value then "true" else "false").toList

/-- The members that both commands print. -/
def fileMembers (objectInstance : UInt32) (file : FileAttributes) : List (CString × CString) :=
  [("instance".toList, unsignedText objectInstance.toNat),
    ("name".toList, fileJsonString (file.name.getD [])),
    ("mime_type".toList, fileJsonString (file.mimeType.getD [])),
    ("size".toList, unsignedText file.fileSize),
    ("read_only".toList, truthText file.readOnly),
    ("pathname".toList, fileJsonString (file.pathname.getD []))]

/-- One round of the loop of `cmd_file_list`. -/
def fileListRound (table : FileTable) (index : ℕ) : CString :=
  let objectInstance := table.indexToInstance index
  objectText (fileMembers objectInstance (table.attributes objectInstance)) ++
    (if index + 1 < table.count then ",".toList else []) ++ ['\n']

def cmdFileList (table : FileTable) : CString :=
  "\x7b\"file-list\":[".toList ++ '\n' ::
    ((List.range table.count).flatMap (fileListRound table) ++
      ("],\"file-list-size\":".toList ++ (unsignedText table.count ++ ['\x7d', '\n'])))

variable (library : FileShellLibrary)

def cmdFileInfo (argv : List CString) : FileProgram Int := do
  if argv.length ≠ 2 then
    shellError "Usage: bacnet file info <instance>".toList
    return -Errno.einval
  else
    match ← fileInstanceParse library (argv[1]?.getD []) with
    | .error err => return err
    | .ok objectInstance =>
        let pathname ← bacfilePathname objectInstance
        let name ← bacfileNameAnsi objectInstance
        let mimeType ← bacfileFileType objectInstance
        shellFprintf ("\x7b\"instance\":".toList ++ unsignedText objectInstance.toNat ++
          ",\"name\":".toList)
        shellFprintf (fileJsonString (name.getD []))
        shellFprintf ",\"mime_type\":".toList
        shellFprintf (fileJsonString (mimeType.getD []))
        let fileSize ← bacfileFileSize objectInstance
        let readOnly ← bacfileReadOnly objectInstance
        shellFprintf (",\"size\":".toList ++ unsignedText fileSize ++ ",\"read_only\":".toList ++
          truthText readOnly ++ ",\"pathname\":".toList)
        shellFprintf (fileJsonString (pathname.getD []))
        let streamAccess ← bacfileFileAccessStream objectInstance
        shellPrint (",\"stream_access\":".toList ++ truthText streamAccess ++ "\x7d".toList)
        return 0

end Commands

/-! ## The documents -/

/-- The texts of an object, as characters. -/
structure FileTexts (file : FileAttributes) where
  name : List Char
  mimeType : List Char
  pathname : List Char
  isName : IsUtf8 (file.name.getD []) name
  isMimeType : IsUtf8 (file.mimeType.getD []) mimeType
  isPathname : IsUtf8 (file.pathname.getD []) pathname

/-- The fields of an object. -/
def fileFields (objectInstance : UInt32) {file : FileAttributes} (texts : FileTexts file) :
    List (List Char × Json) :=
  [("instance".toList, .number (unsignedText objectInstance.toNat)),
    ("name".toList, .string texts.name), ("mime_type".toList, .string texts.mimeType),
    ("size".toList, .number (unsignedText file.fileSize)),
    ("read_only".toList, .bool file.readOnly), ("pathname".toList, .string texts.pathname)]

theorem valueText_truthText (value : Bool) : ValueText (truthText value) (.bool value) := by
  cases value
  · exact .false
  · exact .true

theorem isField_fileMembers (objectInstance : UInt32) {file : FileAttributes}
    (texts : FileTexts file) :
    List.Forall₂ IsField (fileMembers objectInstance file) (fileFields objectInstance texts) := by
  apply List.Forall₂.cons (isField_unsigned _ rfl _)
  apply List.Forall₂.cons ⟨rfl, rfl, valueText_fileJsonString texts.isName⟩
  apply List.Forall₂.cons ⟨rfl, rfl, valueText_fileJsonString texts.isMimeType⟩
  apply List.Forall₂.cons (isField_unsigned _ rfl _)
  apply List.Forall₂.cons ⟨rfl, rfl, valueText_truthText file.readOnly⟩
  exact .cons ⟨rfl, rfl, valueText_fileJsonString texts.isPathname⟩ .nil

section Lists

variable (table : FileTable)

/-- The entry of an index. -/
def FileTable.entry (index : ℕ) : CString :=
  let objectInstance := table.indexToInstance index
  objectText (fileMembers objectInstance (table.attributes objectInstance))

/-- Rounds that print a comma after every entry but the last. -/
theorem flatMap_rounds {entry round : ℕ → CString} {count : ℕ}
    (isRound : ∀ index, round index =
      entry index ++ (if index + 1 < count then ",".toList else []) ++ ['\n'])
    {start remaining : ℕ} (total : start + remaining = count) :
    (List.range' start remaining).flatMap round =
      joinLines (entryLines ((List.range' start remaining).map entry)) := by
  induction remaining generalizing start with
  | zero => rfl
  | succ remaining ih =>
      cases remaining with
      | zero =>
          have last : ¬start + 1 < count := by omega
          simp [isRound, last, joinLines, entryLines]
      | succ more =>
          have other : start + 1 < count := by omega
          have rest := @ih (start + 1) (by omega)
          have first : round start = entry start ++ ",".toList ++ ['\n'] := by
            rw [isRound, if_pos other]
          rw [List.range'_succ, List.flatMap_cons, rest, first]
          simp only [List.range'_succ, List.map_cons, entryLines]
          simp [joinLines]

theorem cmdFileList_eq :
    cmdFileList table =
      '\x7b' :: commaText [memberText ("file-list".toList,
          dataText ((List.range table.count).map table.entry)),
        memberText ("file-list-size".toList, unsignedText table.count)] ++ ['\x7d', '\n'] := by
  have rounds := @flatMap_rounds table.entry (fileListRound table) table.count
    (fun _ => rfl) 0 table.count (Nat.zero_add table.count)
  rw [← List.range_eq_range'] at rounds
  have front : "\x7b\"file-list\":[".toList =
      '\x7b' :: '"' :: ("file-list".toList ++ ['"', ':', '[']) := rfl
  have back : "],\"file-list-size\":".toList =
      ']' :: ',' :: '"' :: ("file-list-size".toList ++ ['"', ':']) := rfl
  unfold cmdFileList
  rw [rounds, front, back]
  simp only [commaText_cons_cons, memberText, dataText]
  simp

/--
The files are listed as one JSON value, with the attributes of each object in the order of
the indexes.
-/
theorem fileList_printed (texts : (objectInstance : UInt32) →
    FileTexts (table.attributes objectInstance)) :
    ElementText (cmdFileList table) (.object
      [("file-list".toList, .array ((List.range table.count).map fun index =>
          .object (fileFields (table.indexToInstance index)
            (texts (table.indexToInstance index))))),
        ("file-list-size".toList, .number (unsignedText table.count))]) := by
  have entries : List.Forall₂ ValueText ((List.range table.count).map table.entry)
      ((List.range table.count).map fun index =>
        .object (fileFields (table.indexToInstance index)
          (texts (table.indexToInstance index)))) := by
    rw [List.forall₂_map_left_iff, List.forall₂_map_right_iff]
    apply List.forall₂_same.mpr
    intro index _
    exact valueText_objectText (isField_fileMembers _ _)
  have list : IsField
      ("file-list".toList, dataText ((List.range table.count).map table.entry))
      ("file-list".toList, .array _) := ⟨rfl, rfl, valueText_dataText entries⟩
  have object := valueText_objectText
    (.cons list (.cons (isField_unsigned "file-list-size".toList rfl table.count) .nil))
  have element := ElementText.spaced blank_nil object blank_lineEnd
  rw [cmdFileList_eq]
  simpa [objectText] using element

/-- One file. -/
def FileTable.single : FileTable where
  count := 1
  indexToInstance := fun _ => 7
  attributes := fun _ =>
    { name := some "a \"b\"".toList, mimeType := none, fileSize := 3, readOnly := false,
      pathname := some "a.dat".toList, streamAccess := true }

def FileTable.singleTexts (objectInstance : UInt32) :
    FileTexts (FileTable.single.attributes objectInstance) where
  name := "a \"b\"".toList
  mimeType := []
  pathname := "a.dat".toList
  isName := rfl
  isMimeType := rfl
  isPathname := rfl

theorem fileList_printed_single :
    ElementText (cmdFileList .single) (.object
      [("file-list".toList, .array [.object (fileFields 7 (FileTable.singleTexts 7))]),
        ("file-list-size".toList, .number "1".toList)]) :=
  fileList_printed .single FileTable.singleTexts

end Lists

/-! ## One object -/

section Info

variable {library : FileShellLibrary}

/-- What has been printed. -/
def printedText (trace : List FileEvent) : CString := standardOutput (trace.map Sigma.fst)

/-- The File functions have been asked for the attributes of the object. -/
structure AsksAttributes (objectInstance : UInt32) (file : FileAttributes)
    (trace : List FileEvent) : Prop where
  name : ⟨.bacfileNameAnsi objectInstance, file.name⟩ ∈ trace
  mimeType : ⟨.bacfileFileType objectInstance, file.mimeType⟩ ∈ trace
  fileSize : ⟨.bacfileFileSize objectInstance, file.fileSize⟩ ∈ trace
  readOnly : ⟨.bacfileReadOnly objectInstance, file.readOnly⟩ ∈ trace
  pathname : ⟨.bacfilePathname objectInstance, file.pathname⟩ ∈ trace
  streamAccess : ⟨.bacfileFileAccessStream objectInstance, file.streamAccess⟩ ∈ trace

def fileInfoDocument (objectInstance : UInt32) {file : FileAttributes} (texts : FileTexts file) :
    Json :=
  .object (fileFields objectInstance texts ++ [("stream_access".toList, .bool file.streamAccess)])

/-- A command that succeeds has printed what it was told about the object of its argument. -/
def InfoPrinted (library : FileShellLibrary) (argv : List CString) (status : Int)
    (trace : List FileEvent) : Prop :=
  status = 0 → ∃ objectInstance file,
    argv[1]?.bind library.bacnetStringToUint32 = some objectInstance ∧
      AsksAttributes objectInstance file trace ∧
      ∀ texts : FileTexts file,
        ElementText (printedText trace) (fileInfoDocument objectInstance texts)

/-- An instance that is taken is the number of the argument, and nothing is printed. -/
theorem always_fileInstanceParse_silent (value : CString) :
    Always (fileInstanceParse library value) fun parsed trace =>
      match parsed with
      | .error err => err ≠ 0
      | .ok objectInstance =>
          library.bacnetStringToUint32 value = some objectInstance ∧ printedText trace = [] := by
  simp only [fileInstanceParse]
  split
  · apply Always.call
    intro _
    exact Always.pure einval_ne_zero
  · rename_i number
    apply Always.call
    intro valid
    split
    · exact Always.pure ⟨number, rfl⟩
    · apply Always.call
      intro _
      exact Always.pure einval_ne_zero

theorem elementText_info (objectInstance : UInt32) {file : FileAttributes}
    (texts : FileTexts file) :
    ElementText (objectText (fileMembers objectInstance file ++
        [("stream_access".toList, truthText file.streamAccess)]) ++ ['\n'])
      (fileInfoDocument objectInstance texts) := by
  have stream : IsField ("stream_access".toList, truthText file.streamAccess)
      ("stream_access".toList, .bool file.streamAccess) :=
    ⟨rfl, rfl, valueText_truthText file.streamAccess⟩
  have fields := List.rel_append (isField_fileMembers objectInstance texts) (.cons stream .nil)
  exact .spaced blank_nil (valueText_objectText fields) blank_lineEnd

/-- The calls after the argument has been parsed. -/
def infoEvents (objectInstance : UInt32) (file : FileAttributes) : List FileEvent :=
  [⟨.bacfilePathname objectInstance, file.pathname⟩,
    ⟨.bacfileNameAnsi objectInstance, file.name⟩,
    ⟨.bacfileFileType objectInstance, file.mimeType⟩,
    ⟨.shellFprintf ("\x7b\"instance\":".toList ++ unsignedText objectInstance.toNat ++
      ",\"name\":".toList), ()⟩,
    ⟨.shellFprintf (fileJsonString (file.name.getD [])), ()⟩,
    ⟨.shellFprintf ",\"mime_type\":".toList, ()⟩,
    ⟨.shellFprintf (fileJsonString (file.mimeType.getD [])), ()⟩,
    ⟨.bacfileFileSize objectInstance, file.fileSize⟩,
    ⟨.bacfileReadOnly objectInstance, file.readOnly⟩,
    ⟨.shellFprintf (",\"size\":".toList ++ unsignedText file.fileSize ++
      ",\"read_only\":".toList ++ truthText file.readOnly ++ ",\"pathname\":".toList), ()⟩,
    ⟨.shellFprintf (fileJsonString (file.pathname.getD [])), ()⟩,
    ⟨.bacfileFileAccessStream objectInstance, file.streamAccess⟩,
    ⟨.shellPrint (",\"stream_access\":".toList ++ truthText file.streamAccess ++
      "\x7d".toList), ()⟩]

theorem asksAttributes_infoEvents (objectInstance : UInt32) (file : FileAttributes)
    (before : List FileEvent) :
    AsksAttributes objectInstance file (before ++ infoEvents objectInstance file) := by
  constructor <;>
    · apply List.mem_append_right
      simp only [infoEvents, List.mem_cons, true_or, or_true]

theorem printedText_append (first second : List FileEvent) :
    printedText (first ++ second) = printedText first ++ printedText second := by
  simp [printedText, standardOutput]

/-- The pieces that are printed are one object. -/
theorem printedText_infoEvents (objectInstance : UInt32) (file : FileAttributes) :
    printedText (infoEvents objectInstance file) =
      objectText (fileMembers objectInstance file ++
        [("stream_access".toList, truthText file.streamAccess)]) ++ ['\n'] := by
  have opening : "\x7b\"instance\":".toList =
      '\x7b' :: '"' :: ("instance".toList ++ ['"', ':']) := rfl
  have name : ",\"name\":".toList = ',' :: '"' :: ("name".toList ++ ['"', ':']) := rfl
  have mimeType : ",\"mime_type\":".toList =
      ',' :: '"' :: ("mime_type".toList ++ ['"', ':']) := rfl
  have size : ",\"size\":".toList = ',' :: '"' :: ("size".toList ++ ['"', ':']) := rfl
  have readOnly : ",\"read_only\":".toList =
      ',' :: '"' :: ("read_only".toList ++ ['"', ':']) := rfl
  have pathname : ",\"pathname\":".toList =
      ',' :: '"' :: ("pathname".toList ++ ['"', ':']) := rfl
  have stream : ",\"stream_access\":".toList =
      ',' :: '"' :: ("stream_access".toList ++ ['"', ':']) := rfl
  have closing : "\x7d".toList = ['\x7d'] := rfl
  simp only [printedText, standardOutput, infoEvents, List.map_cons, List.map_nil,
    List.flatMap_cons, List.flatMap_nil, FileCall.output, opening, name, mimeType, size, readOnly,
    pathname, stream, closing]
  simp only [objectText, fileMembers, List.cons_append, List.nil_append, List.map_cons,
    List.map_nil, commaText_cons_cons, memberText]
  simp only [commaText, List.intercalate, List.intersperse_singleton, List.flatten_cons,
    List.flatten_nil, List.append_nil, List.append_assoc, List.cons_append, List.nil_append]

theorem always_cmdFileInfo (argv : List CString) :
    Always (cmdFileInfo library argv) (InfoPrinted library argv) := by
  unfold cmdFileInfo
  split
  · apply Always.call
    intro _
    exact Always.pure fun success => absurd success einval_ne_zero
  · rename_i two
    rw [ne_eq, not_not] at two
    obtain ⟨command, value, rfl⟩ := List.length_eq_two.mp two
    apply Always.bind (always_fileInstanceParse_silent _)
    rintro (err | objectInstance) before parsed
    · exact Always.pure fun success => absurd success parsed
    apply Always.call
    intro pathname
    apply Always.call
    intro name
    apply Always.call
    intro mimeType
    -- the four pieces up to the type
    apply Always.call
    intro _
    apply Always.call
    intro _
    apply Always.call
    intro _
    apply Always.call
    intro _
    apply Always.call
    intro fileSize
    apply Always.call
    intro readOnly
    apply Always.call
    intro _
    apply Always.call
    intro _
    apply Always.call
    intro streamAccess
    apply Always.call
    intro _
    apply Always.pure
    intro _
    let file : FileAttributes := { name, mimeType, fileSize, readOnly, pathname, streamAccess }
    refine ⟨objectInstance, file, parsed.1, asksAttributes_infoEvents _ file before, ?_⟩
    intro texts
    have printed : printedText (before ++ infoEvents objectInstance file) =
        printedText (infoEvents objectInstance file) := by
      rw [printedText_append, parsed.2, List.nil_append]
    have document := elementText_info objectInstance texts
    rw [← printedText_infoEvents, ← printed] at document
    exact document

end Info

end BacnetZephyr
