import BacnetZephyr.Shell.File.Json

/-!
# Libraries that meet the assumptions

The documented behaviour assumed of the libraries of the file shell is satisfiable.
The functions agree with the libraries on decimal numbers, on import chunks written
without white space and on pairs of hexadecimal digits; the decoder agrees with the
library on requests for an object identifier with an empty list of initial values.
Results about concrete runs are stated for these libraries.
-/

namespace BacnetZephyr

open CLib

def afterText : CString → CString → Option CString
  | [], text => some text
  | _ :: _, [] => none
  | expected :: rest, found :: text => if found = expected then afterText rest text else none

theorem afterText_append (expected text : CString) :
    afterText expected (expected ++ text) = some text := by
  induction expected with
  | nil => rfl
  | cons first rest ih => rw [List.cons_append, afterText, if_pos rfl, ih]

def tokenAfter (expected : CString) (isToken : Char → Bool) (text : CString) :
    Option (CString × CString) :=
  (afterText expected text).map fun text => (text.takeWhile isToken, text.dropWhile isToken)

theorem tokenAfter_append {isToken : Char → Bool} {expected token rest : CString} {first : Char}
    (isIn : ∀ character ∈ token, isToken character) (head : rest.head? = some first)
    (isOut : isToken first = false) :
    tokenAfter expected isToken (expected ++ (token ++ rest)) = some (token, rest) := by
  cases rest with
  | nil => contradiction
  | cons character rest =>
      rw [List.head?_cons, Option.some.injEq] at head
      have ends : ¬isToken character = true := by simp [head, isOut]
      rw [tokenAfter, afterText_append, Option.map_some, List.takeWhile_append_of_pos isIn,
        List.dropWhile_append_of_pos isIn, List.takeWhile_cons_of_neg ends,
        List.dropWhile_cons_of_neg ends, List.append_nil]

theorem head?_append_of_some {text : CString} {first : Char} (head : text.head? = some first)
    (rest : CString) : (text ++ rest).head? = some first := by
  rw [List.head?_append, head, Option.some_or]

/-- The tokens of an import chunk without white space. -/
def importChunk (text : CString) : Option BacnetFileImportChunk :=
  (tokenAfter "\x7b\"instance\":".toList Char.isDigit text).bind fun objectInstance =>
    (tokenAfter ",\"offset\":".toList Char.isDigit objectInstance.2).bind fun offset =>
      (tokenAfter ",\"data\":\"".toList (isDigitOf 16) offset.2).bind fun data =>
        if data.2 = "\"\x7d".toList then
          some ⟨some objectInstance.1, some offset.1, some data.1⟩
        else none

theorem importChunk_importChunkText (objectInstance offset : ℕ) {hex : CString}
    (digit : ∀ character ∈ hex, isDigitOf 16 character) :
    importChunk (importChunkText objectInstance offset hex) =
      some ⟨some (unsignedText objectInstance), some (unsignedText offset), some hex⟩ := by
  have decimal : ∀ number, ∀ character ∈ unsignedText number, character.isDigit :=
    fun _ _ mem => isDigit_of_mem_toDigits mem
  have nested : ∀ a b c d e f g : CString,
      a ++ b ++ c ++ d ++ e ++ f ++ g = a ++ (b ++ (c ++ (d ++ (e ++ (f ++ g))))) := by
    simp only [List.append_assoc, implies_true]
  have offsetHead : (",\"offset\":".toList).head? = some ',' := rfl
  have dataHead : (",\"data\":\"".toList).head? = some ',' := rfl
  have endHead : ("\"\x7d".toList).head? = some '"' := rfl
  unfold importChunkText importChunk
  rw [nested, tokenAfter_append (decimal _) (head?_append_of_some offsetHead _) rfl,
    Option.bind_some, tokenAfter_append (decimal _) (head?_append_of_some dataHead _) rfl,
    Option.bind_some, tokenAfter_append digit endHead rfl, Option.bind_some, if_pos rfl]

/-- One byte of the checksum, bit by bit. -/
def crc32IeeeByte (crc : UInt32) (byte : UInt8) : UInt32 :=
  (List.range 8).foldl
    (fun crc _ => if crc &&& 1 = 1 then (crc >>> 1) ^^^ 0xEDB88320 else crc >>> 1)
    (crc ^^^ byte.toUInt32)

def FileShellLibrary.reference : FileShellLibrary where
  bacnetStringToUint32 := fun text =>
    if text ≠ [] ∧ text.all Char.isDigit ∧ digitsValue 10 text < 2 ^ 32 then
      some (UInt32.ofNat (digitsValue 10 text))
    else none
  jsonObjParse := fun text =>
    match importChunk text with
    | some chunk => (7, chunk)
    | none => (-Errno.einval, ⟨none, none, none⟩)
  bin2hex := fun data size => if 2 * data.length < size then hexText data else []
  hex2bin := fun hex size => if hex.length / 2 ≤ size then (hexPairs hex).getD [] else []
  crc32IeeeUpdate := fun crc data => ~~~(data.foldl crc32IeeeByte (~~~crc))
  jsonObjParse_chunk := by
    intro objectInstance offset hex digit
    rw [importChunk_importChunkText objectInstance offset digit]
  bin2hex_eq := by
    intro data size room
    rw [if_pos room]
  hex2bin_eq := by
    intro hex size _ room
    rw [if_pos room]

/-- The content of a request for an object identifier; its first ten bits are the type. -/
def emptyCreateObject (high second third low : UInt8) : BacnetCreateObjectData :=
  let identifier := ((high.toNat * 256 + second.toNat) * 256 + third.toNat) * 256 + low.toNat
  { objectType := UInt32.ofNat (identifier / 2 ^ 22)
    objectInstance := UInt32.ofNat (identifier % 2 ^ 22)
    applicationDataLen := 0
    applicationData := List.replicate 50 0 }

/-- The decoder of requests with an empty list of initial values. -/
def decodeEmptyCreateObject : List UInt8 → Int × BacnetCreateObjectData
  | 0x0E :: 0x1C :: high :: second :: third :: low :: 0x0F :: 0x1E :: 0x1F :: _ =>
      (9, emptyCreateObject high second third low)
  | _ => (-1, emptyCreateObject 0 0 0 0)

def BackupLibrary.reference : BackupLibrary where
  Double := Unit
  maxApdu := 50
  maxApdu_pos := by decide
  createObjectDecodeServiceRequest := decodeEmptyCreateObject
  createObjectDecodeInitialValue := fun _ => (-1, ⟨0, 0, [], 0⟩)
  bacappDecodeApplicationData := fun _ => (-1, .null)
  bacappDefined := fun _ => true
  isfinite := fun _ => true
  isnan := fun _ => false
  isNegative := fun _ => false
  bacappSnprintf := fun _ _ _ => (1, "0".toList)
  characterstringUtf8Valid := fun _ _ => true
  bactextObjectTypeNameDefault := fun objectType =>
    if objectType = 2 then "analog-value".toList else "unknown".toList
  bactextObjectTypeName := fun objectType =>
    if objectType = 2 then "analog-value".toList else "Reserved for Use by ASHRAE".toList
  bactextPropertyNameDefault := fun _ => "unknown".toList

end BacnetZephyr
