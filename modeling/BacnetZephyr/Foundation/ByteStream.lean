import Mathlib.Data.List.Basic

/-!
# Streams written at offsets

The content of a stream is a list. Data is stored at an offset; what lies between the
old end and the offset is filled. `Written` allows a write at offset 0 to truncate the
stream first, as a file that is opened anew does. Pieces written one after the other
without a gap append their data to the stream, whichever of the two happens.
-/

namespace ByteStream

variable {α : Type} (filler : α)

/-- The content with data stored at an offset. -/
def storeAt (content : List α) (offset : ℕ) (data : List α) : List α :=
  (content.rightpad offset filler).take offset ++ data ++ content.drop (offset + data.length)

/-- The contents that writes leave behind. -/
inductive Written : List α → List (ℕ × List α) → List α → Prop where
  | done (content : List α) : Written content [] content
  | store {content after : List α} {offset : ℕ} {data : List α} {writes : List (ℕ × List α)}
      (rest : Written (storeAt filler content offset data) writes after) :
      Written content ((offset, data) :: writes) after
  | truncate {content after : List α} {data : List α} {writes : List (ℕ × List α)}
      (rest : Written data writes after) : Written content ((0, data) :: writes) after

/-- Every piece starts where the one before ends. -/
def Contiguous : ℕ → List (ℕ × List α) → Prop
  | _, [] => True
  | start, (offset, data) :: pieces => offset = start ∧ Contiguous (start + data.length) pieces

def pieceData (pieces : List (ℕ × List α)) : List α := pieces.flatMap Prod.snd

/-- The places of the data of the pieces. -/
def placed (pieces : List (ℕ × List α)) : List (ℕ × α) :=
  pieces.flatMap fun piece => piece.2.mapIdx fun index value => (piece.1 + index, value)

/-- Data cut into pieces of the given size from an offset on; the last may be shorter. -/
def pieces (size : ℕ) (positive : 0 < size) (offset : ℕ) (data : List α) : List (ℕ × List α) :=
  if data.length = 0 then []
  else (offset, data.take size) :: pieces size positive (offset + size) (data.drop size)
termination_by data.length
decreasing_by
  rw [List.length_drop]
  omega

variable {filler}

theorem Written.append {content middle after : List α} {writes more : List (ℕ × List α)}
    (written : Written filler content writes middle) (rest : Written filler middle more after) :
    Written filler content (writes ++ more) after := by
  induction written with
  | done content => exact rest
  | store _ ih => exact .store (ih rest)
  | truncate _ ih => exact .truncate (ih rest)

theorem storeAt_length (content data : List α) :
    storeAt filler content content.length data = content ++ data := by
  simp [storeAt, List.rightpad]

theorem written_iff_of_contiguous {pieces : List (ℕ × List α)} {content after : List α}
    (contiguous : Contiguous content.length pieces) :
    Written filler content pieces after ↔ after = content ++ pieceData pieces := by
  induction pieces generalizing content with
  | nil =>
      simp only [pieceData, List.flatMap_nil, List.append_nil]
      constructor
      · intro written
        cases written
        rfl
      · rintro rfl
        exact .done _
  | cons piece pieces ih =>
      rcases piece with ⟨offset, data⟩
      rcases contiguous with ⟨rfl, contiguous⟩
      rw [← List.length_append] at contiguous
      have appended := ih contiguous
      rw [List.append_assoc] at appended
      rw [pieceData, List.flatMap_cons, ← pieceData]
      constructor
      · intro written
        generalize start : content.length = offset at written
        cases written with
        | store rest =>
            rw [← start, storeAt_length] at rest
            exact appended.mp rest
        | truncate rest =>
            -- nothing is lost: the stream is still empty
            rcases List.eq_nil_of_length_eq_zero start with rfl
            exact appended.mp rest
      · intro equal
        apply Written.store
        rw [storeAt_length]
        exact appended.mpr equal

theorem mem_placed {pieces : List (ℕ × List α)} {address : ℕ} {value : α} :
    (address, value) ∈ placed pieces ↔
      ∃ piece ∈ pieces, ∃ index, piece.2[index]? = some value ∧ address = piece.1 + index := by
  rw [placed, List.mem_flatMap]
  constructor
  · rintro ⟨piece, mem, here⟩
    rcases List.mem_mapIdx.mp here with ⟨index, inside, equal⟩
    rw [Prod.mk.injEq] at equal
    rcases equal with ⟨rfl, rfl⟩
    exact ⟨piece, mem, index, List.getElem?_eq_getElem inside, rfl⟩
  · rintro ⟨piece, mem, index, present, rfl⟩
    rcases List.getElem?_eq_some_iff.mp present with ⟨inside, rfl⟩
    exact ⟨piece, mem, List.mem_mapIdx.mpr ⟨index, inside, rfl⟩⟩

/-! ## Cutting data into pieces -/

section Pieces

variable {size : ℕ} {positive : 0 < size} {offset : ℕ} {data : List α}

theorem pieces_nil : pieces size positive offset ([] : List α) = [] := by
  rw [pieces, if_pos List.length_nil]

theorem pieces_of_ne_nil (nonempty : data ≠ []) :
    pieces size positive offset data =
      (offset, data.take size) :: pieces size positive (offset + size) (data.drop size) := by
  have length := List.length_pos_iff.mpr nonempty
  rw [pieces, if_neg (by omega)]

theorem pieces_eq_nil_iff : pieces size positive offset data = [] ↔ data = [] := by
  constructor
  · intro none
    by_contra nonempty
    rw [pieces_of_ne_nil nonempty] at none
    contradiction
  · rintro rfl
    exact pieces_nil

theorem mem_pieces {piece : ℕ × List α} (mem : piece ∈ pieces size positive offset data) :
    piece.2 ≠ [] ∧ piece.2.length ≤ size ∧ piece.1 < offset + data.length := by
  induction offset, data using pieces.induct size positive with
  | case1 offset data empty =>
      rw [pieces, if_pos empty] at mem
      contradiction
  | case2 offset data nonempty ih =>
      rw [pieces, if_neg nonempty, List.mem_cons] at mem
      rcases mem with rfl | later
      · refine ⟨?_, List.length_take_le _ _, by omega⟩
        apply List.ne_nil_of_length_pos
        rw [List.length_take]
        omega
      · have inside := ih later
        rw [List.length_drop] at inside
        have remaining : data.drop size ≠ [] := by
          apply mt pieces_eq_nil_iff.mpr
          exact List.ne_nil_of_mem later
        rw [ne_eq, List.drop_eq_nil_iff] at remaining
        exact ⟨inside.1, inside.2.1, by omega⟩

theorem le_of_mem_pieces {piece : ℕ × List α} (mem : piece ∈ pieces size positive offset data) :
    offset ≤ piece.1 := by
  induction offset, data using pieces.induct size positive with
  | case1 offset data empty =>
      rw [pieces, if_pos empty] at mem
      contradiction
  | case2 offset data nonempty ih =>
      rw [pieces, if_neg nonempty, List.mem_cons] at mem
      rcases mem with rfl | later
      · exact Nat.le_refl offset
      · have := ih later
        omega

theorem contiguous_pieces : Contiguous offset (pieces size positive offset data) := by
  induction offset, data using pieces.induct size positive with
  | case1 offset data empty =>
      rw [pieces, if_pos empty]
      trivial
  | case2 offset data nonempty ih =>
      rw [pieces, if_neg nonempty]
      refine ⟨rfl, ?_⟩
      by_cases short : data.length ≤ size
      · -- the last piece may be shorter; none follows it
        rw [List.drop_of_length_le short, pieces_nil]
        trivial
      · rw [List.length_take_of_le (by omega)]
        exact ih

theorem pieceData_pieces : pieceData (pieces size positive offset data) = data := by
  induction offset, data using pieces.induct size positive with
  | case1 offset data empty =>
      rw [pieces, if_pos empty, List.eq_nil_of_length_eq_zero empty]
      rfl
  | case2 offset data nonempty ih =>
      rw [pieces, if_neg nonempty, pieceData, List.flatMap_cons, ← pieceData, ih,
        List.take_append_drop]

/-- A whole piece, or the last one, comes off the front. -/
theorem pieces_append {rest : List α} (nonempty : data ≠ [])
    (whole : data.length = size ∨ (data.length ≤ size ∧ rest = [])) :
    pieces size positive offset (data ++ rest) =
      (offset, data) :: pieces size positive (offset + data.length) rest := by
  rw [pieces_of_ne_nil (List.append_ne_nil_of_left_ne_nil nonempty _)]
  rcases whole with exactly | ⟨short, rfl⟩
  · subst exactly
    rw [List.take_left, List.drop_left]
  · rw [List.append_nil, List.take_of_length_le short, List.drop_of_length_le short, pieces_nil,
      pieces_nil]

/-- The pieces are the windows of the data. -/
theorem getElem?_pieces (index : ℕ) :
    (pieces size positive offset data)[index]? =
      if index * size < data.length then
        some (offset + index * size, (data.drop (index * size)).take size)
      else none := by
  induction offset, data using pieces.induct size positive generalizing index with
  | case1 offset data empty =>
      rw [pieces, if_pos empty, if_neg (by omega)]
      rfl
  | case2 offset data nonempty ih =>
      rw [pieces, if_neg nonempty]
      cases index with
      | zero =>
          rw [Nat.zero_mul, if_pos (by omega)]
          rfl
      | succ index =>
          rw [List.getElem?_cons_succ, ih, List.length_drop, List.drop_drop, Nat.add_mul,
            Nat.one_mul]
          apply if_congr _ _ rfl
          · omega
          · rw [Nat.add_assoc, Nat.add_comm size]

end Pieces

end ByteStream
