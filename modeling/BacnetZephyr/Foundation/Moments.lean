import BacnetZephyr.Foundation.ByteStream

/-!
# Reading a content that changes

Pieces of a content are read one after the other, and the content may change between two
reads. `ReadAlong` says that each piece lies at its offset when its turn comes; a content
that shows all of them, `Shows`, is one they could have been read from at once.
-/

namespace Moments

open ByteStream

variable {α : Type}

/-- The pieces are read without a gap, each from the content of its own moment. -/
inductive ReadAlong (contents : ℕ → List α) (stride : ℕ) :
    ℕ → ℕ → List (ℕ × List α) → Prop where
  | nil (moment offset : ℕ) : ReadAlong contents stride moment offset []
  | cons {moment offset : ℕ} {data : List α} {pieces : List (ℕ × List α)}
      (present : data <+: (contents moment).drop offset)
      (later : ReadAlong contents stride (moment + stride) (offset + data.length) pieces) :
      ReadAlong contents stride moment offset ((offset, data) :: pieces)

/-- Every piece lies at its offset of the content. -/
def Shows (content : List α) (pieces : List (ℕ × List α)) : Prop :=
  ∀ piece ∈ pieces, piece.2 <+: content.drop piece.1

variable {contents : ℕ → List α} {stride moment offset : ℕ} {pieces : List (ℕ × List α)}

theorem ReadAlong.contiguous (reads : ReadAlong contents stride moment offset pieces) :
    Contiguous offset pieces := by
  induction reads with
  | nil => trivial
  | cons present later ih => exact ⟨rfl, ih⟩

theorem ReadAlong.present (reads : ReadAlong contents stride moment offset pieces) {index : ℕ}
    {piece : ℕ × List α} (found : pieces[index]? = some piece) :
    piece.2 <+: (contents (moment + index * stride)).drop piece.1 := by
  induction reads generalizing index with
  | nil => contradiction
  | cons present later ih =>
      cases index with
      | zero =>
          cases found
          rw [Nat.zero_mul]
          exact present
      | succ index =>
          have turn := ih found
          rw [Nat.add_assoc, Nat.add_comm stride, ← Nat.succ_mul] at turn
          exact turn

/-- Pieces without a gap are in a content exactly when their joined data is. -/
theorem shows_iff (contiguous : Contiguous offset pieces) {content : List α} :
    Shows content pieces ↔ pieceData pieces <+: content.drop offset := by
  induction pieces generalizing offset with
  | nil =>
      constructor
      · intro _
        exact List.nil_prefix
      · intro _ piece mem
        contradiction
  | cons piece pieces ih =>
      rcases piece with ⟨start, data⟩
      rcases contiguous with ⟨rfl, later⟩
      have data_cons : pieceData ((start, data) :: pieces) = data ++ pieceData pieces := rfl
      rw [Shows, List.forall_mem_cons, ← Shows, ih later, data_cons, ← List.drop_drop]
      constructor
      · rintro ⟨⟨tail, here⟩, there⟩
        simp only at here
        rw [← here] at there ⊢
        rw [List.drop_left] at there
        exact List.prefix_append_right_inj data |>.mpr there
      · rintro ⟨tail, joined⟩
        rw [← joined, List.append_assoc]
        refine ⟨List.prefix_append _ _, ?_⟩
        rw [List.drop_left]
        exact List.prefix_append _ _

/-- What is shown is the data of the pieces. -/
theorem Shows.take_drop (contiguous : Contiguous offset pieces) {content : List α}
    (shown : Shows content pieces) :
    (content.drop offset).take (pieceData pieces).length = pieceData pieces := by
  rcases (shows_iff contiguous).mp shown with ⟨tail, joined⟩
  rw [← joined, List.take_left]

end Moments
