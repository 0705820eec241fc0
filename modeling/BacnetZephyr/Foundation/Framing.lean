import Mathlib.Data.List.Basic

/-!
# Records without a length prefix

A reader looks at what is left of a content and either accepts a record at its
beginning, telling its length, or rejects it. `Walk` says that a content begins with
records the reader accepts one after the other; `Stops` says why it goes no further.
Every content has such a walk as long as accepted records are not empty.
-/

namespace Framing

variable {Byte Record Error : Type} (next : List Byte → Except Error (ℕ × Record))

/-- The reader accepts the records at the beginning of the content, up to the rest. -/
inductive Walk : List Byte → List (List Byte × Record) → List Byte → Prop where
  | here (content : List Byte) : Walk content [] content
  | step {content rest : List Byte} {length : ℕ} {record : Record}
      {records : List (List Byte × Record)} (accepted : next content = .ok (length, record))
      (walk : Walk (content.drop length) records rest) :
      Walk content ((content.take length, record) :: records) rest

/-- Nothing is left, or what is left is rejected. -/
inductive Stops : List Byte → Option Error → Prop where
  | finished : Stops [] none
  | rejected {rest : List Byte} {error : Error} (nonempty : rest ≠ [])
      (rejected : next rest = .error error) : Stops rest (some error)

def totalLength (records : List (List Byte × Record)) : ℕ :=
  (records.flatMap Prod.fst).length

/-- Accepted records are not empty and lie inside the content. -/
def Advancing : Prop :=
  ∀ content length record, next content = .ok (length, record) →
    0 < length ∧ length ≤ content.length

variable {next} {content rest : List Byte} {records : List (List Byte × Record)}

theorem Walk.length_le (advancing : Advancing next) (walk : Walk next content records rest) :
    records.length + rest.length ≤ content.length := by
  induction walk with
  | here content => simp
  | @step content rest length record records accepted walk ih =>
      have advance := advancing content length record accepted
      rw [List.length_drop] at ih
      rw [List.length_cons]
      omega

end Framing
