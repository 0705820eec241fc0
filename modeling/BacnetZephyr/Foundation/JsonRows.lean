import BacnetZephyr.Foundation.JsonScan

/-!
# Arrays that are printed row by row

A program that prints an array one row at a time puts a comma after each row and
something else after the last one. With a last row the rows are the elements of the
array. Without it the array is never closed, and what is printed is no value.
-/

namespace JsonText

open CLib

/-- Rows that others follow. -/
def continuedRows (rows : List CString) : CString := rows.flatMap (· ++ [',', '\n'])

section Rows

variable {row text rest before after : CString} {rows : List CString} {value : Json}
  {values : List Json} {net : ℤ} {good : Prop}

theorem Blank.append (blank : Blank before) (blankAfter : Blank after) :
    Blank (before ++ after) := by
  intro c mem
  rcases List.mem_append.mp mem with first | second
  · exact blank c first
  · exact blankAfter c second

/-- White space around what is a value already. -/
theorem ElementText.widen (element : ElementText text value) (blank : Blank before)
    (blankAfter : Blank after) : ElementText (before ++ (text ++ after)) value := by
  cases element with
  | @spaced inner valueText outer _ blankInner isValue blankOuter =>
      have wider := ElementText.spaced (blank.append blankInner) isValue
        (blankOuter.append blankAfter)
      simpa using wider

theorem ElementText.line (element : ElementText row value) : ElementText ('\n' :: row) value := by
  have wider := element.widen blank_lineEnd blank_nil
  simpa using wider

/-- The rows and the last row are the elements of an array. -/
theorem elementsText_rows (elements : List.Forall₂ ElementText (rows ++ [row]) values) :
    ElementsText ('\n' :: (continuedRows rows ++ row)) values := by
  induction rows generalizing values with
  | nil =>
      cases elements with
      | cons last rest =>
          cases rest
          exact .last last.line
  | cons first rows ih =>
      cases elements with
      | cons element elements =>
          have more := ElementsText.more element.line (ih elements)
          simpa [continuedRows] using more

/-- Rows that others follow leave the brackets as they are. -/
theorem opens_continuedRows (elements : List.Forall₂ ElementText rows values)
    (opens : Opens rest net good) : Opens (continuedRows rows ++ rest) net good := by
  induction elements with
  | nil => exact opens
  | @cons first firstValue rows values element elements ih =>
      have line := (ih.cons '\n' rfl).append_scans element.scans ',' rfl
      have same : continuedRows (first :: rows) ++ rest =
          first ++ ',' :: '\n' :: (continuedRows rows ++ rest) := by
        simp [continuedRows]
      rw [same]
      exact line.of_eq (by simp [bracketDepth])

/-- A text that opens more brackets than it closes is no value. -/
theorem Opens.not_element (opens : Opens text net good) (unclosed : 0 < net) :
    ¬ElementText text value := by
  intro element
  have impossible : Opens text 0 False := opens.of_lt unclosed
  exact impossible.good_of_scans element.scans

end Rows

end JsonText
