import Mathlib.Algebra.GroupWithZero.Nat
import Mathlib.Data.String.Basic
import NestedTx.Console.Output

namespace NestedTx

theorem length_le_utf8ByteSize (text : String) : text.length ≤ text.utf8ByteSize := by
  rw [← String.ofList_toList (s := text), String.length_ofList, String.utf8ByteSize_ofList]
  induction text.toList with
  | nil => exact Nat.zero_le _
  | cons c cs ih =>
    have one := c.utf8Size_pos
    rw [List.length_cons, String.utf8Len_cons]
    omega

namespace Table

def Padded (width : Nat) (text cell : String) : Prop :=
  ∃ spaces, cell = text ++ String.ofList (List.replicate spaces ' ') ∧ text.length + spaces = width

def offset (lengths : List Nat) (i : Nat) : Nat := (lengths.take i).sum + 3 * i

def widths (rows : List Row) : List Nat := (columns rows).map (width rows)

/-- A line of a table: as long as all columns with the gaps between them, and with the text of each column
at the place of the column. -/
structure Laid (rows : List Row) (text : String → String) (line : String) : Prop where
  length : line.length = (widths rows).sum + 3 * ((columns rows).length - 1)
  columns : ∀ i column, (columns rows)[i]? = some column →
    ∃ before cell after, line = before ++ cell ++ after ∧
      before.length = offset (widths rows) i ∧ Padded (width rows column) (text column) cell

variable {joiner cell text column : String} {cells : List String} {rows : List Row} {row : Row}

theorem Padded.length {width : Nat} (padded : Padded width text cell) : cell.length = width := by
  obtain ⟨spaces, rfl, full⟩ := padded
  rw [String.length_append, String.length_ofList, List.length_replicate, full]

theorem padded_pad {width : Nat} (fits : text.length ≤ width) : Padded width text (pad width text) :=
  ⟨width - text.length, rfl, Nat.add_sub_cancel' fits⟩

theorem padded_dashes (width : Nat) :
    Padded width (String.ofList (List.replicate width '-')) (String.ofList (List.replicate width '-')) :=
  ⟨0, by simp, by simp⟩

theorem length_le_width (rows : List Row) (column : String) : column.length ≤ width rows column ∧
    ∀ row ∈ rows, (cellOf row column).length ≤ width rows column := by
  have bytes : column.utf8ByteSize ≤ width rows column ∧
      ∀ row ∈ rows, (cellOf row column).utf8ByteSize ≤ width rows column := by
    rw [width]
    generalize column.utf8ByteSize = widest
    induction rows generalizing widest with
    | nil => exact ⟨Nat.le_refl _, nofun⟩
    | cons row rows ih =>
      obtain ⟨kept, others⟩ := ih (max widest (cellOf row column).utf8ByteSize)
      refine ⟨(Nat.le_max_left _ _).trans kept, List.forall_mem_cons.mpr ⟨?_, others⟩⟩
      exact (Nat.le_max_right _ _).trans kept
  exact ⟨(length_le_utf8ByteSize column).trans bytes.1,
    fun row mem => (length_le_utf8ByteSize _).trans (bytes.2 row mem)⟩

theorem length_line (three : joiner.length = 3) (cells : List String) :
    (line joiner cells).length = (cells.map String.length).sum + 3 * (cells.length - 1) := by
  rw [line]
  induction cells with
  | nil => rfl
  | cons first rest ih =>
    cases rest with
    | nil => simp
    | cons second rest =>
      rw [String.intercalate_cons_cons, String.length_append, String.length_append, ih, three]
      simp only [List.map_cons, List.sum_cons, List.length_cons]
      omega

theorem exists_line_eq (three : joiner.length = 3) {i : Nat} (known : cells[i]? = some cell) :
    ∃ before after, line joiner cells = before ++ cell ++ after ∧
      before.length = offset (cells.map String.length) i := by
  rw [line]
  induction cells generalizing i with
  | nil => cases known
  | cons first rest ih =>
    cases i with
    | zero =>
      cases known
      cases rest with
      | nil => exact ⟨"", "", by simp, rfl⟩
      | cons second rest =>
        refine ⟨"", joiner ++ joiner.intercalate (second :: rest), ?_, rfl⟩
        rw [String.intercalate_cons_cons, String.empty_append, String.append_assoc]
    | succ i =>
      have later : rest ≠ [] := by
        rintro rfl
        cases known
      obtain ⟨before, after, whole, start⟩ := ih known
      refine ⟨first ++ joiner ++ before, after, ?_, ?_⟩
      · rw [String.intercalate_cons_of_ne_nil later, whole]
        simp only [String.append_assoc]
      · rw [String.length_append, String.length_append, start, three]
        simp only [offset, List.map_cons, List.take_succ_cons, List.sum_cons]
        omega

theorem laid_line (three : joiner.length = 3) {text cell : String → String}
    (padded : ∀ column, Padded (width rows column) (text column) (cell column)) :
    Laid rows text (line joiner ((columns rows).map cell)) := by
  have lengths : ((columns rows).map cell).map String.length = widths rows := by
    rw [widths, List.map_map]
    exact List.map_congr_left fun column _ => (padded column).length
  refine ⟨?_, fun i column known => ?_⟩
  · rw [length_line three, lengths, List.length_map]
  · have known : ((columns rows).map cell)[i]? = some (cell column) := by
      rw [List.getElem?_map, known, Option.map_some]
    obtain ⟨before, after, whole, start⟩ := exists_line_eq three known
    exact ⟨before, cell column, after, whole, by rw [start, lengths], padded column⟩

/-- The lines of a table are as long as each other, and in each of them the columns begin at the same
places: in the header their names, below it dashes, and for every row its cells, none of which is cut. -/
theorem lines_laid (some : rows ≠ []) :
    (Output.rows rows).lines = header rows :: separator rows :: rows.map (body rows) ++
      ["(" ++ toString rows.length ++ " rows)"] ∧
    Laid rows (fun column => column) (header rows) ∧
    Laid rows (fun column => String.ofList (List.replicate (width rows column) '-'))
      (separator rows) ∧
    ∀ row ∈ rows, Laid rows (cellOf row) (body rows row) := by
  refine ⟨?_, ?_, ?_, fun row mem => ?_⟩
  · rw [Output.lines, lines, if_neg (by simpa using some)]
  · exact laid_line rfl fun column => padded_pad (length_le_width rows column).1
  · exact laid_line rfl fun column => padded_dashes _
  · exact laid_line rfl fun column => padded_pad ((length_le_width rows column).2 row mem)

theorem lines_laid_umlauts :
    let rows : List Row := [[("id", .null), ("stadt", .string "Köln")],
      [("stadt", .string "Überlingen"), ("zip", .bool true)]]
    rows ≠ [] ∧ widths rows = [4, 11] ∧ (∀ row ∈ rows, (body rows row).length = 18) ∧
      ∀ row ∈ rows, ∃ before after, body rows row = before ++ after ∧ before.length = 7 ∧
        (cellOf row "stadt").toList <+: after.toList := by
  intro rows
  have some : rows ≠ [] := nofun
  have wide : widths rows = [4, 11] := by decide +kernel
  obtain ⟨_, _, _, laid⟩ := lines_laid some
  refine ⟨some, wide, fun row mem => ?_, fun row mem => ?_⟩
  · rw [(laid row mem).length, wide]
    rfl
  · obtain ⟨before, cell, after, whole, start, spaces, rfl, _⟩ := (laid row mem).columns 1 "stadt" rfl
    refine ⟨before, _, by rw [whole, String.append_assoc], by rw [start, wide]; rfl, ?_⟩
    simp only [String.toList_append, List.append_assoc]
    exact List.prefix_append _ _

end Table

end NestedTx
