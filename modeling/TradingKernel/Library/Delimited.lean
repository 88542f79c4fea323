import Mathlib.Data.List.Basic

/-!
Texts made of pieces. Pieces without the separator can be read back from their
joined text, and from the text in which each one is ended by the separator.
-/

namespace TradingKernel.Library.Delimited

section Splitting
variable {α : Type*} [DecidableEq α] (separator : α)

/-- Every piece followed by the separator. -/
def terminate (pieces : List (List α)) : List α := pieces.flatMap (· ++ [separator])

theorem splitOn_terminate {pieces : List (List α)} (clean : ∀ piece ∈ pieces, separator ∉ piece) :
    (terminate separator pieces).splitOn separator = pieces ++ [[]] := by
  induction pieces with
  | nil => rfl
  | cons piece rest ih =>
    obtain ⟨first, later⟩ := List.forall_mem_cons.1 clean
    have text : terminate separator (piece :: rest) =
        piece ++ separator :: terminate separator rest := by
      simp [terminate]
    rw [text, List.splitOn_append_cons_self_of_not_mem first, ih later, List.cons_append]

theorem terminate_inj {first second : List (List α)} (clean : ∀ piece ∈ first, separator ∉ piece)
    (cleanToo : ∀ piece ∈ second, separator ∉ piece)
    (same : terminate separator first = terminate separator second) : first = second := by
  have pieces := congrArg (List.splitOn separator) same
  rw [splitOn_terminate separator clean, splitOn_terminate separator cleanToo] at pieces
  exact List.append_cancel_right pieces

/-- Rows that are written as different pieces make different texts. -/
theorem terminate_map_injective {Row : Type*} {render : Row → List α}
    (injective : Function.Injective render) (clean : ∀ row, separator ∉ render row) :
    Function.Injective fun rows : List Row => terminate separator (rows.map render) := by
  intro first second same
  have cleans : ∀ rows : List Row, ∀ piece ∈ rows.map render, separator ∉ piece := by
    intro rows piece member
    obtain ⟨row, _, rfl⟩ := List.mem_map.1 member
    exact clean row
  have pieces := terminate_inj separator (cleans first) (cleans second) same
  exact List.map_injective_iff.2 injective pieces

theorem intercalate_inj {first second : List (List α)}
    (clean : ∀ piece ∈ first, separator ∉ piece) (cleanToo : ∀ piece ∈ second, separator ∉ piece)
    (some : first ≠ []) (someToo : second ≠ [])
    (same : [separator].intercalate first = [separator].intercalate second) : first = second := by
  calc
    first = ([separator].intercalate first).splitOn separator :=
      (List.splitOn_intercalate separator clean some).symm
    _ = ([separator].intercalate second).splitOn separator := by rw [same]
    _ = second := List.splitOn_intercalate separator cleanToo someToo

end Splitting

/-- A joined text holds the separator and what its pieces hold. -/
theorem mem_intercalate {α : Type*} (separator : α) {pieces : List (List α)} {element : α}
    (member : element ∈ [separator].intercalate pieces) :
    element = separator ∨ ∃ piece ∈ pieces, element ∈ piece := by
  induction pieces with
  | nil => simp at member
  | cons piece rest ih =>
    cases rest with
    | nil => exact .inr ⟨piece, by simp, by simpa using member⟩
    | cons next more =>
      rw [List.intercalate_cons_cons] at member
      rcases List.mem_append.1 member with front | later
      · rcases List.mem_append.1 front with inside | between
        · exact .inr ⟨piece, by simp, inside⟩
        · exact .inl (List.mem_singleton.1 between)
      · rcases ih later with between | ⟨other, inside, found⟩
        · exact .inl between
        · exact .inr ⟨other, List.mem_cons_of_mem piece inside, found⟩

end TradingKernel.Library.Delimited
