import Mathlib.Logic.Function.Defs

/-!
Digests that read a list from the left. As long as no step merges two states, a
difference that has reached the state stays there to the end of the list.
-/

namespace TradingKernel.Library.Digest
open Function

variable {σ α : Type} {step : σ → α → σ}

/-- Without merging steps no suffix merges two states. -/
theorem foldl_injective (keeps : ∀ symbol, Injective fun state => step state symbol)
    (symbols : List α) : Injective fun state => symbols.foldl step state := by
  induction symbols with
  | nil => exact injective_id
  | cons symbol rest ih => exact ih.comp (keeps symbol)

/-- Lists that differ in one place have different digests. -/
theorem foldl_substitute (keeps : ∀ symbol, Injective fun state => step state symbol)
    (tells : ∀ state, Injective (step state)) (start : σ) (before after : List α)
    {first second : α} (differ : first ≠ second) :
    (before ++ first :: after).foldl step start ≠ (before ++ second :: after).foldl step start := by
  rw [List.foldl_append, List.foldl_append, List.foldl_cons, List.foldl_cons]
  intro same
  exact differ (tells _ (foldl_injective keeps after same))

end TradingKernel.Library.Digest
