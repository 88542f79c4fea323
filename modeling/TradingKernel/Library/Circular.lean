import Mathlib.Data.List.Infix
import Mathlib.Data.Nat.ModEq

/-!
Unbounded counters seen through a fixed number of slots. A window of counters
shorter than the number of slots keeps its slots apart, so that two stale
slot numbers still tell an empty window from a full one.
-/

namespace TradingKernel.Library

def slot (n counter : Nat) [NeZero n] : Fin n := Fin.ofNat n counter

/-- The counters from `low` up to but not including `high`, with a slot to spare. -/
structure Window (n low high : Nat) : Prop where
  ordered : low ≤ high
  spare : high < low + n

variable {n low high counter : Nat}

theorem Window.grow (window : Window n low high) (room : high + 1 < low + n) :
    Window n low (high + 1) :=
  ⟨Nat.le_succ_of_le window.ordered, room⟩

theorem Window.shrink (window : Window n low high) (some : low < high) :
    Window n (low + 1) high :=
  ⟨some, window.spare.trans (by omega)⟩

variable [NeZero n]

@[simp] theorem slot_val (counter : Nat) : (slot n counter).val = counter % n := rfl

theorem slot_eq_iff (first second : Nat) : slot n first = slot n second ↔ first % n = second % n :=
  Fin.ext_iff

theorem slot_injective {first second : Nat} (ordered : first ≤ second)
    (close : second < first + n) (same : slot n first = slot n second) : first = second := by
  have congruent : first ≡ second [MOD n] := (slot_eq_iff first second).1 same
  obtain ⟨turns, distance⟩ := (Nat.modEq_iff_dvd' ordered).1 congruent
  have none : turns = 0 := by
    by_contra some
    have turn : n * 1 ≤ n * turns := Nat.mul_le_mul_left n (Nat.pos_of_ne_zero some)
    omega
  rw [none, Nat.mul_zero] at distance
  omega

theorem slot_add (counter : Nat) : slot n (counter + n) = slot n counter :=
  Fin.ext (Nat.add_mod_right counter n)

namespace Window

theorem start : Window n low low := ⟨le_refl low, Nat.lt_add_of_pos_right (Nat.pos_of_neZero n)⟩

theorem empty_iff (window : Window n low high) : slot n low = slot n high ↔ low = high := by
  constructor
  · exact slot_injective window.ordered window.spare
  · rintro rfl
    rfl

/-- The next slot meets the first one exactly when no slot but the spare one is left. -/
theorem full_iff (window : Window n low high) :
    slot n (high + 1) = slot n low ↔ high + 1 = low + n := by
  constructor
  · intro same
    obtain ⟨ordered, spare⟩ := window
    have turned : slot n (high + 1) = slot n (low + n) := same.trans (slot_add low).symm
    exact slot_injective (by omega) (by omega) turned
  · intro full
    rw [full, slot_add]

theorem spare_ne (window : Window n low high) (above : low ≤ counter) (below : counter < high) :
    slot n counter ≠ slot n high := by
  intro same
  obtain ⟨_, spare⟩ := window
  have equal := slot_injective (Nat.le_of_lt below) (by omega) same
  omega

end Window

/-- How many counters lie between two slots. -/
def distance (low high : Fin n) : Nat := (high.val + n - low.val) % n

/-- A window's slots tell how long it is. -/
theorem Window.distance_slot (window : Window n low high) :
    distance (slot n low) (slot n high) = high - low := by
  obtain ⟨ordered, spare⟩ := window
  obtain ⟨length, rfl⟩ := Nat.exists_eq_add_of_le ordered
  have inside : low % n < n := Nat.mod_lt low (Nat.pos_of_neZero n)
  rw [distance, slot_val, slot_val, Nat.add_sub_cancel_left, Nat.add_mod, Nat.mod_eq_of_lt
    (show length < n by omega)]
  by_cases turns : low % n + length < n
  · rw [Nat.mod_eq_of_lt turns, show low % n + length + n - low % n = length + n by omega,
      Nat.add_mod_right, Nat.mod_eq_of_lt (by omega)]
  · have wrapped : (low % n + length) % n = low % n + length - n := by
      rw [Nat.mod_eq_sub_mod (by omega), Nat.mod_eq_of_lt (by omega)]
    rw [wrapped, show low % n + length - n + n - low % n = length by omega,
      Nat.mod_eq_of_lt (by omega)]

/-- The cells hold the items from `low` on, each in the slot of its position. -/
def Stores {α : Type*} (cells : Fin n → α) (items : List α) (low : Nat) : Prop :=
  ∀ position, low ≤ position → position < items.length →
    items[position]? = some (cells (slot n position))

namespace Stores

variable {α : Type*} {cells next : Fin n → α} {items : List α} {value : α}

/-- Writing to the spare slot keeps every stored item. -/
theorem write (stores : Stores cells items low) (window : Window n low items.length)
    (others : ∀ cell, cell ≠ slot n items.length → next cell = cells cell) :
    Stores next items low := by
  intro position above below
  rw [stores position above below, others _ (window.spare_ne above below)]

/-- The value in the spare slot becomes the next item. -/
theorem publish (stores : Stores cells items low)
    (written : cells (slot n items.length) = value) : Stores cells (items ++ [value]) low := by
  intro position above below
  rw [List.length_append, List.length_singleton] at below
  rcases Nat.lt_succ_iff_lt_or_eq.1 below with old | last
  · rw [List.getElem?_append_left old]
    exact stores position above old
  · rw [last, List.getElem?_concat_length, written]

theorem shrink (stores : Stores cells items low) : Stores cells items (low + 1) :=
  fun position above below => stores position (Nat.le_of_succ_le above) below

end Stores

theorem prefix_snoc {α : Type*} {taken items : List α} {value : α} (start : taken <+: items)
    (next : items[taken.length]? = some value) : taken ++ [value] <+: items := by
  obtain ⟨rest, rfl⟩ := start
  rw [List.getElem?_append_right (le_refl _), Nat.sub_self] at next
  cases rest with
  | nil => simp at next
  | cons head tail =>
    obtain rfl : head = value := by simpa using next
    exact ⟨tail, by simp⟩

end TradingKernel.Library
