import Mathlib.Data.Nat.Digits.Defs

/-!
Decimal numerals as strings of bytes. Any non-empty string of digits has a
value, read from the left, and every number has a rendering of that value; an
integer may carry a leading minus sign.
-/

namespace TradingKernel.Library.Decimal

def minus : UInt8 := 45

def isDigit (byte : UInt8) : Bool := 48 ≤ byte && byte ≤ 57

def digitValue (byte : UInt8) : Nat := byte.toNat - 48

def digit (value : Nat) : UInt8 := UInt8.ofNat (48 + value)

/-- The number a digit string stands for, leading zeros included. -/
def value (digits : List UInt8) : Nat :=
  digits.foldl (fun total byte => digitValue byte + 10 * total) 0

/-- The digits of a number, without leading zeros. -/
def render (number : Nat) : List UInt8 :=
  if number = 0 then [digit 0] else (Nat.digits 10 number).reverse.map digit

def renderInt (number : Int) : List UInt8 :=
  if number < 0 then minus :: render number.natAbs else render number.natAbs

/-- The texts of an integer; only signed ones may start with a minus. -/
inductive Numeral (signed : Bool) : List UInt8 → Int → Prop where
  | plain {digits} : digits ≠ [] → (∀ byte ∈ digits, isDigit byte = true) →
      Numeral signed digits (value digits)
  | negative {digits} : signed = true → digits ≠ [] → (∀ byte ∈ digits, isDigit byte = true) →
      Numeral signed (minus :: digits) (-value digits)

theorem digit_toNat {number : Nat} (small : number < 10) : (digit number).toNat = 48 + number :=
  UInt8.toNat_ofNat_of_lt (show 48 + number < 256 by omega)

theorem isDigit_iff (byte : UInt8) : isDigit byte = true ↔ 48 ≤ byte.toNat ∧ byte.toNat ≤ 57 := by
  rw [isDigit, Bool.and_eq_true, decide_eq_true_iff, decide_eq_true_iff]
  exact and_congr UInt8.le_iff_toNat_le UInt8.le_iff_toNat_le

theorem isDigit_digit {number : Nat} (small : number < 10) : isDigit (digit number) = true := by
  rw [isDigit_iff, digit_toNat small]
  omega

theorem digitValue_digit {number : Nat} (small : number < 10) :
    digitValue (digit number) = number := by
  rw [digitValue, digit_toNat small]
  omega

/-- The value of rendered digits is the number they are the digits of. -/
theorem value_digits {digits : List Nat} (small : ∀ number ∈ digits, number < 10) :
    value (digits.reverse.map digit) = Nat.ofDigits 10 digits := by
  rw [value, List.map_reverse, List.foldl_reverse]
  induction digits with
  | nil => rfl
  | cons first rest ih =>
    obtain ⟨now, later⟩ := List.forall_mem_cons.1 small
    rw [List.map_cons, List.foldr_cons, ih later, digitValue_digit now, Nat.ofDigits_cons]

theorem value_render (number : Nat) : value (render number) = number := by
  rw [render]
  split_ifs with zero
  · rw [zero]
    rfl
  · rw [value_digits fun digit member => Nat.digits_lt_base (by omega) member,
      Nat.ofDigits_digits]

theorem render_ne_nil (number : Nat) : render number ≠ [] := by
  rw [render]
  split_ifs with zero
  · exact List.cons_ne_nil _ _
  · simpa [Nat.digits_ne_nil_iff_ne_zero] using zero

theorem render_isDigit (number : Nat) : ∀ byte ∈ render number, isDigit byte = true := by
  intro byte member
  rw [render] at member
  split_ifs at member
  · rw [List.mem_singleton.1 member]
    rfl
  · obtain ⟨place, inside, rfl⟩ := List.mem_map.1 member
    exact isDigit_digit (Nat.digits_lt_base (by omega) (List.mem_reverse.1 inside))

/-- A rendered integer is a text of it. -/
theorem numeral_renderInt {signed : Bool} {number : Int} (sign : 0 ≤ number ∨ signed = true) :
    Numeral signed (renderInt number) number := by
  rw [renderInt]
  split_ifs with negative
  · have text := Numeral.negative (sign.resolve_left (by omega)) (render_ne_nil number.natAbs)
      (render_isDigit number.natAbs)
    rwa [value_render, show -((number.natAbs : Nat) : Int) = number by omega] at text
  · have text : Numeral signed (render number.natAbs) (value (render number.natAbs)) :=
      .plain (render_ne_nil number.natAbs) (render_isDigit number.natAbs)
    rwa [value_render, show ((number.natAbs : Nat) : Int) = number by omega] at text

theorem Numeral.ne_nil {signed : Bool} {text : List UInt8} {number : Int}
    (numeral : Numeral signed text number) : text ≠ [] := by
  cases numeral with
  | plain some _ => exact some
  | negative _ _ _ => exact List.cons_ne_nil _ _

/-- A text of an integer holds digits and minus signs only. -/
theorem Numeral.not_mem {signed : Bool} {text : List UInt8} {number : Int}
    (numeral : Numeral signed text number) {byte : UInt8} (sign : byte ≠ minus)
    (other : isDigit byte = false) : byte ∉ text := by
  intro member
  cases numeral with
  | plain _ digits =>
    rw [digits byte member] at other
    cases other
  | negative _ _ digits =>
    rcases List.mem_cons.1 member with same | inside
    · exact sign same
    · rw [digits byte inside] at other
      cases other

/-- A text stands for one integer only. -/
theorem Numeral.unique {signed : Bool} {text : List UInt8} {first second : Int}
    (numeral : Numeral signed text first) (other : Numeral signed text second) :
    first = second := by
  have noDigit : ¬isDigit minus = true := by decide
  cases numeral with
  | plain _ digits =>
    cases other with
    | plain _ _ => rfl
    | negative _ _ _ => exact absurd (digits minus (List.mem_cons_self ..)) noDigit
  | negative _ _ _ =>
    cases other with
    | plain _ digits => exact absurd (digits minus (List.mem_cons_self ..)) noDigit
    | negative _ _ _ => rfl

theorem renderInt_injective : Function.Injective renderInt := by
  intro first second same
  have text : Numeral true (renderInt first) first := numeral_renderInt (.inr rfl)
  have textToo : Numeral true (renderInt second) second := numeral_renderInt (.inr rfl)
  exact text.unique (same ▸ textToo)

end TradingKernel.Library.Decimal
