import Mathlib.Algebra.Order.Floor.Ring
import Mathlib.Data.Rat.Floor
import Mathlib.Tactic.NormNum

/-!
# The numbers a double stands for

`Float` is bit for bit a C `double`. `value` is the rational number behind a finite one;
`toUInt32` is the C conversion to `uint32_t`, which cuts the fraction off and has a meaning only
when what is left fits.
-/

open Float.Model

namespace Binary64

/-- The number a double stands for; the infinities and NaN stand for none. -/
def value (d : Float) : Option ℚ :=
  match d.toModel.unpack with
  | .zero _ => some 0
  | .finite .positive m e _ => some (m * 2 ^ e)
  | .finite .negative m e _ => some (-(m * 2 ^ e))
  | _ => none

/-- The integer part, towards zero. -/
def trunc (q : ℚ) : ℤ := if 0 ≤ q then ⌊q⌋ else ⌈q⌉

@[simp] theorem trunc_natCast (n : ℕ) : trunc n = n := by
  unfold trunc
  rw [if_pos (Nat.cast_nonneg n)]
  exact Int.floor_natCast n

/-- `static_cast<uint32_t>(d)`. The language leaves the result open when the integer part of `d`
does not fit; `beyond` is whatever the compiler does there. -/
def toUInt32 (beyond : Float → UInt32) (d : Float) : UInt32 :=
  match value d with
  | some q =>
    if 0 ≤ trunc q ∧ trunc q < 2 ^ 32 then UInt32.ofNat (trunc q).toNat else beyond d
  | none => beyond d

/-- A double that holds a `uint32_t` is converted to just that number. -/
theorem toUInt32_of_value (beyond : Float → UInt32) {d : Float} {n : ℕ}
    (h : value d = some (n : ℚ)) (hn : n < 2 ^ 32) : (toUInt32 beyond d).toNat = n := by
  have hfit : 0 ≤ (n : ℤ) ∧ (n : ℤ) < 2 ^ 32 := ⟨by omega, by exact_mod_cast hn⟩
  unfold toUInt32
  rw [h]
  simp only [trunc_natCast]
  rw [if_pos hfit, Int.toNat_natCast]
  exact Nat.mod_eq_of_lt hn

/-- `static_cast<double>(n)` for a signed 64-bit integer, rounded to nearest. -/
def ofInt64 (n : Int64) : Float := .ofModel (.ofInt64 n)

/-- `static_cast<double>(n)` for an unsigned 64-bit integer, rounded to nearest. -/
def ofUInt64 (n : UInt64) : Float := .ofModel (.ofUInt64 n)

example : value 0.75 = some (3 / 4) := by decide +kernel

example : toUInt32 (fun _ => 0) 3.9 = 3 := by decide +kernel

end Binary64
