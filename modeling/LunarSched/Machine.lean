import Mathlib.Tactic.Ring
import Mathlib.Tactic.Linarith
import Mathlib.Algebra.Order.Group.Nat

/-!
Fixed-width machine arithmetic over natural numbers and integers: what a C
compiler stores in an unsigned or signed variable of 16, 32 or 64 bits, and the
integer helpers that kernel code builds from it. Every helper wraps exactly where
the C expression wraps; the lemmas say when no wrap happens.
-/
namespace LunarSched.Machine

/-- What a 16-bit unsigned variable holds after `x` is stored in it. -/
def u16 (x : ℕ) : ℕ := x % 65536
/-- What a 32-bit unsigned variable holds after `x` is stored in it. -/
def u32 (x : ℕ) : ℕ := x % 4294967296
/-- What a 64-bit unsigned variable holds after `x` is stored in it. -/
def u64 (x : ℕ) : ℕ := x % 18446744073709551616
/-- 64-bit unsigned subtraction. -/
def u64Sub (a b : ℕ) : ℕ := u64 (a + (18446744073709551616 - b))
/-- 32-bit unsigned subtraction. -/
def u32Sub (a b : ℕ) : ℕ := u32 (a + (4294967296 - b))
/-- A 64-bit word read as a signed value. -/
def s64 (x : ℕ) : ℤ := if u64 x < 9223372036854775808 then u64 x else (u64 x : ℤ) - 18446744073709551616
/-- The low 32 bits of a word read as a signed value. -/
def s32 (x : ℕ) : ℤ := if u32 x < 2147483648 then u32 x else (u32 x : ℤ) - 4294967296
/-- A signed value converted to a 32-bit unsigned one. -/
def u32OfInt (x : ℤ) : ℕ := (x % 4294967296).toNat
/-- A signed value converted to a 64-bit unsigned one. -/
def u64OfInt (x : ℤ) : ℕ := (x % 18446744073709551616).toNat
/-- A signed value converted to a 16-bit unsigned one. -/
def u16OfInt (x : ℤ) : ℕ := (x % 65536).toNat

/-- `clamp_t`: the lower bound is applied first, so the upper one wins. -/
def clampT (value lo hi : ℕ) : ℕ := min (max value lo) hi
/-- `mult_frac` in 32-bit unsigned arithmetic. -/
def multFrac (x numer denom : ℕ) : ℕ := u32 (u32 (x / denom * numer) + u32 (x % denom * numer) / denom)
/-- The rounding-up 64-bit division of `DIV64_U64_ROUNDUP`. -/
def div64U64Roundup (x y : ℕ) : ℕ := u64 (x + (y - 1)) / y

theorem u32_of_lt {x : ℕ} (small : x < 4294967296) : u32 x = x := Nat.mod_eq_of_lt small
theorem u64_of_lt {x : ℕ} (small : x < 18446744073709551616) : u64 x = x := Nat.mod_eq_of_lt small

theorem u32_le (x : ℕ) : u32 x ≤ x := Nat.mod_le _ _

/-- The quotient of a product that does not fit 32 bits is lost with the product. -/
theorem u32_div_lt {x d : ℕ} (positive : 0 < d) (word : d < 4294967296) (large : 4294967296 ≤ x) : u32 x / d < x / d := by
  have lost : u32 x + d ≤ x := by
    unfold u32
    omega
  calc u32 x / d < u32 x / d + 1 := Nat.lt_succ_self _
    _ = (u32 x + d) / d := (Nat.add_div_right _ positive).symm
    _ ≤ x / d := Nat.div_le_div_right lost

theorem u64Sub_of_le {a b : ℕ} (le : b ≤ a) (small : a < 18446744073709551616) : u64Sub a b = a - b := by
  unfold u64Sub u64
  omega

theorem s64_of_lt {x : ℕ} (small : x < 9223372036854775808) : s64 x = x := by
  have word : u64 x = x := u64_of_lt (by omega)
  simp [s64,word,small]

theorem s32_of_lt {x : ℕ} (small : x < 2147483648) : s32 x = x := by
  have word : u32 x = x := u32_of_lt (by omega)
  simp [s32,word,small]

theorem u64OfInt_natCast {x : ℕ} (small : x < 18446744073709551616) : u64OfInt (x : ℤ) = x := by
  unfold u64OfInt
  omega

theorem u32OfInt_lt (x : ℤ) : u32OfInt x < 4294967296 := by
  unfold u32OfInt
  omega

theorem u32OfInt_natCast {x : ℕ} (small : x < 4294967296) : u32OfInt (x : ℤ) = x := by
  unfold u32OfInt
  omega

theorem clampT_idem (value lo hi : ℕ) : clampT (clampT value lo hi) lo hi = clampT value lo hi := by
  unfold clampT
  omega

end LunarSched.Machine
