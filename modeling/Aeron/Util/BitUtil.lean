/-
# Fixed-width integer arithmetic of the C and C++ sources

The driver and the client compute positions, term ids and term offsets in `int32_t` and
`int64_t`. The model keeps every such value as an `Int` and writes each narrowing
conversion out as `toInt32`, the two's-complement wrap a C `(int32_t)` cast performs on the
platforms Aeron supports. Wider arithmetic is exact in the model; each place that relies on
it not overflowing says so beside its definition.

`BitUtil::isPowerOfTwo` and `BitUtil::numberOfTrailingZeroes` live in `util/BitUtil.h`,
which is not part of the sources modelled here; they are modelled from what their names
and the spec say.
-/

import Mathlib.Tactic.Ring
import Mathlib.Tactic.Linarith

namespace Aeron

/-- The value of a C `(int32_t)` conversion: the two's-complement wrap of `value` into
`[-2^31, 2^31)`. -/
def toInt32 (value : Int) : Int := (value + 2 ^ 31) % 2 ^ 32 - 2 ^ 31

/-- A value already in the `int32_t` range is left alone by the conversion. -/
@[simp] theorem toInt32_of_mem {value : Int} (low : -2 ^ 31 ≤ value) (high : value < 2 ^ 31) :
    toInt32 value = value := by
  unfold toInt32; omega

theorem toInt32_ge (value : Int) : -2 ^ 31 ≤ toInt32 value := by
  unfold toInt32; omega

theorem toInt32_lt (value : Int) : toInt32 value < 2 ^ 31 := by
  unfold toInt32; omega

/-- Wrapping once before a subtraction changes nothing: `int32` subtraction is arithmetic
modulo `2^32`. -/
theorem toInt32_toInt32_sub (first second : Int) :
    toInt32 (toInt32 first - second) = toInt32 (first - second) := by
  unfold toInt32; omega

theorem toInt32_toInt32_add (first second : Int) :
    toInt32 (toInt32 first + second) = toInt32 (first + second) := by
  unfold toInt32; omega

/-- Below the top of the range, adding one commutes with the conversion. -/
theorem toInt32_add_one {value : Int} (hbelow : toInt32 value < 2 ^ 31 - 1) :
    toInt32 (value + 1) = toInt32 value + 1 := by
  unfold toInt32 at *; omega

/-- Modelled from the spec: `BitUtil::isPowerOfTwo` (not under src/) holds of the positive
32-bit powers of two, which is what a term length must be. -/
def isPowerOfTwo (value : Int) : Bool :=
  (List.range 31).any fun bit => value = 2 ^ bit

theorem isPowerOfTwo_iff {value : Int} :
    isPowerOfTwo value = true ↔ ∃ bit < 31, value = 2 ^ bit := by
  simp [isPowerOfTwo]

/-- The number of low-order zero bits of a natural number, looking at most at `width` bits. -/
def trailingZeroes : Nat → Nat → Nat
  | 0, _ => 0
  | width + 1, value => if value % 2 = 0 then trailingZeroes width (value / 2) + 1 else 0

/-- Modelled from the spec: `BitUtil::numberOfTrailingZeroes` (not under src/) counts the
low-order zero bits of a 32-bit value, all 32 of them for zero. -/
def numberOfTrailingZeroes (value : Int) : Nat :=
  trailingZeroes 32 (value % 2 ^ 32).toNat

theorem trailingZeroes_two_pow (bit extra : Nat) :
    trailingZeroes (bit + 1 + extra) (2 ^ bit) = bit := by
  induction bit with
  | zero => simp [trailingZeroes, Nat.add_comm 1 extra]
  | succ bit ih =>
    have hsplit : bit + 1 + 1 + extra = (bit + 1 + extra) + 1 := by omega
    rw [hsplit, trailingZeroes, if_pos (by rw [Nat.pow_succ]; omega),
      Nat.pow_succ, Nat.mul_div_cancel _ (by norm_num), ih]

/-- On a power of two the trailing-zero count is its base-two logarithm, the
`positionBitsToShift` of a term length. -/
theorem numberOfTrailingZeroes_two_pow {bit : Nat} (hbit : bit < 31) :
    numberOfTrailingZeroes (2 ^ bit) = bit := by
  have hlt : (2 : Int) ^ bit < 2 ^ 32 :=
    pow_lt_pow_right₀ (by norm_num) (by omega)
  have hmod : ((2 : Int) ^ bit % 2 ^ 32).toNat = 2 ^ bit := by
    rw [Int.emod_eq_of_lt (by positivity) hlt]
    exact_mod_cast Int.toNat_natCast (2 ^ bit)
  rw [numberOfTrailingZeroes, hmod, show 32 = bit + 1 + (31 - bit) by omega,
    trailingZeroes_two_pow]

end Aeron
