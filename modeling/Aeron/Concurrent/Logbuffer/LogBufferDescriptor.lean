/-
# Log buffer descriptor: term lengths, raw tails and stream positions

A log is a fixed set of equal-length terms. Its metadata keeps, for the active term, a
64-bit raw tail whose high 32 bits are the term id and whose low 32 bits are how far
producers have claimed into the term; that offset may run past the term end while a
rotation is pending. A stream position is the number of whole terms since the initial term
id, shifted by `positionBitsToShift`, plus the offset in the current term.

Neither `LogBufferDescriptor.h` (C++) nor `aeron_logbuffer_descriptor.h` (C) is among the
modelled sources. Their accessors are modelled here from the spec and from how the sources
that are modelled call them; each says so in its docstring.
-/

import Aeron.Util.BitUtil

namespace Aeron

/-- Modelled from the spec: the smallest term length, 64k, the term length of the spec's
scenario and of the repository's own test channels (`term-length=64k`). -/
def termMinLength : Int := 64 * 1024

/-- Modelled from the spec: the largest term length, 1g, the bound the builder's
`termOffset` setter names in its message ("term offset not in range 0-1g"). -/
def termMaxLength : Int := 1024 * 1024 * 1024

/-- Modelled from the spec: whether `LogBufferDescriptor::checkTermLength` returns without
throwing. A term length is a power of two between `termMinLength` and `termMaxLength`. -/
def checkTermLength (termLength : Int) : Bool :=
  decide (termMinLength ≤ termLength) && decide (termLength ≤ termMaxLength) &&
    isPowerOfTwo termLength

/-- An accepted term length is `2 ^ bit` for a `bit` between 16 and 30. -/
theorem checkTermLength_iff {termLength : Int} :
    checkTermLength termLength = true ↔
      ∃ bit, 16 ≤ bit ∧ bit ≤ 30 ∧ termLength = 2 ^ bit := by
  simp only [checkTermLength, Bool.and_eq_true, decide_eq_true_eq, isPowerOfTwo_iff,
    termMinLength, termMaxLength]
  constructor
  · rintro ⟨⟨low, high⟩, bit, -, rfl⟩
    refine ⟨bit, ?_, ?_, rfl⟩
    · by_contra hlow
      have : (2 : Int) ^ bit < 2 ^ 16 := pow_lt_pow_right₀ (by norm_num) (by omega)
      omega
    · by_contra hhigh
      have : (2 : Int) ^ 31 ≤ 2 ^ bit := pow_le_pow_right₀ (by norm_num) (by omega)
      omega
  · rintro ⟨bit, low, high, rfl⟩
    refine ⟨⟨?_, ?_⟩, bit, by omega, rfl⟩
    · calc (64 * 1024 : Int) = 2 ^ 16 := by norm_num
        _ ≤ 2 ^ bit := pow_le_pow_right₀ (by norm_num) low
    · calc (2 : Int) ^ bit ≤ 2 ^ 30 := pow_le_pow_right₀ (by norm_num) high
        _ = 1024 * 1024 * 1024 := by norm_num

/-- The term geometry of a log: its term length, a power of two no longer than
`termMaxLength`, and the shift that turns a term count into a position. -/
structure TermGeometry where
  termLength : Int
  positionBitsToShift : Nat
  termLength_eq : termLength = 2 ^ positionBitsToShift
  positionBitsToShift_le : positionBitsToShift ≤ 30

namespace TermGeometry

variable (geometry : TermGeometry)

theorem termLength_pos : 0 < geometry.termLength := by
  rw [geometry.termLength_eq]; positivity

theorem termLength_le : geometry.termLength ≤ 2 ^ 30 := by
  rw [geometry.termLength_eq]
  exact pow_le_pow_right₀ (by norm_num) geometry.positionBitsToShift_le

/-- The geometry of every term length `checkTermLength` accepts. -/
def ofCheckedTermLength (termLength : Int) (checked : checkTermLength termLength = true) :
    TermGeometry where
  termLength := termLength
  positionBitsToShift := numberOfTrailingZeroes termLength
  termLength_eq := by
    obtain ⟨bit, -, high, rfl⟩ := checkTermLength_iff.mp checked
    rw [numberOfTrailingZeroes_two_pow (by omega)]
  positionBitsToShift_le := by
    obtain ⟨bit, -, high, rfl⟩ := checkTermLength_iff.mp checked
    rw [numberOfTrailingZeroes_two_pow (by omega)]; exact high

end TermGeometry

/-- Modelled from the spec: `aeron_logbuffer_term_id`, the term id in the high 32 bits of a
raw tail, `(int32_t)(raw_tail >> 32)`. -/
def logbufferTermId (rawTail : Int) : Int := toInt32 (rawTail / 2 ^ 32)

/-- The uncapped tail offset in the low 32 bits of a raw tail, `raw_tail & 0xFFFFFFFF`. -/
def rawTailOffset (rawTail : Int) : Int := rawTail % 2 ^ 32

/-- Modelled from the spec: `aeron_logbuffer_term_offset`, the tail offset capped at the
term length, so that a tail claimed past the term end reads as the term end. -/
def logbufferTermOffset (rawTail termLength : Int) : Int :=
  let tail := rawTailOffset rawTail
  toInt32 (if tail < termLength then tail else termLength)

/-- Modelled from the spec: `aeron_logbuffer_compute_position`. The term count is an
`int32` subtraction; the shift is exact, since a count below `2^31` shifted by at most 30
bits stays inside `int64`. -/
def logbufferComputePosition (activeTermId termOffset : Int) (positionBitsToShift : Nat)
    (initialTermId : Int) : Int :=
  toInt32 (activeTermId - initialTermId) * 2 ^ positionBitsToShift + termOffset

/-- Modelled from the spec: `aeron_logbuffer_pack_tail`, a term id in the high half and an
offset below `2^32` in the low half. -/
def logbufferPackTail (termId termOffset : Int) : Int := termId * 2 ^ 32 + termOffset

theorem rawTailOffset_nonneg (rawTail : Int) : 0 ≤ rawTailOffset rawTail := by
  unfold rawTailOffset; omega

/-- With a term length in the `int32` range the capped offset is the minimum of the tail
and the term length. -/
theorem logbufferTermOffset_eq {rawTail termLength : Int} (hpos : 0 < termLength)
    (hlt : termLength < 2 ^ 31) :
    logbufferTermOffset rawTail termLength = min (rawTailOffset rawTail) termLength := by
  have := rawTailOffset_nonneg rawTail
  simp only [logbufferTermOffset]
  split <;> rw [toInt32_of_mem (by omega) (by omega)] <;> omega

theorem logbufferTermId_packTail {termId termOffset : Int} (low : -2 ^ 31 ≤ termId)
    (high : termId < 2 ^ 31) (offsetNonneg : 0 ≤ termOffset) (offsetLt : termOffset < 2 ^ 32) :
    logbufferTermId (logbufferPackTail termId termOffset) = termId := by
  unfold logbufferTermId logbufferPackTail
  rw [Int.add_comm, Int.add_mul_ediv_right _ _ (by norm_num),
    Int.ediv_eq_zero_of_lt offsetNonneg offsetLt, Int.zero_add, toInt32_of_mem low high]

theorem rawTailOffset_packTail {termId termOffset : Int} (offsetNonneg : 0 ≤ termOffset)
    (offsetLt : termOffset < 2 ^ 32) :
    rawTailOffset (logbufferPackTail termId termOffset) = termOffset := by
  unfold rawTailOffset logbufferPackTail; omega

/-- Adding less than what is left of the low half moves only the offset. -/
theorem logbufferTermId_add {rawTail length : Int} (hnonneg : 0 ≤ length)
    (hfits : rawTailOffset rawTail + length < 2 ^ 32) :
    logbufferTermId (rawTail + length) = logbufferTermId rawTail := by
  unfold logbufferTermId rawTailOffset at *
  congr 1; omega

theorem rawTailOffset_add {rawTail length : Int}
    (hnonneg : 0 ≤ length) (hfits : rawTailOffset rawTail + length < 2 ^ 32) :
    rawTailOffset (rawTail + length) = rawTailOffset rawTail + length := by
  unfold rawTailOffset at *; omega

end Aeron
