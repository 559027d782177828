/-
# `initialPosition`: a stream position as a term id and a term offset

`ChannelUriStringBuilder::initialPosition` checks that the position is non-negative and
frame-aligned and that the term length is accepted, then stores the term length, the initial
term id, the term id `(position >> bitsToShift) + initialTermId` and the term offset
`position & (termLength - 1)`. On an accepted term length the shift and the mask are the
quotient and the remainder by it (`afterCall_initialPosition`).

Reading the stored fields back through `logbufferComputePosition`, the log buffer's own
position formula, gives the position again, and the `termOffset` setter accepts the stored
offset (`initialPosition_decodes`). The term id, though, is an `int64` sum that is never
narrowed to `int32`: from `2^31` on it is stored, and rendered, as it is
(`initialPosition_stores_termId_past_int32`).
-/

import Aeron.Client.ChannelUriBuild

namespace Aeron

namespace ChannelUriStringBuilder

/-- Frame alignment is a mask test: a natural passes it exactly when it is a multiple of
32. -/
theorem and_frameAlignment_eq_mod (value : Nat) :
    value &&& (FrameDescriptor.frameAlignment - 1) = value % 32 :=
  Nat.and_pow_two_sub_one_eq_mod value 5

/-- `termOffset` accepts an aligned offset up to the maximum term length and stores it as it
is. -/
theorem termOffset_of_aligned {offset : Nat} (hmax : (offset : Int) ≤ termMaxLength)
    (haligned : offset % 32 = 0) (builder : ChannelUriStringBuilder) :
    threw (termOffset (UInt32.ofNat offset)) builder = false ∧
      afterCall (termOffset (UInt32.ofNat offset)) builder =
        { builder with values := Function.update builder.values .mTermOffset (some offset) } := by
  have hfits : offset < UInt32.size := by
    unfold termMaxLength at hmax; unfold UInt32.size; omega
  have hrange : ¬ ((offset : Int) > termMaxLength) := not_lt.mpr hmax
  have hmask : ¬ (offset &&& (FrameDescriptor.frameAlignment - 1) ≠ 0) := by
    rw [and_frameAlignment_eq_mod]; omega
  simp only [termOffset, threw_throwIf_bind, afterCall_throwIf_bind, threw_resetValue,
    afterCall_resetValue, UInt32.toNat_ofNat_of_lt hfits, hrange, hmask, decide_False,
    Bool.or_false, if_false, and_self]

section Arithmetic

variable {termLength : Int} (hterm : checkTermLength termLength = true)

include hterm

/-- On an accepted term length, shifting by its trailing zeroes divides by it. -/
theorem shiftRight_numberOfTrailingZeroes (position : Int) :
    position >>> numberOfTrailingZeroes termLength = position / termLength := by
  have hlength := (TermGeometry.ofCheckedTermLength termLength hterm).termLength_eq
  rw [Int.shiftRight_eq_div_pow]
  exact congrArg (position / ·) (by exact_mod_cast hlength.symm)

/-- On an accepted term length, the mask by one less than it is the remainder. -/
theorem toNat_and_termLength {position : Int} (hposition : 0 ≤ position) :
    ((position.toNat &&& (termLength.toNat - 1) : Nat) : Int) = position % termLength := by
  obtain ⟨bit, -, -, rfl⟩ := checkTermLength_iff.mp hterm
  have hpow : ((2 : Int) ^ bit).toNat = 2 ^ bit := by exact_mod_cast Int.toNat_natCast (2 ^ bit)
  rw [hpow, Nat.and_pow_two_sub_one_eq_mod, Int.natCast_mod, Int.toNat_of_nonneg hposition]
  norm_cast

end Arithmetic

/-- Whether `initialPosition` accepts its arguments. -/
def initialPositionAccepts (position termLength : Int) : Prop :=
  0 ≤ position ∧ position % 32 = 0 ∧ checkTermLength termLength = true

instance (position termLength : Int) : Decidable (initialPositionAccepts position termLength) :=
  inferInstanceAs (Decidable (_ ∧ _ ∧ _))

/-- The members `initialPosition` sets, with the values it gives them when it accepts its
arguments. -/
def initialPositionValues (builder : ChannelUriStringBuilder)
    (position initialTermId termLength : Int) : ValueField → Option Int :=
  Function.update (Function.update (Function.update (Function.update builder.values
    .mTermLength (some termLength)) .mInitialTermId (some initialTermId))
    .mTermId (some (position / termLength + initialTermId))) .mTermOffset
    (some (position % termLength))

/-- `initialPosition` throws exactly when it does not accept its arguments, and then leaves
the builder as it was; otherwise it sets the four members to the quotient and remainder
form. -/
theorem afterCall_initialPosition (position initialTermId termLength : Int)
    (builder : ChannelUriStringBuilder) :
    threw (initialPosition position initialTermId termLength) builder =
        !decide (initialPositionAccepts position termLength) ∧
      afterCall (initialPosition position initialTermId termLength) builder =
        if initialPositionAccepts position termLength then
          { builder with values := initialPositionValues builder position initialTermId termLength }
        else builder := by
  have hcheck : (position < 0 ∨ position.toNat &&& (FrameDescriptor.frameAlignment - 1) ≠ 0) ↔
      ¬ (0 ≤ position ∧ position % 32 = 0) := by
    rw [and_frameAlignment_eq_mod]; omega
  simp only [initialPosition, afterCall_throwIf_bind, threw_throwIf_bind,
    afterCall_resetValue_bind, threw_resetValue_bind, afterCall_resetValue, threw_resetValue,
    Bool.or_false, hcheck]
  by_cases haccepts : initialPositionAccepts position termLength
  · obtain ⟨hposition, haligned, hterm⟩ := haccepts
    have hvalid : ¬¬(0 ≤ position ∧ position % 32 = 0) := not_not.mpr ⟨hposition, haligned⟩
    have hchecked : ¬¬checkTermLength termLength = true := not_not.mpr hterm
    rw [if_neg hvalid, if_neg hchecked, decide_eq_false hvalid, decide_eq_false hchecked,
      if_pos ⟨hposition, haligned, hterm⟩,
      decide_eq_true (show initialPositionAccepts position termLength from ⟨hposition, haligned, hterm⟩),
      shiftRight_numberOfTrailingZeroes hterm, toNat_and_termLength hterm hposition]
    exact ⟨rfl, rfl⟩
  · rw [if_neg haccepts, decide_eq_false haccepts]
    by_cases hposition : 0 ≤ position ∧ position % 32 = 0
    · have hterm : ¬checkTermLength termLength = true :=
        fun hterm => haccepts ⟨hposition.1, hposition.2, hterm⟩
      rw [if_neg (not_not.mpr hposition), if_pos hterm, decide_eq_false (not_not.mpr hposition),
        decide_eq_true hterm]
      exact ⟨rfl, rfl⟩
    · rw [if_pos hposition, decide_eq_true hposition]
      exact ⟨rfl, rfl⟩

/-- The offset in its term of a position `initialPosition` accepts is aligned and inside the
term. -/
theorem offset_of_initialPositionAccepts {position termLength : Int}
    (haccepts : initialPositionAccepts position termLength) :
    (0 ≤ position % termLength ∧ position % termLength < termLength) ∧
      (position % termLength).toNat % 32 = 0 := by
  obtain ⟨-, hpositionAligned, hterm⟩ := haccepts
  obtain ⟨bit, hlow, -, hbit⟩ := checkTermLength_iff.mp hterm
  have hpos : 0 < termLength := (TermGeometry.ofCheckedTermLength termLength hterm).termLength_pos
  have hdvd : (32 : Int) ∣ termLength := by
    rw [hbit, show bit = 5 + (bit - 5) by omega, pow_add]; exact Dvd.intro _ rfl
  have := Int.emod_emod_of_dvd position hdvd
  refine ⟨⟨Int.emod_nonneg _ hpos.ne', Int.emod_lt_of_pos _ hpos⟩, ?_⟩
  have := Int.emod_nonneg position hpos.ne'
  omega

/-! ## The round trip -/

/-- Below `termLength * 2^31`, the stored term id and term offset read back, through the
log buffer's position formula, as the position; the stored offset is what the `termOffset`
setter accepts and stores as it is. -/
theorem initialPosition_decodes {position initialTermId termLength : Int}
    (haccepts : initialPositionAccepts position termLength)
    (hbelow : position < termLength * 2 ^ 31) (builder : ChannelUriStringBuilder) :
    let after := afterCall (initialPosition position initialTermId termLength) builder
    ∃ termId termOffset, after.values .mTermId = some termId ∧
      after.values .mTermOffset = some termOffset ∧ termOffset = position % termLength ∧
      threw (ChannelUriStringBuilder.termOffset (UInt32.ofNat termOffset.toNat)) after = false ∧
      (afterCall (ChannelUriStringBuilder.termOffset (UInt32.ofNat termOffset.toNat)) after).values
        .mTermOffset = some termOffset ∧
      logbufferComputePosition termId termOffset (numberOfTrailingZeroes termLength)
        initialTermId = position := by
  have hafter := (afterCall_initialPosition position initialTermId termLength builder).2
  rw [if_pos haccepts] at hafter
  obtain ⟨hposition, hpositionAligned, hterm⟩ := haccepts
  let geometry := TermGeometry.ofCheckedTermLength termLength hterm
  have hpos : 0 < termLength := geometry.termLength_pos
  have hle : termLength ≤ 2 ^ 30 := geometry.termLength_le
  obtain ⟨hoffset, haligned⟩ :=
    offset_of_initialPositionAccepts ⟨hposition, hpositionAligned, hterm⟩
  have hquotient : 0 ≤ position / termLength ∧ position / termLength < 2 ^ 31 :=
    ⟨Int.ediv_nonneg hposition hpos.le, (Int.ediv_lt_iff_lt_mul hpos).mpr (by linarith)⟩
  simp only [hafter]
  obtain ⟨hthrew, hstored⟩ :=
    termOffset_of_aligned (by unfold termMaxLength; omega) haligned
      { builder with values := initialPositionValues builder position initialTermId termLength }
  refine ⟨_, _, rfl, rfl, rfl, hthrew, ?_, ?_⟩
  · rw [hstored]
    exact congrArg some (Int.toNat_of_nonneg hoffset.1)
  · calc logbufferComputePosition (position / termLength + initialTermId) (position % termLength)
          (numberOfTrailingZeroes termLength) initialTermId
        = position / termLength * termLength + position % termLength := by
          rw [logbufferComputePosition, add_sub_cancel_right,
            toInt32_of_mem (by omega) hquotient.2]
          exact congrArg (position / termLength * · + position % termLength)
            geometry.termLength_eq.symm
      _ = position := by rw [mul_comm, Int.ediv_add_emod]

theorem initialPosition_decodes_two_terms :
    initialPositionAccepts 131104 65536 ∧ (131104 : Int) < 65536 * 2 ^ 31 ∧
      let after := afterCall (initialPosition 131104 7 65536) fresh
      ∃ termId termOffset, after.values .mTermId = some termId ∧
        after.values .mTermOffset = some termOffset ∧ termOffset = 131104 % 65536 ∧
        threw (ChannelUriStringBuilder.termOffset (UInt32.ofNat termOffset.toNat)) after = false ∧
        (afterCall (ChannelUriStringBuilder.termOffset (UInt32.ofNat termOffset.toNat))
          after).values .mTermOffset = some termOffset ∧
        logbufferComputePosition termId termOffset (numberOfTrailingZeroes 65536) 7 = 131104 :=
  ⟨by decide, by decide, initialPosition_decodes (by decide) (by decide) fresh⟩

/-! ## The term id is not narrowed -/

/-- At position `65536`, initial term id `2^31 - 1` and term length `65536`, the call is
accepted and stores the term id `2^31`, one past the `int32` range, where the `int32`
conversion of the same sum is `-2^31`; `build` renders it as it is. -/
theorem initialPosition_stores_termId_past_int32 :
    threw (initialPosition 65536 2147483647 65536) fresh = false ∧
      (afterCall (initialPosition 65536 2147483647 65536) fresh).values .mTermId = some (2 ^ 31) ∧
      toInt32 ((65536 >>> 16) + 2147483647) = -2 ^ 31 ∧
      build ChannelUri.declared (BuilderOp.runAll ChannelUri.declared
          [.media "udp", .initialPosition 65536 2147483647 65536] fresh) =
        some "aeron:udp?term-length=65536|init-term-id=2147483647|term-id=2147483648|term-offset=0" :=
  ⟨by decide, by decide, by decide, by decide⟩

end ChannelUriStringBuilder

end Aeron
