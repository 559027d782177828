/-
# Producer tail runs and the producer position

Producers advance the active raw tail by atomic additions: each claims a positive length,
and the tail offset may run past the term end, where the producer that crossed it rotates
the log to the next term at offset zero. The network publication reads the producer
position from that tail. This module shows the position never moves backwards along such a
run, because `aeron_network_publication_producer_position` caps the offset at the term
length: the capped position before a rotation equals the position after it.

Term rotation (`aeron_logbuffer_rotate_log`) is not among the modelled sources; it is
modelled from the spec.
-/

import Mathlib.Data.List.Chain
import Aeron.Driver.NetworkPublication

namespace Aeron

namespace NetworkPublication

variable (publication : NetworkPublication)

/-- A producer's claim of `length` bytes: the atomic add on the active raw tail. -/
def appendTail (length : Int) : NetworkPublication :=
  { publication with
    logMetaData := { publication.logMetaData with
      activeRawTail := publication.logMetaData.activeRawTail + length } }

/-- Modelled from the spec: a term rotation. The active tail becomes the next term id at
offset zero, and the active term count advances. -/
def rotateLog : NetworkPublication :=
  let termId := logbufferTermId publication.logMetaData.activeRawTail
  { publication with
    logMetaData := { publication.logMetaData with
      activeTermCount := toInt32 (publication.logMetaData.activeTermCount + 1)
      activeRawTail := logbufferPackTail (toInt32 (termId + 1)) 0 } }

@[simp] theorem appendTail_geometry (length : Int) :
    (publication.appendTail length).geometry = publication.geometry := rfl

@[simp] theorem rotateLog_geometry : publication.rotateLog.geometry = publication.geometry := rfl

/-- One producer-side update of the active tail: an append of a positive length that keeps
the offset below `2^31`, or a rotation once the offset has reached the term end. -/
inductive TailStep : NetworkPublication → NetworkPublication → Prop
  | append (publication : NetworkPublication) (length : Int) (hpositive : 0 < length)
      (hbelow : rawTailOffset publication.logMetaData.activeRawTail + length < 2 ^ 31) :
      TailStep publication (publication.appendTail length)
  | rotate (publication : NetworkPublication)
      (hend : publication.geometry.termLength ≤
        rawTailOffset publication.logMetaData.activeRawTail) :
      TailStep publication publication.rotateLog

/-- An append keeps the term id and so the term count. -/
theorem termCount_appendTail {length : Int} (hnonneg : 0 ≤ length)
    (hfits : rawTailOffset publication.logMetaData.activeRawTail + length < 2 ^ 32) :
    (publication.appendTail length).termCount = publication.termCount := by
  simp only [termCount, appendTail, logbufferTermId_add hnonneg hfits]

/-- A rotation below the last `int32` term count advances the term count by one. -/
theorem termCount_rotateLog (hbelow : publication.termCount < 2 ^ 31 - 1) :
    publication.rotateLog.termCount = publication.termCount + 1 := by
  simp only [termCount, rotateLog]
  rw [logbufferTermId_packTail (toInt32_ge _) (toInt32_lt _) le_rfl (by norm_num),
    toInt32_toInt32_sub, show logbufferTermId publication.logMetaData.activeRawTail + 1 -
      publication.initialTermId = logbufferTermId publication.logMetaData.activeRawTail -
      publication.initialTermId + 1 by ring, toInt32_add_one hbelow]

theorem rawTailOffset_rotateLog :
    rawTailOffset publication.rotateLog.logMetaData.activeRawTail = 0 := by
  simp only [rotateLog]
  exact rawTailOffset_packTail le_rfl (by norm_num)

/-- Across a rotation the producer position is unchanged: the capped offset of a term
that has been passed reads as the whole term. -/
theorem producerPosition_rotateLog (hbelow : publication.termCount < 2 ^ 31 - 1)
    (hend : publication.geometry.termLength ≤
      rawTailOffset publication.logMetaData.activeRawTail) :
    publication.rotateLog.producerPosition = publication.producerPosition := by
  have hpos := publication.geometry.termLength_pos
  rw [producerPosition_eq, producerPosition_eq, termCount_rotateLog publication hbelow,
    rawTailOffset_rotateLog, rotateLog_geometry, min_eq_left hpos.le, min_eq_right hend]
  ring

/-- An append never lowers the producer position. -/
theorem producerPosition_le_appendTail {length : Int} (hpositive : 0 < length)
    (hbelow : rawTailOffset publication.logMetaData.activeRawTail + length < 2 ^ 31) :
    publication.producerPosition ≤ (publication.appendTail length).producerPosition := by
  have hfits : rawTailOffset publication.logMetaData.activeRawTail + length < 2 ^ 32 := by
    omega
  rw [producerPosition_eq, producerPosition_eq,
    termCount_appendTail publication hpositive.le hfits]
  simp only [appendTail, rawTailOffset_add hpositive.le hfits]
  have := min_le_min_right publication.geometry.termLength
    (show rawTailOffset publication.logMetaData.activeRawTail ≤
      rawTailOffset publication.logMetaData.activeRawTail + length by omega)
  omega

/-- One tail update from a term count below `2^31 - 1` never lowers the producer
position. -/
theorem producerPosition_le_of_tailStep {next : NetworkPublication}
    (hstep : TailStep publication next) (hbelow : publication.termCount < 2 ^ 31 - 1) :
    publication.producerPosition ≤ next.producerPosition := by
  cases hstep with
  | append length hpositive hfits => exact producerPosition_le_appendTail _ hpositive hfits
  | rotate hend => exact (producerPosition_rotateLog _ hbelow hend).ge

/-- Along every run of producer tail updates that stays below `2^31 - 1` terms since the
initial term id, the producer position never decreases, and each rotation leaves it exactly
where it was. -/
theorem producerPosition_monotone_of_tailRun :
    (∀ publication : NetworkPublication, publication.termCount < 2 ^ 31 - 1 →
      publication.geometry.termLength ≤ rawTailOffset publication.logMetaData.activeRawTail →
      publication.rotateLog.producerPosition = publication.producerPosition) ∧
    ∀ (publication : NetworkPublication) (run : List NetworkPublication),
      List.Chain TailStep publication run →
      (∀ state ∈ publication :: run, state.termCount < 2 ^ 31 - 1) →
      ((publication :: run).map producerPosition).Pairwise (· ≤ ·) := by
  refine ⟨fun publication hbelow hend => producerPosition_rotateLog publication hbelow hend,
    fun publication run hrun hterms => ?_⟩
  rw [← List.chain'_iff_pairwise]
  induction hrun with
  | nil => exact List.chain'_singleton _
  | @cons current next rest hstep _ ih =>
    refine List.Chain'.cons
      (producerPosition_le_of_tailStep current hstep (hterms current (List.mem_cons_self _ _)))
      (ih fun state hstate => hterms state (List.mem_cons_of_mem _ hstate))

/-- A created publication: a claim that runs 96 bytes past the end of the first 64k term,
the rotation to the next term, and a claim of 1024 bytes there. -/
def appendRotateAppendRun : List NetworkPublication :=
  [created.appendTail 65632, (created.appendTail 65632).rotateLog,
    (created.appendTail 65632).rotateLog.appendTail 1024]

theorem producerPosition_monotone_of_tailRun_appendRotateAppend :
    (created.appendTail 65632).termCount < 2 ^ 31 - 1 ∧
      (created.appendTail 65632).geometry.termLength ≤
        rawTailOffset (created.appendTail 65632).logMetaData.activeRawTail ∧
      (created.appendTail 65632).rotateLog.producerPosition =
        (created.appendTail 65632).producerPosition ∧
      List.Chain TailStep created appendRotateAppendRun ∧
      (∀ state ∈ created :: appendRotateAppendRun, state.termCount < 2 ^ 31 - 1) ∧
      ((created :: appendRotateAppendRun).map producerPosition).Pairwise (· ≤ ·) :=
  have hbelow : (created.appendTail 65632).termCount < 2 ^ 31 - 1 := by decide
  have hend : (created.appendTail 65632).geometry.termLength ≤
      rawTailOffset (created.appendTail 65632).logMetaData.activeRawTail := by decide
  have hrun : List.Chain TailStep created appendRotateAppendRun :=
    .cons (.append created 65632 (by decide) (by decide))
      (.cons (.rotate _ hend) (.cons (.append _ 1024 (by decide) (by decide)) .nil))
  have hterms : ∀ state ∈ created :: appendRotateAppendRun, state.termCount < 2 ^ 31 - 1 := by
    decide
  ⟨hbelow, hend, producerPosition_monotone_of_tailRun.1 _ hbelow hend, hrun, hterms,
    producerPosition_monotone_of_tailRun.2 created _ hrun hterms⟩

end NetworkPublication

end Aeron
