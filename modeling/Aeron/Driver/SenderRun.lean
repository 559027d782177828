/-
# Producer and sender runs

Producers advance the active raw tail (`TailStep`) while the sender task transmits what
they have claimed and advances the sender position. The send path
(`aeron_network_publication_send`, in the `.c` file) is not among the modelled sources; it is
modelled from the spec: one send transmits at most
`min(senderLimitPosition, producerPosition) - senderPosition` bytes and advances the sender
position by what it sent.

`PublicationStep` interleaves the two threads in any order. `Consistent` is what every
reachable state keeps: the active raw tail carries the term id
`initialTermId + activeTermCount`, so that the position formula's term count is the
metadata's, and the sender position lies between zero and the producer position. These are
the conditions under which the blocked-publisher test, asked about the sender position,
answers exactly. `consistent_of_publicationRun` shows they hold along every run, and that
neither position ever moves backwards.
-/

import Aeron.Driver.ProducerTail

namespace Aeron

namespace NetworkPublication

variable (publication : NetworkPublication)

/-- Modelled from the spec: the publication after a send of `sent` bytes. -/
def advanceSender (sent : Int) : NetworkPublication :=
  { publication with sndPosition := publication.sndPosition + sent }

@[simp] theorem producerPosition_advanceSender (sent : Int) :
    (publication.advanceSender sent).producerPosition = publication.producerPosition := rfl

/-- One step of the publication: a producer's tail update, or a send inside the window
`min(senderLimit, producerPosition) - sndPosition`. -/
inductive PublicationStep : NetworkPublication → NetworkPublication → Prop
  | producer {publication next : NetworkPublication} (hstep : TailStep publication next) :
      PublicationStep publication next
  | send (publication : NetworkPublication) (senderLimit sent : Int) (hnonneg : 0 ≤ sent)
      (hwindow : publication.sndPosition + sent ≤ min senderLimit publication.producerPosition) :
      PublicationStep publication (publication.advanceSender sent)

/-- What the producer and the sender keep between them. -/
structure Consistent : Prop where
  activeTermCount_nonneg : 0 ≤ publication.logMetaData.activeTermCount
  termId_eq : logbufferTermId publication.logMetaData.activeRawTail =
    toInt32 (publication.initialTermId + publication.logMetaData.activeTermCount)
  sndPosition_nonneg : 0 ≤ publication.sndPosition
  sndPosition_le : publication.sndPosition ≤ publication.producerPosition

variable {publication}

namespace Consistent

theorem termCount_eq_activeTermCount (hconsistent : publication.Consistent)
    (hbelow : publication.logMetaData.activeTermCount < 2 ^ 31 - 1) :
    publication.termCount = publication.logMetaData.activeTermCount :=
  NetworkPublication.termCount_eq publication hconsistent.activeTermCount_nonneg hbelow
    hconsistent.termId_eq

/-- An append moves only the tail offset, and only forwards. -/
theorem appendTail (hconsistent : publication.Consistent) {length : Int} (hpositive : 0 < length)
    (hbelow : rawTailOffset publication.logMetaData.activeRawTail + length < 2 ^ 31) :
    (publication.appendTail length).Consistent where
  activeTermCount_nonneg := hconsistent.activeTermCount_nonneg
  termId_eq := (logbufferTermId_add hpositive.le (by omega)).trans hconsistent.termId_eq
  sndPosition_nonneg := hconsistent.sndPosition_nonneg
  sndPosition_le :=
    hconsistent.sndPosition_le.trans (producerPosition_le_appendTail publication hpositive hbelow)

/-- A rotation below the last `int32` term count moves the term id and the term count
together, and leaves the producer position where it was. -/
theorem rotateLog (hconsistent : publication.Consistent)
    (hbelow : publication.logMetaData.activeTermCount < 2 ^ 31 - 1)
    (hend : publication.geometry.termLength ≤
      rawTailOffset publication.logMetaData.activeRawTail) :
    publication.rotateLog.Consistent where
  activeTermCount_nonneg := by
    have := hconsistent.activeTermCount_nonneg
    show 0 ≤ toInt32 (publication.logMetaData.activeTermCount + 1)
    rw [toInt32_of_mem (by omega) (by omega)]
    omega
  termId_eq := by
    show logbufferTermId (logbufferPackTail
        (toInt32 (logbufferTermId publication.logMetaData.activeRawTail + 1)) 0) =
      toInt32 (publication.initialTermId + toInt32 (publication.logMetaData.activeTermCount + 1))
    have := hconsistent.activeTermCount_nonneg
    have hcount : toInt32 (publication.logMetaData.activeTermCount + 1) =
        publication.logMetaData.activeTermCount + 1 := toInt32_of_mem (by omega) (by omega)
    rw [logbufferTermId_packTail (toInt32_ge _) (toInt32_lt _) le_rfl (by norm_num),
      hconsistent.termId_eq, toInt32_toInt32_add, hcount, add_assoc]
  sndPosition_nonneg := hconsistent.sndPosition_nonneg
  sndPosition_le := by
    have hterm := hconsistent.termCount_eq_activeTermCount hbelow
    rw [producerPosition_rotateLog publication (hterm ▸ hbelow) hend]
    exact hconsistent.sndPosition_le

/-- A send inside the window keeps the sender at or behind the producer. -/
theorem advanceSender (hconsistent : publication.Consistent) {senderLimit sent : Int}
    (hnonneg : 0 ≤ sent)
    (hwindow : publication.sndPosition + sent ≤ min senderLimit publication.producerPosition) :
    (publication.advanceSender sent).Consistent where
  activeTermCount_nonneg := hconsistent.activeTermCount_nonneg
  termId_eq := hconsistent.termId_eq
  sndPosition_nonneg := add_nonneg hconsistent.sndPosition_nonneg hnonneg
  sndPosition_le := (le_min_iff.mp hwindow).2

/-- Every step from a state below the last `int32` term count keeps the invariant. -/
theorem of_publicationStep (hconsistent : publication.Consistent) {next : NetworkPublication}
    (hstep : PublicationStep publication next)
    (hbelow : publication.logMetaData.activeTermCount < 2 ^ 31 - 1) : next.Consistent := by
  cases hstep with
  | producer hstep =>
    cases hstep with
    | append length hpositive hfits => exact hconsistent.appendTail hpositive hfits
    | rotate hend => exact hconsistent.rotateLog hbelow hend
  | send senderLimit sent hnonneg hwindow => exact hconsistent.advanceSender hnonneg hwindow

end Consistent

/-- No step moves the producer position backwards. -/
theorem PublicationStep.producerPosition_le {next : NetworkPublication}
    (hstep : PublicationStep publication next) (hconsistent : publication.Consistent)
    (hbelow : publication.logMetaData.activeTermCount < 2 ^ 31 - 1) :
    publication.producerPosition ≤ next.producerPosition := by
  cases hstep with
  | producer hstep =>
    have hterm := hconsistent.termCount_eq_activeTermCount hbelow
    exact producerPosition_le_of_tailStep publication hstep (hterm ▸ hbelow)
  | send => exact le_rfl

/-- No step moves the sender position backwards. -/
theorem PublicationStep.sndPosition_le {next : NetworkPublication}
    (hstep : PublicationStep publication next) :
    publication.sndPosition ≤ next.sndPosition := by
  cases hstep with
  | producer hstep => cases hstep <;> exact le_rfl
  | send senderLimit sent hnonneg => exact le_add_of_nonneg_right hnonneg

/-- Along every interleaving of producer tail updates and sends that starts from a
consistent state and stays below `2^31 - 1` terms, every state is consistent, and neither
the producer position nor the sender position ever moves backwards. -/
theorem consistent_of_publicationRun {run : List NetworkPublication}
    (hstart : publication.Consistent) (hrun : List.Chain PublicationStep publication run)
    (hterms : ∀ state ∈ publication :: run, state.logMetaData.activeTermCount < 2 ^ 31 - 1) :
    (∀ state ∈ publication :: run, state.Consistent) ∧
      ((publication :: run).map producerPosition).Pairwise (· ≤ ·) ∧
      ((publication :: run).map sndPosition).Pairwise (· ≤ ·) := by
  simp only [← List.chain'_iff_pairwise]
  induction hrun with
  | nil => exact ⟨by simpa using hstart, List.chain'_singleton _, List.chain'_singleton _⟩
  | @cons current next rest hstep _ ih =>
    have hbelow := hterms current (List.mem_cons_self _ _)
    obtain ⟨hall, hproducer, hsender⟩ := ih (hstart.of_publicationStep hstep hbelow)
      fun state hstate => hterms state (List.mem_cons_of_mem _ hstate)
    exact ⟨List.forall_mem_cons.mpr ⟨hstart, hall⟩,
      hproducer.cons (hstep.producerPosition_le hstart hbelow), hsender.cons hstep.sndPosition_le⟩

/-- A created publication: a claim 96 bytes past the end of the first 64k term, the
rotation to the next term, and a send of the whole first term. -/
def appendRotateSendRun : List NetworkPublication :=
  [created.appendTail 65632, (created.appendTail 65632).rotateLog,
    (created.appendTail 65632).rotateLog.advanceSender 65536]

theorem consistent_of_publicationRun_append_rotate_send :
    created.Consistent ∧ List.Chain PublicationStep created appendRotateSendRun ∧
      (∀ state ∈ created :: appendRotateSendRun,
        state.logMetaData.activeTermCount < 2 ^ 31 - 1) ∧
      ((∀ state ∈ created :: appendRotateSendRun, state.Consistent) ∧
        ((created :: appendRotateSendRun).map producerPosition).Pairwise (· ≤ ·) ∧
        ((created :: appendRotateSendRun).map sndPosition).Pairwise (· ≤ ·)) :=
  have hstart : created.Consistent := ⟨by decide, by decide, by decide, by decide⟩
  have hrun : List.Chain PublicationStep created appendRotateSendRun :=
    .cons (.producer (.append created 65632 (by decide) (by decide)))
      (.cons (.producer (.rotate _ (by decide)))
        (.cons (.send _ 131072 65536 (by decide) (by decide)) .nil))
  have hterms : ∀ state ∈ created :: appendRotateSendRun,
      state.logMetaData.activeTermCount < 2 ^ 31 - 1 := by decide
  ⟨hstart, hrun, hterms, consistent_of_publicationRun hstart hrun hterms⟩

end NetworkPublication

end Aeron
