/-
# The producer, the sender and the conductor together

Three threads act on one network publication. Producers move the active raw tail
(`TailStep`), the sender sends inside its window, and the conductor changes the spy registry
(`SpyStep`). `DriverStep` is a step of any of them, taken in any order.

Each thread writes only fields that the other threads' invariants do not read:

- The conductor's operations write the registry, `has_spies` and the connection flags
  (`SpyOp.apply_eq_update`).
- A producer's or the sender's step writes the log's tail, the term count and the sender
  position (`PublicationStep.eq_update`).

So two invariants hold along every interleaving of the three threads:

- `Consistent` holds, and neither position moves backwards (`consistent_of_driverRun`).
- `has_spies` stays set while a working spy exists, provided the hooks track the
  conductor's steps (`hasSpiesWhileWorking_of_driverRun`).
-/

import Aeron.Driver.SenderRun
import Aeron.Driver.SpyLiveness

namespace Aeron

/-- The conductor's operations write the registry, `has_spies` and the connection flags,
and nothing else. -/
theorem SpyOp.apply_eq_update (op : SpyOp) (publication : NetworkPublication) :
    ∃ (subscribable : Subscribable) (hasSpies isConnected : Bool) (logConnected : Int),
      op.apply publication = { publication with
        subscribable, hasSpies, isConnected,
        logMetaData := { publication.logMetaData with isConnected := logConnected } } := by
  cases op with
  | add counterId value =>
    simp only [SpyOp.apply, NetworkPublication.addSpy, NetworkPublication.addSubscriberHook]
    split <;> exact ⟨_, _, _, _, rfl⟩
  | remove index =>
    simp only [SpyOp.apply, NetworkPublication.removeSpy,
      NetworkPublication.removeSubscriberHook]
    split_ifs <;> exact ⟨_, _, _, _, rfl⟩
  | tether index state => exact ⟨_, _, _, _, rfl⟩

/-- A conductor's step keeps what the producer and the sender read. -/
theorem SpyStep.positions_eq {publication next : NetworkPublication}
    (hstep : SpyStep publication next) :
    next.producerPosition = publication.producerPosition ∧
      next.sndPosition = publication.sndPosition ∧ next.state = publication.state := by
  obtain ⟨op, -, rfl⟩ := hstep
  obtain ⟨_, _, _, _, heq⟩ := op.apply_eq_update publication
  rw [heq]
  exact ⟨rfl, rfl, rfl⟩

namespace NetworkPublication

variable {publication next : NetworkPublication}

/-- A producer's or the sender's step writes the active tail, the term count and the sender
position, and nothing else. -/
theorem PublicationStep.eq_update (hstep : PublicationStep publication next) :
    ∃ activeTermCount activeRawTail sndPosition : Int, next = { publication with
      logMetaData := { publication.logMetaData with activeTermCount, activeRawTail },
      sndPosition } := by
  cases hstep with
  | producer hstep => cases hstep <;> exact ⟨_, _, _, rfl⟩
  | send => exact ⟨_, _, _, rfl⟩

theorem Consistent.of_spyStep (hconsistent : publication.Consistent)
    (hstep : SpyStep publication next) : next.Consistent := by
  obtain ⟨op, -, rfl⟩ := hstep
  obtain ⟨_, _, _, _, heq⟩ := op.apply_eq_update publication
  rw [heq]
  exact ⟨hconsistent.1, hconsistent.2, hconsistent.3, hconsistent.4⟩

/-- One step of a producer, the sender or the conductor. The conductor's steps are a
parameter: every step on the registry (`SpyStep`), or only those the hooks track. -/
inductive DriverStep (conductorStep : NetworkPublication → NetworkPublication → Prop) :
    NetworkPublication → NetworkPublication → Prop
  | producerOrSender {publication next : NetworkPublication}
      (hstep : PublicationStep publication next) : DriverStep conductorStep publication next
  | conductor {publication next : NetworkPublication} (hstep : conductorStep publication next) :
      DriverStep conductorStep publication next

theorem Consistent.of_driverStep (hconsistent : publication.Consistent)
    (hstep : DriverStep SpyStep publication next)
    (hbelow : publication.logMetaData.activeTermCount < 2 ^ 31 - 1) : next.Consistent := by
  cases hstep with
  | producerOrSender hstep => exact hconsistent.of_publicationStep hstep hbelow
  | conductor hstep => exact hconsistent.of_spyStep hstep

theorem DriverStep.positions_le (hstep : DriverStep SpyStep publication next)
    (hconsistent : publication.Consistent)
    (hbelow : publication.logMetaData.activeTermCount < 2 ^ 31 - 1) :
    publication.producerPosition ≤ next.producerPosition ∧
      publication.sndPosition ≤ next.sndPosition := by
  cases hstep with
  | producerOrSender hstep =>
    exact ⟨hstep.producerPosition_le hconsistent hbelow, hstep.sndPosition_le⟩
  | conductor hstep =>
    obtain ⟨hproducer, hsender, -⟩ := hstep.positions_eq
    exact ⟨hproducer.ge, hsender.ge⟩

/-- Along every interleaving of producer tail updates, sends and conductor steps that starts
from a consistent state and stays below `2^31 - 1` terms, every state is consistent, and
neither the producer position nor the sender position ever moves backwards. -/
theorem consistent_of_driverRun {run : List NetworkPublication}
    (hstart : publication.Consistent) (hrun : List.Chain (DriverStep SpyStep) publication run)
    (hterms : ∀ state ∈ publication :: run, state.logMetaData.activeTermCount < 2 ^ 31 - 1) :
    (∀ state ∈ publication :: run, state.Consistent) ∧
      ((publication :: run).map producerPosition).Pairwise (· ≤ ·) ∧
      ((publication :: run).map sndPosition).Pairwise (· ≤ ·) := by
  simp only [← List.chain'_iff_pairwise]
  induction hrun with
  | nil => exact ⟨by simpa using hstart, List.chain'_singleton _, List.chain'_singleton _⟩
  | @cons current next rest hstep _ ih =>
    have hbelow := hterms current (List.mem_cons_self _ _)
    obtain ⟨hall, hproducer, hsender⟩ := ih (hstart.of_driverStep hstep hbelow)
      fun state hstate => hterms state (List.mem_cons_of_mem _ hstate)
    obtain ⟨hproducerLe, hsenderLe⟩ := hstep.positions_le hstart hbelow
    exact ⟨List.forall_mem_cons.mpr ⟨hstart, hall⟩, hproducer.cons hproducerLe,
      hsender.cons hsenderLe⟩

/-- A created publication claims 1024 bytes, a spy joins, and the sender sends the claim. -/
theorem consistent_of_driverRun_append_addSpy_send :
    created.Consistent ∧
      List.Chain (DriverStep SpyStep) created
        [created.appendTail 1024, (created.appendTail 1024).addSpy 1 0,
          ((created.appendTail 1024).addSpy 1 0).advanceSender 1024] ∧
      (∀ state ∈ created :: [created.appendTail 1024, (created.appendTail 1024).addSpy 1 0,
          ((created.appendTail 1024).addSpy 1 0).advanceSender 1024],
        state.logMetaData.activeTermCount < 2 ^ 31 - 1) ∧
      ((∀ state ∈ created :: [created.appendTail 1024, (created.appendTail 1024).addSpy 1 0,
          ((created.appendTail 1024).addSpy 1 0).advanceSender 1024], state.Consistent) ∧
        ((created :: [created.appendTail 1024, (created.appendTail 1024).addSpy 1 0,
          ((created.appendTail 1024).addSpy 1 0).advanceSender 1024]).map
            producerPosition).Pairwise (· ≤ ·) ∧
        ((created :: [created.appendTail 1024, (created.appendTail 1024).addSpy 1 0,
          ((created.appendTail 1024).addSpy 1 0).advanceSender 1024]).map
            sndPosition).Pairwise (· ≤ ·)) :=
  have hstart : created.Consistent := ⟨by decide, by decide, by decide, by decide⟩
  have hrun : List.Chain (DriverStep SpyStep) created
      [created.appendTail 1024, (created.appendTail 1024).addSpy 1 0,
        ((created.appendTail 1024).addSpy 1 0).advanceSender 1024] :=
    .cons (.producerOrSender (.producer (.append created 1024 (by decide) (by decide))))
      (.cons (.conductor ⟨.add 1 0, trivial, rfl⟩)
        (.cons (.producerOrSender (.send _ 2048 1024 (by decide) (by decide))) .nil))
  have hterms : ∀ state ∈ created :: [created.appendTail 1024,
      (created.appendTail 1024).addSpy 1 0,
      ((created.appendTail 1024).addSpy 1 0).advanceSender 1024],
      state.logMetaData.activeTermCount < 2 ^ 31 - 1 := by decide
  ⟨hstart, hrun, hterms, consistent_of_driverRun hstart hrun hterms⟩

/-- A producer's or the sender's step keeps what the hooks read. -/
theorem PublicationStep.registry_eq (hstep : PublicationStep publication next) :
    next.subscribable = publication.subscribable ∧ next.hasSpies = publication.hasSpies ∧
      next.state = publication.state := by
  obtain ⟨_, _, _, rfl⟩ := hstep.eq_update
  exact ⟨rfl, rfl, rfl⟩

/-- Along every interleaving of producer tail updates, sends and conductor steps the hooks
track, `has_spies` stays set while a working spy exists, once it does at the start. -/
theorem hasSpiesWhileWorking_of_driverRun {run : List NetworkPublication}
    (hstart : publication.HasSpiesWhileWorking)
    (hrun : List.Chain (DriverStep TrackedSpyStep) publication run) :
    ∀ state ∈ publication :: run, state.HasSpiesWhileWorking := by
  induction hrun with
  | nil => simpa using hstart
  | @cons current next rest hstep _ ih =>
    have hnext : next.HasSpiesWhileWorking := by
      cases hstep with
      | producerOrSender hstep =>
        obtain ⟨hsubscribable, hhasSpies, -⟩ := hstep.registry_eq
        unfold HasSpiesWhileWorking
        rw [hsubscribable, hhasSpies]
        exact hstart
      | conductor hstep => exact hasSpiesWhileWorking_of_trackedSpyStep hstart hstep
    exact List.forall_mem_cons.mpr ⟨hstart, ih hnext⟩

/-- A created publication claims 1024 bytes and a spy joins: `has_spies` is set. -/
theorem hasSpiesWhileWorking_of_driverRun_append_addSpy :
    created.HasSpiesWhileWorking ∧
      List.Chain (DriverStep TrackedSpyStep) created
        [created.appendTail 1024, (created.appendTail 1024).addSpy 1 0] ∧
      ∀ state ∈ created :: [created.appendTail 1024, (created.appendTail 1024).addSpy 1 0],
        state.HasSpiesWhileWorking :=
  have hstart : created.HasSpiesWhileWorking := fun ⟨_, hmem, _⟩ => nomatch hmem
  have hrun : List.Chain (DriverStep TrackedSpyStep) created
      [created.appendTail 1024, (created.appendTail 1024).addSpy 1 0] :=
    .cons (.producerOrSender (.producer (.append created 1024 (by decide) (by decide))))
      (.cons (.conductor ⟨.add 1 0, trivial, trivial, rfl⟩) .nil)
  ⟨hstart, hrun, hasSpiesWhileWorking_of_driverRun hstart hrun⟩

end NetworkPublication

end Aeron
