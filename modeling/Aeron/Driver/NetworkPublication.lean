/-
# Network publication: the inline functions of its header

The sender side of one stream. This module models the state of
`aeron_network_publication_t` that the header's inline functions read and write, and those
functions: the subscriber hooks, the producer position read from the log's raw tail, the
blocked-publisher test, the maximum spy position and whether the publication still accepts
subscriptions. The bodies in `aeron_network_publication.c` (send, resend, time events) are
not among the modelled sources.

Two results characterise the functions outright: `maxSpyPosition` is the greatest of the
sender position and the working spies' positions, and `isPossiblyBlocked`, asked about the
current producer position, answers `false` exactly when the consumer has caught up inside
the active term.
-/

import Aeron.Concurrent.Logbuffer.LogBufferDescriptor
import Aeron.Driver.Subscribable

namespace Aeron

/-- `aeron_network_publication_state_t`. -/
inductive NetworkPublicationState
  | active
  | draining
  | linger
  | done
  deriving DecidableEq, Repr

/-- The fields of `aeron_logbuffer_metadata_t` the header reads. `activeRawTail` is the tail
counter of the partition `active_term_count` selects, the value
`AERON_LOGBUFFER_RAWTAIL_VOLATILE` reads. -/
structure LogMetadata where
  activeTermCount : Int
  activeRawTail : Int
  isConnected : Int
  correlationId : Int
  deriving DecidableEq, Repr

/-- The state of `aeron_network_publication_t` the header's inline functions touch:
`conductor_fields.state` and `.subscribable`, the log metadata, the term geometry of the
mapped log, the sender position counter, and the flags. -/
structure NetworkPublication where
  state : NetworkPublicationState
  subscribable : Subscribable
  logMetaData : LogMetadata
  geometry : TermGeometry
  initialTermId : Int
  sndPosition : Int
  spiesSimulateConnection : Bool
  hasSpies : Bool
  isConnected : Bool
  hasSenderReleased : Bool

namespace NetworkPublication

variable (publication : NetworkPublication)

/-- `aeron_network_publication_add_subscriber_hook`: a spy was added. With
`spies_simulate_connection` the publication, and its log, count as connected. -/
def addSubscriberHook : NetworkPublication :=
  let publication := { publication with hasSpies := true }
  if publication.spiesSimulateConnection then
    { publication with
      logMetaData := { publication.logMetaData with isConnected := 1 }
      isConnected := true }
  else publication

/-- `aeron_network_publication_remove_subscriber_hook`, run while the position being removed
is still in the registry. -/
def removeSubscriberHook : NetworkPublication :=
  if 1 = publication.subscribable.workingPositionCount then
    { publication with hasSpies := false }
  else publication

/-- `aeron_network_publication_producer_position`. -/
def producerPosition : Int :=
  let rawTail := publication.logMetaData.activeRawTail
  logbufferComputePosition (logbufferTermId rawTail)
    (logbufferTermOffset rawTail (toInt32 publication.geometry.termLength))
    publication.geometry.positionBitsToShift publication.initialTermId

/-- `aeron_network_publication_is_possibly_blocked`. `consumer_position >> bits` on an
`int64` is the floor division by `2 ^ bits`. -/
def isPossiblyBlocked (producerPosition consumerPosition : Int) : Bool :=
  let producerTermCount := publication.logMetaData.activeTermCount
  let expectedTermCount :=
    toInt32 (consumerPosition / 2 ^ publication.geometry.positionBitsToShift)
  if producerTermCount ≠ expectedTermCount then true
  else decide (producerPosition > consumerPosition)

/-- `aeron_network_publication_join_position`. -/
def joinPosition : Int := publication.sndPosition

/-- `aeron_network_publication_sender_release`. -/
def senderRelease : NetworkPublication := { publication with hasSenderReleased := true }

/-- The loop body of `aeron_network_publication_max_spy_position`. -/
def maxSpyPositionStep (position : Int) (tetherablePosition : TetherablePosition) : Int :=
  let spyPosition := tetherablePosition.value
  if tetherablePosition.state ≠ .resting then
    if spyPosition > position then spyPosition else position
  else position

/-- `aeron_network_publication_max_spy_position`. -/
def maxSpyPosition (sndPos : Int) : Int :=
  publication.subscribable.array.foldl maxSpyPositionStep sndPos

/-- `aeron_network_publication_is_accepting_subscriptions`. -/
def isAcceptingSubscriptions : Bool :=
  publication.state = .active ||
    (publication.state = .draining && publication.subscribable.hasWorkingPositions &&
      decide (publication.producerPosition > publication.sndPosition))

/-- `aeron_network_publication_registration_id`. -/
def registrationId : Int := publication.logMetaData.correlationId

/-! ## Producer position -/

/-- The number of terms the active raw tail is past the initial term, as the position
formula computes it. -/
def termCount : Int :=
  toInt32 (logbufferTermId publication.logMetaData.activeRawTail - publication.initialTermId)

/-- The producer position is the term count in whole terms plus the tail offset capped at
the term length. -/
theorem producerPosition_eq :
    publication.producerPosition =
      publication.termCount * publication.geometry.termLength +
        min (rawTailOffset publication.logMetaData.activeRawTail)
          publication.geometry.termLength := by
  have hpos := publication.geometry.termLength_pos
  have hle := publication.geometry.termLength_le
  rw [producerPosition, toInt32_of_mem (by omega) (by omega),
    logbufferTermOffset_eq hpos (by omega), logbufferComputePosition,
    ← publication.geometry.termLength_eq, termCount]

/-- Dividing `count * termLength + offset` by the term length gives back the count while
the offset stays inside the term. -/
private theorem ediv_termLength {termLength count offset : Int} (hpos : 0 < termLength) :
    (count * termLength + offset) / termLength = count + offset / termLength := by
  rw [Int.add_comm, Int.add_mul_ediv_right _ _ hpos.ne', Int.add_comm]

private theorem ediv_eq_zero_iff_lt {offset termLength : Int} (hpos : 0 < termLength)
    (hnonneg : 0 ≤ offset) (hle : offset ≤ termLength) :
    offset / termLength = 0 ↔ offset < termLength := by
  constructor
  · intro hzero
    by_contra hnot
    have heq : offset = termLength := by omega
    rw [heq, Int.ediv_self hpos.ne'] at hzero
    omega
  · exact Int.ediv_eq_zero_of_lt hnonneg

/-- When the active raw tail carries the term id `initialTermId + activeTermCount`, the
position formula's term count is the metadata's active term count. -/
theorem termCount_eq {count : Int} (hlow : 0 ≤ count) (hhigh : count < 2 ^ 31 - 1)
    (htermId : logbufferTermId publication.logMetaData.activeRawTail =
      toInt32 (publication.initialTermId + count)) :
    publication.termCount = count := by
  rw [termCount, htermId, toInt32_toInt32_sub,
    show publication.initialTermId + count - publication.initialTermId = count by ring,
    toInt32_of_mem (by omega) (by omega)]

/-- The blocked test answers `false` exactly when the consumer's term is the active one and
the consumer is not behind the given producer position. -/
theorem isPossiblyBlocked_eq_false_iff (producerPosition consumerPosition : Int) :
    publication.isPossiblyBlocked producerPosition consumerPosition = false ↔
      publication.logMetaData.activeTermCount =
          toInt32 (consumerPosition / 2 ^ publication.geometry.positionBitsToShift) ∧
        producerPosition ≤ consumerPosition := by
  simp only [isPossiblyBlocked]
  by_cases hterm : publication.logMetaData.activeTermCount =
      toInt32 (consumerPosition / 2 ^ publication.geometry.positionBitsToShift) <;>
    simp [hterm]

/-- The blocked test, asked about the current producer position and a consumer position at
or behind it, answers `false` exactly when the consumer has reached the producer and the
producer's tail is still inside the active term. A producer stalled at a term end with the
rotation pending is always reported as possibly blocked. -/
theorem isPossiblyBlocked_producerPosition_eq_false_iff
    (htermCount : 0 ≤ publication.logMetaData.activeTermCount ∧
      publication.logMetaData.activeTermCount < 2 ^ 31 - 1)
    (htermId : logbufferTermId publication.logMetaData.activeRawTail =
      toInt32 (publication.initialTermId + publication.logMetaData.activeTermCount))
    (consumerPosition : Int)
    (hconsumer : 0 ≤ consumerPosition ∧ consumerPosition ≤ publication.producerPosition) :
    publication.isPossiblyBlocked publication.producerPosition consumerPosition = false ↔
      consumerPosition = publication.producerPosition ∧
        rawTailOffset publication.logMetaData.activeRawTail < publication.geometry.termLength := by
  set count := publication.logMetaData.activeTermCount
  set termLength := publication.geometry.termLength
  set tail := rawTailOffset publication.logMetaData.activeRawTail
  have hpos : 0 < termLength := publication.geometry.termLength_pos
  have hshift : (2 : Int) ^ publication.geometry.positionBitsToShift = termLength :=
    publication.geometry.termLength_eq.symm
  have hinside : 0 ≤ min tail termLength ∧ min tail termLength ≤ termLength :=
    ⟨le_min (rawTailOffset_nonneg _) hpos.le, min_le_right _ _⟩
  have hproducer : publication.producerPosition = count * termLength + min tail termLength := by
    rw [producerPosition_eq, termCount_eq publication htermCount.1 htermCount.2 htermId]
  -- the consumer is at most one term past the active one, so its term count fits `int32`
  have hquotient : consumerPosition / termLength < count + 2 :=
    (Int.ediv_lt_iff_lt_mul hpos).mpr (by linarith [hconsumer.2, hinside.2])
  have hcast : toInt32 (consumerPosition / termLength) = consumerPosition / termLength :=
    toInt32_of_mem (by have := Int.ediv_nonneg hconsumer.1 hpos.le; omega) (by omega)
  have hdiv : publication.producerPosition / termLength =
      count + min tail termLength / termLength := by
    rw [hproducer, ediv_termLength hpos]
  have hzero := ediv_eq_zero_iff_lt hpos hinside.1 hinside.2
  rw [isPossiblyBlocked_eq_false_iff, hshift, hcast]
  constructor
  · rintro ⟨hcount, hcaught⟩
    have heq : consumerPosition = publication.producerPosition := le_antisymm hconsumer.2 hcaught
    rw [heq, hdiv] at hcount
    have hmin : min tail termLength < termLength := hzero.mp (by omega)
    exact ⟨heq, by simpa [min_lt_iff] using hmin⟩
  · rintro ⟨heq, hbefore⟩
    refine ⟨?_, heq.ge⟩
    rw [heq, hdiv, hzero.mpr (min_lt_iff.mpr (.inl hbefore)), add_zero]

/-- A publication just created at position zero: initial term id 7, 64k terms, nothing
claimed yet, no spies. -/
def created : NetworkPublication where
  state := .active
  subscribable := ⟨[]⟩
  logMetaData := ⟨0, logbufferPackTail 7 0, 0, 0⟩
  geometry := ⟨65536, 16, by norm_num, by norm_num⟩
  initialTermId := 7
  sndPosition := 0
  spiesSimulateConnection := false
  hasSpies := false
  isConnected := false
  hasSenderReleased := false

/-- A producer stalled 96 bytes past the end of its fourth 64k term, the rotation pending:
term count 3, term id `7 + 3`. -/
def stalledAtTermEnd : NetworkPublication :=
  { created with logMetaData := ⟨3, logbufferPackTail 10 (65536 + 96), 0, 0⟩ }

/-- Stalled past the term end, the producer position is capped at `4 * 65536`; a consumer
1024 bytes behind it and a consumer that has caught up are both reported as possibly
blocked. -/
theorem isPossiblyBlocked_stalledAtTermEnd :
    (0 ≤ stalledAtTermEnd.logMetaData.activeTermCount ∧
        stalledAtTermEnd.logMetaData.activeTermCount < 2 ^ 31 - 1) ∧
      logbufferTermId stalledAtTermEnd.logMetaData.activeRawTail =
        toInt32 (stalledAtTermEnd.initialTermId + stalledAtTermEnd.logMetaData.activeTermCount) ∧
      stalledAtTermEnd.producerPosition = 4 * 65536 ∧
      (stalledAtTermEnd.isPossiblyBlocked stalledAtTermEnd.producerPosition (4 * 65536 - 1024) =
          false ↔
        4 * 65536 - 1024 = stalledAtTermEnd.producerPosition ∧
          rawTailOffset stalledAtTermEnd.logMetaData.activeRawTail <
            stalledAtTermEnd.geometry.termLength) ∧
      (stalledAtTermEnd.isPossiblyBlocked stalledAtTermEnd.producerPosition (4 * 65536) = false ↔
        4 * 65536 = stalledAtTermEnd.producerPosition ∧
          rawTailOffset stalledAtTermEnd.logMetaData.activeRawTail <
            stalledAtTermEnd.geometry.termLength) :=
  have hcount : 0 ≤ stalledAtTermEnd.logMetaData.activeTermCount ∧
      stalledAtTermEnd.logMetaData.activeTermCount < 2 ^ 31 - 1 := by decide
  have htermId : logbufferTermId stalledAtTermEnd.logMetaData.activeRawTail =
      toInt32 (stalledAtTermEnd.initialTermId + stalledAtTermEnd.logMetaData.activeTermCount) := by
    decide
  ⟨hcount, htermId, by decide,
    isPossiblyBlocked_producerPosition_eq_false_iff stalledAtTermEnd hcount htermId _ (by decide),
    isPossiblyBlocked_producerPosition_eq_false_iff stalledAtTermEnd hcount htermId _ (by decide)⟩

/-! ## Maximum spy position -/

/-- What `maxSpyPosition` ranges over: the sender position and the counter value of every
working position. -/
def spyPositionCandidates (sndPos : Int) : Set Int :=
  {position | position = sndPos ∨
    ∃ tetherable ∈ publication.subscribable.array,
      tetherable.state ≠ .resting ∧ position = tetherable.value}

theorem maxSpyPositionStep_eq (position : Int) (tetherable : TetherablePosition) :
    maxSpyPositionStep position tetherable =
      if tetherable.state ≠ .resting then max tetherable.value position else position := by
  simp only [maxSpyPositionStep]
  split
  · split <;> simp only [max_def] <;> split <;> omega
  · rfl

/-- The loop's result is its start or a working value, and bounds both from above. -/
theorem foldl_maxSpyPositionStep (positions : List TetherablePosition) (start : Int) :
    (positions.foldl maxSpyPositionStep start = start ∨
      ∃ tetherable ∈ positions, tetherable.state ≠ .resting ∧
        positions.foldl maxSpyPositionStep start = tetherable.value) ∧
      start ≤ positions.foldl maxSpyPositionStep start ∧
      ∀ tetherable ∈ positions, tetherable.state ≠ .resting →
        tetherable.value ≤ positions.foldl maxSpyPositionStep start := by
  induction positions generalizing start with
  | nil => simp
  | cons head tail ih =>
    obtain ⟨hresult, hstart, hbound⟩ := ih (maxSpyPositionStep start head)
    simp only [List.foldl_cons, List.mem_cons, forall_eq_or_imp, exists_eq_or_imp]
    rw [maxSpyPositionStep_eq] at hresult hstart hbound ⊢
    by_cases hresting : head.state = .resting
    · simp only [hresting, ne_eq, not_true_eq_false, if_false, false_and, false_or,
        IsEmpty.forall_iff, true_and] at hresult hstart hbound ⊢
      exact ⟨hresult, hstart, hbound⟩
    · simp only [hresting, ne_eq, not_false_eq_true, if_true, true_and,
        forall_const] at hresult hstart hbound ⊢
      refine ⟨?_, le_trans (le_max_right _ _) hstart, le_trans (le_max_left _ _) hstart, hbound⟩
      rcases hresult with hresult | hresult
      · rcases max_choice head.value start with hmax | hmax
        · exact .inr (.inl (hresult.trans hmax))
        · exact .inl (hresult.trans hmax)
      · exact .inr (.inr hresult)

/-- The maximum spy position is the greatest of the sender position and the working spies'
positions, whatever the number, values and placement of resting positions. -/
theorem maxSpyPosition_isGreatest (sndPos : Int) :
    IsGreatest (publication.spyPositionCandidates sndPos) (publication.maxSpyPosition sndPos) := by
  obtain ⟨hresult, hstart, hbound⟩ :=
    foldl_maxSpyPositionStep publication.subscribable.array sndPos
  refine ⟨?_, ?_⟩
  · rcases hresult with hresult | ⟨tetherable, hmem, hworking, hresult⟩
    · exact .inl hresult
    · exact .inr ⟨tetherable, hmem, hworking, hresult⟩
  · rintro position (rfl | ⟨tetherable, hmem, hworking, rfl⟩)
    · exact hstart
    · exact hbound tetherable hmem hworking

/-- Two registries whose working positions agree up to order offer the same candidates. -/
theorem spyPositionCandidates_congr {other : NetworkPublication}
    (hworking : (other.subscribable.array.filter TetherablePosition.isWorking).Perm
      (publication.subscribable.array.filter TetherablePosition.isWorking))
    (sndPos : Int) :
    other.spyPositionCandidates sndPos = publication.spyPositionCandidates sndPos := by
  ext position
  simp only [spyPositionCandidates, Set.mem_setOf_eq]
  have hmem : ∀ tetherable, (tetherable ∈ other.subscribable.array ∧ tetherable.state ≠ .resting) ↔
      (tetherable ∈ publication.subscribable.array ∧ tetherable.state ≠ .resting) := by
    intro tetherable
    have := hworking.mem_iff (a := tetherable)
    simpa [List.mem_filter] using this
  constructor <;> rintro (h | ⟨tetherable, hin, hstate, rfl⟩)
  · exact .inl h
  · exact .inr ⟨tetherable, ((hmem tetherable).mp ⟨hin, hstate⟩).1, hstate, rfl⟩
  · exact .inl h
  · exact .inr ⟨tetherable, ((hmem tetherable).mpr ⟨hin, hstate⟩).1, hstate, rfl⟩

/-- `maxSpyPosition` equals the maximum of the sender position and every working spy's
position: it bounds each of them, and it is unchanged by the number, values and order of
the resting positions (indeed by anything but the working positions, up to order). -/
theorem maxSpyPosition_spec (sndPos : Int) :
    IsGreatest (publication.spyPositionCandidates sndPos) (publication.maxSpyPosition sndPos) ∧
      sndPos ≤ publication.maxSpyPosition sndPos ∧
      (∀ tetherable ∈ publication.subscribable.array, tetherable.state ≠ .resting →
        tetherable.value ≤ publication.maxSpyPosition sndPos) ∧
      ∀ other : NetworkPublication,
        (other.subscribable.array.filter TetherablePosition.isWorking).Perm
          (publication.subscribable.array.filter TetherablePosition.isWorking) →
        other.maxSpyPosition sndPos = publication.maxSpyPosition sndPos := by
  have hgreatest := maxSpyPosition_isGreatest publication sndPos
  refine ⟨hgreatest, hgreatest.2 (.inl rfl),
    fun tetherable hmem hworking => hgreatest.2 (.inr ⟨tetherable, hmem, hworking, rfl⟩),
    fun other hperm => ?_⟩
  have hother := maxSpyPosition_isGreatest other sndPos
  rw [spyPositionCandidates_congr publication hperm] at hother
  exact hother.unique hgreatest

end NetworkPublication

end Aeron
