/-
# Spy liveness: `has_spies` over runs of the registry

The conductor adds a spy's position (after which the add hook sets `has_spies`), removes one
(the remove hook runs first, while the position is still in the registry, and clears
`has_spies` when the registry then holds exactly one working position), and moves positions
between the tether states. Nothing else writes `has_spies`.

The hook counts working positions before the removal without asking whether the position
being removed is itself working, and re-tethering a resting position never sets `has_spies`
again. So a working spy can be left with `has_spies` clear, in two ways that
`hasSpies_clear_with_working_spy` replays. Over the runs that avoid both, `has_spies` is
set whenever a working spy exists.

With `spies_simulate_connection` the add hook also connects the publication and its log,
and no hook disconnects it: along every run it is connected exactly when it was before or a
spy was added (`SpyOp.isConnected_run`).

The conductor's operations on the registry are modelled from the spec (see
`Aeron.Driver.Subscribable`); the hooks are the header's.
-/

import Mathlib.Logic.Relation
import Aeron.Driver.NetworkPublication

namespace Aeron

/-- One operation of the conductor on a network publication's spy registry. -/
inductive SpyOp
  | add (counterId value : Int)
  | remove (index : Nat)
  | tether (index : Nat) (state : TetherState)
  deriving DecidableEq, Repr

namespace NetworkPublication

variable (publication : NetworkPublication)

/-- Modelled from the spec: the conductor adds a spy's position, ACTIVE, and the add hook
runs. -/
def addSpy (counterId value : Int) : NetworkPublication :=
  { publication with
    subscribable := publication.subscribable.addPosition counterId value }.addSubscriberHook

/-- Modelled from the spec: the conductor removes the position at `index`. The remove hook
runs while the position is still in the registry; the position is deleted after it. The
registry runs the hook only for a position it holds, so an index past the registry changes
nothing. -/
def removeSpy (index : Nat) : NetworkPublication :=
  if index < publication.subscribable.array.length then
    let publication := publication.removeSubscriberHook
    { publication with subscribable := publication.subscribable.removePosition index }
  else publication

/-- Modelled from the spec: the conductor moves the position at `index` to `state`. -/
def setSpyTetherState (index : Nat) (state : TetherState) : NetworkPublication :=
  { publication with subscribable := publication.subscribable.setState index state }

/-- The invariant the spec asks of `has_spies`: it is set whenever a working spy exists. -/
def HasSpiesWhileWorking : Prop :=
  (∃ position ∈ publication.subscribable.array, position.state ≠ .resting) →
    publication.hasSpies = true

@[simp] theorem removeSubscriberHook_subscribable :
    publication.removeSubscriberHook.subscribable = publication.subscribable := by
  unfold removeSubscriberHook; split <;> rfl

end NetworkPublication

namespace SpyOp

open NetworkPublication

/-- The effect of an operation on the publication. -/
def apply : SpyOp → NetworkPublication → NetworkPublication
  | .add counterId value, publication => publication.addSpy counterId value
  | .remove index, publication => publication.removeSpy index
  | .tether index state, publication => publication.setSpyTetherState index state

/-- The conductor removes and re-tethers only positions that exist. -/
def Enabled : SpyOp → NetworkPublication → Prop
  | .add _ _, _ => True
  | .remove index, publication => index < publication.subscribable.array.length
  | .tether index _, publication => index < publication.subscribable.array.length

/-- The operations whose effect on the working spies the hooks keep up with: every add; a
removal, unless it takes out a resting position while exactly one working position remains;
a change of tether state, unless it re-activates a resting position while `has_spies` is
clear. -/
def HooksTrack : SpyOp → NetworkPublication → Prop
  | .add _ _, _ => True
  | .remove index, publication =>
    ∀ hindex : index < publication.subscribable.array.length,
      publication.subscribable.array[index].state = .resting →
        publication.subscribable.workingPositionCount ≠ 1
  | .tether index state, publication =>
    ∀ hindex : index < publication.subscribable.array.length,
      publication.subscribable.array[index].state = .resting → state ≠ .resting →
        publication.hasSpies = true

/-- What each operation does to `has_spies`: an add sets it, a removal of a held position
clears it exactly when the registry holds one working position before the deletion, a
re-tethering leaves it. -/
theorem hasSpies_apply (op : SpyOp) (publication : NetworkPublication) :
    (op.apply publication).hasSpies =
      match op with
      | .add _ _ => true
      | .remove index =>
        if index < publication.subscribable.array.length ∧
            1 = publication.subscribable.workingPositionCount then false
        else publication.hasSpies
      | .tether _ _ => publication.hasSpies := by
  cases op with
  | add counterId value =>
    simp only [apply, addSpy, addSubscriberHook]; split <;> rfl
  | remove index =>
    simp only [apply, removeSpy, removeSubscriberHook]
    by_cases hindex : index < publication.subscribable.array.length <;>
      by_cases hlast : 1 = publication.subscribable.workingPositionCount <;>
      simp [hindex, hlast]
  | tether index state => rfl

instance decidableEnabled :
    (op : SpyOp) → (publication : NetworkPublication) → Decidable (op.Enabled publication)
  | .add _ _, _ => instDecidableTrue
  | .remove _, _ => Nat.decLt _ _
  | .tether _ _, _ => Nat.decLt _ _

instance decidableHooksTrack :
    (op : SpyOp) → (publication : NetworkPublication) → Decidable (op.HooksTrack publication)
  | .add _ _, _ => instDecidableTrue
  | .remove index, publication =>
    inferInstanceAs (Decidable (∀ hindex : index < publication.subscribable.array.length,
      publication.subscribable.array[index].state = .resting →
        publication.subscribable.workingPositionCount ≠ 1))
  | .tether index state, publication =>
    inferInstanceAs (Decidable (∀ hindex : index < publication.subscribable.array.length,
      publication.subscribable.array[index].state = .resting → state ≠ .resting →
        publication.hasSpies = true))

/-- The state after a list of operations. -/
def run (ops : List SpyOp) (publication : NetworkPublication) : NetworkPublication :=
  ops.foldl (fun current op => op.apply current) publication

/-- Each operation of a list names a position that exists when its turn comes. -/
def EnabledAlong : List SpyOp → NetworkPublication → Prop
  | [], _ => True
  | op :: ops, publication => op.Enabled publication ∧ EnabledAlong ops (op.apply publication)

instance decidableEnabledAlong :
    (ops : List SpyOp) → (publication : NetworkPublication) →
      Decidable (EnabledAlong ops publication)
  | [], _ => instDecidableTrue
  | op :: ops, publication =>
    @instDecidableAnd _ _ (decidableEnabled op publication)
      (decidableEnabledAlong ops (op.apply publication))

/-- Each operation of a list is enabled in its turn, and the hooks keep up with it. -/
def TrackedAlong : List SpyOp → NetworkPublication → Prop
  | [], _ => True
  | op :: ops, publication =>
    op.Enabled publication ∧ op.HooksTrack publication ∧ TrackedAlong ops (op.apply publication)

instance decidableTrackedAlong :
    (ops : List SpyOp) → (publication : NetworkPublication) →
      Decidable (TrackedAlong ops publication)
  | [], _ => instDecidableTrue
  | op :: ops, publication =>
    @instDecidableAnd _ _ (decidableEnabled op publication)
      (@instDecidableAnd _ _ (decidableHooksTrack op publication)
        (decidableTrackedAlong ops (op.apply publication)))

end SpyOp

/-- One step of the conductor on the spy registry. -/
def SpyStep (publication next : NetworkPublication) : Prop :=
  ∃ op : SpyOp, op.Enabled publication ∧ next = op.apply publication

/-- One step whose effect the hooks keep up with. -/
def TrackedSpyStep (publication next : NetworkPublication) : Prop :=
  ∃ op : SpyOp,
    op.Enabled publication ∧ op.HooksTrack publication ∧ next = op.apply publication

/-- A list of operations, each enabled in its turn, is a run of steps. -/
theorem SpyOp.reflTransGen_run :
    (ops : List SpyOp) → (publication : NetworkPublication) →
      SpyOp.EnabledAlong ops publication →
      Relation.ReflTransGen SpyStep publication (SpyOp.run ops publication)
  | [], _, _ => .refl
  | op :: ops, publication, ⟨henabled, hrest⟩ =>
    .head ⟨op, henabled, rfl⟩ (SpyOp.reflTransGen_run ops (op.apply publication) hrest)

/-- A list of operations the hooks keep up with is a run of tracked steps. -/
theorem SpyOp.reflTransGen_trackedRun :
    (ops : List SpyOp) → (publication : NetworkPublication) →
      SpyOp.TrackedAlong ops publication →
      Relation.ReflTransGen TrackedSpyStep publication (SpyOp.run ops publication)
  | [], _, _ => .refl
  | op :: ops, publication, ⟨henabled, htrack, hrest⟩ =>
    .head ⟨op, henabled, htrack, rfl⟩
      (SpyOp.reflTransGen_trackedRun ops (op.apply publication) hrest)

namespace NetworkPublication

/-- Two spies join; the second comes to rest and is then removed. The hook sees one working
position and clears `has_spies`, though that working spy stays. -/
def restingRemovalRun : List SpyOp :=
  [.add 1 0, .add 2 0, .tether 1 .resting, .remove 1]

/-- Two spies join; the second comes to rest, the first leaves, and the resting one becomes
active again. `has_spies` was rightly cleared, and nothing sets it again. -/
def restingRejoinRun : List SpyOp :=
  [.add 1 0, .add 2 0, .tether 1 .resting, .remove 0, .tether 0 .active]

/-- Both runs, from a freshly created publication, reach a state with a working spy and
`has_spies` clear. -/
theorem hasSpies_clear_with_working_spy :
    (Relation.ReflTransGen SpyStep created (SpyOp.run restingRemovalRun created) ∧
      (∃ position ∈ (SpyOp.run restingRemovalRun created).subscribable.array,
        position.state ≠ .resting) ∧
      (SpyOp.run restingRemovalRun created).hasSpies = false) ∧
    (Relation.ReflTransGen SpyStep created (SpyOp.run restingRejoinRun created) ∧
      (∃ position ∈ (SpyOp.run restingRejoinRun created).subscribable.array,
        position.state ≠ .resting) ∧
      (SpyOp.run restingRejoinRun created).hasSpies = false) :=
  ⟨⟨SpyOp.reflTransGen_run _ _ (by decide), by decide, by decide⟩,
    ⟨SpyOp.reflTransGen_run _ _ (by decide), by decide, by decide⟩⟩

/-- Removing a working position while it is the only one leaves no working position. -/
private theorem no_working_after_removing_last {publication : NetworkPublication} {index : Nat}
    (hindex : index < publication.subscribable.array.length)
    (hworking : publication.subscribable.array[index].state ≠ .resting)
    (hlast : publication.subscribable.workingPositionCount = 1) :
    ¬ ∃ position ∈ (publication.subscribable.removePosition index).array,
      position.state ≠ .resting := by
  rw [Subscribable.exists_working_iff]
  have hcount := publication.subscribable.workingPositionCount_removePosition hindex
  rw [if_pos ((TetherablePosition.isWorking_iff _).mpr hworking)] at hcount
  omega

/-- Every tracked step keeps `has_spies` set while a working spy exists. -/
theorem hasSpiesWhileWorking_of_trackedSpyStep {publication next : NetworkPublication}
    (hinv : publication.HasSpiesWhileWorking) (hstep : TrackedSpyStep publication next) :
    next.HasSpiesWhileWorking := by
  obtain ⟨op, henabled, htrack, rfl⟩ := hstep
  intro hworking
  rw [SpyOp.hasSpies_apply]
  cases op with
  | add counterId value => rfl
  | remove index =>
    obtain ⟨position, hmem, hstate⟩ := hworking
    have hindex : index < publication.subscribable.array.length := henabled
    simp only [SpyOp.apply, removeSpy, if_pos hindex, removeSubscriberHook_subscribable] at hmem
    have hbefore : publication.hasSpies = true :=
      hinv ⟨position, Subscribable.mem_of_mem_removePosition hmem, hstate⟩
    simp only
    split_ifs with hlast
    · by_cases hremoved : publication.subscribable.array[index].state = .resting
      · exact absurd hlast.2.symm (htrack henabled hremoved)
      · exact absurd ⟨position, hmem, hstate⟩
          (no_working_after_removing_last henabled hremoved hlast.2.symm)
    · exact hbefore
  | tether index state =>
    obtain ⟨position, hmem, hstate⟩ := hworking
    rcases Subscribable.mem_setState hmem with hold | ⟨hindex, rfl⟩
    · exact hinv ⟨position, hold, hstate⟩
    · by_cases hwas : publication.subscribable.array[index].state = .resting
      · exact htrack hindex hwas hstate
      · exact hinv ⟨_, List.getElem_mem hindex, hwas⟩

/-- The invariant holds along every run of tracked steps that starts where it holds. -/
theorem hasSpiesWhileWorking_of_trackedRun {initial publication : NetworkPublication}
    (hrun : Relation.ReflTransGen TrackedSpyStep initial publication)
    (hinitial : initial.HasSpiesWhileWorking) : publication.HasSpiesWhileWorking := by
  induction hrun with
  | refl => exact hinitial
  | tail _ hstep ih => exact hasSpiesWhileWorking_of_trackedSpyStep ih hstep

/-- Over every run of tracked steps from a publication with an empty registry, `has_spies`
is set in each reachable state whose registry holds a working position. -/
theorem hasSpies_of_working_of_trackedRun {initial publication : NetworkPublication}
    (hempty : initial.subscribable.array = [])
    (hrun : Relation.ReflTransGen TrackedSpyStep initial publication)
    (hworking : ∃ position ∈ publication.subscribable.array, position.state ≠ .resting) :
    publication.hasSpies = true :=
  hasSpiesWhileWorking_of_trackedRun hrun
    (fun ⟨position, hmem, _⟩ => by simp [hempty] at hmem) hworking

/-- Two spies join; the first comes to rest, is made active again while `has_spies` is set,
and leaves. The other spy keeps working, and `has_spies` stays set. -/
def retetherRemovalRun : List SpyOp :=
  [.add 1 0, .add 2 0, .tether 0 .resting, .tether 0 .active, .remove 0]

theorem hasSpies_of_working_of_trackedRun_retether_remove :
    created.subscribable.array = [] ∧
      Relation.ReflTransGen TrackedSpyStep created (SpyOp.run retetherRemovalRun created) ∧
      (∃ position ∈ (SpyOp.run retetherRemovalRun created).subscribable.array,
        position.state ≠ .resting) ∧
      (SpyOp.run retetherRemovalRun created).hasSpies = true :=
  have hrun :
      Relation.ReflTransGen TrackedSpyStep created (SpyOp.run retetherRemovalRun created) :=
    SpyOp.reflTransGen_trackedRun _ _ (by decide)
  have hworking : ∃ position ∈ (SpyOp.run retetherRemovalRun created).subscribable.array,
      position.state ≠ .resting := by decide
  ⟨rfl, hrun, hworking, hasSpies_of_working_of_trackedRun rfl hrun hworking⟩

end NetworkPublication

/-! ## Connection simulated by spies -/

namespace SpyOp

/-- Whether an operation adds a spy. -/
def isAdd : SpyOp → Bool
  | .add _ _ => true
  | _ => false

/-- What each operation does to the connection: an add under `spies_simulate_connection`
connects the publication and its log; nothing else changes either flag or the setting. -/
theorem connection_apply (op : SpyOp) (publication : NetworkPublication) :
    (op.apply publication).spiesSimulateConnection = publication.spiesSimulateConnection ∧
      (op.apply publication).isConnected =
        (publication.isConnected || publication.spiesSimulateConnection && op.isAdd) ∧
      (op.apply publication).logMetaData.isConnected =
        if publication.spiesSimulateConnection && op.isAdd then 1
        else publication.logMetaData.isConnected := by
  cases op with
  | add counterId value =>
    simp only [apply, NetworkPublication.addSpy, NetworkPublication.addSubscriberHook, isAdd,
      Bool.and_true]
    cases publication.spiesSimulateConnection <;> simp
  | remove index =>
    simp only [apply, NetworkPublication.removeSpy, NetworkPublication.removeSubscriberHook,
      isAdd, Bool.and_false, Bool.or_false, Bool.false_eq_true, if_false]
    split_ifs <;> exact ⟨rfl, rfl, rfl⟩
  | tether index state => simp [apply, NetworkPublication.setSpyTetherState, isAdd]

/-- Along every run of spy operations the publication, and its log, is connected exactly
when it was before, or `spies_simulate_connection` is set and the run adds a spy: the first
spy connects it, and removing spies never disconnects it. -/
theorem isConnected_run (ops : List SpyOp) (publication : NetworkPublication) :
    (run ops publication).isConnected =
        (publication.isConnected || publication.spiesSimulateConnection && ops.any isAdd) ∧
      (run ops publication).logMetaData.isConnected =
        if publication.spiesSimulateConnection && ops.any isAdd then 1
        else publication.logMetaData.isConnected := by
  induction ops generalizing publication with
  | nil => simp [run]
  | cons op ops ih =>
    obtain ⟨hsetting, hconnected, hlog⟩ := connection_apply op publication
    obtain ⟨hconnectedRun, hlogRun⟩ := ih (op.apply publication)
    rw [run, List.foldl_cons, ← run, List.any_cons, hconnectedRun, hlogRun, hsetting, hconnected,
      hlog]
    cases publication.spiesSimulateConnection <;> cases op.isAdd <;> cases ops.any isAdd <;> simp

end SpyOp

end Aeron
