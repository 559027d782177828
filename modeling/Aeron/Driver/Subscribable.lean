/-
# Subscribable registry of a publication

A publication tracks one position per local subscriber (a spy, for a network publication):
the subscriber's position counter and its tether state. Resting positions belong to
subscribers that fell too far behind; they are kept in the registry but are not working, so
that they neither hold back the publisher nor keep the publication's spies alive.

`aeron_driver_subscribable.{h,c}` are not among the modelled sources. The registry
operations the network publication header relies on are modelled here from the spec: the
count of working positions, whether any is working, and the conductor's adding, removing and
re-tethering of a position.
-/

import Mathlib.Data.List.Basic
import Mathlib.Order.Bounds.Basic
import Aeron.Util.BitUtil

namespace Aeron

/-- `aeron_subscription_tether_state_t`. -/
inductive TetherState
  | active
  | linger
  | resting
  deriving DecidableEq, Repr

/-- `aeron_tetherable_position_t`, with the value of its counter as read through
`value_addr`. -/
structure TetherablePosition where
  counterId : Int
  value : Int
  state : TetherState
  deriving DecidableEq, Repr

namespace TetherablePosition

/-- A position works unless it rests, the test `AERON_SUBSCRIPTION_TETHER_RESTING != state`
that every loop over the registry makes. -/
def isWorking (position : TetherablePosition) : Bool := position.state != .resting

@[simp] theorem isWorking_iff (position : TetherablePosition) :
    position.isWorking = true ↔ position.state ≠ .resting := by
  simp [isWorking]

end TetherablePosition

/-- `aeron_subscribable_t`: the array of tetherable positions. -/
structure Subscribable where
  array : List TetherablePosition
  deriving DecidableEq, Repr

namespace Subscribable

/-- Modelled from the spec: `aeron_driver_subscribable_working_position_count`, the count of
working positions. -/
def workingPositionCount (subscribable : Subscribable) : Nat :=
  subscribable.array.countP TetherablePosition.isWorking

/-- Modelled from the spec: `aeron_driver_subscribable_has_working_positions`. -/
def hasWorkingPositions (subscribable : Subscribable) : Bool :=
  subscribable.array.any TetherablePosition.isWorking

/-- Modelled from the spec: `aeron_driver_subscribable_add_position`. A new position starts
ACTIVE, at the end of the array. -/
def addPosition (subscribable : Subscribable) (counterId value : Int) : Subscribable :=
  ⟨subscribable.array ++ [⟨counterId, value, .active⟩]⟩

/-- Modelled from the spec: the deletion `aeron_driver_subscribable_remove_position` makes
once the remove hook has run. -/
def removePosition (subscribable : Subscribable) (index : Nat) : Subscribable :=
  ⟨subscribable.array.eraseIdx index⟩

/-- Modelled from the spec: `aeron_driver_subscribable_state`, the conductor moving one
position to another tether state. -/
def setState (subscribable : Subscribable) (index : Nat) (state : TetherState) :
    Subscribable :=
  ⟨subscribable.array.modify (fun position => { position with state := state }) index⟩

/-- Some working position exists exactly when the working count is positive. -/
theorem exists_working_iff (subscribable : Subscribable) :
    (∃ position ∈ subscribable.array, position.state ≠ .resting) ↔
      0 < subscribable.workingPositionCount := by
  simp [workingPositionCount, List.countP_pos_iff]

theorem hasWorkingPositions_iff (subscribable : Subscribable) :
    subscribable.hasWorkingPositions = true ↔
      ∃ position ∈ subscribable.array, position.state ≠ .resting := by
  simp [hasWorkingPositions]

/-- Removing a position takes its own share, and nothing else, off the working count. -/
theorem workingPositionCount_removePosition (subscribable : Subscribable) {index : Nat}
    (hindex : index < subscribable.array.length) :
    subscribable.workingPositionCount =
      (subscribable.removePosition index).workingPositionCount +
        if subscribable.array[index].isWorking then 1 else 0 := by
  have hsplit : subscribable.array =
      subscribable.array.take index ++
        subscribable.array[index] :: subscribable.array.drop (index + 1) := by
    conv_lhs => rw [← List.take_append_drop index subscribable.array]
    rw [List.drop_eq_getElem_cons hindex]
  simp only [workingPositionCount, removePosition, List.eraseIdx_eq_take_drop_succ]
  conv_lhs => rw [hsplit]
  rw [List.countP_append, List.countP_append, List.countP_cons]
  omega

theorem mem_of_mem_removePosition {subscribable : Subscribable} {index : Nat}
    {position : TetherablePosition} (hmem : position ∈ (subscribable.removePosition index).array) :
    position ∈ subscribable.array :=
  List.mem_of_mem_eraseIdx hmem

/-- After a change of tether state, each position is an old one or the changed one. -/
theorem mem_setState {subscribable : Subscribable} {index : Nat} {state : TetherState}
    {position : TetherablePosition} (hmem : position ∈ (subscribable.setState index state).array) :
    position ∈ subscribable.array ∨
      ∃ hindex : index < subscribable.array.length,
        position = { subscribable.array[index] with state := state } := by
  obtain ⟨at_, hat, rfl⟩ := List.getElem_of_mem hmem
  simp only [setState, List.getElem_modify]
  have hlen : at_ < subscribable.array.length := by
    simpa [setState, List.length_modify] using hat
  split
  · exact .inr ⟨by omega, by subst index; rfl⟩
  · exact .inl (List.getElem_mem hlen)

end Subscribable

end Aeron
