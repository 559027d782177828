/-
# Channel URI string builder: what the checked members can hold

Seven members are written by setters that check their argument first: the prefix, the
media, the control mode, the MTU, the term length, the term offset and the linger.
`initialPosition` writes two of them, the term length and the term offset, without going
through their setters. Over every run of calls from a fresh builder each of the seven holds
only a value its own setter accepts, so that setting it again neither throws nor changes the
builder (`resets_runAll`). For the term offset `initialPosition` stores this rests on
arithmetic: `position % termLength` of an aligned position and an accepted term length is
aligned and below the longest term.

The invariant is stated on the arguments alone (`SettersAccept`): whether a call throws does
not depend on the builder it is made on (`BuilderOp.threw_call_eq`).
-/

import Aeron.Client.CallAlgebra

namespace Aeron

namespace ChannelUriStringBuilder

variable (names : ChannelUri)

/-- Each member a checking setter writes holds a value that setter accepts. -/
structure SettersAccept (builder : ChannelUriStringBuilder) : Prop where
  mPrefix_accepted : ∀ value, builder.strings .mPrefix = some value →
    threw (prefixString names value) fresh = false
  mMedia_accepted : ∀ value, builder.strings .mMedia = some value →
    threw (media names value) fresh = false
  mControlMode_accepted : ∀ value, builder.strings .mControlMode = some value →
    threw (controlMode names value) fresh = false
  mMtu_accepted : ∀ value, builder.values .mMtu = some value →
    ∃ mtu : UInt32, (mtu.toNat : Int) = value ∧
      threw (ChannelUriStringBuilder.mtu mtu) fresh = false
  mTermLength_accepted : ∀ value, builder.values .mTermLength = some value →
    threw (termLength value) fresh = false
  mTermOffset_accepted : ∀ value, builder.values .mTermOffset = some value →
    ∃ offset : UInt32, (offset.toNat : Int) = value ∧ threw (termOffset offset) fresh = false
  mLinger_accepted : ∀ value, builder.values .mLinger = some value →
    threw (linger value) fresh = false

/-- The members the checking setters write. -/
def checkedMembers : List Member :=
  [.string .mPrefix, .string .mMedia, .string .mControlMode, .value .mMtu, .value .mTermLength,
    .value .mTermOffset, .value .mLinger]

theorem settersAccept_fresh : SettersAccept names fresh :=
  ⟨nofun, nofun, nofun, nofun, nofun, nofun, nofun⟩

variable {names}

/-- Applied to any builder that keeps the invariant, an effect keeps it when what it writes
keeps it on a fresh builder: written members do not depend on the builder, the others are
left. -/
theorem SettersAccept.apply {builder : ChannelUriStringBuilder}
    (hbuilder : SettersAccept names builder) {effect : Effect}
    (hwritten : SettersAccept names (effect.apply fresh)) :
    SettersAccept names (effect.apply builder) := by
  have hstring : ∀ member, (effect.apply builder).strings member = builder.strings member ∨
      (effect.apply builder).strings member = (effect.apply fresh).strings member := fun member =>
    (em (.string member ∈ effect.writes)).symm.imp (Effect.strings_apply_of_not_mem · builder)
      (Effect.strings_apply_of_mem · builder fresh)
  have hvalue : ∀ member, (effect.apply builder).values member = builder.values member ∨
      (effect.apply builder).values member = (effect.apply fresh).values member := fun member =>
    (em (.value member ∈ effect.writes)).symm.imp (Effect.values_apply_of_not_mem · builder)
      (Effect.values_apply_of_mem · builder fresh)
  constructor <;> intro value hstored
  · rcases hstring .mPrefix with h | h <;> rw [h] at hstored
    exacts [hbuilder.1 value hstored, hwritten.1 value hstored]
  · rcases hstring .mMedia with h | h <;> rw [h] at hstored
    exacts [hbuilder.2 value hstored, hwritten.2 value hstored]
  · rcases hstring .mControlMode with h | h <;> rw [h] at hstored
    exacts [hbuilder.3 value hstored, hwritten.3 value hstored]
  · rcases hvalue .mMtu with h | h <;> rw [h] at hstored
    exacts [hbuilder.4 value hstored, hwritten.4 value hstored]
  · rcases hvalue .mTermLength with h | h <;> rw [h] at hstored
    exacts [hbuilder.5 value hstored, hwritten.5 value hstored]
  · rcases hvalue .mTermOffset with h | h <;> rw [h] at hstored
    exacts [hbuilder.6 value hstored, hwritten.6 value hstored]
  · rcases hvalue .mLinger with h | h <;> rw [h] at hstored
    exacts [hbuilder.7 value hstored, hwritten.7 value hstored]

/-- An effect that writes none of the checked members keeps the invariant. -/
theorem SettersAccept.of_frame {builder : ChannelUriStringBuilder}
    (hbuilder : SettersAccept names builder) {effect : Effect}
    (hframe : checkedMembers.all (fun member => member ∉ effect.writes) = true) :
    SettersAccept names (effect.apply builder) := by
  simp only [checkedMembers, List.all_cons, List.all_nil, Bool.and_true, Bool.and_eq_true,
    decide_eq_true_eq] at hframe
  obtain ⟨hprefixField, hmedia, hmode, hmtu, hlength, hoffset, hlinger⟩ := hframe
  refine ⟨fun value hstored => hbuilder.1 value ?_, fun value hstored => hbuilder.2 value ?_,
    fun value hstored => hbuilder.3 value ?_, fun value hstored => hbuilder.4 value ?_,
    fun value hstored => hbuilder.5 value ?_, fun value hstored => hbuilder.6 value ?_,
    fun value hstored => hbuilder.7 value ?_⟩
  · rwa [Effect.strings_apply_of_not_mem hprefixField] at hstored
  · rwa [Effect.strings_apply_of_not_mem hmedia] at hstored
  · rwa [Effect.strings_apply_of_not_mem hmode] at hstored
  · rwa [Effect.values_apply_of_not_mem hmtu] at hstored
  · rwa [Effect.values_apply_of_not_mem hlength] at hstored
  · rwa [Effect.values_apply_of_not_mem hoffset] at hstored
  · rwa [Effect.values_apply_of_not_mem hlinger] at hstored

variable (names)

/-- What an accepted call writes into a fresh builder keeps the invariant. -/
theorem settersAccept_effect_fresh (op : BuilderOp)
    (haccepted : threw (op.call names) fresh = false) :
    SettersAccept names (op.effect.apply fresh) := by
  cases op
  case prefixString value =>
    exact ⟨fun _ hstored => Option.some.inj hstored ▸ haccepted, nofun, nofun, nofun, nofun,
      nofun, nofun⟩
  case media value =>
    exact ⟨nofun, fun _ hstored => Option.some.inj hstored ▸ haccepted, nofun, nofun, nofun,
      nofun, nofun⟩
  case controlMode value =>
    exact ⟨nofun, nofun, fun _ hstored => Option.some.inj hstored ▸ haccepted, nofun, nofun,
      nofun, nofun⟩
  case mtu value =>
    exact ⟨nofun, nofun, nofun,
      fun stored hstored => ⟨value, Option.some.inj hstored, haccepted⟩, nofun, nofun, nofun⟩
  case termLength value =>
    exact ⟨nofun, nofun, nofun, nofun, fun _ hstored => Option.some.inj hstored ▸ haccepted,
      nofun, nofun⟩
  case termOffset value =>
    exact ⟨nofun, nofun, nofun, nofun, nofun,
      fun stored hstored => ⟨value, Option.some.inj hstored, haccepted⟩, nofun⟩
  case linger value =>
    exact ⟨nofun, nofun, nofun, nofun, nofun, nofun,
      fun _ hstored => Option.some.inj hstored ▸ haccepted⟩
  case initialPosition position initialTermId length =>
    have haccepts : initialPositionAccepts position length := by
      have hthrew := (afterCall_initialPosition position initialTermId length fresh).1
      rw [show threw (initialPosition position initialTermId length) fresh = false from haccepted,
        eq_comm, Bool.not_eq_false', decide_eq_true_eq] at hthrew
      exact hthrew
    obtain ⟨⟨hnonneg, hbelow⟩, haligned⟩ := offset_of_initialPositionAccepts haccepts
    have hle : length ≤ 2 ^ 30 :=
      (TermGeometry.ofCheckedTermLength length haccepts.2.2).termLength_le
    refine ⟨nofun, nofun, nofun, nofun, fun stored hstored => ?_, fun stored hstored => ?_,
      nofun⟩
    · obtain rfl := Option.some.inj hstored
      show threw (termLength length) fresh = false
      simp only [termLength, threw_throwIf_bind, threw_resetValue, haccepts.2.2, not_true_eq_false,
        decide_False, Bool.or_false]
    · obtain rfl := Option.some.inj hstored
      refine ⟨UInt32.ofNat (position % length).toNat, ?_,
        (termOffset_of_aligned (by unfold termMaxLength; omega) haligned fresh).1⟩
      rw [UInt32.toNat_ofNat_of_lt (by unfold UInt32.size; omega), Int.toNat_of_nonneg hnonneg]
  case prefixNull => exact ⟨nofun, nofun, nofun, nofun, nofun, nofun, nofun⟩
  case clear => exact settersAccept_fresh names
  all_goals exact (settersAccept_fresh names).of_frame rfl

/-- Every call keeps the invariant. -/
theorem SettersAccept.afterCall {builder : ChannelUriStringBuilder}
    (hbuilder : SettersAccept names builder) (op : BuilderOp) :
    SettersAccept names (afterCall (op.call names) builder) := by
  have hguarded := BuilderOp.guarded_call names op
  rw [(hguarded builder).2]
  cases haccepts : op.accepts names
  · exact hbuilder
  · exact hbuilder.apply
      (settersAccept_effect_fresh names op (by rw [(hguarded fresh).1, haccepts]; rfl))

theorem settersAccept_runAll (ops : List BuilderOp) :
    SettersAccept names (BuilderOp.runAll names ops fresh) := by
  suffices ∀ builder, SettersAccept names builder →
      SettersAccept names (BuilderOp.runAll names ops builder) from
    this fresh (settersAccept_fresh names)
  induction ops with
  | nil => exact fun _ hbuilder => hbuilder
  | cons op ops ih => exact fun builder hbuilder => ih _ (hbuilder.afterCall names op)

/-! ## Setting a stored value again -/

/-- A call that returns and leaves the builder as it was. -/
def Resets (setter : Setter) (builder : ChannelUriStringBuilder) : Prop :=
  threw setter builder = false ∧ afterCall setter builder = builder

/-- An accepted call whose effect the builder already shows resets it. -/
theorem resets_call (op : BuilderOp) (haccepted : threw (op.call names) fresh = false)
    {builder : ChannelUriStringBuilder} (hshown : op.effect.apply builder = builder) :
    Resets (op.call names) builder := by
  have hguarded := BuilderOp.guarded_call names op
  have haccepts : op.accepts names = true := by simpa [(hguarded fresh).1] using haccepted
  rw [Resets, (hguarded builder).1, (hguarded builder).2, haccepts, if_pos rfl, hshown]
  exact ⟨rfl, rfl⟩

theorem Effect.apply_insertString_of_eq {builder : ChannelUriStringBuilder} {member : StringField}
    {value : String} (hstored : builder.strings member = some value) :
    (Effect.insertString member value).apply builder = builder := by
  show { builder with strings := Function.update builder.strings member (some value) } = builder
  rw [← hstored, Function.update_eq_self]

theorem Effect.apply_insertValue_of_eq {builder : ChannelUriStringBuilder} {member : ValueField}
    {value : Int} (hstored : builder.values member = some value) :
    (Effect.insertValue member value).apply builder = builder := by
  show { builder with values := Function.update builder.values member (some value) } = builder
  rw [← hstored, Function.update_eq_self]

/-- Over every run of calls from a fresh builder, each member that a checking setter writes
holds only a value that setter accepts: setting it again neither throws nor changes the
builder. This covers the term length and the term offset that `initialPosition` stores. -/
theorem resets_runAll (ops : List BuilderOp) :
    let builder := BuilderOp.runAll names ops fresh
    (∀ value, builder.strings .mPrefix = some value →
      Resets (prefixString names value) builder) ∧
    (∀ value, builder.strings .mMedia = some value → Resets (media names value) builder) ∧
    (∀ value, builder.strings .mControlMode = some value →
      Resets (controlMode names value) builder) ∧
    (∀ value, builder.values .mMtu = some value →
      ∃ mtu : UInt32, (mtu.toNat : Int) = value ∧
        Resets (ChannelUriStringBuilder.mtu mtu) builder) ∧
    (∀ value, builder.values .mTermLength = some value → Resets (termLength value) builder) ∧
    (∀ value, builder.values .mTermOffset = some value →
      ∃ offset : UInt32, (offset.toNat : Int) = value ∧ Resets (termOffset offset) builder) ∧
    (∀ value, builder.values .mLinger = some value → Resets (linger value) builder) := by
  intro builder
  have hbuilder := settersAccept_runAll names ops
  refine ⟨fun value hstored => ?_, fun value hstored => ?_, fun value hstored => ?_,
    fun value hstored => ?_, fun value hstored => ?_, fun value hstored => ?_,
    fun value hstored => ?_⟩
  · exact resets_call names (.prefixString value) (hbuilder.1 value hstored)
      (Effect.apply_insertString_of_eq hstored)
  · exact resets_call names (.media value) (hbuilder.2 value hstored)
      (Effect.apply_insertString_of_eq hstored)
  · exact resets_call names (.controlMode value) (hbuilder.3 value hstored)
      (Effect.apply_insertString_of_eq hstored)
  · obtain ⟨mtu, rfl, haccepted⟩ := hbuilder.4 value hstored
    exact ⟨mtu, rfl, resets_call names (.mtu mtu) haccepted
      (Effect.apply_insertValue_of_eq hstored)⟩
  · exact resets_call names (.termLength value) (hbuilder.5 value hstored)
      (Effect.apply_insertValue_of_eq hstored)
  · obtain ⟨offset, rfl, haccepted⟩ := hbuilder.6 value hstored
    exact ⟨offset, rfl, resets_call names (.termOffset offset) haccepted
      (Effect.apply_insertValue_of_eq hstored)⟩
  · exact resets_call names (.linger value) (hbuilder.7 value hstored)
      (Effect.apply_insertValue_of_eq hstored)

/-- After `media("udp")` and `mtu(1408)` both stored values reset the builder. -/
theorem resets_runAll_udp_mtu :
    (BuilderOp.runAll ChannelUri.declared [.media "udp", .mtu 1408] fresh).strings .mMedia =
        some "udp" ∧
      Resets (media ChannelUri.declared "udp")
        (BuilderOp.runAll ChannelUri.declared [.media "udp", .mtu 1408] fresh) ∧
      (BuilderOp.runAll ChannelUri.declared [.media "udp", .mtu 1408] fresh).values .mMtu =
        some 1408 ∧
      ∃ mtu : UInt32, (mtu.toNat : Int) = 1408 ∧ Resets (ChannelUriStringBuilder.mtu mtu)
        (BuilderOp.runAll ChannelUri.declared [.media "udp", .mtu 1408] fresh) :=
  have hmedia : (BuilderOp.runAll ChannelUri.declared [.media "udp", .mtu 1408] fresh).strings
      .mMedia = some "udp" := by decide
  have hmtu : (BuilderOp.runAll ChannelUri.declared [.media "udp", .mtu 1408] fresh).values
      .mMtu = some 1408 := by decide
  ⟨hmedia, (resets_runAll ChannelUri.declared [.media "udp", .mtu 1408]).2.1 _ hmedia, hmtu,
    (resets_runAll ChannelUri.declared [.media "udp", .mtu 1408]).2.2.2.1 _ hmtu⟩

end ChannelUriStringBuilder

end Aeron
