/-
# Channel URI string builder: the parameter map the calls edit

The spec reads the builder as a map from parameters to values that its calls edit: a
setter inserts its key and leaves the others, a validating setter that rejects its argument
throws and leaves the whole map, each `nullptr` overload erases its key, `initialPosition`
inserts four keys, and `clear` empties the map and the session-id tag flag. `Effect` is that
vocabulary, `BuilderOp.specEffect` the effect the spec gives each call, `BuilderOp.accepts`
the arguments each call accepts, and `SpecStep` the map model's step.

Each setter is a run of checks that throw before anything is written, followed by a reset
that always returns. So every call is guarded by its acceptance condition alone
(`BuilderOp.guarded_call`): when its arguments are accepted it returns having had its effect,
otherwise it throws and leaves the builder. Every call but one takes the spec's step
(`specStep_call`), every run of calls without it is a run of the map model
(`specRun_runAll`), and a call that throws changes nothing (`afterCall_of_threw`).
`rejoin(std::nullptr_t)` resets `m_reliable` where the spec erases `rejoin`
(`rejoinNull_resets_reliable`).
-/

import Aeron.Client.InitialPosition

namespace Aeron

/-- What the spec says a call does to the parameter map. -/
inductive Effect
  | insertString (member : StringField) (value : String)
  | eraseString (member : StringField)
  | insertValue (member : ValueField) (value : Int)
  | eraseValue (member : ValueField)
  | insertValues (entries : List (ValueField × Int))
  | setTagged (isTagged : Bool)
  | clear

/-- An effect on a builder's members. -/
def Effect.apply : Effect → ChannelUriStringBuilder → ChannelUriStringBuilder
  | .insertString member value, builder =>
    { builder with strings := Function.update builder.strings member (some value) }
  | .eraseString member, builder =>
    { builder with strings := Function.update builder.strings member none }
  | .insertValue member value, builder =>
    { builder with values := Function.update builder.values member (some value) }
  | .eraseValue member, builder =>
    { builder with values := Function.update builder.values member none }
  | .insertValues entries, builder =>
    { builder with
      values := entries.foldl (fun values entry => Function.update values entry.1 (some entry.2))
        builder.values }
  | .setTagged isTagged, builder => { builder with isSessionIdTagged := isTagged }
  | .clear, _ => ChannelUriStringBuilder.fresh

namespace BuilderOp

/-- The setters that check their argument and may throw. -/
def validates : BuilderOp → Bool
  | .prefixString _ | .media _ | .controlMode _ | .mtu _ | .termLength _ | .termOffset _
  | .linger _ | .initialPosition _ _ _ => true
  | _ => false

/-- Modelled from the spec: what a call does to the parameter map when it returns. -/
def specEffect : BuilderOp → Effect
  | .clear => .clear
  | .prefixString value => .insertString .mPrefix value
  | .prefixNull => .eraseString .mPrefix
  | .media value => .insertString .mMedia value
  | .endpoint value => .insertString .mEndpoint value
  | .networkInterface value => .insertString .mNetworkInterface value
  | .controlEndpoint value => .insertString .mControlEndpoint value
  | .controlMode value => .insertString .mControlMode value
  | .tags value => .insertString .mTags value
  | .aliasString value => .insertString .mAlias value
  | .congestionControl value => .insertString .mCc value
  | .flowControl value => .insertString .mFc value
  | .groupTag value => .insertValue .mGtag value
  | .reliable value => .insertValue .mReliable (if value then 1 else 0)
  | .reliableNull => .eraseValue .mReliable
  | .ttl value => .insertValue .mTtl value.toNat
  | .mtu value => .insertValue .mMtu value.toNat
  | .termLength value => .insertValue .mTermLength value
  | .initialTermId value => .insertValue .mInitialTermId value
  | .termId value => .insertValue .mTermId value
  | .termOffset value => .insertValue .mTermOffset value.toNat
  | .sessionId value => .insertValue .mSessionId value
  | .linger value => .insertValue .mLinger value
  | .sparse value => .insertValue .mSparse (if value then 1 else 0)
  | .eos value => .insertValue .mEos (if value then 1 else 0)
  | .tether value => .insertValue .mTether (if value then 1 else 0)
  | .group value => .insertValue .mGroup (if value then 1 else 0)
  | .rejoin value => .insertValue .mRejoin (if value then 1 else 0)
  | .rejoinNull => .eraseValue .mRejoin
  | .spiesSimulateConnection value => .insertValue .mSsc (if value then 1 else 0)
  | .spiesSimulateConnectionNull => .eraseValue .mSsc
  | .isSessionIdTagged value => .setTagged value
  | .socketSndbufLength value => .insertValue .mSocketSndbufLength value.toNat
  | .socketSndbufLengthNull => .eraseValue .mSocketSndbufLength
  | .socketRcvbufLength value => .insertValue .mSocketRcvbufLength value.toNat
  | .socketRcvbufLengthNull => .eraseValue .mSocketRcvbufLength
  | .receiverWindowLength value => .insertValue .mReceiverWindowLength value.toNat
  | .receiverWindowLengthNull => .eraseValue .mReceiverWindowLength
  | .initialPosition position firstTermId length =>
    .insertValues [(.mTermLength, length), (.mInitialTermId, firstTermId),
      (.mTermId, position / length + firstTermId), (.mTermOffset, position % length)]
  | .mediaReceiveTimestampOffset value => .insertString .mMediaReceiveTimestampOffset value
  | .channelReceiveTimestampOffset value => .insertString .mChannelReceiveTimestampOffset value
  | .channelSendTimestampOffset value => .insertString .mChannelSendTimestampOffset value
  | .responseCorrelationId value => .insertValue .mResponseCorrelationId value
  | .nakDelay value => .insertValue .mNakDelay value
  | .untetheredWindowLimitTimeout value => .insertValue .mUntetheredWindowLimitTimeout value
  | .untetheredRestingTimeout value => .insertValue .mUntetheredRestingTimeout value
  | .maxResend value => .insertValue .mMaxResend value

/-- Modelled from the checks of each validating setter: whether a call accepts its
arguments. The prefix is empty or the spy qualifier, the media UDP or IPC, the control mode
one of its three values, the MTU between 32 and 65504 and the term offset at most 1g, both
multiples of `FRAME_ALIGNMENT`, the term length one `checkTermLength` accepts, the linger
non-negative, and `initialPosition` checks its own (`initialPositionAccepts`). Every other
call accepts every argument. -/
def accepts (names : ChannelUri) : BuilderOp → Bool
  | .prefixString value => value.isEmpty || value == names.spyQualifier
  | .media value => value == names.udpMedia || value == names.ipcMedia
  | .controlMode value => value == names.mdcControlModeManual ||
      value == names.mdcControlModeDynamic || value == names.controlModeResponse
  | .mtu value => decide (32 ≤ value.toNat ∧ value.toNat ≤ 65504 ∧
      value.toNat % FrameDescriptor.frameAlignment = 0)
  | .termLength value => checkTermLength value
  | .termOffset value => decide ((value.toNat : Int) ≤ termMaxLength ∧
      value.toNat % FrameDescriptor.frameAlignment = 0)
  | .linger value => decide (0 ≤ value)
  | .initialPosition position _ length =>
    decide (ChannelUriStringBuilder.initialPositionAccepts position length)
  | _ => true

/-- What a call does when it returns: the spec's effect, but for `rejoin(std::nullptr_t)`,
which resets `m_reliable`. -/
def effect : BuilderOp → Effect
  | .rejoinNull => .eraseValue .mReliable
  | op => op.specEffect

theorem effect_of_ne_rejoinNull {op : BuilderOp} (hop : op ≠ .rejoinNull) :
    op.effect = op.specEffect := by
  cases op <;> first | rfl | exact absurd rfl hop

end BuilderOp

/-- The spec's account of one call: a call that accepts its arguments has its effect on the
map; a validating setter that rejects them throws and leaves the map as it was. -/
def SpecStep (names : ChannelUri) (builder : ChannelUriStringBuilder) (op : BuilderOp)
    (next : ChannelUriStringBuilder) : Prop :=
  next = if op.accepts names then op.specEffect.apply builder else builder

/-- A run of the map model: each call a spec step from where the previous one left. -/
inductive SpecRun (names : ChannelUri) :
    ChannelUriStringBuilder → List BuilderOp → ChannelUriStringBuilder → Prop
  | nil (builder : ChannelUriStringBuilder) : SpecRun names builder [] builder
  | cons {builder next final : ChannelUriStringBuilder} {op : BuilderOp} {ops : List BuilderOp} :
    SpecStep names builder op next → SpecRun names next ops final →
      SpecRun names builder (op :: ops) final

namespace ChannelUriStringBuilder

/-- A call that checks only its arguments: when `accepted` it returns having applied
`effect`, otherwise it throws and leaves the builder. -/
def Guarded (setter : Setter) (accepted : Bool) (effect : Effect) : Prop :=
  ∀ builder, threw setter builder = !accepted ∧
    afterCall setter builder = if accepted then effect.apply builder else builder

/-- A call that always returns, having applied `effect`. -/
theorem Guarded.of_returns {setter : Setter} {effect : Effect}
    (hreturns : ∀ builder, threw setter builder = false ∧
      afterCall setter builder = effect.apply builder) : Guarded setter true effect :=
  hreturns

theorem Guarded.of_accepted_eq {setter : Setter} {accepted other : Bool} {effect : Effect}
    (hguarded : Guarded setter accepted effect) (heq : accepted = other) :
    Guarded setter other effect :=
  heq ▸ hguarded

/-- A check in front of a guarded call guards it by the check as well. -/
theorem Guarded.throwIf_bind {rejected : Prop} [Decidable rejected]
    {exception : BuilderException} {rest : Setter} {accepted : Bool} {effect : Effect}
    (hrest : Guarded rest accepted effect) :
    Guarded (throwIf rejected exception >>= fun _ => rest) (!decide rejected && accepted)
      effect := by
  intro builder
  by_cases hrejected : rejected
  · simp [hrejected]
  · simpa [hrejected] using hrest builder

theorem guarded_initialPosition (position initialTermId termLength : Int) :
    Guarded (initialPosition position initialTermId termLength)
      (decide (initialPositionAccepts position termLength))
      (BuilderOp.initialPosition position initialTermId termLength).specEffect := by
  intro builder
  obtain ⟨hthrew, hafter⟩ := afterCall_initialPosition position initialTermId termLength builder
  refine ⟨hthrew, hafter.trans ?_⟩
  by_cases haccepts : initialPositionAccepts position termLength
  · rw [if_pos haccepts, decide_eq_true haccepts, if_pos rfl]; rfl
  · rw [if_neg haccepts, decide_eq_false haccepts, if_neg Bool.false_ne_true]

end ChannelUriStringBuilder

open ChannelUriStringBuilder

namespace BuilderOp

variable (names : ChannelUri)

/-- Every call is guarded by its acceptance condition alone. -/
theorem guarded_call (op : BuilderOp) :
    Guarded (op.call names) (op.accepts names) op.effect := by
  cases op
  case prefixString value =>
    refine (Guarded.throwIf_bind
      (Guarded.of_returns fun _ => by exact ⟨rfl, rfl⟩)).of_accepted_eq ?_
    show _ = (value.isEmpty || value == names.spyQualifier)
    by_cases hempty : value.isEmpty <;> by_cases hspy : value = names.spyQualifier <;>
      simp [hempty, hspy]
  case media value =>
    refine (Guarded.throwIf_bind
      (Guarded.of_returns fun _ => by exact ⟨rfl, rfl⟩)).of_accepted_eq ?_
    show _ = (value == names.udpMedia || value == names.ipcMedia)
    by_cases hudp : value = names.udpMedia <;> by_cases hipc : value = names.ipcMedia <;>
      simp [hudp, hipc]
  case controlMode value =>
    refine (Guarded.throwIf_bind
      (Guarded.of_returns fun _ => by exact ⟨rfl, rfl⟩)).of_accepted_eq ?_
    show _ = (value == names.mdcControlModeManual || value == names.mdcControlModeDynamic ||
      value == names.controlModeResponse)
    by_cases hmanual : value = names.mdcControlModeManual <;>
      by_cases hdynamic : value = names.mdcControlModeDynamic <;>
      by_cases hresponse : value = names.controlModeResponse <;>
      simp [hmanual, hdynamic, hresponse]
  case mtu value =>
    refine (Guarded.throwIf_bind (Guarded.throwIf_bind
      (Guarded.of_returns fun _ => by exact ⟨rfl, rfl⟩))).of_accepted_eq ?_
    show _ = decide (32 ≤ value.toNat ∧ value.toNat ≤ 65504 ∧
      value.toNat % FrameDescriptor.frameAlignment = 0)
    rw [and_frameAlignment_eq_mod, Bool.eq_iff_iff]
    simp only [FrameDescriptor.frameAlignment, Bool.and_true, Bool.and_eq_true,
      Bool.not_eq_true', decide_eq_false_iff_not, decide_eq_true_eq]
    omega
  case termLength value =>
    refine (Guarded.throwIf_bind
      (Guarded.of_returns fun _ => by exact ⟨rfl, rfl⟩)).of_accepted_eq ?_
    show _ = checkTermLength value
    cases checkTermLength value <;> rfl
  case termOffset value =>
    refine (Guarded.throwIf_bind (Guarded.throwIf_bind
      (Guarded.of_returns fun _ => by exact ⟨rfl, rfl⟩))).of_accepted_eq ?_
    show _ = decide ((value.toNat : Int) ≤ termMaxLength ∧
      value.toNat % FrameDescriptor.frameAlignment = 0)
    rw [and_frameAlignment_eq_mod, Bool.eq_iff_iff]
    simp only [FrameDescriptor.frameAlignment, termMaxLength, Bool.and_true, Bool.and_eq_true,
      Bool.not_eq_true', decide_eq_false_iff_not, decide_eq_true_eq]
    omega
  case linger value =>
    refine (Guarded.throwIf_bind
      (Guarded.of_returns fun _ => by exact ⟨rfl, rfl⟩)).of_accepted_eq ?_
    show _ = decide (0 ≤ value)
    rw [Bool.eq_iff_iff]
    simp
  case initialPosition position initialTermId termLength =>
    exact guarded_initialPosition position initialTermId termLength
  all_goals exact fun _ => ⟨rfl, rfl⟩

/-- A call that rejects its arguments is a validating setter. -/
theorem validates_of_accepts_eq_false {op : BuilderOp} (hrejected : op.accepts names = false) :
    op.validates = true := by
  cases op <;> first | rfl | cases hrejected

/-- Every call but `rejoin(std::nullptr_t)` takes a spec step. -/
theorem specStep_call {op : BuilderOp} (hop : op ≠ .rejoinNull)
    (builder : ChannelUriStringBuilder) :
    SpecStep names builder op (afterCall (op.call names) builder) := by
  rw [SpecStep, (guarded_call names op builder).2, effect_of_ne_rejoinNull hop]

/-- A call that throws is a validating setter, and leaves the builder as it was. -/
theorem afterCall_of_threw {op : BuilderOp} {builder : ChannelUriStringBuilder}
    (hthrew : threw (op.call names) builder = true) :
    op.validates = true ∧ afterCall (op.call names) builder = builder := by
  obtain ⟨hthrows, hafter⟩ := guarded_call names op builder
  have hrejected : op.accepts names = false := by simpa [hthrows] using hthrew
  refine ⟨validates_of_accepts_eq_false names hrejected, ?_⟩
  rw [hafter, hrejected]
  rfl

theorem afterCall_of_threw_tcp :
    threw (BuilderOp.media "tcp" |>.call ChannelUri.declared) fresh = true ∧
      (BuilderOp.media "tcp").validates = true ∧
      afterCall (BuilderOp.media "tcp" |>.call ChannelUri.declared) fresh = fresh :=
  have hthrew : threw (BuilderOp.media "tcp" |>.call ChannelUri.declared) fresh = true := by decide
  ⟨hthrew, afterCall_of_threw ChannelUri.declared hthrew⟩

/-- Every run of calls without `rejoin(std::nullptr_t)` is a run of the map model. -/
theorem specRun_runAll {ops : List BuilderOp} (hops : .rejoinNull ∉ ops)
    (builder : ChannelUriStringBuilder) :
    SpecRun names builder ops (runAll names ops builder) := by
  induction ops generalizing builder with
  | nil => exact .nil builder
  | cons op ops ih =>
    rw [List.mem_cons, not_or] at hops
    exact .cons (specStep_call names (Ne.symm hops.1) builder) (ih hops.2 _)

theorem specRun_runAll_udp :
    BuilderOp.rejoinNull ∉
        [.media "udp", .mtu 1408, .media "tcp", .rejoin true, .reliableNull] ∧
      SpecRun ChannelUri.declared fresh
        [.media "udp", .mtu 1408, .media "tcp", .rejoin true, .reliableNull]
        (runAll ChannelUri.declared
          [.media "udp", .mtu 1408, .media "tcp", .rejoin true, .reliableNull] fresh) :=
  have hops : BuilderOp.rejoinNull ∉
      [.media "udp", .mtu 1408, .media "tcp", .rejoin true, .reliableNull] := by simp
  ⟨hops, specRun_runAll ChannelUri.declared hops fresh⟩

end BuilderOp

open BuilderOp in
/-- `rejoin(std::nullptr_t)` after `media("udp")` and `rejoin(true)` leaves `rejoin=true` in
the URI, where every spec step leaves `aeron:udp`; after `reliable(true)` instead, it drops
`reliable=true`, which every spec step keeps. -/
theorem rejoinNull_resets_reliable :
    (build ChannelUri.declared
        (runAll ChannelUri.declared [.media "udp", .rejoin true, .rejoinNull] fresh) =
        some "aeron:udp?rejoin=true" ∧
      ∀ next, SpecStep ChannelUri.declared
        (runAll ChannelUri.declared [.media "udp", .rejoin true] fresh)
        .rejoinNull next → build ChannelUri.declared next = some "aeron:udp") ∧
    (build ChannelUri.declared
        (runAll ChannelUri.declared [.media "udp", .reliable true, .rejoinNull] fresh) =
        some "aeron:udp" ∧
      ∀ next, SpecStep ChannelUri.declared
        (runAll ChannelUri.declared [.media "udp", .reliable true] fresh)
        .rejoinNull next → build ChannelUri.declared next = some "aeron:udp?reliable=true") := by
  refine ⟨⟨by decide, ?_⟩, by decide, ?_⟩ <;> rintro next rfl <;> decide

end Aeron
