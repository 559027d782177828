/-
# Channel URI string builder: state and setters

`ChannelUriStringBuilder` holds one optional string or `Value` per channel parameter and a
session-id tag flag. Each setter replaces one member; the validating setters check their
argument first and throw before touching anything, and `initialPosition` checks both its
arguments before it sets four members.

A setter is a computation in `EStateM`, whose failure keeps the state it failed in, as an
exception leaves the C++ object behind: the model can tell a setter that throws after a
partial update from one that throws before any. `BuilderOp` lists every overload, so that
later modules can speak of every sequence of calls.

`ChannelUri.h` is not among the modelled sources: the names it declares are the parameter
`ChannelUri` of every definition, and `ChannelUri.declared` holds the values the header gives
them. `LogBufferDescriptor::checkTermLength` is modelled in
`Aeron.Concurrent.Logbuffer.LogBufferDescriptor`.
-/

import Aeron.Concurrent.Logbuffer.LogBufferDescriptor
import Aeron.Concurrent.Logbuffer.FrameDescriptor

namespace Aeron

/-- The builder's `std::string` members. -/
inductive StringField
  | mPrefix | mMedia | mEndpoint | mNetworkInterface | mControlEndpoint | mControlMode | mTags
  | mAlias | mCc | mFc | mMediaReceiveTimestampOffset | mChannelReceiveTimestampOffset
  | mChannelSendTimestampOffset
  deriving DecidableEq, Repr

/-- The builder's `Value` members. -/
inductive ValueField
  | mReliable | mTtl | mMtu | mTermLength | mInitialTermId | mTermId | mTermOffset | mSessionId
  | mGtag | mLinger | mSparse | mEos | mTether | mGroup | mRejoin | mSsc | mSocketSndbufLength
  | mSocketRcvbufLength | mReceiverWindowLength | mResponseCorrelationId | mNakDelay
  | mUntetheredWindowLimitTimeout | mUntetheredRestingTimeout | mMaxResend
  deriving DecidableEq, Repr

/-- The parameters `build` writes after the `?`, each named by a `*_PARAM_NAME` constant. -/
inductive Param
  | tags | endpoint | networkInterface | controlEndpoint | controlMode | mtu | termLength
  | initialTermId | termId | termOffset | sessionId | ttl | reliable | linger | alias | cc | fc
  | gtag | sparse | eos | tether | group | rejoin | ssc | socketSndbufLength | socketRcvbufLength
  | receiverWindowLength | mediaReceiveTimestampOffset | channelReceiveTimestampOffset
  | channelSendTimestampOffset | responseCorrelationId | nakDelay | untetheredWindowLimitTimeout
  | untetheredRestingTimeout | maxResend
  deriving DecidableEq, Repr

/-- The constants of `ChannelUri.h` the builder uses: the scheme, the values the `prefix`,
`media` and `controlMode` setters accept, the session-id tag prefix and each parameter's
name. -/
structure ChannelUri where
  aeronScheme : String
  spyQualifier : String
  udpMedia : String
  ipcMedia : String
  mdcControlModeManual : String
  mdcControlModeDynamic : String
  controlModeResponse : String
  tagPrefix : String
  paramName : Param → String

/-- The values `ChannelUri.h` gives these constants. -/
def ChannelUri.declared : ChannelUri where
  aeronScheme := "aeron"
  spyQualifier := "aeron-spy"
  udpMedia := "udp"
  ipcMedia := "ipc"
  mdcControlModeManual := "manual"
  mdcControlModeDynamic := "dynamic"
  controlModeResponse := "response"
  tagPrefix := "tag:"
  paramName := fun
    | .tags => "tags"
    | .endpoint => "endpoint"
    | .networkInterface => "interface"
    | .controlEndpoint => "control"
    | .controlMode => "control-mode"
    | .mtu => "mtu"
    | .termLength => "term-length"
    | .initialTermId => "init-term-id"
    | .termId => "term-id"
    | .termOffset => "term-offset"
    | .sessionId => "session-id"
    | .ttl => "ttl"
    | .reliable => "reliable"
    | .linger => "linger"
    | .alias => "alias"
    | .cc => "cc"
    | .fc => "fc"
    | .gtag => "gtag"
    | .sparse => "sparse"
    | .eos => "eos"
    | .tether => "tether"
    | .group => "group"
    | .rejoin => "rejoin"
    | .ssc => "ssc"
    | .socketSndbufLength => "so-sndbuf"
    | .socketRcvbufLength => "so-rcvbuf"
    | .receiverWindowLength => "rcv-wnd"
    | .mediaReceiveTimestampOffset => "media-rcv-ts-offset"
    | .channelReceiveTimestampOffset => "channel-rcv-ts-offset"
    | .channelSendTimestampOffset => "channel-snd-ts-offset"
    | .responseCorrelationId => "response-correlation-id"
    | .nakDelay => "nak-delay"
    | .untetheredWindowLimitTimeout => "untethered-window-limit-timeout"
    | .untetheredRestingTimeout => "untethered-resting-timeout"
    | .maxResend => "max-resend"

/-- What the builder's setters throw. -/
inductive BuilderException
  /-- `IllegalArgumentException`, with its message. -/
  | illegalArgument (message : String)
  /-- What `LogBufferDescriptor::checkTermLength` throws; its message is not modelled. -/
  | termLengthRejected (termLength : Int)
  deriving DecidableEq, Repr

/-- The members of a `ChannelUriStringBuilder`; `none` is a null pointer. -/
@[ext] structure ChannelUriStringBuilder where
  strings : StringField → Option String
  values : ValueField → Option Int
  isSessionIdTagged : Bool

namespace ChannelUriStringBuilder

/-- A default-constructed builder: every member null, the tag flag clear. -/
def fresh : ChannelUriStringBuilder := ⟨fun _ => none, fun _ => none, false⟩

/-- A call on the builder: it may throw, and the builder keeps the state it threw in. -/
abbrev Setter := EStateM BuilderException ChannelUriStringBuilder Unit

variable (names : ChannelUri)

/-- `m_field.reset(...)` on a string member. -/
def resetString (field : StringField) (value : Option String) : Setter :=
  modify fun builder => { builder with strings := Function.update builder.strings field value }

/-- `m_field.reset(...)` on a `Value` member. -/
def resetValue (field : ValueField) (value : Option Int) : Setter :=
  modify fun builder => { builder with values := Function.update builder.values field value }

/-- The shape of the flag setters: `m_field.reset(new Value(flag ? 1 : 0))`. -/
def setFlag (field : ValueField) (flag : Bool) : Setter :=
  resetValue field (some (if flag then 1 else 0))

/-- `if (rejected) throw exception;` -/
def throwIf (rejected : Prop) [Decidable rejected] (exception : BuilderException) : Setter :=
  if rejected then throw exception else pure ()

/-- `clear`: every member reset, the tag flag cleared. -/
def clear : Setter := set fresh

/-- `prefix(const std::string &)`. -/
def prefixString (value : String) : Setter := do
  throwIf (¬ value.isEmpty ∧ value ≠ names.spyQualifier)
    (.illegalArgument ("invalid prefix: " ++ value))
  resetString .mPrefix (some value)

/-- `prefix(std::nullptr_t)`. -/
def prefixNull : Setter := resetString .mPrefix none

/-- `media`. -/
def media (media : String) : Setter := do
  throwIf (media ≠ names.udpMedia ∧ media ≠ names.ipcMedia)
    (.illegalArgument ("invalid media: " ++ media))
  resetString .mMedia (some media)

/-- `endpoint`. -/
def endpoint (endpoint : String) : Setter := resetString .mEndpoint (some endpoint)

/-- `networkInterface`. -/
def networkInterface (networkInterface : String) : Setter :=
  resetString .mNetworkInterface (some networkInterface)

/-- `controlEndpoint`. -/
def controlEndpoint (controlEndpoint : String) : Setter :=
  resetString .mControlEndpoint (some controlEndpoint)

/-- `controlMode`. -/
def controlMode (controlMode : String) : Setter := do
  throwIf (controlMode ≠ names.mdcControlModeManual ∧ controlMode ≠ names.mdcControlModeDynamic ∧
      controlMode ≠ names.controlModeResponse)
    (.illegalArgument ("invalid control mode: " ++ controlMode))
  resetString .mControlMode (some controlMode)

/-- `tags`. -/
def tags (tags : String) : Setter := resetString .mTags (some tags)

/-- `alias`. -/
def aliasString (value : String) : Setter := resetString .mAlias (some value)

/-- `congestionControl`. -/
def congestionControl (congestionControl : String) : Setter :=
  resetString .mCc (some congestionControl)

/-- `flowControl`. -/
def flowControl (flowControl : String) : Setter := resetString .mFc (some flowControl)

/-- `groupTag`. -/
def groupTag (gtag : Int) : Setter := resetValue .mGtag (some gtag)

/-- `reliable(bool)`. -/
def reliable (reliable : Bool) : Setter := setFlag .mReliable reliable

/-- `reliable(std::nullptr_t)`. -/
def reliableNull : Setter := resetValue .mReliable none

/-- `ttl`. -/
def ttl (ttl : UInt8) : Setter := resetValue .mTtl (some ttl.toNat)

/-- `mtu`. -/
def mtu (mtu : UInt32) : Setter := do
  throwIf (mtu.toNat < 32 ∨ mtu.toNat > 65504)
    (.illegalArgument ("MTU not in range 32-65504: " ++ toString mtu))
  throwIf (mtu.toNat &&& (FrameDescriptor.frameAlignment - 1) ≠ 0)
    (.illegalArgument ("MTU not a multiple of FRAME_ALIGNMENT: mtu=" ++ toString mtu))
  resetValue .mMtu (some mtu.toNat)

/-- `termLength`. -/
def termLength (termLength : Int) : Setter := do
  throwIf (¬ checkTermLength termLength) (.termLengthRejected termLength)
  resetValue .mTermLength (some termLength)

/-- `initialTermId`. -/
def initialTermId (initialTermId : Int) : Setter := resetValue .mInitialTermId (some initialTermId)

/-- `termId`. -/
def termId (termId : Int) : Setter := resetValue .mTermId (some termId)

/-- `termOffset`. -/
def termOffset (termOffset : UInt32) : Setter := do
  throwIf ((termOffset.toNat : Int) > termMaxLength)
    (.illegalArgument ("term offset not in range 0-1g: " ++ toString termOffset))
  throwIf (termOffset.toNat &&& (FrameDescriptor.frameAlignment - 1) ≠ 0)
    (.illegalArgument ("term offset not multiple of FRAME_ALIGNMENT: " ++ toString termOffset))
  resetValue .mTermOffset (some termOffset.toNat)

/-- `sessionId`. -/
def sessionId (sessionId : Int) : Setter := resetValue .mSessionId (some sessionId)

/-- `linger`. -/
def linger (lingerNs : Int) : Setter := do
  throwIf (lingerNs < 0)
    (.illegalArgument ("linger value cannot be negative: " ++ toString lingerNs))
  resetValue .mLinger (some lingerNs)

/-- `sparse`. -/
def sparse (sparse : Bool) : Setter := setFlag .mSparse sparse

/-- `eos`. -/
def eos (eos : Bool) : Setter := setFlag .mEos eos

/-- `tether`. -/
def tether (tether : Bool) : Setter := setFlag .mTether tether

/-- `group`. -/
def group (group : Bool) : Setter := setFlag .mGroup group

/-- `rejoin(bool)`. -/
def rejoin (rejoin : Bool) : Setter := setFlag .mRejoin rejoin

/-- `rejoin(std::nullptr_t)`, which resets `m_reliable`. -/
def rejoinNull : Setter := resetValue .mReliable none

/-- `spiesSimulateConnection(bool)`. -/
def spiesSimulateConnection (spiesSimulateConnection : Bool) : Setter :=
  setFlag .mSsc spiesSimulateConnection

/-- `spiesSimulateConnection(std::nullptr_t)`. -/
def spiesSimulateConnectionNull : Setter := resetValue .mSsc none

/-- `isSessionIdTagged`. -/
def isSessionIdTaggedSet (isSessionIdTagged : Bool) : Setter :=
  modify fun builder => { builder with isSessionIdTagged := isSessionIdTagged }

/-- `socketSndbufLength(std::uint32_t)`. -/
def socketSndbufLength (socketSndbufLength : UInt32) : Setter :=
  resetValue .mSocketSndbufLength (some socketSndbufLength.toNat)

/-- `socketSndbufLength(std::nullptr_t)`. -/
def socketSndbufLengthNull : Setter := resetValue .mSocketSndbufLength none

/-- `socketRcvbufLength(std::uint32_t)`. -/
def socketRcvbufLength (socketRcvbufLength : UInt32) : Setter :=
  resetValue .mSocketRcvbufLength (some socketRcvbufLength.toNat)

/-- `socketRcvbufLength(std::nullptr_t)`. -/
def socketRcvbufLengthNull : Setter := resetValue .mSocketRcvbufLength none

/-- `receiverWindowLength(std::uint32_t)`. -/
def receiverWindowLength (receiverWindowLength : UInt32) : Setter :=
  resetValue .mReceiverWindowLength (some receiverWindowLength.toNat)

/-- `receiverWindowLength(std::nullptr_t)`. -/
def receiverWindowLengthNull : Setter := resetValue .mReceiverWindowLength none

/-- `initialPosition`. The position is non-negative once the first check has passed, and an
accepted term length is positive, so the masks are taken on naturals. -/
def initialPosition (position initialTermId termLength : Int) : Setter := do
  throwIf (position < 0 ∨ position.toNat &&& (FrameDescriptor.frameAlignment - 1) ≠ 0)
    (.illegalArgument ("position not multiple of FRAME_ALIGNMENT: " ++ toString position))
  throwIf (¬ checkTermLength termLength) (.termLengthRejected termLength)
  let bitsToShift := numberOfTrailingZeroes termLength
  resetValue .mTermLength (some termLength)
  resetValue .mInitialTermId (some initialTermId)
  resetValue .mTermId (some ((position >>> bitsToShift) + initialTermId))
  resetValue .mTermOffset (some (position.toNat &&& (termLength.toNat - 1) : Nat))

/-- `mediaReceiveTimestampOffset`. -/
def mediaReceiveTimestampOffset (mediaReceiveTimestampOffset : String) : Setter :=
  resetString .mMediaReceiveTimestampOffset (some mediaReceiveTimestampOffset)

/-- `channelReceiveTimestampOffset`. -/
def channelReceiveTimestampOffset (receiveTimestampOffset : String) : Setter :=
  resetString .mChannelReceiveTimestampOffset (some receiveTimestampOffset)

/-- `channelSendTimestampOffset`. -/
def channelSendTimestampOffset (sendTimestampOffset : String) : Setter :=
  resetString .mChannelSendTimestampOffset (some sendTimestampOffset)

/-- `responseCorrelationId`. -/
def responseCorrelationId (responseCorrelationId : Int) : Setter :=
  resetValue .mResponseCorrelationId (some responseCorrelationId)

/-- `nakDelay`. -/
def nakDelay (nakDelay : Int) : Setter := resetValue .mNakDelay (some nakDelay)

/-- `untetheredWindowLimitTimeout`. -/
def untetheredWindowLimitTimeout (timeout : Int) : Setter :=
  resetValue .mUntetheredWindowLimitTimeout (some timeout)

/-- `untetheredRestingTimeout`. -/
def untetheredRestingTimeout (timeout : Int) : Setter :=
  resetValue .mUntetheredRestingTimeout (some timeout)

/-- `maxResend`. -/
def maxResend (maxResend : Int) : Setter := resetValue .mMaxResend (some maxResend)

/-- The builder after a call, whether or not the call threw. -/
def afterCall (setter : Setter) (builder : ChannelUriStringBuilder) : ChannelUriStringBuilder :=
  match setter.run builder with
  | .ok _ after => after
  | .error _ after => after

/-- Whether a call threw. -/
def threw (setter : Setter) (builder : ChannelUriStringBuilder) : Bool :=
  match setter.run builder with
  | .ok _ _ => false
  | .error _ _ => true

@[simp] theorem afterCall_resetString (field : StringField) (value : Option String)
    (builder : ChannelUriStringBuilder) :
    afterCall (resetString field value) builder =
      { builder with strings := Function.update builder.strings field value } := rfl

@[simp] theorem afterCall_resetValue (field : ValueField) (value : Option Int)
    (builder : ChannelUriStringBuilder) :
    afterCall (resetValue field value) builder =
      { builder with values := Function.update builder.values field value } := rfl

@[simp] theorem threw_resetString (field : StringField) (value : Option String)
    (builder : ChannelUriStringBuilder) : threw (resetString field value) builder = false := rfl

@[simp] theorem threw_resetValue (field : ValueField) (value : Option Int)
    (builder : ChannelUriStringBuilder) : threw (resetValue field value) builder = false := rfl

@[simp] theorem afterCall_resetValue_bind (field : ValueField) (value : Option Int)
    (rest : Unit → Setter) (builder : ChannelUriStringBuilder) :
    afterCall (resetValue field value >>= rest) builder =
      afterCall (rest ()) { builder with values := Function.update builder.values field value } :=
  rfl

@[simp] theorem threw_resetValue_bind (field : ValueField) (value : Option Int)
    (rest : Unit → Setter) (builder : ChannelUriStringBuilder) :
    threw (resetValue field value >>= rest) builder =
      threw (rest ()) { builder with values := Function.update builder.values field value } :=
  rfl

/-- A check throws, keeping the builder, or passes on to the rest of the call. -/
@[simp] theorem afterCall_throwIf_bind {rejected : Prop} [Decidable rejected]
    (exception : BuilderException) (rest : Unit → Setter) (builder : ChannelUriStringBuilder) :
    afterCall (throwIf rejected exception >>= rest) builder =
      if rejected then builder else afterCall (rest ()) builder := by
  unfold throwIf; split <;> rfl

@[simp] theorem threw_throwIf_bind {rejected : Prop} [Decidable rejected]
    (exception : BuilderException) (rest : Unit → Setter) (builder : ChannelUriStringBuilder) :
    threw (throwIf rejected exception >>= rest) builder =
      (decide rejected || threw (rest ()) builder) := by
  unfold throwIf
  by_cases hrejected : rejected
  · rw [if_pos hrejected, decide_eq_true hrejected]; rfl
  · rw [if_neg hrejected, decide_eq_false hrejected]; rfl

end ChannelUriStringBuilder

/-- Every call a builder takes: each setter overload, `initialPosition` and `clear`. -/
inductive BuilderOp
  | clear
  | prefixString (value : String)
  | prefixNull
  | media (value : String)
  | endpoint (value : String)
  | networkInterface (value : String)
  | controlEndpoint (value : String)
  | controlMode (value : String)
  | tags (value : String)
  | aliasString (value : String)
  | congestionControl (value : String)
  | flowControl (value : String)
  | groupTag (value : Int)
  | reliable (value : Bool)
  | reliableNull
  | ttl (value : UInt8)
  | mtu (value : UInt32)
  | termLength (value : Int)
  | initialTermId (value : Int)
  | termId (value : Int)
  | termOffset (value : UInt32)
  | sessionId (value : Int)
  | linger (value : Int)
  | sparse (value : Bool)
  | eos (value : Bool)
  | tether (value : Bool)
  | group (value : Bool)
  | rejoin (value : Bool)
  | rejoinNull
  | spiesSimulateConnection (value : Bool)
  | spiesSimulateConnectionNull
  | isSessionIdTagged (value : Bool)
  | socketSndbufLength (value : UInt32)
  | socketSndbufLengthNull
  | socketRcvbufLength (value : UInt32)
  | socketRcvbufLengthNull
  | receiverWindowLength (value : UInt32)
  | receiverWindowLengthNull
  | initialPosition (position initialTermId termLength : Int)
  | mediaReceiveTimestampOffset (value : String)
  | channelReceiveTimestampOffset (value : String)
  | channelSendTimestampOffset (value : String)
  | responseCorrelationId (value : Int)
  | nakDelay (value : Int)
  | untetheredWindowLimitTimeout (value : Int)
  | untetheredRestingTimeout (value : Int)
  | maxResend (value : Int)

namespace BuilderOp

/-- The member function an operation calls. -/
def call (names : ChannelUri) : BuilderOp → ChannelUriStringBuilder.Setter
  | .clear => ChannelUriStringBuilder.clear
  | .prefixString value => ChannelUriStringBuilder.prefixString names value
  | .prefixNull => ChannelUriStringBuilder.prefixNull
  | .media value => ChannelUriStringBuilder.media names value
  | .endpoint value => ChannelUriStringBuilder.endpoint value
  | .networkInterface value => ChannelUriStringBuilder.networkInterface value
  | .controlEndpoint value => ChannelUriStringBuilder.controlEndpoint value
  | .controlMode value => ChannelUriStringBuilder.controlMode names value
  | .tags value => ChannelUriStringBuilder.tags value
  | .aliasString value => ChannelUriStringBuilder.aliasString value
  | .congestionControl value => ChannelUriStringBuilder.congestionControl value
  | .flowControl value => ChannelUriStringBuilder.flowControl value
  | .groupTag value => ChannelUriStringBuilder.groupTag value
  | .reliable value => ChannelUriStringBuilder.reliable value
  | .reliableNull => ChannelUriStringBuilder.reliableNull
  | .ttl value => ChannelUriStringBuilder.ttl value
  | .mtu value => ChannelUriStringBuilder.mtu value
  | .termLength value => ChannelUriStringBuilder.termLength value
  | .initialTermId value => ChannelUriStringBuilder.initialTermId value
  | .termId value => ChannelUriStringBuilder.termId value
  | .termOffset value => ChannelUriStringBuilder.termOffset value
  | .sessionId value => ChannelUriStringBuilder.sessionId value
  | .linger value => ChannelUriStringBuilder.linger value
  | .sparse value => ChannelUriStringBuilder.sparse value
  | .eos value => ChannelUriStringBuilder.eos value
  | .tether value => ChannelUriStringBuilder.tether value
  | .group value => ChannelUriStringBuilder.group value
  | .rejoin value => ChannelUriStringBuilder.rejoin value
  | .rejoinNull => ChannelUriStringBuilder.rejoinNull
  | .spiesSimulateConnection value => ChannelUriStringBuilder.spiesSimulateConnection value
  | .spiesSimulateConnectionNull => ChannelUriStringBuilder.spiesSimulateConnectionNull
  | .isSessionIdTagged value => ChannelUriStringBuilder.isSessionIdTaggedSet value
  | .socketSndbufLength value => ChannelUriStringBuilder.socketSndbufLength value
  | .socketSndbufLengthNull => ChannelUriStringBuilder.socketSndbufLengthNull
  | .socketRcvbufLength value => ChannelUriStringBuilder.socketRcvbufLength value
  | .socketRcvbufLengthNull => ChannelUriStringBuilder.socketRcvbufLengthNull
  | .receiverWindowLength value => ChannelUriStringBuilder.receiverWindowLength value
  | .receiverWindowLengthNull => ChannelUriStringBuilder.receiverWindowLengthNull
  | .initialPosition position firstTermId length =>
    ChannelUriStringBuilder.initialPosition position firstTermId length
  | .mediaReceiveTimestampOffset value => ChannelUriStringBuilder.mediaReceiveTimestampOffset value
  | .channelReceiveTimestampOffset value =>
    ChannelUriStringBuilder.channelReceiveTimestampOffset value
  | .channelSendTimestampOffset value => ChannelUriStringBuilder.channelSendTimestampOffset value
  | .responseCorrelationId value => ChannelUriStringBuilder.responseCorrelationId value
  | .nakDelay value => ChannelUriStringBuilder.nakDelay value
  | .untetheredWindowLimitTimeout value =>
    ChannelUriStringBuilder.untetheredWindowLimitTimeout value
  | .untetheredRestingTimeout value => ChannelUriStringBuilder.untetheredRestingTimeout value
  | .maxResend value => ChannelUriStringBuilder.maxResend value

/-- The builder after a sequence of calls, each made on what the previous one left. -/
def runAll (names : ChannelUri) (ops : List BuilderOp) (builder : ChannelUriStringBuilder) :
    ChannelUriStringBuilder :=
  ops.foldl (fun current op => ChannelUriStringBuilder.afterCall (op.call names) current) builder

end BuilderOp

end Aeron
