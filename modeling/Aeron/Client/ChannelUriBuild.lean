/-
# Channel URI string builder: `build`

`build` writes `[prefix:]aeron:media?`, then `name=value|` for each parameter that is set,
in a fixed order, and drops the last character when it is `|` or `?`. The model keeps the
stream as its characters. A parameter's value is written in one of four ways
(`Rendering`): a string member as it is, a `Value` in decimal, a flag as `true` or `false`,
and the session id in decimal behind the tag prefix when the builder is tagged.

`build_eq` is the closed form every later proof uses: the header, then, when a parameter is
set, `?` and the parameters' `name=value` segments joined by `|`.

`build` dereferences `m_media` without a check; the model returns `none` when it is unset.
-/

import Aeron.Util.Decimal
import Aeron.Client.ChannelUriStringBuilder

namespace Aeron

/-- How `build` writes a parameter, and from which member. -/
inductive Rendering
  /-- `append` of a string member, or `sb << *m_member`. -/
  | text (member : StringField)
  /-- `append` of a `Value`: its decimal text. -/
  | number (member : ValueField)
  /-- `(m_member->value == 1 ? "true" : "false")`. -/
  | flag (member : ValueField)
  /-- `prefixTag(m_isSessionIdTagged, *m_sessionId)`. -/
  | taggedSessionId
  deriving DecidableEq, Repr

/-- The member behind each parameter, and how `build` writes it. -/
def Param.rendering : Param → Rendering
  | .tags => .text .mTags
  | .endpoint => .text .mEndpoint
  | .networkInterface => .text .mNetworkInterface
  | .controlEndpoint => .text .mControlEndpoint
  | .controlMode => .text .mControlMode
  | .mtu => .number .mMtu
  | .termLength => .number .mTermLength
  | .initialTermId => .number .mInitialTermId
  | .termId => .number .mTermId
  | .termOffset => .number .mTermOffset
  | .sessionId => .taggedSessionId
  | .ttl => .number .mTtl
  | .reliable => .flag .mReliable
  | .linger => .number .mLinger
  | .alias => .text .mAlias
  | .cc => .text .mCc
  | .fc => .text .mFc
  | .gtag => .number .mGtag
  | .sparse => .flag .mSparse
  | .eos => .flag .mEos
  | .tether => .flag .mTether
  | .group => .flag .mGroup
  | .rejoin => .flag .mRejoin
  | .ssc => .flag .mSsc
  | .socketSndbufLength => .number .mSocketSndbufLength
  | .socketRcvbufLength => .number .mSocketRcvbufLength
  | .receiverWindowLength => .number .mReceiverWindowLength
  | .mediaReceiveTimestampOffset => .text .mMediaReceiveTimestampOffset
  | .channelReceiveTimestampOffset => .text .mChannelReceiveTimestampOffset
  | .channelSendTimestampOffset => .text .mChannelSendTimestampOffset
  | .responseCorrelationId => .number .mResponseCorrelationId
  | .nakDelay => .number .mNakDelay
  | .untetheredWindowLimitTimeout => .number .mUntetheredWindowLimitTimeout
  | .untetheredRestingTimeout => .number .mUntetheredRestingTimeout
  | .maxResend => .number .mMaxResend

/-- The order in which `build` appends the parameters. -/
def buildOrder : List Param :=
  [.tags, .endpoint, .networkInterface, .controlEndpoint, .controlMode, .mtu, .termLength,
    .initialTermId, .termId, .termOffset, .sessionId, .ttl, .reliable, .linger, .alias, .cc, .fc,
    .gtag, .sparse, .eos, .tether, .group, .rejoin, .ssc, .socketSndbufLength,
    .socketRcvbufLength, .receiverWindowLength, .mediaReceiveTimestampOffset,
    .channelReceiveTimestampOffset, .channelSendTimestampOffset, .responseCorrelationId,
    .nakDelay, .untetheredWindowLimitTimeout, .untetheredRestingTimeout, .maxResend]

theorem mem_buildOrder (param : Param) : param ∈ buildOrder := by
  cases param <;> decide

namespace ChannelUriStringBuilder

variable (names : ChannelUri)

/-- The text of a flag `Value`. -/
def flagText (value : Int) : String := if value = 1 then "true" else "false"

/-- `prefixTag`. -/
def prefixTag (isTagged : Bool) (value : Int) : String :=
  if isTagged then names.tagPrefix ++ toString value else toString value

/-- The text `build` writes for a rendering, when its member is set. -/
def renderedValue (builder : ChannelUriStringBuilder) : Rendering → Option String
  | .text member => builder.strings member
  | .number member => (builder.values member).map toString
  | .flag member => (builder.values member).map flagText
  | .taggedSessionId =>
    (builder.values .mSessionId).map (prefixTag names builder.isSessionIdTagged)

/-- Both `append` overloads, and the blocks of `build` that write as they do:
`name=value|` when the member is set. -/
def append (sb : List Char) (name : String) : Option String → List Char
  | some value => sb ++ name.toList ++ '=' :: value.toList ++ ['|']
  | none => sb

/-- What `build` writes before the `?`: the prefix when it is set and not empty, the scheme
and the media. -/
def uriHeader (builder : ChannelUriStringBuilder) (media : String) : List Char :=
  (match builder.strings .mPrefix with
    | some pfx => if pfx.isEmpty then [] else pfx.toList ++ [':']
    | none => []) ++ names.aeronScheme.toList ++ ':' :: media.toList

/-- `result.pop_back()` when the last character is `|` or `?`. -/
def dropTrailingSeparator (result : List Char) : List Char :=
  if result.getLast? = some '|' ∨ result.getLast? = some '?' then result.dropLast else result

/-- `build`. -/
def build (builder : ChannelUriStringBuilder) : Option String := do
  let media ← builder.strings .mMedia
  let sb := buildOrder.foldl
    (fun sb param =>
      append sb (names.paramName param) (renderedValue names builder param.rendering))
    (uriHeader names builder media ++ ['?'])
  pure ⟨dropTrailingSeparator sb⟩

/-! ## The closed form -/

/-- The `name=value` segment `build` writes for a parameter, when it is set. -/
def segment (builder : ChannelUriStringBuilder) (param : Param) : Option (List Char) :=
  (renderedValue names builder param.rendering).map fun value =>
    (names.paramName param).toList ++ '=' :: value.toList

/-- The segments of the parameters that are set, in build order. -/
def segments (builder : ChannelUriStringBuilder) : List (List Char) :=
  buildOrder.filterMap (segment names builder)

/-- Appending parameters writes each set one's segment followed by `|`. -/
theorem foldl_append (builder : ChannelUriStringBuilder) (params : List Param)
    (sb : List Char) :
    params.foldl
        (fun sb param =>
          append sb (names.paramName param) (renderedValue names builder param.rendering)) sb =
      sb ++ ((params.filterMap (segment names builder)).map (· ++ ['|'])).flatten := by
  induction params generalizing sb with
  | nil => simp
  | cons param params ih =>
    rw [List.foldl_cons, ih, List.filterMap_cons, segment]
    cases renderedValue names builder param.rendering <;> simp [append]

/-- Segments each followed by a separator are the segments joined by it, and one more. -/
theorem flatten_map_append_singleton {segments : List (List Char)} (c : Char)
    (hsegments : segments ≠ []) :
    (segments.map (· ++ [c])).flatten = [c].intercalate segments ++ [c] := by
  induction segments with
  | nil => contradiction
  | cons first rest ih =>
    cases rest with
    | nil => simp [List.intercalate]
    | cons second rest =>
      rw [List.map_cons, List.flatten_cons, ih (List.cons_ne_nil _ _)]
      simp [List.intercalate, List.intersperse_cons_cons]

/-- `build` writes the header and, when a parameter is set, `?` and the segments joined by
`|`. -/
theorem build_eq (builder : ChannelUriStringBuilder) :
    build names builder = (builder.strings .mMedia).map fun media =>
      ⟨uriHeader names builder media ++
        if segments names builder = [] then [] else '?' :: ['|'].intercalate (segments names builder)⟩ := by
  unfold build
  cases builder.strings .mMedia with
  | none => rfl
  | some media =>
    show some _ = some _
    rw [foldl_append, ← segments, dropTrailingSeparator]
    by_cases hsegments : segments names builder = []
    · simp [hsegments]
    · rw [flatten_map_append_singleton '|' hsegments, if_neg hsegments,
        show ∀ head joined : List Char,
          head ++ ['?'] ++ (joined ++ ['|']) = (head ++ '?' :: joined) ++ ['|'] by simp,
        List.getLast?_concat, if_pos (.inl rfl), List.dropLast_concat]

end ChannelUriStringBuilder

end Aeron
