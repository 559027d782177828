/-
# Channel URI string builder: reading a built URI back

`readBack` reads the text `build` writes: the header up to the first `?`, split at `:` into
the prefix, the scheme and the media, and the rest split at `|` into `name=value` entries,
each value read as its parameter's rendering writes it.

Every builder reachable by calls is `Valid`: its prefix and media are among those the
setters accept and its flags are 0 or 1 (`valid_runAll`). For such a builder whose string
members hold no `|`, and for names that keep the separators apart (`ChannelUri.WellFormed`),
`readBack` returns the builder's parameters (`readBack_build`); so `build` is injective
there (`build_injective`). Without the `|` condition it is not: `build` writes string
values raw, so an endpoint holding `|interface=y` reads as a separate interface
(`build_collides_on_separator`).
-/

import Mathlib.Data.String.Basic
import Mathlib.Data.List.Basic
import Aeron.Client.ParameterMap

namespace Aeron

/-- The parameter `build` writes a string member under; the prefix and the media go in the
header. -/
def StringField.renderedAs : StringField → Option Param
  | .mPrefix | .mMedia => none
  | .mEndpoint => some .endpoint
  | .mNetworkInterface => some .networkInterface
  | .mControlEndpoint => some .controlEndpoint
  | .mControlMode => some .controlMode
  | .mTags => some .tags
  | .mAlias => some .alias
  | .mCc => some .cc
  | .mFc => some .fc
  | .mMediaReceiveTimestampOffset => some .mediaReceiveTimestampOffset
  | .mChannelReceiveTimestampOffset => some .channelReceiveTimestampOffset
  | .mChannelSendTimestampOffset => some .channelSendTimestampOffset

/-- The parameter `build` writes a `Value` member under. -/
def ValueField.renderedAs : ValueField → Param
  | .mReliable => .reliable
  | .mTtl => .ttl
  | .mMtu => .mtu
  | .mTermLength => .termLength
  | .mInitialTermId => .initialTermId
  | .mTermId => .termId
  | .mTermOffset => .termOffset
  | .mSessionId => .sessionId
  | .mGtag => .gtag
  | .mLinger => .linger
  | .mSparse => .sparse
  | .mEos => .eos
  | .mTether => .tether
  | .mGroup => .group
  | .mRejoin => .rejoin
  | .mSsc => .ssc
  | .mSocketSndbufLength => .socketSndbufLength
  | .mSocketRcvbufLength => .socketRcvbufLength
  | .mReceiverWindowLength => .receiverWindowLength
  | .mResponseCorrelationId => .responseCorrelationId
  | .mNakDelay => .nakDelay
  | .mUntetheredWindowLimitTimeout => .untetheredWindowLimitTimeout
  | .mUntetheredRestingTimeout => .untetheredRestingTimeout
  | .mMaxResend => .maxResend

/-- The `Value` members `build` writes as `true` or `false`. -/
def ValueField.isFlag : ValueField → Bool
  | .mReliable | .mSparse | .mEos | .mTether | .mGroup | .mRejoin | .mSsc => true
  | _ => false

theorem StringField.rendering_renderedAs {member : StringField} {param : Param}
    (hparam : member.renderedAs = some param) : param.rendering = .text member := by
  cases member <;> simp only [renderedAs, Option.some.injEq, reduceCtorEq] at hparam <;>
    subst hparam <;> rfl

theorem StringField.renderedAs_eq_none {member : StringField} (hnone : member.renderedAs = none) :
    member = .mPrefix ∨ member = .mMedia := by
  cases member <;> simp_all [renderedAs]

/-- Each `Value` member is written as a number, as a flag, or, the session id, behind the
tag. -/
theorem ValueField.rendering_renderedAs (member : ValueField) :
    member.renderedAs.rendering = .number member ∨
      (member.renderedAs.rendering = .flag member ∧ member.isFlag = true) ∨
      (member = .mSessionId ∧ member.renderedAs.rendering = .taggedSessionId) := by
  cases member <;> decide

/-- What the names must satisfy for a built URI to be read back: the parts of the header
hold neither `:` nor `?`, the spy qualifier is not empty, the parameter names are distinct
and hold neither `=` nor `|`, and the tag prefix holds no `|` and starts with a character
that no decimal number starts with. -/
def ChannelUri.WellFormed (names : ChannelUri) : Prop :=
  (∀ part ∈ [names.aeronScheme, names.spyQualifier, names.udpMedia, names.ipcMedia],
      ':' ∉ part.toList ∧ '?' ∉ part.toList) ∧
    names.spyQualifier ≠ "" ∧
    (∀ param ∈ buildOrder,
      '=' ∉ (names.paramName param).toList ∧ '|' ∉ (names.paramName param).toList) ∧
    (buildOrder.map names.paramName).Nodup ∧
    '|' ∉ names.tagPrefix.toList ∧
    (names.tagPrefix.toList.head?.all fun c => c != '-' && !c.isDigit) = true ∧
    names.tagPrefix ≠ ""

instance (names : ChannelUri) : Decidable names.WellFormed :=
  inferInstanceAs (Decidable (_ ∧ _ ∧ _ ∧ _ ∧ _ ∧ _ ∧ _))

theorem ChannelUri.wellFormed_declared : ChannelUri.declared.WellFormed := by decide

namespace ChannelUriStringBuilder

variable (names : ChannelUri)

/-! ## Reading a built URI -/

/-- The characters before the first `separator`, and those after it. -/
def splitAtFirst (separator : Char) (text : List Char) : List Char × List Char :=
  (text.takeWhile (· != separator), (text.dropWhile (· != separator)).drop 1)

/-- The prefix and the media of a header `[prefix:]scheme:media`. -/
def readHeader (header : List Char) : Option String × Option String :=
  match header.splitOn ':' with
  | [pfx, _, media] => (some ⟨pfx⟩, some ⟨media⟩)
  | [_, media] => (none, some ⟨media⟩)
  | _ => (none, none)

/-- The `name=value` entries of the text after the `?`. -/
def readEntries (params : List Char) : List (List Char × List Char) :=
  if params = [] then [] else (params.splitOn '|').map (splitAtFirst '=')

/-- The value of the first entry named `name`. -/
def lookupEntry (entries : List (List Char × List Char)) (name : List Char) :
    Option (List Char) :=
  (entries.find? fun entry => decide (entry.1 = name)).map (·.2)

/-- The `Value` a flag's text stands for. -/
def readFlag (text : List Char) : Int := if text = "true".toList then 1 else 0

/-- The session id and the tag flag a `prefixTag` text stands for. -/
def readSessionId (text : List Char) : Int × Bool :=
  if text.take names.tagPrefix.length = names.tagPrefix.toList then
    (readInt (text.drop names.tagPrefix.length), true)
  else (readInt text, false)

/-- The `Value` a rendering's text stands for. -/
def readValue : Rendering → List Char → Int
  | .flag _, text => readFlag text
  | .taggedSessionId, text => (readSessionId names text).1
  | _, text => readInt text

/-- The builder read from a header's prefix and media and from the parameters' entries. -/
def readFields (header : Option String × Option String)
    (entries : List (List Char × List Char)) : ChannelUriStringBuilder :=
  let text := fun param : Param => lookupEntry entries (names.paramName param).toList
  { strings := fun member =>
      match member.renderedAs with
      | some param => (text param).map String.mk
      | none => if member = .mPrefix then header.1 else header.2
    values := fun member =>
      (text member.renderedAs).map (readValue names member.renderedAs.rendering)
    isSessionIdTagged := ((text .sessionId).map fun value => (readSessionId names value).2).getD false }

/-- The builder a URI reads back as. -/
def readBack (uri : String) : ChannelUriStringBuilder :=
  let parts := splitAtFirst '?' uri.toList
  readFields names (readHeader parts.1) (readEntries parts.2)

/-- The prefix `build` shows: an empty one is none. -/
def shownPrefix (builder : ChannelUriStringBuilder) : Option String :=
  if builder.strings .mPrefix = some "" then none else builder.strings .mPrefix

/-- The parameters a builder holds, as `build` can show them: an empty prefix is no prefix,
and the tag flag counts only with a session id. -/
def parameters (builder : ChannelUriStringBuilder) : ChannelUriStringBuilder where
  strings := Function.update builder.strings .mPrefix (shownPrefix builder)
  values := builder.values
  isSessionIdTagged := builder.isSessionIdTagged && (builder.values .mSessionId).isSome

/-! ## Builders reachable by calls -/

/-- What every builder reachable by calls satisfies: its prefix is unset, empty or the spy
qualifier, its media unset or one of the two media, and each flag unset, 0 or 1. -/
structure Valid (builder : ChannelUriStringBuilder) : Prop where
  shown_mem : builder.strings .mPrefix ∈ [none, some "", some names.spyQualifier]
  media_mem : builder.strings .mMedia ∈ [none, some names.udpMedia, some names.ipcMedia]
  flag_mem : ∀ member, member.isFlag = true → builder.values member ∈ [none, some 0, some 1]

theorem valid_fresh : Valid names fresh :=
  ⟨by simp [fresh], by simp [fresh], fun _ _ => by simp [fresh]⟩

namespace Valid

variable {names} {builder : ChannelUriStringBuilder} (hvalid : Valid names builder)

include hvalid

theorem insertString {member : StringField} (hmember : member ≠ .mPrefix ∧ member ≠ .mMedia)
    (value : String) : Valid names ((Effect.insertString member value).apply builder) := by
  refine ⟨?_, ?_, hvalid.flag_mem⟩
  · simpa [Effect.apply, Function.update_noteq (Ne.symm hmember.1)] using hvalid.shown_mem
  · simpa [Effect.apply, Function.update_noteq (Ne.symm hmember.2)] using hvalid.media_mem

theorem eraseString (member : StringField) :
    Valid names ((Effect.eraseString member).apply builder) := by
  refine ⟨?_, ?_, hvalid.flag_mem⟩ <;> simp only [Effect.apply, Function.update_apply] <;> split
  all_goals simp [hvalid.shown_mem, hvalid.media_mem]

theorem insertValue {member : ValueField} {value : Int}
    (hflag : member.isFlag = true → value = 0 ∨ value = 1) :
    Valid names ((Effect.insertValue member value).apply builder) := by
  refine ⟨hvalid.shown_mem, hvalid.media_mem, fun other hother => ?_⟩
  simp only [Effect.apply, Function.update_apply]
  split
  · subst other
    rcases hflag hother with rfl | rfl <;> simp
  · exact hvalid.flag_mem other hother

theorem eraseValue (member : ValueField) :
    Valid names ((Effect.eraseValue member).apply builder) := by
  refine ⟨hvalid.shown_mem, hvalid.media_mem, fun other hother => ?_⟩
  simp only [Effect.apply, Function.update_apply]
  split
  · simp
  · exact hvalid.flag_mem other hother

theorem insertValues {entries : List (ValueField × Int)}
    (hentries : entries.all (fun entry => !entry.1.isFlag) = true) :
    Valid names ((Effect.insertValues entries).apply builder) := by
  induction entries generalizing builder with
  | nil => exact hvalid
  | cons entry entries ih =>
    simp only [List.all_cons, Bool.and_eq_true, Bool.not_eq_true'] at hentries
    have hentry : Valid names ((Effect.insertValue entry.1 entry.2).apply builder) :=
      hvalid.insertValue fun hflag => by simp [hentries.1] at hflag
    exact ih hentry hentries.2

/-- A spec step from a valid builder, whose effect keeps it valid, ends valid. -/
theorem of_specStep {op : BuilderOp} {next : ChannelUriStringBuilder}
    (hstep : SpecStep names builder op next)
    (heffect : Valid names (op.specEffect.apply builder)) : Valid names next := by
  rw [hstep]
  split
  exacts [heffect, hvalid]

end Valid

/-- Every call keeps a builder valid. -/
theorem valid_afterCall {builder : ChannelUriStringBuilder} (hvalid : Valid names builder)
    (op : BuilderOp) : Valid names (afterCall (op.call names) builder) := by
  cases op
  case prefixString value =>
    show Valid names (afterCall (prefixString names value) builder)
    simp only [prefixString, afterCall_throwIf_bind, afterCall_resetString]
    split
    · exact hvalid
    · rename_i haccepted
      refine ⟨?_, hvalid.media_mem, hvalid.flag_mem⟩
      by_cases hempty : value.isEmpty
      · simp [(String.isEmpty_iff value).mp hempty]
      · have hspy : value = names.spyQualifier := by
          by_contra hne
          exact haccepted ⟨hempty, hne⟩
        simp [hspy]
  case media value =>
    show Valid names (afterCall (media names value) builder)
    simp only [media, afterCall_throwIf_bind, afterCall_resetString]
    split
    · exact hvalid
    · rename_i haccepted
      refine ⟨hvalid.shown_mem, ?_, hvalid.flag_mem⟩
      rcases not_and_or.mp haccepted with hudp | hipc
      · simp [not_not.mp hudp]
      · simp [not_not.mp hipc]
  case rejoinNull =>
    rw [(BuilderOp.guarded_call names .rejoinNull builder).2]
    exact hvalid.eraseValue _
  all_goals
    refine hvalid.of_specStep (BuilderOp.specStep_call names (by nofun) builder) ?_
    first
      | exact hvalid.insertString (by decide) _
      | exact hvalid.eraseString _
      | exact hvalid.insertValue fun hflag => absurd hflag (by decide)
      | exact hvalid.insertValue fun _ => by split <;> decide
      | exact hvalid.eraseValue _
      | exact hvalid.insertValues rfl
      | exact ⟨hvalid.shown_mem, hvalid.media_mem, hvalid.flag_mem⟩
      | exact valid_fresh names

/-- Every builder reachable by calls from a fresh one is valid. -/
theorem valid_runAll (ops : List BuilderOp) : Valid names (BuilderOp.runAll names ops fresh) := by
  suffices ∀ builder, Valid names builder → Valid names (BuilderOp.runAll names ops builder) from
    this fresh (valid_fresh names)
  induction ops with
  | nil => exact fun _ hvalid => hvalid
  | cons op ops ih => exact fun builder hvalid => ih _ (valid_afterCall names hvalid op)

/-! ## Splitting -/

theorem splitAtFirst_append {separator : Char} {head : List Char} (hhead : separator ∉ head)
    (tail : List Char) : splitAtFirst separator (head ++ separator :: tail) = (head, tail) := by
  have hall : ∀ c ∈ head, (c != separator) = true :=
    fun c hc => bne_iff_ne.mpr fun heq => hhead (heq ▸ hc)
  simp [splitAtFirst, List.takeWhile_append_of_pos hall, List.dropWhile_append_of_pos hall]

theorem splitAtFirst_of_not_mem {separator : Char} {text : List Char} (htext : separator ∉ text) :
    splitAtFirst separator text = (text, []) := by
  have hall : ∀ c ∈ text, (c != separator) = true :=
    fun c hc => bne_iff_ne.mpr fun heq => htext (heq ▸ hc)
  have htake : (text ++ []).takeWhile (· != separator) = text ++ ([] : List Char).takeWhile _ :=
    List.takeWhile_append_of_pos hall
  have hdrop : (text ++ []).dropWhile (· != separator) = ([] : List Char).dropWhile _ :=
    List.dropWhile_append_of_pos hall
  simp only [List.append_nil, List.takeWhile_nil, List.dropWhile_nil] at htake hdrop
  simp [splitAtFirst, htake, hdrop]

@[simp] theorem lookupEntry_nil (name : List Char) : lookupEntry [] name = none := rfl

theorem lookupEntry_cons (entry : List Char × List Char) (entries : List (List Char × List Char))
    (name : List Char) :
    lookupEntry (entry :: entries) name =
      if entry.1 = name then some entry.2 else lookupEntry entries name := by
  by_cases hname : entry.1 = name <;> simp [lookupEntry, List.find?_cons, hname]

section Lookup

variable {names} (render : Param → Option (List Char))

/-- No entry carries a name that no parameter of the list has. -/
theorem lookupEntry_filterMap_of_not_mem {params : List Param} {name : List Char}
    (hname : name ∉ params.map fun param => (names.paramName param).toList) :
    lookupEntry (params.filterMap fun param =>
      (render param).map fun value => ((names.paramName param).toList, value)) name = none := by
  induction params with
  | nil => rfl
  | cons param params ih =>
    simp only [List.map_cons, List.mem_cons, not_or] at hname
    cases hrender : render param with
    | none => simpa [hrender] using ih hname.2
    | some value =>
      simp only [List.filterMap_cons, hrender, Option.map_some', lookupEntry_cons,
        if_neg (Ne.symm hname.1)]
      exact ih hname.2

/-- Over distinct names, looking a parameter's name up finds what was rendered for it. -/
theorem lookupEntry_filterMap {params : List Param}
    (hnodup : (params.map fun param => (names.paramName param).toList).Nodup) {param : Param}
    (hparam : param ∈ params) :
    lookupEntry (params.filterMap fun param =>
      (render param).map fun value => ((names.paramName param).toList, value))
      (names.paramName param).toList = render param := by
  induction params with
  | nil => contradiction
  | cons first params ih =>
    rw [List.map_cons, List.nodup_cons] at hnodup
    by_cases hfirst : first = param
    · subst hfirst
      cases hrender : render first with
      | none => simpa [hrender] using lookupEntry_filterMap_of_not_mem render hnodup.1
      | some value => simp [hrender, lookupEntry_cons]
    · have hrest : param ∈ params := (List.mem_cons.mp hparam).resolve_left (Ne.symm hfirst)
      have hname : (names.paramName first).toList ≠ (names.paramName param).toList :=
        fun heq => hnodup.1 (heq ▸ List.mem_map_of_mem _ hrest)
      cases hrender : render first with
      | none => simpa [hrender] using ih hnodup.2 hrest
      | some value =>
        simp only [List.filterMap_cons, hrender, Option.map_some', lookupEntry_cons, if_neg hname]
        exact ih hnodup.2 hrest

end Lookup

/-! ## Reading values back -/

/-- The session id text reads back as the id and whether it was tagged. -/
theorem readSessionId_prefixTag {names : ChannelUri} (hnames : names.WellFormed)
    (isTagged : Bool) (value : Int) :
    readSessionId names (prefixTag names isTagged value).toList = (value, isTagged) := by
  obtain ⟨-, -, -, -, -, hhead, hne⟩ := hnames
  have hlength : names.tagPrefix.toList.length = names.tagPrefix.length := rfl
  cases isTagged with
  | true =>
    have htext : (prefixTag names true value).toList =
        names.tagPrefix.toList ++ (toString value).toList := String.data_append _ _
    rw [readSessionId, htext, List.take_left' hlength, if_pos rfl, List.drop_left' hlength,
      readInt_toString]
  | false =>
    obtain ⟨c, rest, htag⟩ : ∃ c rest, names.tagPrefix.toList = c :: rest :=
      List.exists_cons_of_ne_nil fun hnil => hne (String.ext hnil)
    have hc : c ≠ '-' ∧ c.isDigit = false := by
      rw [htag] at hhead
      simpa using hhead
    have hnotTagged : (toString value).toList.take names.tagPrefix.length ≠
        names.tagPrefix.toList := by
      intro htake
      rw [← hlength, htag, List.length_cons] at htake
      cases htext : (toString value).toList with
      | nil => rw [htext, List.take_nil] at htake; exact List.cons_ne_nil _ _ htake.symm
      | cons d digits =>
        rw [htext, List.take_succ_cons, List.cons.injEq] at htake
        rcases head_toString value (by rw [htext, List.head?_cons, htake.1]) with h | h
        · exact hc.1 h
        · rw [hc.2] at h; contradiction
    have huntagged : (prefixTag names false value).toList = (toString value).toList := rfl
    rw [readSessionId, huntagged, if_neg hnotTagged, readInt_toString]

/-! ## What `build` writes, read back -/

/-- The entry `build` writes for a parameter, when it is set: its name and its text. -/
def entry (builder : ChannelUriStringBuilder) (param : Param) : Option (List Char × List Char) :=
  ((renderedValue names builder param.rendering).map String.toList).map fun value =>
    ((names.paramName param).toList, value)

theorem separator_not_mem_toString (value : Int) : '|' ∉ (toString value).toList := fun hmem => by
  rcases mem_toString value hmem with hminus | hdigit
  · exact absurd hminus (by decide)
  · exact absurd hdigit (by decide)

section ReadBuilt

variable {names} (hnames : names.WellFormed) {builder : ChannelUriStringBuilder}
  (hvalid : Valid names builder)

include hnames

/-- No rendered value holds a `|` when no string member does. -/
theorem separator_not_mem_renderedValue
    (hseparator : ∀ member value, builder.strings member = some value → '|' ∉ value.toList)
    {rendering : Rendering} {value : String}
    (hvalue : renderedValue names builder rendering = some value) : '|' ∉ value.toList := by
  cases rendering with
  | text member => exact hseparator member value hvalue
  | number member =>
    obtain ⟨number, -, rfl⟩ := Option.map_eq_some'.mp hvalue
    exact separator_not_mem_toString number
  | flag member =>
    obtain ⟨number, -, rfl⟩ := Option.map_eq_some'.mp hvalue
    unfold flagText; split <;> decide
  | taggedSessionId =>
    obtain ⟨number, -, rfl⟩ := Option.map_eq_some'.mp hvalue
    unfold prefixTag
    split
    · simp only [String.toList, String.data_append, List.mem_append, not_or]
      exact ⟨hnames.2.2.2.2.1, separator_not_mem_toString number⟩
    · exact separator_not_mem_toString number

/-- The segments `build` writes hold no `|`, and none is empty. -/
theorem separator_not_mem_segments
    (hseparator : ∀ member value, builder.strings member = some value → '|' ∉ value.toList) :
    ∀ segment ∈ segments names builder, '|' ∉ segment ∧ segment ≠ [] := by
  intro segment hsegment
  obtain ⟨param, hparam, hsegment⟩ := List.mem_filterMap.mp hsegment
  obtain ⟨value, hvalue, rfl⟩ := Option.map_eq_some'.mp hsegment
  refine ⟨?_, by simp⟩
  simp only [List.mem_append, List.mem_cons, not_or]
  exact ⟨(hnames.2.2.1 param hparam).2, by decide,
    separator_not_mem_renderedValue hnames hseparator hvalue⟩

/-- Splitting each segment at its first `=` gives the entries. -/
theorem map_splitAtFirst_segments (builder : ChannelUriStringBuilder) :
    (segments names builder).map (splitAtFirst '=') = buildOrder.filterMap (entry names builder) := by
  rw [segments, List.map_filterMap]
  refine List.filterMap_congr fun param hparam => ?_
  cases hvalue : renderedValue names builder param.rendering with
  | none => simp [segment, entry, hvalue]
  | some value =>
    simp only [segment, entry, hvalue, Option.map_some', Option.some.injEq]
    exact splitAtFirst_append (hnames.2.2.1 param hparam).1 _

/-- The entries of the joined segments are the segments split at their first `=`. -/
theorem readEntries_segments
    (hseparator : ∀ member value, builder.strings member = some value → '|' ∉ value.toList) :
    readEntries (if segments names builder = [] then []
        else ['|'].intercalate (segments names builder)) =
      buildOrder.filterMap (entry names builder) := by
  rw [← map_splitAtFirst_segments hnames]
  have hsegments := separator_not_mem_segments hnames hseparator
  split
  · simp [readEntries, *]
  · rename_i hne
    obtain ⟨first, rest, hcons⟩ := List.exists_cons_of_ne_nil hne
    have hjoined : ['|'].intercalate (segments names builder) ≠ [] := by
      rw [hcons]
      cases rest with
      | nil => simpa [List.intercalate] using (hsegments first (by simp [hcons])).2
      | cons second rest => simp [List.intercalate, List.intersperse_cons_cons]
    rw [readEntries, if_neg hjoined,
      List.splitOn_intercalate _ '|' (fun segment h => (hsegments segment h).1) hne]

include hvalid

/-- The header `build` writes reads back as the prefix it shows and the media. -/
theorem readHeader_uriHeader {media : String}
    (hmedia : media = names.udpMedia ∨ media = names.ipcMedia) :
    readHeader (uriHeader names builder media) = (shownPrefix builder, some media) ∧
      '?' ∉ uriHeader names builder media := by
  obtain ⟨hparts, hspy, -⟩ := hnames
  have hmediaParts : ':' ∉ media.data ∧ '?' ∉ media.data := by
    rcases hmedia with rfl | rfl <;> exact hparts _ (by simp)
  have hscheme : ':' ∉ names.aeronScheme.data ∧ '?' ∉ names.aeronScheme.data :=
    hparts names.aeronScheme (by simp)
  have hspyParts : ':' ∉ names.spyQualifier.data ∧ '?' ∉ names.spyQualifier.data :=
    hparts names.spyQualifier (by simp)
  have hshown := hvalid.shown_mem
  simp only [List.mem_cons, List.mem_singleton, List.not_mem_nil, or_false] at hshown
  have hisEmpty : names.spyQualifier.isEmpty = false :=
    Bool.eq_false_iff.mpr fun hempty => hspy ((String.isEmpty_iff _).mp hempty)
  have hshort : ∀ pfx, (pfx = none ∨ pfx = some "") → builder.strings .mPrefix = pfx →
      readHeader (uriHeader names builder media) = (shownPrefix builder, some media) ∧
        '?' ∉ uriHeader names builder media := by
    intro pfx hpfx hprefix
    have hheader : uriHeader names builder media =
        [':'].intercalate [names.aeronScheme.toList, media.toList] := by
      rcases hpfx with rfl | rfl <;>
        simp [uriHeader, hprefix, List.intercalate, show "".isEmpty = true from rfl]
    rw [hheader, readHeader, List.splitOn_intercalate _ ':' (by simp [hscheme.1, hmediaParts.1])
      (by simp)]
    rcases hpfx with rfl | rfl <;> simp [shownPrefix, hprefix, List.intercalate, hscheme.2, hmediaParts.2]
  rcases hshown with hprefix | hprefix | hprefix
  · exact hshort none (.inl rfl) hprefix
  · exact hshort (some "") (.inr rfl) hprefix
  · have hheader : uriHeader names builder media =
        [':'].intercalate [names.spyQualifier.toList, names.aeronScheme.toList, media.toList] := by
      simp [uriHeader, hprefix, hisEmpty, List.intercalate, List.intersperse_cons_cons]
    rw [hheader, readHeader, List.splitOn_intercalate _ ':'
      (by simp [hspyParts.1, hscheme.1, hmediaParts.1]) (by simp)]
    simp [shownPrefix, hprefix, hspy, List.intercalate, List.intersperse_cons_cons, hspyParts.2,
      hscheme.2, hmediaParts.2]

/-- Read from the shown prefix, the media and the entries `build` writes, the fields are the
builder's parameters. -/
theorem readFields_entries {media : String} (hmedia : builder.strings .mMedia = some media) :
    readFields names (shownPrefix builder, some media) (buildOrder.filterMap (entry names builder)) =
      parameters builder := by
  have hnodup : (buildOrder.map fun param => (names.paramName param).toList).Nodup := by
    show (buildOrder.map (String.toList ∘ names.paramName)).Nodup
    rw [← List.map_map]
    exact hnames.2.2.2.1.map fun _ _ heq => String.ext heq
  have hlookup : ∀ param, lookupEntry (buildOrder.filterMap (entry names builder))
      (names.paramName param).toList =
        (renderedValue names builder param.rendering).map String.toList :=
    fun param => lookupEntry_filterMap _ hnodup (mem_buildOrder param)
  apply ChannelUriStringBuilder.ext
  · funext member
    simp only [readFields, parameters]
    cases hparam : member.renderedAs with
    | some param =>
      have hmember : member ≠ .mPrefix := by rintro rfl; simp [StringField.renderedAs] at hparam
      dsimp only
      rw [hlookup, StringField.rendering_renderedAs hparam, Function.update_noteq hmember,
        renderedValue]
      cases builder.strings member <;> rfl
    | none =>
      rcases StringField.renderedAs_eq_none hparam with rfl | rfl
      · simp
      · simp [hmedia]
  · funext member
    simp only [readFields, parameters]
    rw [hlookup]
    rcases ValueField.rendering_renderedAs member with hnumber | ⟨hflag, hisFlag⟩ | ⟨rfl, hsession⟩
    · rw [hnumber, renderedValue]
      cases builder.values member <;>
        simp only [Option.map_none', Option.map_some', readValue, readInt_toString]
    · have hmem := hvalid.flag_mem member hisFlag
      simp only [List.mem_cons, List.mem_singleton, List.not_mem_nil, or_false] at hmem
      rw [hflag, renderedValue]
      rcases hmem with hvalue | hvalue | hvalue <;>
        simp only [hvalue, Option.map_none', Option.map_some'] <;> rfl
    · rw [hsession, renderedValue]
      cases builder.values .mSessionId <;>
        simp only [Option.map_none', Option.map_some', readValue, readSessionId_prefixTag hnames]
  · simp only [readFields, parameters]
    rw [hlookup, show Param.sessionId.rendering = .taggedSessionId from rfl, renderedValue]
    cases builder.values .mSessionId <;>
      simp only [Option.map_none', Option.map_some', Option.getD_none, Option.getD_some,
        readSessionId_prefixTag hnames, Option.isSome_none, Option.isSome_some, Bool.and_false,
        Bool.and_true]

/-- Reading back what `build` writes, for a valid builder whose string members hold no `|`,
gives its parameters. -/
theorem readBack_build
    (hseparator : ∀ member value, builder.strings member = some value → '|' ∉ value.toList)
    {uri : String} (hbuild : build names builder = some uri) :
    readBack names uri = parameters builder := by
  rw [build_eq] at hbuild
  obtain ⟨media, hmedia, rfl⟩ := Option.map_eq_some'.mp hbuild
  have hmediaMem : media = names.udpMedia ∨ media = names.ipcMedia := by
    have hmem := hvalid.media_mem
    rw [hmedia] at hmem
    simpa using hmem
  obtain ⟨hheader, hquestion⟩ := readHeader_uriHeader hnames hvalid hmediaMem
  have hsplit : splitAtFirst '?' (uriHeader names builder media ++
      if segments names builder = [] then [] else '?' :: ['|'].intercalate (segments names builder)) =
      (uriHeader names builder media, if segments names builder = [] then []
        else ['|'].intercalate (segments names builder)) := by
    split
    · rw [List.append_nil]; exact splitAtFirst_of_not_mem hquestion
    · exact splitAtFirst_append hquestion _
  show readFields names (readHeader (splitAtFirst '?' (uriHeader names builder media ++ _)).1)
    (readEntries (splitAtFirst '?' (uriHeader names builder media ++ _)).2) = _
  rw [hsplit, hheader, readEntries_segments hnames hseparator]
  exact readFields_entries hnames hvalid hmedia

end ReadBuilt

/-- For well-formed names, two builders reachable by calls from a fresh one, with media set
and no `|` in a string member, build the same URI only if they hold the same parameters. -/
theorem build_injective (hnames : names.WellFormed) {builder other : ChannelUriStringBuilder}
    (hreach : ∃ ops, builder = BuilderOp.runAll names ops fresh)
    (hreachOther : ∃ ops, other = BuilderOp.runAll names ops fresh)
    (hseparator : ∀ member value, builder.strings member = some value → '|' ∉ value.toList)
    (hseparatorOther : ∀ member value, other.strings member = some value → '|' ∉ value.toList)
    (hmedia : builder.strings .mMedia ≠ none)
    (hbuild : build names builder = build names other) :
    parameters builder = parameters other := by
  obtain ⟨uri, huri⟩ : ∃ uri, build names builder = some uri := by
    rw [build_eq]
    obtain ⟨media, hsome⟩ := Option.ne_none_iff_exists'.mp hmedia
    exact ⟨_, by rw [hsome]; rfl⟩
  obtain ⟨ops, rfl⟩ := hreach
  obtain ⟨opsOther, rfl⟩ := hreachOther
  rw [← readBack_build hnames (valid_runAll names ops) hseparator huri,
    ← readBack_build hnames (valid_runAll names opsOther) hseparatorOther (hbuild ▸ huri)]

/-- Setting the media and an endpoint in either order builds the same URI, and the builders
hold the same parameters. -/
theorem build_injective_reordered :
    let builder := BuilderOp.runAll ChannelUri.declared [.media "udp", .endpoint "localhost:8010"] fresh
    let other := BuilderOp.runAll ChannelUri.declared [.endpoint "localhost:8010", .media "udp"] fresh
    ChannelUri.declared.WellFormed ∧
      (∀ member value, builder.strings member = some value → '|' ∉ value.toList) ∧
      (∀ member value, other.strings member = some value → '|' ∉ value.toList) ∧
      builder.strings .mMedia ≠ none ∧
      build ChannelUri.declared builder = build ChannelUri.declared other ∧
      parameters builder = parameters other := by
  intro builder other
  have hseparator : ∀ ops : List BuilderOp,
      (∀ member, (BuilderOp.runAll ChannelUri.declared ops fresh).strings member ∈
        [none, some "udp", some "localhost:8010"]) →
      ∀ member value, (BuilderOp.runAll ChannelUri.declared ops fresh).strings member = some value →
        '|' ∉ value.toList := by
    intro ops hmem member value hvalue
    have hcases := hmem member
    rw [hvalue] at hcases
    simp only [List.mem_cons, List.mem_singleton, List.not_mem_nil, or_false, reduceCtorEq,
      Option.some.injEq, false_or] at hcases
    rcases hcases with rfl | rfl <;> decide
  have hbuilder := hseparator [.media "udp", .endpoint "localhost:8010"] fun member => by
    cases member <;> decide
  have hother := hseparator [.endpoint "localhost:8010", .media "udp"] fun member => by
    cases member <;> decide
  have hmedia : builder.strings .mMedia ≠ none := by decide
  have hbuild : build ChannelUri.declared builder = build ChannelUri.declared other := by decide
  exact ⟨ChannelUri.wellFormed_declared, hbuilder, hother, hmedia, hbuild,
    build_injective ChannelUri.declared ChannelUri.wellFormed_declared ⟨_, rfl⟩ ⟨_, rfl⟩ hbuilder
      hother hmedia hbuild⟩

/-- An endpoint holding `|interface=y` builds the same URI as the endpoint `x` with the
interface `y`, though the two builders hold different endpoints. -/
theorem build_collides_on_separator :
    build ChannelUri.declared
        (BuilderOp.runAll ChannelUri.declared [.media "udp", .endpoint "x|interface=y"] fresh) =
      some "aeron:udp?endpoint=x|interface=y" ∧
    build ChannelUri.declared (BuilderOp.runAll ChannelUri.declared
        [.media "udp", .endpoint "x", .networkInterface "y"] fresh) =
      some "aeron:udp?endpoint=x|interface=y" ∧
    (parameters (BuilderOp.runAll ChannelUri.declared
        [.media "udp", .endpoint "x|interface=y"] fresh)).strings .mEndpoint ≠
      (parameters (BuilderOp.runAll ChannelUri.declared
        [.media "udp", .endpoint "x", .networkInterface "y"] fresh)).strings .mEndpoint := by
  decide

end ChannelUriStringBuilder

end Aeron
