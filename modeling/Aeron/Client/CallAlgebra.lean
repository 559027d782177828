/-
# Channel URI string builder: how calls compose

Every call checks only its own arguments: when they are accepted it has one effect on the
members, otherwise it throws and leaves the builder (`BuilderOp.guarded_call`). The effect is
the spec's, but for `rejoin(std::nullptr_t)`, which resets `m_reliable` (`BuilderOp.effect`).
An effect writes a fixed list of members (`Effect.writes`), leaves the others, and what it
writes does not depend on the builder it is applied to.

So the calls form an algebra on builders: two calls that write disjoint members commute,
whether or not either throws (`afterCall_comm`), and a call that returns erases an earlier
call whose members it all writes (`afterCall_afterCall_of_subset`).
-/

import Aeron.Client.ParameterMap

namespace Aeron

/-- A member of the builder: a string member, a `Value` member, or the session-id tag
flag. -/
inductive Member
  | string (field : StringField)
  | value (field : ValueField)
  | tagged
  deriving DecidableEq, Repr

/-- Every member of the builder. -/
def Member.all : List Member :=
  ([.mPrefix, .mMedia, .mEndpoint, .mNetworkInterface, .mControlEndpoint, .mControlMode,
      .mTags, .mAlias, .mCc, .mFc, .mMediaReceiveTimestampOffset,
      .mChannelReceiveTimestampOffset, .mChannelSendTimestampOffset].map .string) ++
    ([.mReliable, .mTtl, .mMtu, .mTermLength, .mInitialTermId, .mTermId, .mTermOffset,
      .mSessionId, .mGtag, .mLinger, .mSparse, .mEos, .mTether, .mGroup, .mRejoin, .mSsc,
      .mSocketSndbufLength, .mSocketRcvbufLength, .mReceiverWindowLength,
      .mResponseCorrelationId, .mNakDelay, .mUntetheredWindowLimitTimeout,
      .mUntetheredRestingTimeout, .mMaxResend].map .value) ++ [.tagged]

theorem Member.mem_all (member : Member) : member ∈ Member.all := by
  cases member with
  | string field => cases field <;> decide
  | value field => cases field <;> decide
  | tagged => decide

namespace Effect

/-- The members an effect writes; `clear` writes all of them. -/
def writes : Effect → List Member
  | .insertString member _ => [.string member]
  | .eraseString member => [.string member]
  | .insertValue member _ => [.value member]
  | .eraseValue member => [.value member]
  | .insertValues entries => entries.map fun entry => .value entry.1
  | .setTagged _ => [.tagged]
  | .clear => Member.all

/-! ## What an effect leaves, and what it writes -/

section InsertValues

variable (entries : List (ValueField × Int))

theorem foldl_update_of_not_mem {member : ValueField}
    (hmember : member ∉ entries.map Prod.fst) (values : ValueField → Option Int) :
    entries.foldl (fun (values : ValueField → Option Int) entry =>
        Function.update values entry.1 (some entry.2)) values member =
      values member := by
  induction entries generalizing values with
  | nil => rfl
  | cons entry entries ih =>
    rw [List.map_cons, List.mem_cons, not_or] at hmember
    rw [List.foldl_cons, ih hmember.2, Function.update_noteq hmember.1]

theorem foldl_update_of_mem {member : ValueField} (hmember : member ∈ entries.map Prod.fst)
    (values other : ValueField → Option Int) :
    entries.foldl (fun (values : ValueField → Option Int) entry =>
        Function.update values entry.1 (some entry.2)) values member =
      entries.foldl (fun (values : ValueField → Option Int) entry =>
        Function.update values entry.1 (some entry.2)) other member := by
  induction entries generalizing values other with
  | nil => contradiction
  | cons entry entries ih =>
    rw [List.foldl_cons, List.foldl_cons]
    by_cases hrest : member ∈ entries.map Prod.fst
    · exact ih hrest _ _
    · have hentry : member = entry.1 := by simpa [hrest] using hmember
      rw [foldl_update_of_not_mem entries hrest, foldl_update_of_not_mem entries hrest, hentry,
        Function.update_same, Function.update_same]

end InsertValues

variable {effect : Effect}

theorem strings_apply_of_not_mem {member : StringField} (hmember : .string member ∉ effect.writes)
    (builder : ChannelUriStringBuilder) :
    (effect.apply builder).strings member = builder.strings member := by
  cases effect <;> simp only [writes, List.mem_singleton, Member.string.injEq, List.mem_map,
    reduceCtorEq, and_false, exists_false, not_false_eq_true] at hmember
  case clear => exact absurd (Member.mem_all _) hmember
  all_goals first | rfl | exact Function.update_noteq hmember _ _

theorem values_apply_of_not_mem {member : ValueField} (hmember : .value member ∉ effect.writes)
    (builder : ChannelUriStringBuilder) :
    (effect.apply builder).values member = builder.values member := by
  cases effect <;> simp only [writes, List.mem_singleton, Member.value.injEq, reduceCtorEq,
    not_false_eq_true] at hmember
  case insertValues entries =>
    refine foldl_update_of_not_mem entries (fun hmem => hmember ?_) builder.values
    obtain ⟨entry, hentry, rfl⟩ := List.mem_map.mp hmem
    exact List.mem_map_of_mem _ hentry
  case clear => exact absurd (Member.mem_all _) hmember
  all_goals first | rfl | exact Function.update_noteq hmember _ _

theorem tagged_apply_of_not_mem (hmember : .tagged ∉ effect.writes)
    (builder : ChannelUriStringBuilder) :
    (effect.apply builder).isSessionIdTagged = builder.isSessionIdTagged := by
  cases effect <;> simp only [writes, List.mem_singleton, List.mem_map, reduceCtorEq,
    and_false, exists_false, not_true_eq_false, not_false_eq_true] at hmember
  case clear => exact absurd (Member.mem_all _) hmember
  all_goals rfl

theorem strings_apply_of_mem {member : StringField} (hmember : .string member ∈ effect.writes)
    (builder other : ChannelUriStringBuilder) :
    (effect.apply builder).strings member = (effect.apply other).strings member := by
  cases effect <;> simp only [writes, List.mem_singleton, Member.string.injEq, List.mem_map,
    reduceCtorEq, and_false, exists_false] at hmember
  case insertString field value | eraseString field =>
    subst hmember
    simp only [apply, Function.update_same]
  case clear => rfl

theorem values_apply_of_mem {member : ValueField} (hmember : .value member ∈ effect.writes)
    (builder other : ChannelUriStringBuilder) :
    (effect.apply builder).values member = (effect.apply other).values member := by
  cases effect <;> simp only [writes, List.mem_singleton, Member.value.injEq, reduceCtorEq]
    at hmember
  case insertValue field value | eraseValue field =>
    subst hmember
    simp only [apply, Function.update_same]
  case insertValues entries =>
    refine foldl_update_of_mem entries ?_ builder.values other.values
    obtain ⟨entry, hentry, hvalue⟩ := List.mem_map.mp hmember
    exact List.mem_map.mpr ⟨entry, hentry, Member.value.inj hvalue⟩
  case clear => rfl

theorem tagged_apply_of_mem (hmember : .tagged ∈ effect.writes)
    (builder other : ChannelUriStringBuilder) :
    (effect.apply builder).isSessionIdTagged = (effect.apply other).isSessionIdTagged := by
  cases effect <;> simp only [writes, List.mem_singleton, List.mem_map, reduceCtorEq,
    and_false, exists_false] at hmember
  all_goals rfl

/-! ## Composing effects -/

section View

variable {α : Type} (view : ChannelUriStringBuilder → α) (member : Member)
  (hframe : ∀ (effect : Effect) builder, member ∉ effect.writes →
    view (effect.apply builder) = view builder)
  (hwritten : ∀ (effect : Effect) builder other, member ∈ effect.writes →
    view (effect.apply builder) = view (effect.apply other))

include hframe hwritten

/-- One member seen through two effects that do not both write it, in either order. -/
theorem view_apply_comm {effect other : Effect}
    (hdisjoint : ∀ member ∈ effect.writes, member ∉ other.writes)
    (builder : ChannelUriStringBuilder) :
    view (effect.apply (other.apply builder)) = view (other.apply (effect.apply builder)) := by
  by_cases heffect : member ∈ effect.writes
  · rw [hwritten effect _ builder heffect, hframe other _ (hdisjoint member heffect)]
  · rw [hframe effect _ heffect]
    by_cases hother : member ∈ other.writes
    · exact hwritten other _ _ hother
    · rw [hframe other _ hother, hframe other _ hother, hframe effect _ heffect]

/-- One member seen through an effect and a later one that writes all it writes. -/
theorem view_apply_apply_of_subset {effect other : Effect}
    (hsubset : ∀ member ∈ effect.writes, member ∈ other.writes)
    (builder : ChannelUriStringBuilder) :
    view (other.apply (effect.apply builder)) = view (other.apply builder) := by
  by_cases hother : member ∈ other.writes
  · exact hwritten other _ _ hother
  · rw [hframe other _ hother, hframe other _ hother,
      hframe effect _ fun heffect => hother (hsubset member heffect)]

end View

/-- Effects that write disjoint members commute. -/
theorem apply_comm {effect other : Effect}
    (hdisjoint : ∀ member ∈ effect.writes, member ∉ other.writes)
    (builder : ChannelUriStringBuilder) :
    effect.apply (other.apply builder) = other.apply (effect.apply builder) := by
  ext1
  · funext member
    exact view_apply_comm (fun builder => builder.strings member) (.string member)
      (fun _ _ h => strings_apply_of_not_mem h _) (fun _ _ _ h => strings_apply_of_mem h _ _)
      hdisjoint builder
  · funext member
    exact view_apply_comm (fun builder => builder.values member) (.value member)
      (fun _ _ h => values_apply_of_not_mem h _) (fun _ _ _ h => values_apply_of_mem h _ _)
      hdisjoint builder
  · exact view_apply_comm ChannelUriStringBuilder.isSessionIdTagged .tagged
      (fun _ _ h => tagged_apply_of_not_mem h _) (fun _ _ _ h => tagged_apply_of_mem h _ _)
      hdisjoint builder

/-- An effect followed by one that writes every member it writes is the second alone. -/
theorem apply_apply_of_subset {effect other : Effect}
    (hsubset : ∀ member ∈ effect.writes, member ∈ other.writes)
    (builder : ChannelUriStringBuilder) :
    other.apply (effect.apply builder) = other.apply builder := by
  ext1
  · funext member
    exact view_apply_apply_of_subset (fun builder => builder.strings member) (.string member)
      (fun _ _ h => strings_apply_of_not_mem h _) (fun _ _ _ h => strings_apply_of_mem h _ _)
      hsubset builder
  · funext member
    exact view_apply_apply_of_subset (fun builder => builder.values member) (.value member)
      (fun _ _ h => values_apply_of_not_mem h _) (fun _ _ _ h => values_apply_of_mem h _ _)
      hsubset builder
  · exact view_apply_apply_of_subset ChannelUriStringBuilder.isSessionIdTagged .tagged
      (fun _ _ h => tagged_apply_of_not_mem h _) (fun _ _ _ h => tagged_apply_of_mem h _ _)
      hsubset builder

end Effect

open ChannelUriStringBuilder

/-- Whether a call throws depends on its arguments only. -/
theorem BuilderOp.threw_call_eq (names : ChannelUri) (op : BuilderOp)
    (builder other : ChannelUriStringBuilder) :
    threw (op.call names) builder = threw (op.call names) other := by
  rw [(BuilderOp.guarded_call names op builder).1, (BuilderOp.guarded_call names op other).1]

/-! ## Calls on builders -/

variable (names : ChannelUri)

/-- Two calls that write disjoint members commute: on every builder, either order leaves the
same builder, and each call throws in one order exactly when it throws in the other. -/
theorem afterCall_comm {op other : BuilderOp}
    (hdisjoint : ∀ member ∈ op.effect.writes, member ∉ other.effect.writes)
    (builder : ChannelUriStringBuilder) :
    afterCall (other.call names) (afterCall (op.call names) builder) =
        afterCall (op.call names) (afterCall (other.call names) builder) ∧
      threw (other.call names) (afterCall (op.call names) builder) =
        threw (other.call names) builder ∧
      threw (op.call names) (afterCall (other.call names) builder) =
        threw (op.call names) builder := by
  refine ⟨?_, BuilderOp.threw_call_eq names other _ _, BuilderOp.threw_call_eq names op _ _⟩
  have hguarded := BuilderOp.guarded_call names op
  have hguardedOther := BuilderOp.guarded_call names other
  simp only [fun builder => (hguarded builder).2, fun builder => (hguardedOther builder).2]
  cases op.accepts names <;> cases other.accepts names <;>
    simp only [if_true, Bool.false_eq_true, if_false]
  exact (Effect.apply_comm hdisjoint builder).symm

/-- An endpoint and a rejected media commute on a fresh builder. -/
theorem afterCall_comm_endpoint_tcp :
    (∀ member ∈ (BuilderOp.endpoint "localhost:8010").effect.writes,
      member ∉ (BuilderOp.media "tcp").effect.writes) ∧
    afterCall ((BuilderOp.media "tcp").call ChannelUri.declared)
        (afterCall ((BuilderOp.endpoint "localhost:8010").call ChannelUri.declared) fresh) =
      afterCall ((BuilderOp.endpoint "localhost:8010").call ChannelUri.declared)
        (afterCall ((BuilderOp.media "tcp").call ChannelUri.declared) fresh) ∧
    threw ((BuilderOp.media "tcp").call ChannelUri.declared)
        (afterCall ((BuilderOp.endpoint "localhost:8010").call ChannelUri.declared) fresh) =
      threw ((BuilderOp.media "tcp").call ChannelUri.declared) fresh ∧
    threw ((BuilderOp.endpoint "localhost:8010").call ChannelUri.declared)
        (afterCall ((BuilderOp.media "tcp").call ChannelUri.declared) fresh) =
      threw ((BuilderOp.endpoint "localhost:8010").call ChannelUri.declared) fresh :=
  have hdisjoint : ∀ member ∈ (BuilderOp.endpoint "localhost:8010").effect.writes,
      member ∉ (BuilderOp.media "tcp").effect.writes := by decide
  ⟨hdisjoint, afterCall_comm ChannelUri.declared hdisjoint fresh⟩

/-- A call that returns erases an earlier call whose members it all writes: on every builder
where the later call is accepted, the earlier call leaves no trace. -/
theorem afterCall_afterCall_of_subset {op other : BuilderOp}
    (hsubset : ∀ member ∈ op.effect.writes, member ∈ other.effect.writes)
    {builder : ChannelUriStringBuilder} (haccepted : threw (other.call names) builder = false) :
    afterCall (other.call names) (afterCall (op.call names) builder) =
      afterCall (other.call names) builder := by
  have hguarded := BuilderOp.guarded_call names op
  have hguardedOther := BuilderOp.guarded_call names other
  have hother : other.accepts names = true := by
    simpa [(hguardedOther builder).1] using haccepted
  simp only [fun builder => (hguarded builder).2, fun builder => (hguardedOther builder).2,
    hother, if_true]
  cases op.accepts names
  · rfl
  · exact Effect.apply_apply_of_subset hsubset builder

/-- `initialPosition` erases an earlier `termOffset`. -/
theorem afterCall_afterCall_of_subset_termOffset :
    (∀ member ∈ (BuilderOp.termOffset 64).effect.writes,
      member ∈ (BuilderOp.initialPosition 131104 7 65536).effect.writes) ∧
    threw ((BuilderOp.initialPosition 131104 7 65536).call ChannelUri.declared) fresh = false ∧
    afterCall ((BuilderOp.initialPosition 131104 7 65536).call ChannelUri.declared)
        (afterCall ((BuilderOp.termOffset 64).call ChannelUri.declared) fresh) =
      afterCall ((BuilderOp.initialPosition 131104 7 65536).call ChannelUri.declared) fresh :=
  have hsubset : ∀ member ∈ (BuilderOp.termOffset 64).effect.writes,
      member ∈ (BuilderOp.initialPosition 131104 7 65536).effect.writes := by decide
  have haccepted :
      threw ((BuilderOp.initialPosition 131104 7 65536).call ChannelUri.declared) fresh =
        false := by
    decide
  ⟨hsubset, haccepted, afterCall_afterCall_of_subset ChannelUri.declared hsubset haccepted⟩

end Aeron
