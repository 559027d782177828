/-
# Setup frames elicited by receivers

`aeron_network_publication_trigger_send_setup_frame` runs when a receiver asks for a setup
frame. Unless the stream has ended it marks the setup as elicited and hands the request to
the flow-control strategy's `on_trigger_send_setup`. A response publication also takes the
requester's address as its endpoint address: it copies as many bytes as the `sockaddr` of
the address's family holds (`sockaddr_in` for IPv4, `sockaddr_in6` for IPv6) and nothing
for any other family.

The strategy is a collaborator whose code is not among the sources. The model records the
calls made to it, which is all the header decides. `is_end_of_stream` is raised elsewhere in
the driver and never cleared, so a run of requests splits at that point into the requests
before it and those after it.

`triggerSendSetupFrame_run` describes every run. After the end of the stream, requests
change nothing. Before it, the strategy sees exactly the requests, in order. A response
publication's endpoint then holds the address of the last request with an IPv4 or IPv6
family, and so has that family. The endpoint keeps its old address when no such request
came. A copy of an IPv4 address over an IPv6 one leaves the IPv6 bytes past the first 16 in
place, so "holds the address" means holds the bytes of its family's `sockaddr`.
-/

import Aeron.Concurrent.AtomicBuffer

namespace Aeron

/-- `AF_INET`, as Linux numbers it. -/
def afInet : UInt16 := 2

/-- `AF_INET6`, as Linux numbers it. -/
def afInet6 : UInt16 := 10

/-- A `struct sockaddr_storage` as Linux lays it out: 128 bytes, the first two of which hold
`ss_family`. -/
structure SockaddrStorage where
  buffer : AtomicBuffer
  capacity_eq : buffer.capacity = 128

namespace SockaddrStorage

variable (addr : SockaddrStorage)

/-- `ss_family`. -/
def family : UInt16 := addr.buffer.getUInt16 0

/-- `memcpy (&destination, source, length)`. -/
def memcpy (destination source : SockaddrStorage) (length : Nat) : SockaddrStorage :=
  ⟨destination.buffer.writeSlice 0 (source.buffer.readSlice 0 length), by
    rw [AtomicBuffer.capacity_writeSlice, destination.capacity_eq]⟩

/-- The number of bytes a response publication copies from an address of this family:
`sizeof (struct sockaddr_in)` for IPv4, `sizeof (struct sockaddr_in6)` for IPv6, and none
for any other family. -/
def copyLength : Option Nat :=
  if afInet = addr.family then some 16
  else if afInet6 = addr.family then some 28
  else none

/-- `destination` holds the address in `source`: the bytes of its family's `sockaddr`. -/
def HoldsAddress (destination source : SockaddrStorage) : Prop :=
  ∃ length, source.copyLength = some length ∧
    destination.buffer.readSlice 0 length = source.buffer.readSlice 0 length

theorem two_le_of_copyLength {length : Nat} (hlength : addr.copyLength = some length) :
    2 ≤ length ∧ length ≤ 128 := by
  unfold copyLength at hlength
  split_ifs at hlength <;> cases hlength <;> omega

/-- A copy of a whole family's `sockaddr` holds the address. -/
theorem holdsAddress_memcpy (destination : SockaddrStorage) {length : Nat}
    (hlength : addr.copyLength = some length) :
    (destination.memcpy addr length).HoldsAddress addr := by
  have hroom := (addr.two_le_of_copyLength hlength).2
  have hslice : (addr.buffer.readSlice 0 length).length = length := by
    have := addr.capacity_eq
    simp only [AtomicBuffer.readSlice, AtomicBuffer.capacity] at this ⊢
    simp only [List.drop_zero, List.length_take, this]
    omega
  have hfits : 0 + (addr.buffer.readSlice 0 length).length ≤ destination.buffer.capacity := by
    rw [hslice, destination.capacity_eq]; omega
  have hwrite := AtomicBuffer.readSlice_writeSlice_self destination.buffer hfits
  rw [hslice] at hwrite
  exact ⟨length, hlength, hwrite⟩

/-- An address held keeps its family: `ss_family` lies in every family's `sockaddr`. -/
theorem HoldsAddress.family_eq {destination : SockaddrStorage} (hholds : destination.HoldsAddress addr) :
    destination.family = addr.family := by
  obtain ⟨length, hlength, hbytes⟩ := hholds
  have hfamily : ∀ storage : SockaddrStorage,
      storage.family = UInt16.ofNat (decodeLittleEndian ((storage.buffer.readSlice 0 length).take 2)) := by
    intro storage
    simp only [family, AtomicBuffer.getUInt16, AtomicBuffer.getBytes, AtomicBuffer.readSlice,
      List.take_take, min_eq_left (addr.two_le_of_copyLength hlength).1]
  rw [hfamily, hfamily addr, hbytes]

end SockaddrStorage

/-- A request for a setup frame, as `on_trigger_send_setup` receives it: the message that
asked for it, its length, the requester's address and the cached clock's time. -/
structure SetupRequest where
  buffer : List UInt8
  length : Nat
  addr : SockaddrStorage
  timeNs : Int

/-- The fields of `aeron_network_publication_t` that
`aeron_network_publication_trigger_send_setup_frame` reads and writes, with the calls the
flow-control strategy's `on_trigger_send_setup` has received, in order. -/
structure SetupFields where
  isEndOfStream : Bool
  isSetupElicited : Bool
  isResponse : Bool
  endpointAddress : SockaddrStorage
  onTriggerSendSetupCalls : List SetupRequest

namespace SetupFields

/-- `aeron_network_publication_trigger_send_setup_frame`. -/
def triggerSendSetupFrame (publication : SetupFields) (request : SetupRequest) : SetupFields :=
  if !publication.isEndOfStream then
    let publication := { publication with
      isSetupElicited := true
      onTriggerSendSetupCalls := publication.onTriggerSendSetupCalls ++ [request] }
    if publication.isResponse then
      if afInet = request.addr.family then
        { publication with endpointAddress := publication.endpointAddress.memcpy request.addr 16 }
      else if afInet6 = request.addr.family then
        { publication with endpointAddress := publication.endpointAddress.memcpy request.addr 28 }
      else publication
    else publication
  else publication

variable {publication : SetupFields} {request : SetupRequest}

theorem triggerSendSetupFrame_of_endOfStream (hclosed : publication.isEndOfStream = true) :
    triggerSendSetupFrame publication request = publication := by
  simp [triggerSendSetupFrame, hclosed]

/-- Before the end of the stream a trigger calls the strategy once, marks the setup as
elicited and, in a response publication, copies the address its family's `sockaddr` holds. -/
theorem triggerSendSetupFrame_eq (hopen : publication.isEndOfStream = false) :
    triggerSendSetupFrame publication request =
      { publication with
        isSetupElicited := true
        onTriggerSendSetupCalls := publication.onTriggerSendSetupCalls ++ [request]
        endpointAddress :=
          match publication.isResponse, request.addr.copyLength with
          | true, some length => publication.endpointAddress.memcpy request.addr length
          | _, _ => publication.endpointAddress } := by
  obtain ⟨_, _, response, _, _⟩ := publication
  dsimp only at hopen
  subst hopen
  cases response with
  | false => simp only [triggerSendSetupFrame, Bool.not_false, if_true, Bool.false_eq_true, if_false]
  | true =>
    simp only [triggerSendSetupFrame, SockaddrStorage.copyLength, Bool.not_false, if_true]
    split_ifs <;> rfl

/-- The last request whose address a response publication copies as its endpoint. -/
def lastCopied (publication : SetupFields) (requests : List SetupRequest) : Option SetupRequest :=
  if publication.isResponse then
    (requests.filter fun request => request.addr.copyLength.isSome).getLast?
  else none

/-- What the fields hold once `requests` were triggered, in order, on `publication` before
the end of its stream. -/
structure Triggered (publication : SetupFields) (requests : List SetupRequest)
    (after : SetupFields) : Prop where
  isEndOfStream_eq : after.isEndOfStream = false
  isResponse_eq : after.isResponse = publication.isResponse
  calls_eq : after.onTriggerSendSetupCalls = publication.onTriggerSendSetupCalls ++ requests
  elicited_eq : after.isSetupElicited = (publication.isSetupElicited || !requests.isEmpty)
  holds_last : ∀ last, lastCopied publication requests = some last →
    after.endpointAddress.HoldsAddress last.addr
  endpoint_eq : lastCopied publication requests = none →
    after.endpointAddress = publication.endpointAddress

theorem lastCopied_append_singleton (publication : SetupFields) (requests : List SetupRequest)
    (request : SetupRequest) :
    lastCopied publication (requests ++ [request]) =
      if publication.isResponse ∧ request.addr.copyLength.isSome then some request
      else lastCopied publication requests := by
  unfold lastCopied
  cases publication.isResponse <;> cases hcopy : request.addr.copyLength.isSome <;>
    simp [List.filter_append, List.filter_singleton, hcopy]

/-- One more trigger before the end of the stream keeps the description. -/
theorem Triggered.trigger {requests : List SetupRequest} {after : SetupFields}
    (htriggered : Triggered publication requests after) (request : SetupRequest) :
    Triggered publication (requests ++ [request]) (triggerSendSetupFrame after request) := by
  rw [triggerSendSetupFrame_eq htriggered.isEndOfStream_eq]
  have hlast := lastCopied_append_singleton publication requests request
  rw [← htriggered.isResponse_eq] at hlast
  refine ⟨htriggered.isEndOfStream_eq, htriggered.isResponse_eq, ?_, ?_, ?_, ?_⟩
  · simp only [htriggered.calls_eq, List.append_assoc]
  · simp only [htriggered.elicited_eq]; cases requests <;> simp
  · intro last hsome
    rw [hlast] at hsome
    revert hsome
    cases hresponse : after.isResponse <;> cases hcopy : request.addr.copyLength <;>
      simp only [Option.isSome_some, Option.isSome_none, and_true, and_false, if_true, if_false]
    all_goals first
      | exact htriggered.holds_last last
      | exact fun hrequest => Option.some.inj hrequest ▸
          SockaddrStorage.holdsAddress_memcpy _ _ hcopy
  · intro hnone
    rw [hlast] at hnone
    revert hnone
    cases hresponse : after.isResponse <;> cases hcopy : request.addr.copyLength <;>
      simp only [Option.isSome_some, Option.isSome_none, and_true, and_false, if_true, if_false]
    all_goals first
      | exact htriggered.endpoint_eq
      | exact nofun

/-- Every run of setup requests on a publication: after the end of its stream they change
nothing; before it, the strategy is called with exactly the requests, in order, the setup is
elicited once there was one, and a response publication's endpoint holds the address of the
last request with an IPv4 or IPv6 family, or keeps its own when none came. -/
theorem triggerSendSetupFrame_run (publication : SetupFields) (requests : List SetupRequest) :
    (publication.isEndOfStream = true →
      requests.foldl triggerSendSetupFrame publication = publication) ∧
    (publication.isEndOfStream = false →
      Triggered publication requests (requests.foldl triggerSendSetupFrame publication)) := by
  constructor
  · intro hclosed
    induction requests with
    | nil => rfl
    | cons request requests ih =>
      rw [List.foldl_cons, triggerSendSetupFrame_of_endOfStream hclosed, ih]
  · intro hopen
    induction requests using List.reverseRecOn with
    | nil => exact ⟨hopen, rfl, (List.append_nil _).symm, by simp, by simp [lastCopied], fun _ => rfl⟩
    | append_singleton requests request ih =>
      rw [List.foldl_append, List.foldl_cons, List.foldl_nil]
      exact ih.trigger request

/-- A response publication with a zeroed endpoint, a request from an IPv4 address, and the
same publication once its stream has ended. -/
def zeroedResponse : SetupFields :=
  ⟨false, false, true, ⟨AtomicBuffer.zeroed 128, List.length_replicate _ _⟩, []⟩

def ipv4Request : SetupRequest :=
  ⟨[], 0, ⟨(AtomicBuffer.zeroed 128).putUInt16 0 afInet, by
    rw [AtomicBuffer.putUInt16, AtomicBuffer.capacity_putBytes]
    exact List.length_replicate _ _⟩, 0⟩

theorem family_ipv4Request : ipv4Request.addr.family = afInet := by
  simp only [ipv4Request, SockaddrStorage.family, AtomicBuffer.getUInt16, AtomicBuffer.putUInt16]
  rw [AtomicBuffer.getBytes_putBytes_self _ _
    (by simp only [AtomicBuffer.zeroed, AtomicBuffer.capacity, List.length_replicate]; omega)]
  rfl

/-- The request is ignored once the stream has ended, and before it the endpoint takes the
IPv4 address. -/
theorem triggerSendSetupFrame_run_ipv4 :
    [ipv4Request].foldl triggerSendSetupFrame { zeroedResponse with isEndOfStream := true } =
        { zeroedResponse with isEndOfStream := true } ∧
      Triggered zeroedResponse [ipv4Request]
        ([ipv4Request].foldl triggerSendSetupFrame zeroedResponse) ∧
      lastCopied zeroedResponse [ipv4Request] = some ipv4Request ∧
      ([ipv4Request].foldl triggerSendSetupFrame zeroedResponse).endpointAddress.HoldsAddress
        ipv4Request.addr :=
  have htriggered := (triggerSendSetupFrame_run zeroedResponse [ipv4Request]).2 rfl
  have hlast : lastCopied zeroedResponse [ipv4Request] = some ipv4Request := by
    simp [lastCopied, zeroedResponse, SockaddrStorage.copyLength, family_ipv4Request]
  ⟨(triggerSendSetupFrame_run { zeroedResponse with isEndOfStream := true } [ipv4Request]).1 rfl,
    htriggered, hlast, htriggered.holds_last _ hlast⟩

end SetupFields

end Aeron
