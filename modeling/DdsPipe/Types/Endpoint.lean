import DdsPipe.Types.Topic

/-!
Owns the endpoints that the participants discover: their guid with its order,
their kind, topic and discoverer, and whether they belong to a service server.
-/

namespace DdsPipe.Types

/-- The prefix that the endpoints of one remote participant share. -/
abbrev GuidPrefix := Nat

structure Guid where
  guidPrefix : GuidPrefix
  entityId : Nat
deriving DecidableEq, Repr

/-- `Guid_t::operator <`: by prefix, then by entity. -/
def Guid.order (guid other : Guid) : Ordering :=
  (compare guid.guidPrefix other.guidPrefix).then (compare guid.entityId other.entityId)

instance : Std.TransCmp Guid.order :=
  inferInstanceAs (Std.TransCmp (compareLex (compareOn Guid.guidPrefix) (compareOn Guid.entityId)))

instance : Std.LawfulEqCmp Guid.order where
  compare_self := by simp [Guid.order]
  eq_of_compare := by
    rintro ⟨guidPrefix, entityId⟩ ⟨otherPrefix, otherId⟩ same
    simpa [Guid.order, Ordering.then_eq_eq] using same

inductive EndpointKind where
  | invalid
  | writer
  | reader
deriving DecidableEq, Repr

structure SpecificEndpointQoS where
  partitions : List String := []
  ownershipStrength : Nat := 0
deriving DecidableEq, Repr

structure Endpoint where
  kind : EndpointKind := .invalid
  guid : Guid := ⟨0, 0⟩
  topic : DdsTopic := {}
  specificQos : SpecificEndpointQoS := {}
  active : Bool := true
  discovererParticipantId : ParticipantId := defaultParticipantId
deriving DecidableEq, Repr

namespace Endpoint

def isWriter (endpoint : Endpoint) : Bool :=
  endpoint.kind == .writer

def isReader (endpoint : Endpoint) : Bool :=
  endpoint.kind == .reader

/-- The endpoint is one of a server of its service: a request reader or a reply
writer. -/
def isServerEndpoint (endpoint : Endpoint) : Bool :=
  (endpoint.isReader && isRequestTopic endpoint.topic) ||
    (endpoint.isWriter && isReplyTopic endpoint.topic)

/-- A server endpoint is on a service topic, so its service can be named. -/
theorem isServiceTopic_of_isServerEndpoint {endpoint : Endpoint}
    (server : endpoint.isServerEndpoint = true) : isServiceTopic endpoint.topic = true := by
  unfold isServerEndpoint at server
  unfold isServiceTopic
  rcases Bool.or_eq_true_iff.mp server with request | reply
  · rw [(Bool.and_eq_true_iff.mp request).2, Bool.true_or]
  · rw [(Bool.and_eq_true_iff.mp reply).2, Bool.or_true]

end Endpoint

end DdsPipe.Types
