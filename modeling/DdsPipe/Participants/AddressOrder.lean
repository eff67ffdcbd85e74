import DdsPipe.Library.KeyOrder
import DdsPipe.Participants.TransportPerIp

/-!
Owns the comparisons of addresses and of the addresses of discovery servers: the
order by which sets hold them, and the equality that is written apart from it.

The order compares the version of the ip where the equality compares the validity
of the address, so the two agree only on addresses whose version and validity tell
each other (`orderedConsistently_iff`).

Does not own: the formats of an ip.
-/

namespace DdsPipe.Participants

open DdsPipe.Types
open KeyOrder

/-! ### Addresses -/

namespace Address

/-- `operator ==`. -/
def same (library : IpLocator) (address other : Address) : Bool :=
  address.ip == other.ip && address.port == other.port &&
    address.transportProtocol == other.transportProtocol &&
      address.isValid library == other.isValid library

/-- What both comparisons look at. -/
structure SamePlace (address other : Address) : Prop where
  ip : address.ip = other.ip
  port : address.port = other.port
  transportProtocol : address.transportProtocol = other.transportProtocol

/-- The fields by which `operator <` compares, in their order. -/
def orderKey (address : Address) : String ×ₗ Nat ×ₗ Nat ×ₗ Nat :=
  toLex (address.ip, toLex (address.port.toNat,
    toLex (address.transportProtocol.value, address.ipVersion.value)))

theorem value_inj_ipVersion {version other : IpVersion} :
    version.value = other.value ↔ version = other := by
  cases version <;> cases other <;> simp [IpVersion.value]

theorem value_inj_transportProtocol {protocol other : TransportProtocol} :
    protocol.value = other.value ↔ protocol = other := by
  cases protocol <;> cases other <;> simp [TransportProtocol.value]

theorem ordersBy_less : OrdersBy less orderKey := by
  intro address other
  simp only [orderKey, Prod.Lex.toLex_lt_toLex, less, UInt16.lt_iff_toNat_lt]
  rcases lt_trichotomy address.ip other.ip with before | sameIp | after
  · simp [before]
  · rw [sameIp]
    rcases lt_trichotomy address.port.toNat other.port.toNat with before | samePort | after
    · simp [before]
    · rw [samePort]
      rcases lt_trichotomy address.transportProtocol.value other.transportProtocol.value with
        before | sameProtocol | after
      · simp [before]
      · simp [sameProtocol]
      · simp [after, lt_asymm after, after.ne']
    · simp [after, lt_asymm after, after.ne']
  · simp [after, lt_asymm after, after.ne']

variable {library : IpLocator} {address other : Address}

theorem orderKey_eq_iff :
    address.orderKey = other.orderKey ↔
      address.SamePlace other ∧ address.ipVersion = other.ipVersion := by
  simp only [orderKey, EmbeddingLike.apply_eq_iff_eq, Prod.mk.injEq, value_inj_ipVersion,
    value_inj_transportProtocol, UInt16.toNat_inj]
  constructor
  · rintro ⟨ip, port, protocol, version⟩
    exact ⟨⟨ip, port, protocol⟩, version⟩
  · rintro ⟨⟨ip, port, protocol⟩, version⟩
    exact ⟨ip, port, protocol, version⟩

theorem same_iff :
    address.same library other = true ↔
      address.SamePlace other ∧ address.isValid library = other.isValid library := by
  simp only [same, Bool.and_eq_true, beq_iff_eq]
  constructor
  · rintro ⟨⟨⟨ip, port⟩, protocol⟩, valid⟩
    exact ⟨⟨ip, port, protocol⟩, valid⟩
  · rintro ⟨⟨ip, port, protocol⟩, valid⟩
    exact ⟨⟨⟨ip, port⟩, protocol⟩, valid⟩

theorem same_self (address : Address) : address.same library address = true :=
  same_iff.mpr ⟨⟨rfl, rfl, rfl⟩, rfl⟩

/-- Addresses at one place have one version if and only if all or none of them are
valid. -/
def VersionTellsValidity (library : IpLocator) (addresses : Set Address) : Prop :=
  ∀ address ∈ addresses, ∀ other ∈ addresses, address.SamePlace other →
    (address.ipVersion = other.ipVersion ↔ address.isValid library = other.isValid library)

theorem consistentOn_iff {addresses : Set Address} :
    ConsistentOn less (same library) addresses ↔ VersionTellsValidity library addresses := by
  apply forall₂_congr
  intro address _
  apply forall₂_congr
  intro other _
  rw [incomparable_iff ordersBy_less, orderKey_eq_iff, same_iff, and_congr_right_iff]

end Address

/-! ### Discovery servers -/

namespace DiscoveryServerConnectionAddress

/-- `operator <`: by guid prefix, then by the addresses in their order. -/
def less (server other : DiscoveryServerConnectionAddress) : Bool :=
  if server.discoveryServerGuidPrefix == other.discoveryServerGuidPrefix then
    lexicographicalCompare Address.less server.addresses other.addresses
  else decide (server.discoveryServerGuidPrefix < other.discoveryServerGuidPrefix)

/-- `operator ==`. -/
def same (library : IpLocator) (server other : DiscoveryServerConnectionAddress) : Bool :=
  server.discoveryServerGuidPrefix == other.discoveryServerGuidPrefix &&
    equalSequences (Address.same library) server.addresses other.addresses

def orderKey (server : DiscoveryServerConnectionAddress) :
    Nat ×ₗ List (String ×ₗ Nat ×ₗ Nat ×ₗ Nat) :=
  toLex (server.discoveryServerGuidPrefix, server.addresses.map Address.orderKey)

theorem ordersBy_less : OrdersBy less orderKey := by
  intro server other
  simp only [orderKey, Prod.Lex.toLex_lt_toLex, less]
  by_cases samePrefix : server.discoveryServerGuidPrefix = other.discoveryServerGuidPrefix
  · rw [samePrefix, beq_self_eq_true, if_pos rfl,
      ordersBy_lexicographicalCompare Address.ordersBy_less]
    simp
  · simp [samePrefix]

/-- Servers with one guid prefix whose addresses are at the same places in turn. -/
structure SamePlaces (server other : DiscoveryServerConnectionAddress) : Prop where
  guidPrefix : server.discoveryServerGuidPrefix = other.discoveryServerGuidPrefix
  addresses : List.Forall₂ Address.SamePlace server.addresses other.addresses

/-- Such servers have the same versions in turn if and only if the validities of
their addresses are the same in turn. -/
def VersionsTellValidity (library : IpLocator) (servers : Set DiscoveryServerConnectionAddress) :
    Prop :=
  ∀ server ∈ servers, ∀ other ∈ servers, server.SamePlaces other →
    (server.addresses.map Address.ipVersion = other.addresses.map Address.ipVersion ↔
      server.addresses.map (Address.isValid library) =
        other.addresses.map (Address.isValid library))

theorem map_orderKey_eq_iff {addresses others : List Address} :
    addresses.map Address.orderKey = others.map Address.orderKey ↔
      List.Forall₂ Address.SamePlace addresses others ∧
        addresses.map Address.ipVersion = others.map Address.ipVersion := by
  induction addresses generalizing others with
  | nil =>
      cases others with
      | nil => simp
      | cons other rest => simp
  | cons address rest inductionHypothesis =>
      cases others with
      | nil => simp
      | cons other others =>
          simp only [List.map_cons, List.cons.injEq, List.forall₂_cons, inductionHypothesis,
            Address.orderKey_eq_iff]
          tauto

theorem equalSequences_same_iff {library : IpLocator} {addresses others : List Address} :
    equalSequences (Address.same library) addresses others = true ↔
      List.Forall₂ Address.SamePlace addresses others ∧
        addresses.map (Address.isValid library) = others.map (Address.isValid library) := by
  induction addresses generalizing others with
  | nil =>
      cases others with
      | nil => simp [equalSequences]
      | cons other rest => simp [equalSequences]
  | cons address rest inductionHypothesis =>
      cases others with
      | nil => simp [equalSequences]
      | cons other others =>
          simp only [equalSequences, Bool.and_eq_true, List.map_cons, List.cons.injEq,
            List.forall₂_cons, inductionHypothesis, Address.same_iff]
          tauto

theorem consistentOn_iff {library : IpLocator} {servers : Set DiscoveryServerConnectionAddress} :
    ConsistentOn less (same library) servers ↔ VersionsTellValidity library servers := by
  apply forall₂_congr
  intro server _
  apply forall₂_congr
  intro other _
  rw [incomparable_iff ordersBy_less, orderKey, orderKey, EmbeddingLike.apply_eq_iff_eq,
    Prod.mk.injEq, map_orderKey_eq_iff, same, Bool.and_eq_true, beq_iff_eq,
    equalSequences_same_iff]
  constructor
  · rintro agree ⟨samePrefix, places⟩
    simpa [samePrefix, places] using agree
  · intro tells
    rw [and_congr_right_iff]
    intro samePrefix
    rw [and_congr_right_iff]
    exact fun places => tells ⟨samePrefix, places⟩

end DiscoveryServerConnectionAddress

/-! ### Consistency -/

/-- Some addresses and some servers are ordered consistently with their equality,
and a set of such addresses keeps one of each class. -/
structure OrderedConsistently (library : IpLocator) (addresses : Set Address)
    (servers : Set DiscoveryServerConnectionAddress) : Prop where
  addressOrder : StrictWeakOrder Address.less
  addressEquality : ConsistentOn Address.less (Address.same library) addresses
  addressSets : KeepsOne Address.less (Address.same library) addresses
  serverOrder : StrictWeakOrder DiscoveryServerConnectionAddress.less
  serverEquality : ConsistentOn DiscoveryServerConnectionAddress.less
    (DiscoveryServerConnectionAddress.same library) servers

/-- **Order and equality agree** exactly where version and validity do. -/
theorem orderedConsistently_iff {library : IpLocator} {addresses : Set Address}
    {servers : Set DiscoveryServerConnectionAddress} :
    OrderedConsistently library addresses servers ↔
      Address.VersionTellsValidity library addresses ∧
        DiscoveryServerConnectionAddress.VersionsTellValidity library servers := by
  constructor
  · intro ordered
    exact ⟨Address.consistentOn_iff.mp ordered.addressEquality,
      DiscoveryServerConnectionAddress.consistentOn_iff.mp ordered.serverEquality⟩
  · rintro ⟨tells, serversTell⟩
    have consistent := Address.consistentOn_iff.mpr tells
    exact {
      addressOrder := strictWeakOrder_of_ordersBy Address.ordersBy_less
      addressEquality := consistent
      addressSets := (keepsOne_iff Address.ordersBy_less Address.same_self).mpr consistent
      serverOrder := strictWeakOrder_of_ordersBy DiscoveryServerConnectionAddress.ordersBy_less
      serverEquality := DiscoveryServerConnectionAddress.consistentOn_iff.mpr serversTell }

/-- The ip `host` is of neither format: as an address of version 4 and as one of
version 6 it is invalid, so the two are equal, and the first comes before the
second. -/
theorem not_orderedConsistently :
    ¬ ∀ (addresses : Set Address) (servers : Set DiscoveryServerConnectionAddress),
      OrderedConsistently separatorLocator addresses servers := by
  intro ordered
  let four : Address := ⟨"host", 11666, 11666, .v4, .udp, false, false⟩
  let six : Address := ⟨"host", 11666, 11666, .v6, .udp, false, false⟩
  have consistent := (ordered {four, six} ∅).addressEquality four (by simp) six (by simp)
  have before : four.less six = true := by decide +kernel
  have equal : four.same separatorLocator six = true := by decide +kernel
  have notBefore := (consistent.mpr equal).1
  rw [before] at notBefore
  cases notBefore

end DdsPipe.Participants
