import DdsPipe.Participants.TransportPerIp

/-!
Owns the kinds of the descriptors that a participant creates: those of its TCP
listening addresses, of the last TCP connection, and of the last UDP address
(`reckonWith_kinds`). All kinds of its addresses are among them in every order of the
addresses exactly when no two versions compete for a flag.

Does not own: the locators, and the ports and WAN addresses of the descriptors.
-/

namespace DdsPipe.Participants

/-! ### Kinds -/

def kinds (addresses : List Address) : List LocatorKind :=
  addresses.map Address.getLocatorKind

theorem Address.getLocatorKind_eq (address : Address) :
    address.getLocatorKind =
      if address.isTcp then if address.isIpv4 then .tcpv4 else .tcpv6
      else if address.isIpv4 then .udpv4 else .udpv6 := by
  unfold Address.getLocatorKind Address.isTcp Address.isIpv4
  cases address.ipVersion <;> cases address.transportProtocol <;> rfl

def LocatorKind.isTcp : LocatorKind → Bool
  | .tcpv4 | .tcpv6 => true
  | .udpv4 | .udpv6 => false

theorem Address.isTcp_getLocatorKind (address : Address) :
    address.getLocatorKind.isTcp = address.isTcp := by
  rw [address.getLocatorKind_eq]
  cases address.isTcp <;> cases address.isIpv4 <;> rfl

/-- Two kinds of one protocol are equal or those of the two versions. -/
theorem LocatorKind.eq_or_of_isTcp {kind other : LocatorKind} (same : kind.isTcp = other.isTcp) :
    kind = other ∨
      (kind = .tcpv4 ∧ other = .tcpv6 ∨ kind = .tcpv6 ∧ other = .tcpv4) ∨
      (kind = .udpv4 ∧ other = .udpv6 ∨ kind = .udpv6 ∧ other = .udpv4) := by
  revert same
  cases kind <;> cases other <;> decide

theorem mem_kinds {addresses : List Address} {kind : LocatorKind} :
    kind ∈ kinds addresses ↔ ∃ address ∈ addresses, address.getLocatorKind = kind :=
  List.mem_map

/-- The kinds for which descriptors are created: those of the TCP listening addresses,
of the last TCP connection, and of the last UDP address of all. -/
def builtKinds (listening connections : List Address) : List LocatorKind :=
  kinds (listening.filter Address.isTcp) ++ kinds (lastTcp connections).toList ++
    kinds (lastUdp (listening ++ connections)).toList

theorem lastUdp_append (listening connections : List Address) :
    lastUdp (listening ++ connections) = (lastUdp connections).or (lastUdp listening) := by
  unfold lastUdp
  rw [List.filter_append, List.getLast?_append]

theorem isTcp_of_lastTcp {addresses : List Address} {address : Address}
    (last : lastTcp addresses = some address) : address ∈ addresses ∧ address.isTcp = true :=
  List.mem_filter.mp (List.mem_of_getLast? last)

theorem isUdp_of_lastUdp {addresses : List Address} {address : Address}
    (last : lastUdp addresses = some address) : address ∈ addresses ∧ address.isTcp = false := by
  have found := List.mem_filter.mp (List.mem_of_getLast? last)
  rw [Address.isUdp_eq_not_isTcp, Bool.not_eq_true'] at found
  exact found

theorem exists_lastTcp {addresses : List Address} {address : Address}
    (member : address ∈ addresses) (tcp : address.isTcp = true) :
    ∃ last, lastTcp addresses = some last := by
  apply Option.isSome_iff_exists.mp
  apply List.getLast?_isSome.mpr
  exact List.ne_nil_of_mem (List.mem_filter.mpr ⟨member, tcp⟩)

theorem exists_lastUdp {addresses : List Address} {address : Address}
    (member : address ∈ addresses) (udp : address.isTcp = false) :
    ∃ last, lastUdp addresses = some last := by
  apply Option.isSome_iff_exists.mp
  apply List.getLast?_isSome.mpr
  refine List.ne_nil_of_mem (List.mem_filter.mpr ⟨member, ?_⟩)
  rw [Address.isUdp_eq_not_isTcp, udp]
  rfl

/-- Each kind that is built is that of an address. -/
theorem mem_kinds_of_mem_builtKinds {listening connections : List Address} {kind : LocatorKind}
    (built : kind ∈ builtKinds listening connections) :
    kind ∈ kinds (listening ++ connections) := by
  unfold builtKinds at built
  rw [List.mem_append, List.mem_append] at built
  rcases built with (listens | connects) | udp
  · obtain ⟨address, member, rfl⟩ := mem_kinds.mp listens
    exact mem_kinds.mpr ⟨address, List.mem_append_left _ (List.mem_filter.mp member).1, rfl⟩
  · obtain ⟨address, member, rfl⟩ := mem_kinds.mp connects
    have last := isTcp_of_lastTcp (Option.mem_toList.mp member)
    exact mem_kinds.mpr ⟨address, List.mem_append_right _ last.1, rfl⟩
  · obtain ⟨address, member, rfl⟩ := mem_kinds.mp udp
    exact mem_kinds.mpr ⟨address, (isUdp_of_lastUdp (Option.mem_toList.mp member)).1, rfl⟩

/-! ### The condition -/

/-- No two versions compete for a flag: UDP has one version, and TCP connections of
both versions come with listening addresses of both. -/
structure OneVersionEach (listening connections : List Address) : Prop where
  udp : .udpv4 ∈ kinds (listening ++ connections) → .udpv6 ∉ kinds (listening ++ connections)
  tcp : .tcpv4 ∈ kinds connections → .tcpv6 ∈ kinds connections →
    .tcpv4 ∈ kinds listening ∧ .tcpv6 ∈ kinds listening

/-- The condition does not depend on the order. -/
theorem OneVersionEach.of_perm {listening connections others otherConnections : List Address}
    (each : OneVersionEach listening connections) (listens : listening.Perm others)
    (connects : connections.Perm otherConnections) : OneVersionEach others otherConnections where
  udp udpv4 udpv6 := by
    have perm := (listens.append connects).map Address.getLocatorKind
    exact each.udp (perm.mem_iff.mpr udpv4) (perm.mem_iff.mpr udpv6)
  tcp tcpv4 tcpv6 := by
    have listensKinds := listens.map Address.getLocatorKind
    have connectsKinds := connects.map Address.getLocatorKind
    have both := each.tcp (connectsKinds.mem_iff.mpr tcpv4) (connectsKinds.mem_iff.mpr tcpv6)
    exact ⟨listensKinds.mem_iff.mp both.1, listensKinds.mem_iff.mp both.2⟩

theorem mem_kinds_tcp {addresses : List Address} {kind : LocatorKind}
    (member : kind ∈ kinds addresses) (tcp : kind.isTcp = true) :
    kind ∈ kinds (addresses.filter Address.isTcp) := by
  obtain ⟨address, found, rfl⟩ := mem_kinds.mp member
  rw [address.isTcp_getLocatorKind] at tcp
  exact mem_kinds.mpr ⟨address, List.mem_filter.mpr ⟨found, tcp⟩, rfl⟩

theorem mem_builtKinds_of_listening {listening connections : List Address} {kind : LocatorKind}
    (listens : kind ∈ kinds listening) (tcp : kind.isTcp = true) :
    kind ∈ builtKinds listening connections :=
  List.mem_append_left _ (List.mem_append_left _ (mem_kinds_tcp listens tcp))

theorem mem_builtKinds_of_lastTcp {listening connections : List Address} {last : Address}
    (found : lastTcp connections = some last) :
    last.getLocatorKind ∈ builtKinds listening connections :=
  List.mem_append_left _ (List.mem_append_right _
    (mem_kinds.mpr ⟨last, Option.mem_toList.mpr found, rfl⟩))

theorem mem_builtKinds_of_lastUdp {listening connections : List Address} {last : Address}
    (found : lastUdp (listening ++ connections) = some last) :
    last.getLocatorKind ∈ builtKinds listening connections :=
  List.mem_append_right _ (mem_kinds.mpr ⟨last, Option.mem_toList.mpr found, rfl⟩)

/-- **Under the condition**, each kind of an address is built. -/
theorem OneVersionEach.mem_builtKinds {listening connections : List Address}
    (each : OneVersionEach listening connections) {kind : LocatorKind}
    (needed : kind ∈ kinds (listening ++ connections)) :
    kind ∈ builtKinds listening connections := by
  obtain ⟨address, member, rfl⟩ := mem_kinds.mp needed
  cases tcp : address.isTcp with
  | true =>
      have isTcp : address.getLocatorKind.isTcp = true := address.isTcp_getLocatorKind.trans tcp
      rcases List.mem_append.mp member with listens | connects
      · exact mem_builtKinds_of_listening (mem_kinds.mpr ⟨address, listens, rfl⟩) isTcp
      · obtain ⟨last, found⟩ := exists_lastTcp connects tcp
        obtain ⟨lastMember, lastIsTcp⟩ := isTcp_of_lastTcp found
        have connectsKind : address.getLocatorKind ∈ kinds connections :=
          mem_kinds.mpr ⟨address, connects, rfl⟩
        have lastKind : last.getLocatorKind ∈ kinds connections :=
          mem_kinds.mpr ⟨last, lastMember, rfl⟩
        have lastBuilt : last.getLocatorKind ∈ builtKinds listening connections :=
          mem_builtKinds_of_lastTcp found
        rw [← lastIsTcp, ← last.isTcp_getLocatorKind] at isTcp
        rcases LocatorKind.eq_or_of_isTcp isTcp with
          same | (⟨v4, lastV6⟩ | ⟨v6, lastV4⟩) | (⟨v4, lastV6⟩ | ⟨v6, lastV4⟩)
        · rwa [same]
        · rw [v4] at connectsKind ⊢
          exact mem_builtKinds_of_listening (each.tcp connectsKind (lastV6 ▸ lastKind)).1 rfl
        · rw [v6] at connectsKind ⊢
          exact mem_builtKinds_of_listening (each.tcp (lastV4 ▸ lastKind) connectsKind).2 rfl
        · rw [← address.isTcp_getLocatorKind, v4] at tcp
          cases tcp
        · rw [← address.isTcp_getLocatorKind, v6] at tcp
          cases tcp
  | false =>
      obtain ⟨last, found⟩ := exists_lastUdp member tcp
      obtain ⟨lastMember, lastIsUdp⟩ := isUdp_of_lastUdp found
      have lastKind : last.getLocatorKind ∈ kinds (listening ++ connections) :=
        mem_kinds.mpr ⟨last, lastMember, rfl⟩
      have lastBuilt := mem_builtKinds_of_lastUdp found
      rw [← address.isTcp_getLocatorKind] at tcp
      rw [← last.isTcp_getLocatorKind] at lastIsUdp
      rcases LocatorKind.eq_or_of_isTcp (tcp.trans lastIsUdp.symm) with
        same | (⟨v4, lastV6⟩ | ⟨v6, lastV4⟩) | (⟨v4, lastV6⟩ | ⟨v6, lastV4⟩)
      · rwa [same]
      · rw [v4] at tcp
        cases tcp
      · rw [v6] at tcp
        cases tcp
      · exact absurd (lastV6 ▸ lastKind) (each.udp (v4 ▸ needed))
      · exact absurd (v6 ▸ needed) (each.udp (lastV4 ▸ lastKind))

/-- A UDP descriptor is of the last UDP address. -/
theorem lastUdp_of_mem_builtKinds {listening connections : List Address} {kind : LocatorKind}
    (built : kind ∈ builtKinds listening connections) (udp : kind.isTcp = false) :
    ∃ last, lastUdp (listening ++ connections) = some last ∧ last.getLocatorKind = kind := by
  have notTcp : ∀ address : Address, address.getLocatorKind = kind → address.isTcp ≠ true := by
    intro address same tcp
    rw [← address.isTcp_getLocatorKind, same, udp] at tcp
    cases tcp
  unfold builtKinds at built
  rw [List.mem_append, List.mem_append] at built
  rcases built with (listens | connects) | last
  · obtain ⟨address, member, same⟩ := mem_kinds.mp listens
    exact absurd (List.mem_filter.mp member).2 (notTcp address same)
  · obtain ⟨address, member, same⟩ := mem_kinds.mp connects
    exact absurd (isTcp_of_lastTcp (Option.mem_toList.mp member)).2 (notTcp address same)
  · obtain ⟨address, member, same⟩ := mem_kinds.mp last
    exact ⟨address, Option.mem_toList.mp member, same⟩

/-- A TCP descriptor is of a listening address or of the last connection. -/
theorem lastTcp_of_mem_builtKinds {listening connections : List Address} {kind : LocatorKind}
    (built : kind ∈ builtKinds listening connections) (tcp : kind.isTcp = true) :
    kind ∈ kinds listening ∨
      ∃ last, lastTcp connections = some last ∧ last.getLocatorKind = kind := by
  unfold builtKinds at built
  rw [List.mem_append, List.mem_append] at built
  rcases built with (listens | connects) | last
  · obtain ⟨address, member, same⟩ := mem_kinds.mp listens
    exact .inl (mem_kinds.mpr ⟨address, (List.mem_filter.mp member).1, same⟩)
  · obtain ⟨address, member, same⟩ := mem_kinds.mp connects
    exact .inr ⟨address, Option.mem_toList.mp member, same⟩
  · obtain ⟨address, member, same⟩ := mem_kinds.mp last
    have udp := (isUdp_of_lastUdp (Option.mem_toList.mp member)).2
    rw [← address.isTcp_getLocatorKind, same, tcp] at udp
    cases udp

/-- **Where each kind is built**, UDP has one version. -/
theorem udp_of_mem_builtKinds {listening connections : List Address}
    (covers : ∀ kind ∈ kinds (listening ++ connections), kind ∈ builtKinds listening connections) :
    .udpv4 ∈ kinds (listening ++ connections) → .udpv6 ∉ kinds (listening ++ connections) := by
  intro udpv4 udpv6
  obtain ⟨last, found, v4⟩ := lastUdp_of_mem_builtKinds (covers _ udpv4) rfl
  obtain ⟨other, otherFound, v6⟩ := lastUdp_of_mem_builtKinds (covers _ udpv6) rfl
  rw [Option.some.inj (found.symm.trans otherFound), v6] at v4
  cases v4

/-- Where each kind is built, and the same ones when another connection comes last,
two kinds of connections are listened on. -/
theorem listening_of_lastTcp {listening connections : List Address} {kind other : LocatorKind}
    (covers : ∀ kind ∈ kinds (listening ++ connections), kind ∈ builtKinds listening connections)
    (moves : ∀ address ∈ connections, address.isTcp = true →
      address.getLocatorKind ∈ kinds listening → ∃ moved, lastTcp moved = some address ∧
        ∀ kind, kind ∈ builtKinds listening connections → kind ∈ builtKinds listening moved)
    (tcp : kind.isTcp = true) (otherTcp : other.isTcp = true) (different : kind ≠ other)
    (connects : other ∈ kinds connections) {last : Address}
    (found : lastTcp connections = some last) (lastKind : last.getLocatorKind = kind) :
    kind ∈ kinds listening ∧ other ∈ kinds listening := by
  have needed : other ∈ kinds (listening ++ connections) := by
    obtain ⟨address, member, same⟩ := mem_kinds.mp connects
    exact mem_kinds.mpr ⟨address, List.mem_append_right _ member, same⟩
  have otherListens : other ∈ kinds listening := by
    apply (lastTcp_of_mem_builtKinds (covers other needed) otherTcp).resolve_right
    intro ⟨address, otherFound, same⟩
    rw [Option.some.inj (otherFound.symm.trans found), lastKind] at same
    exact different same
  refine ⟨?_, otherListens⟩
  obtain ⟨address, member, rfl⟩ := mem_kinds.mp connects
  obtain ⟨moved, movedLast, kept⟩ :=
    moves address member (address.isTcp_getLocatorKind.symm.trans otherTcp) otherListens
  have built : kind ∈ builtKinds listening moved :=
    kept kind (lastKind ▸ mem_builtKinds_of_lastTcp found)
  apply (lastTcp_of_mem_builtKinds built tcp).resolve_right
  intro ⟨movedAddress, movedFound, same⟩
  rw [Option.some.inj (movedFound.symm.trans movedLast)] at same
  exact different same.symm

/-- **Where each kind is built in every order**, TCP connections of both versions come
with listening addresses of both. -/
theorem tcp_of_mem_builtKinds {listening connections : List Address}
    (covers : ∀ kind ∈ kinds (listening ++ connections), kind ∈ builtKinds listening connections)
    (moves : ∀ address ∈ connections, address.isTcp = true →
      address.getLocatorKind ∈ kinds listening → ∃ moved, lastTcp moved = some address ∧
        ∀ kind, kind ∈ builtKinds listening connections → kind ∈ builtKinds listening moved)
    (tcpv4 : .tcpv4 ∈ kinds connections) (tcpv6 : .tcpv6 ∈ kinds connections) :
    .tcpv4 ∈ kinds listening ∧ .tcpv6 ∈ kinds listening := by
  obtain ⟨address, member, same⟩ := mem_kinds.mp tcpv4
  have tcp : address.isTcp = true := by
    rw [← address.isTcp_getLocatorKind, same]
    rfl
  obtain ⟨last, found⟩ := exists_lastTcp member tcp
  have lastIsTcp := (isTcp_of_lastTcp found).2
  cases ipv4 : last.isIpv4 with
  | true =>
      have lastKind : last.getLocatorKind = .tcpv4 := by
        rw [last.getLocatorKind_eq, if_pos lastIsTcp, if_pos ipv4]
      exact listening_of_lastTcp covers moves rfl rfl LocatorKind.noConfusion tcpv6 found lastKind
  | false =>
      have lastKind : last.getLocatorKind = .tcpv6 := by
        rw [last.getLocatorKind_eq, if_pos lastIsTcp, ipv4]
        rfl
      exact (listening_of_lastTcp covers moves rfl rfl LocatorKind.noConfusion tcpv4 found
        lastKind).symm

/-! ### The descriptors -/

section Descriptors

variable {library : IpLocator} {whitelist : List String} {tls : TlsConfiguration}

/-- A TCP listening address adds its kind to those of the descriptors. -/
theorem addListeningTransport_kinds
    {transports built : List (TransportDescriptor library.WanAddress)}
    {address : Address} (tcp : address.isTcp = true)
    (added : addListeningTransport library whitelist tls 1 transports address = .ok built)
    (kind : LocatorKind) :
    kind ∈ built.map TransportDescriptor.kind ↔
      kind = address.getLocatorKind ∨ kind ∈ transports.map TransportDescriptor.kind := by
  unfold addListeningTransport at added
  rw [findSameWanAddress_succ, tcp] at added
  cases ipv4 : address.isIpv4 with
  | false =>
      have isTcpv6 : address.getLocatorKind = .tcpv6 := by
        rw [address.getLocatorKind_eq, if_pos tcp, ipv4]
        rfl
      rw [ipv4] at added
      cases secured : tls.secure
        ((createTcpDescriptor library.isIPv6 whitelist).addListenerPort address.port) false with
      | error fault =>
          rw [secured] at added
          cases added
      | ok descriptor =>
          rw [secured] at added
          cases added
          simp [isTcpv6, TransportDescriptor.kind, or_comm]
  | true =>
      have isTcpv4 : address.getLocatorKind = .tcpv4 := by
        rw [address.getLocatorKind_eq, if_pos tcp, if_pos ipv4]
      rw [ipv4] at added
      cases transports with
      | nil =>
          cases secured : tls.secure
            ((createTcpDescriptor library.isIPv4 whitelist).addListenerPort address.port) false with
          | error fault =>
              rw [secured] at added
              cases added
          | ok descriptor =>
              rw [secured] at added
              cases added
              simp [isTcpv4, TransportDescriptor.kind]
      | cons transport rest =>
          cases transport with
          | udpv4 _ => cases added
          | udpv6 _ => cases added
          | tcpv6 _ => cases added
          | tcpv4 descriptor wanAddress =>
              dsimp only [List.getElem?_cons_zero] at added
              by_cases same : address.ip = library.getWanAddress wanAddress
              · rw [if_pos same] at added
                cases added
                simp [isTcpv4, TransportDescriptor.kind, or_comm]
              · rw [if_neg same] at added
                cases added

/-- **The listening loop** creates descriptors of the kinds of its addresses. -/
theorem foldlM_addListeningTransport_kinds {addresses : List Address}
    {transports built : List (TransportDescriptor library.WanAddress)}
    (tcp : ∀ address ∈ addresses, address.isTcp = true)
    (done : addresses.foldlM (addListeningTransport library whitelist tls 1) transports = .ok built)
    (kind : LocatorKind) :
    kind ∈ built.map TransportDescriptor.kind ↔
      kind ∈ kinds addresses ∨ kind ∈ transports.map TransportDescriptor.kind := by
  induction addresses generalizing transports with
  | nil =>
      cases done
      simp [kinds]
  | cons address rest inductionHypothesis =>
      rw [List.foldlM_cons] at done
      cases added : addListeningTransport library whitelist tls 1 transports address with
      | error fault =>
          rw [added] at done
          cases done
      | ok next =>
          rw [added] at done
          have step := addListeningTransport_kinds (tcp address List.mem_cons_self) added kind
          rw [inductionHypothesis (fun other member => tcp other (List.mem_cons_of_mem _ member))
            done, step, kinds, kinds, List.map_cons, List.mem_cons, or_left_comm, or_assoc]

/-- The kind of a TCP address is that of its version. -/
theorem getLocatorKind_eq_tcp (address : Address) :
    (address.getLocatorKind = .tcpv4 ↔ (address.isTcp && address.isIpv4) = true) ∧
      (address.getLocatorKind = .tcpv6 ↔ (address.isTcp && !address.isIpv4) = true) := by
  rw [address.getLocatorKind_eq]
  cases address.isTcp <;> cases address.isIpv4 <;> decide

theorem tcp_mem_kinds_iff {kind : LocatorKind} {version : Address → Bool}
    (kindIff : ∀ address : Address,
      address.getLocatorKind = kind ↔ (address.isTcp && version address) = true)
    (addresses : List Address) :
    kind ∈ kinds (addresses.filter Address.isTcp) ↔
      (addresses.any fun address => address.isTcp && version address) = true := by
  rw [mem_kinds, List.any_eq_true]
  constructor
  · intro ⟨address, member, same⟩
    exact ⟨address, (List.mem_filter.mp member).1, (kindIff address).mp same⟩
  · intro ⟨address, member, both⟩
    exact ⟨address, List.mem_filter.mpr ⟨member, (Bool.and_eq_true_iff.mp both).1⟩,
      (kindIff address).mpr both⟩

/-- The flags of TCP connections are those of the last one. -/
theorem lastTcp_kinds (connections : List Address) :
    (((lastTcp connections).map Address.isIpv4).getD false = true ↔
      .tcpv4 ∈ kinds (lastTcp connections).toList) ∧
    (((lastTcp connections).map fun address => !address.isIpv4).getD false = true ↔
      .tcpv6 ∈ kinds (lastTcp connections).toList) := by
  cases found : lastTcp connections with
  | none => exact ⟨⟨fun flag => (by cases flag), fun member => (by cases member)⟩,
      ⟨fun flag => (by cases flag), fun member => (by cases member)⟩⟩
  | some last =>
      have tcp := (isTcp_of_lastTcp found).2
      simp only [kinds, Option.toList_some, List.map_singleton, List.mem_singleton,
        Option.map_some, Option.getD_some, last.getLocatorKind_eq, tcp]
      cases last.isIpv4 <;> decide

/-- The flags of UDP addresses are those of the last one. -/
theorem lastUdp_kinds (listening connections : List Address) :
    (((lastUdp connections).map Address.isIpv4).getD ((lastUdp listening).any Address.isIpv4) =
        true ↔ .udpv4 ∈ kinds (lastUdp (listening ++ connections)).toList) ∧
    (((lastUdp connections).map fun address => !address.isIpv4).getD
        ((lastUdp listening).any fun address => !address.isIpv4) =
        true ↔ .udpv6 ∈ kinds (lastUdp (listening ++ connections)).toList) := by
  have ofLast : ∀ last : Address, last.isTcp = false →
      ((last.isIpv4 = true ↔ .udpv4 ∈ kinds [last]) ∧
        ((!last.isIpv4) = true ↔ .udpv6 ∈ kinds [last])) := by
    intro last udp
    simp only [kinds, List.map_singleton, List.mem_singleton, last.getLocatorKind_eq, udp]
    cases last.isIpv4 <;> decide
  rw [lastUdp_append]
  cases found : lastUdp connections with
  | some last => exact ofLast last (isUdp_of_lastUdp found).2
  | none =>
      cases listens : lastUdp listening with
      | some last => exact ofLast last (isUdp_of_lastUdp listens).2
      | none => exact ⟨⟨fun flag => (by cases flag), fun member => (by cases member)⟩,
          ⟨fun flag => (by cases flag), fun member => (by cases member)⟩⟩

theorem isTcp_of_mem_kinds_filter {addresses : List Address} {kind : LocatorKind}
    (member : kind ∈ kinds (addresses.filter Address.isTcp)) : kind.isTcp = true := by
  obtain ⟨address, found, rfl⟩ := mem_kinds.mp member
  exact address.isTcp_getLocatorKind.trans (List.mem_filter.mp found).2

theorem isTcp_of_mem_kinds_lastTcp {addresses : List Address} {kind : LocatorKind}
    (member : kind ∈ kinds (lastTcp addresses).toList) : kind.isTcp = true := by
  obtain ⟨address, found, rfl⟩ := mem_kinds.mp member
  exact address.isTcp_getLocatorKind.trans (isTcp_of_lastTcp (Option.mem_toList.mp found)).2

theorem isTcp_of_mem_kinds_lastUdp {addresses : List Address} {kind : LocatorKind}
    (member : kind ∈ kinds (lastUdp addresses).toList) : kind.isTcp = false := by
  obtain ⟨address, found, rfl⟩ := mem_kinds.mp member
  exact address.isTcp_getLocatorKind.trans (isUdp_of_lastUdp (Option.mem_toList.mp found)).2

/-- **What is built** is what TCP addresses listen on and what the flags ask for. -/
theorem mem_builtKinds_iff_asksFor (listening connections : List Address) (kind : LocatorKind) :
    kind ∈ builtKinds listening connections ↔
      kind ∈ kinds (listening.filter Address.isTcp) ∨
        (reckonedFlags listening connections).asksFor kind = true := by
  unfold builtKinds reckonedFlags
  rw [foldl_markListening, foldl_markConnection, List.mem_append, List.mem_append]
  -- The flags of a protocol ask for kinds of the protocol only.
  cases kind with
  | tcpv4 =>
      have notUdp : .tcpv4 ∉ kinds (lastUdp (listening ++ connections)).toList := fun member => by
        cases isTcp_of_mem_kinds_lastUdp member
      simp only [AddressFlags.asksFor, Bool.and_eq_true, Bool.not_eq_true', notUdp, or_false,
        (lastTcp_kinds connections).1,
        tcp_mem_kinds_iff fun address => (getLocatorKind_eq_tcp address).1, ← Bool.not_eq_true]
      tauto
  | tcpv6 =>
      have notUdp : .tcpv6 ∉ kinds (lastUdp (listening ++ connections)).toList := fun member => by
        cases isTcp_of_mem_kinds_lastUdp member
      simp only [AddressFlags.asksFor, Bool.and_eq_true, Bool.not_eq_true', notUdp, or_false,
        (lastTcp_kinds connections).2,
        tcp_mem_kinds_iff fun address => (getLocatorKind_eq_tcp address).2, ← Bool.not_eq_true]
      tauto
  | udpv4 =>
      have notListening : .udpv4 ∉ kinds (listening.filter Address.isTcp) := fun member => by
        cases isTcp_of_mem_kinds_filter member
      have notTcp : .udpv4 ∉ kinds (lastTcp connections).toList := fun member => by
        cases isTcp_of_mem_kinds_lastTcp member
      simp only [AddressFlags.asksFor, notListening, notTcp, or_self, false_or,
        (lastUdp_kinds listening connections).1]
  | udpv6 =>
      have notListening : .udpv6 ∉ kinds (listening.filter Address.isTcp) := fun member => by
        cases isTcp_of_mem_kinds_filter member
      have notTcp : .udpv6 ∉ kinds (lastTcp connections).toList := fun member => by
        cases isTcp_of_mem_kinds_lastTcp member
      simp only [AddressFlags.asksFor, notListening, notTcp, or_self, false_or,
        (lastUdp_kinds listening connections).2]

/-! ### The whole computation -/

section Reckoned

variable {listening connections : List Address}
  {attributes : List (TransportDescriptor library.WanAddress) →
    ParticipantAttributes library.WanAddress}
  {reckoned : ParticipantAttributes library.WanAddress}

/-- What a computation that ends has computed. -/
theorem reckonWith_of_finishes
    {result : Except ReckonFault (ParticipantAttributes library.WanAddress)}
    (finished : Finishes (reckonWith library whitelist tls listening connections attributes)
      result) : reckonWith library whitelist tls listening connections attributes 1 = result := by
  obtain ⟨_, enough, computes⟩ := finished
  rw [← computes (enough + 1) (Nat.le_succ enough)]
  unfold reckonWith
  rw [foldlM_addListeningTransport_succ enough]

theorem reckonWith_ok
    (done : reckonWith library whitelist tls listening connections attributes 1 = .ok reckoned) :
    ∃ listened created,
      (validTcpAddresses library listening).foldlM
        (addListeningTransport library whitelist tls 1) [] = .ok listened ∧
      createSpecificDescriptors library whitelist tls
        (reckonedFlags (listening.filter (Address.isValid library)) connections) = .ok created ∧
      reckoned = attributes (listened ++ created) := by
  unfold reckonWith at done
  cases loop : (validTcpAddresses library listening).foldlM
    (addListeningTransport library whitelist tls 1) [] with
  | error fault =>
      rw [loop] at done
      cases done
  | ok listened =>
      rw [loop] at done
      cases last : createSpecificDescriptors library whitelist tls
        (reckonedFlags (listening.filter (Address.isValid library)) connections) with
      | error fault =>
          simp only [Except.bind, last, Except.map] at done
          cases done
      | ok created =>
          simp only [Except.bind, last, Except.map] at done
          exact ⟨listened, created, rfl, rfl, (Except.ok.inj done).symm⟩

theorem validTcpAddresses_eq_filter (library : IpLocator) (addresses : List Address) :
    validTcpAddresses library addresses =
      (addresses.filter (Address.isValid library)).filter Address.isTcp := by
  unfold validTcpAddresses
  rw [List.filter_filter]
  exact List.filter_congr fun address _ => Bool.and_comm _ _

/-- **The kinds of the descriptors** that a computation creates. -/
theorem reckonWith_kinds
    (transports : ∀ userTransports, (attributes userTransports).userTransports = userTransports)
    (done : reckonWith library whitelist tls listening connections attributes 1 = .ok reckoned)
    (kind : LocatorKind) :
    kind ∈ reckoned.userTransports.map TransportDescriptor.kind ↔
      kind ∈ builtKinds (listening.filter (Address.isValid library)) connections := by
  obtain ⟨listened, created, loop, last, rfl⟩ := reckonWith_ok done
  have ofLoop := foldlM_addListeningTransport_kinds
    (fun address member => (mem_validTcpAddresses.mp member).2.2) loop kind
  have ofLast := createSpecificDescriptors_kinds last kind
  rw [validTcpAddresses_eq_filter] at ofLoop
  rw [transports, List.map_append, List.mem_append, ofLoop, List.map_nil,
    mem_builtKinds_iff_asksFor, ← ofLast, List.mem_map]
  simp only [List.not_mem_nil, or_false]

/-- Without a TCP kind to ask for, the last descriptors are created. -/
theorem exists_createSpecificDescriptors {flags : AddressFlags}
    (tcpv4 : flags.asksFor .tcpv4 = false) (tcpv6 : flags.asksFor .tcpv6 = false) :
    ∃ created, createSpecificDescriptors library whitelist tls flags = .ok created := by
  unfold AddressFlags.asksFor at tcpv4 tcpv6
  dsimp only at tcpv4 tcpv6
  unfold createSpecificDescriptors createConnectionDescriptor
  rw [tcpv4, tcpv6]
  exact ⟨_, rfl⟩

/-- Where the last TCP connection has a kind that is listened on, the flags ask for no
TCP kind. -/
theorem asksFor_of_lastTcp {listening connections : List Address} {last : Address}
    (found : lastTcp connections = some last) (listens : last.getLocatorKind ∈ kinds listening)
    {kind : LocatorKind} (tcp : kind.isTcp = true) :
    (reckonedFlags listening connections).asksFor kind = false := by
  apply Bool.eq_false_of_not_eq_true
  intro asked
  have lastKinds : kinds (lastTcp connections).toList = [last.getLocatorKind] := by
    rw [found]
    rfl
  unfold reckonedFlags AddressFlags.asksFor at asked
  rw [foldl_markListening, foldl_markConnection] at asked
  cases kind with
  | tcpv4 =>
      obtain ⟨connects, unlistened⟩ := Bool.and_eq_true_iff.mp asked
      have same := (lastTcp_kinds connections).1.mp connects
      rw [lastKinds, List.mem_singleton] at same
      rw [← same] at listens
      rw [(tcp_mem_kinds_iff (fun address => (getLocatorKind_eq_tcp address).1) listening).mp
        (mem_kinds_tcp listens rfl)] at unlistened
      cases unlistened
  | tcpv6 =>
      obtain ⟨connects, unlistened⟩ := Bool.and_eq_true_iff.mp asked
      have same := (lastTcp_kinds connections).2.mp connects
      rw [lastKinds, List.mem_singleton] at same
      rw [← same] at listens
      rw [(tcp_mem_kinds_iff (fun address => (getLocatorKind_eq_tcp address).2) listening).mp
        (mem_kinds_tcp listens rfl)] at unlistened
      cases unlistened
  | udpv4 => cases tcp
  | udpv6 => cases tcp

end Reckoned

end Descriptors

end DdsPipe.Participants
