import DdsPipe.Participants.ReckonLoops

/-!
Owns the descriptors that the listening addresses of a participant give it. The
search for a descriptor of the same WAN address never goes on to the next one, so
the computation ends, and builds one TCPv4 descriptor for each ip, exactly when all
the TCPv4 addresses have one ip and no TCPv6 address comes before them
(`buildsOneDescriptorPerIp_iff`).

Does not own: the kinds of the locators, and the descriptors of the connections.
-/

namespace DdsPipe.Participants

/-! ### The property -/

/-- With enough fuel, the computation ends with the result. -/
def Finishes {Result : Type} (run : Nat → Except ReckonFault Result)
    (result : Except ReckonFault Result) : Prop :=
  result ≠ .error .outOfFuel ∧ ∃ enough, ∀ fuel, enough ≤ fuel → run fuel = result

/-- A TCPv4 descriptor with the WAN address. -/
def TransportDescriptor.listensAt (library : IpLocator) (ip : String) :
    TransportDescriptor library.WanAddress → Bool
  | .tcpv4 _ wanAddress => library.getWanAddress wanAddress == ip
  | _ => false

/-- The ports of the TCPv4 listening addresses at an ip. -/
def listenedPorts (library : IpLocator) (listening : List Address) (ip : String) : List UInt16 :=
  ((validTcpAddresses library listening).filter fun address =>
    address.isIpv4 && address.ip == ip).map Address.port

/-- The computation ends, and each ip of a TCPv4 listening address has exactly one
descriptor, with the ports of the ip. -/
def BuildsOneDescriptorPerIp (library : IpLocator) (listening : List Address)
    (run : Nat → Except ReckonFault (ParticipantAttributes library.WanAddress)) : Prop :=
  ∃ result, Finishes run result ∧ ∀ attributes, result = .ok attributes →
    ∀ address ∈ validTcpAddresses library listening, address.isIpv4 = true →
      ∃ descriptor wanAddress,
        attributes.userTransports.filter (TransportDescriptor.listensAt library address.ip) =
          [.tcpv4 descriptor wanAddress] ∧
        descriptor.listeningPorts = listenedPorts library listening address.ip

/-- The TCPv4 addresses have one ip, and it comes before that of each TCPv6 address. -/
def OneIp (addresses : List Address) : Prop :=
  ∀ address ∈ addresses, address.isIpv4 = true → ∀ other ∈ addresses,
    if other.isIpv4 then other.ip = address.ip else address.ip < other.ip

instance (addresses : List Address) : Decidable (OneIp addresses) :=
  inferInstanceAs (Decidable (∀ address ∈ addresses, _))

theorem OneIp.of_append {addresses others : List Address} (oneIp : OneIp (addresses ++ others)) :
    OneIp addresses := by
  intro address member ipv4 other otherMember
  exact oneIp address (List.mem_append_left _ member) ipv4 other
    (List.mem_append_left _ otherMember)

/-! ### The descriptors while the loop goes on -/

section Shape

variable {library : IpLocator} {whitelist : List String} {tls : TlsConfiguration}

/-- The descriptors of TCPv6 addresses. -/
structure Sixes (library : IpLocator) (six : List Address)
    (transports : List (TransportDescriptor library.WanAddress)) : Prop where
  isIpv6 : ∀ address ∈ six, address.isIpv4 = false
  kinds : ∀ transport ∈ transports, transport.kind = .tcpv6
  empty : transports = [] ↔ six = []

/-- The descriptors after addresses that the loop has passed: those of TCPv4 come
first, and share one descriptor. -/
inductive Shape (library : IpLocator) : List Address → List Address →
    List (TransportDescriptor library.WanAddress) → Prop where
  | withoutFour {six sixes} (built : Sixes library six sixes) : Shape library [] six sixes
  | withFour {four six sixes descriptor} {ip : String} (nonempty : four ≠ [])
      (same : ∀ address ∈ four, address.isIpv4 = true ∧ address.ip = ip)
      (format : library.isIPv4 ip = true)
      (ports : descriptor.listeningPorts = four.map Address.port)
      (built : Sixes library six sixes) :
      Shape library four six (.tcpv4 descriptor (library.setWanAddress ip) :: sixes)

theorem Sixes.nil (library : IpLocator) : Sixes library [] [] where
  isIpv6 := by simp
  kinds := by simp
  empty := by simp

theorem Sixes.concat {six : List Address}
    {transports : List (TransportDescriptor library.WanAddress)}
    (built : Sixes library six transports) {address : Address} (ipv6 : address.isIpv4 = false)
    (descriptor : TcpTransportDescriptor) :
    Sixes library (six ++ [address]) (transports ++ [.tcpv6 descriptor]) where
  isIpv6 := by
    intro other member
    rcases List.mem_append.mp member with earlier | last
    · exact built.isIpv6 other earlier
    · rw [List.mem_singleton.mp last]
      exact ipv6
  kinds := by
    intro transport member
    rcases List.mem_append.mp member with earlier | last
    · exact built.kinds transport earlier
    · rw [List.mem_singleton.mp last]
      rfl
  empty := by simp

theorem Shape.isIpv4 {four six : List Address}
    {transports : List (TransportDescriptor library.WanAddress)}
    (shape : Shape library four six transports) :
    ∀ address ∈ four, address.isIpv4 = true := by
  intro address member
  cases shape with
  | withoutFour _ => cases member
  | withFour _ same _ _ _ => exact (same address member).1

theorem Shape.sixes {four six : List Address}
    {transports : List (TransportDescriptor library.WanAddress)}
    (shape : Shape library four six transports) : ∃ sixes, Sixes library six sixes := by
  cases shape with
  | withoutFour built => exact ⟨_, built⟩
  | withFour _ _ _ _ built => exact ⟨_, built⟩

/-! ### One address -/

variable (whitelist) in
/-- A TCPv6 address adds a descriptor. -/
theorem addListeningTransport_of_ipv6 (accepts : ¬ tls.RefusesServers)
    (transports : List (TransportDescriptor library.WanAddress)) {address : Address}
    (tcp : address.isTcp = true) (ipv6 : address.isIpv4 = false) (fuel : Nat) :
    ∃ descriptor, addListeningTransport library whitelist tls fuel transports address =
      .ok (transports ++ [.tcpv6 descriptor]) := by
  obtain ⟨descriptor, secured⟩ := TlsConfiguration.exists_secure_server accepts
    ((createTcpDescriptor library.isIPv6 whitelist).addListenerPort address.port)
  refine ⟨descriptor, ?_⟩
  unfold addListeningTransport
  rw [secured, tcp, ipv6]
  rfl

variable (library whitelist) in
/-- The first TCPv4 address, where it is the first address, adds a descriptor. -/
theorem addListeningTransport_of_nil (accepts : ¬ tls.RefusesServers) {address : Address}
    (tcp : address.isTcp = true) (ipv4 : address.isIpv4 = true) :
    ∃ descriptor : TcpTransportDescriptor, descriptor.listeningPorts = [address.port] ∧
      addListeningTransport library whitelist tls 1 [] address =
        .ok [.tcpv4 descriptor (library.setWanAddress address.ip)] := by
  obtain ⟨descriptor, secured⟩ := TlsConfiguration.exists_secure_server accepts
    ((createTcpDescriptor library.isIPv4 whitelist).addListenerPort address.port)
  refine ⟨descriptor, TlsConfiguration.secure_listeningPorts secured, ?_⟩
  unfold addListeningTransport
  rw [findSameWanAddress_succ, tcp, ipv4]
  show (tls.secure _ false).map _ = _
  rw [secured]
  rfl

/-- Where the first descriptor has the WAN address, it gets the port. -/
theorem addListeningTransport_of_same {address : Address} {descriptor : TcpTransportDescriptor}
    {wanAddress : library.WanAddress} {rest : List (TransportDescriptor library.WanAddress)}
    (tcp : address.isTcp = true) (ipv4 : address.isIpv4 = true)
    (same : address.ip = library.getWanAddress wanAddress) :
    addListeningTransport library whitelist tls 1 (.tcpv4 descriptor wanAddress :: rest) address =
      .ok (rest ++ [.tcpv4 (descriptor.addListenerPort address.port) wanAddress]) := by
  unfold addListeningTransport
  rw [findSameWanAddress_succ, tcp, ipv4]
  dsimp only [List.getElem?_cons_zero]
  rw [if_pos same]
  rfl

/-- **Where the first descriptor does not have the WAN address**, the search does not
end. -/
theorem addListeningTransport_of_different {address : Address}
    {transport : TransportDescriptor library.WanAddress}
    {rest : List (TransportDescriptor library.WanAddress)}
    (tcp : address.isTcp = true) (ipv4 : address.isIpv4 = true)
    (different : transport.listensAt library address.ip = false) :
    addListeningTransport library whitelist tls 1 (transport :: rest) address =
      .error .outOfFuel := by
  unfold addListeningTransport
  rw [findSameWanAddress_succ, tcp, ipv4]
  dsimp only [List.getElem?_cons_zero]
  cases transport with
  | udpv4 _ => rfl
  | udpv6 _ => rfl
  | tcpv6 _ => rfl
  | tcpv4 descriptor wanAddress =>
      have other : address.ip ≠ library.getWanAddress wanAddress := by
        intro same
        simp [TransportDescriptor.listensAt, same] at different
      dsimp only
      rw [if_neg other]
      rfl

/-! ### All addresses -/

/-- The descriptors after the addresses that the loop has passed. -/
def Shaped (library : IpLocator) (visited : List Address)
    (transports : List (TransportDescriptor library.WanAddress)) : Prop :=
  ∃ four six, visited = four ++ six ∧ Shape library four six transports

/-- What the loop relies on of its addresses. -/
structure Visitable (library : IpLocator) (addresses : List Address) : Prop where
  valid : ∀ address ∈ addresses, address.isValid library = true
  tcp : ∀ address ∈ addresses, address.isTcp = true
  ordered : addresses.Pairwise fun address other => address.ip ≤ other.ip

theorem Visitable.of_append {addresses others : List Address}
    (visitable : Visitable library (addresses ++ others)) : Visitable library addresses where
  valid address member := visitable.valid address (List.mem_append_left _ member)
  tcp address member := visitable.tcp address (List.mem_append_left _ member)
  ordered := (List.pairwise_append.mp visitable.ordered).1

theorem Visitable.ip_le_last {addresses : List Address} {last : Address}
    (visitable : Visitable library (addresses ++ [last])) {address : Address}
    (member : address ∈ addresses) : address.ip ≤ last.ip :=
  (List.pairwise_append.mp visitable.ordered).2.2 address member last (List.mem_singleton_self _)

theorem not_oneIp_of_ipv6_before {visited : List Address} {address other : Address}
    (visitable : Visitable library (visited ++ [address])) (ipv4 : address.isIpv4 = true)
    (member : other ∈ visited) (ipv6 : other.isIpv4 = false) : ¬ OneIp (visited ++ [address]) := by
  intro oneIp
  have later := oneIp address (List.mem_append_right _ (List.mem_singleton_self _)) ipv4 other
    (List.mem_append_left _ member)
  rw [ipv6, if_neg Bool.false_ne_true] at later
  exact not_le_of_gt later (visitable.ip_le_last member)

theorem not_oneIp_of_other_ip {visited : List Address} {address other : Address}
    (ipv4 : address.isIpv4 = true) (member : other ∈ visited) (otherIpv4 : other.isIpv4 = true)
    (different : address.ip ≠ other.ip) : ¬ OneIp (visited ++ [address]) := by
  intro oneIp
  have same := oneIp address (List.mem_append_right _ (List.mem_singleton_self _)) ipv4 other
    (List.mem_append_left _ member)
  rw [if_pos otherIpv4] at same
  exact different same.symm

/-- A TCPv4 address where no TCPv4 address has been: a TCPv6 descriptor stops the
search. -/
theorem shaped_step_withoutFour (accepts : ¬ tls.RefusesServers) {six : List Address}
    {transports : List (TransportDescriptor library.WanAddress)} {address : Address}
    (built : Sixes library six transports) (visitable : Visitable library (six ++ [address]))
    (ipv4 : address.isIpv4 = true) :
    match addListeningTransport library whitelist tls 1 transports address with
    | .ok built => Shaped library (six ++ [address]) built
    | .error fault => fault = .outOfFuel ∧ ¬ OneIp (six ++ [address]) := by
  have self : address ∈ six ++ [address] := List.mem_append_right _ (List.mem_singleton_self _)
  have tcp := visitable.tcp address self
  cases transports with
  | nil =>
      obtain ⟨descriptor, ports, added⟩ :=
        addListeningTransport_of_nil library whitelist accepts tcp ipv4
      rw [added]
      rw [built.empty.mp rfl]
      refine ⟨[address], [], rfl, .withFour (List.cons_ne_nil _ _) ?_ ?_ ports (Sixes.nil library)⟩
      · intro other member
        rw [List.mem_singleton.mp member]
        exact ⟨ipv4, rfl⟩
      · exact Address.isIPv4_of_isValid (visitable.valid address self) ipv4
  | cons transport rest =>
      have different : transport.listensAt library address.ip = false := by
        have kind := built.kinds transport List.mem_cons_self
        cases transport with
        | tcpv6 _ => rfl
        | udpv4 _ => cases kind
        | udpv6 _ => cases kind
        | tcpv4 _ _ => cases kind
      rw [addListeningTransport_of_different tcp ipv4 different]
      refine ⟨rfl, ?_⟩
      obtain ⟨other, member⟩ := List.exists_mem_of_ne_nil six fun none => by
        cases built.empty.mpr none
      exact not_oneIp_of_ipv6_before visitable ipv4 member (built.isIpv6 other member)

/-- A TCPv4 address where TCPv4 addresses of one ip have been. -/
theorem shaped_step_withFour {four six : List Address}
    {sixes : List (TransportDescriptor library.WanAddress)} {descriptor : TcpTransportDescriptor}
    {ip : String} {address : Address} (nonempty : four ≠ [])
    (same : ∀ other ∈ four, other.isIpv4 = true ∧ other.ip = ip)
    (format : library.isIPv4 ip = true)
    (ports : descriptor.listeningPorts = four.map Address.port) (built : Sixes library six sixes)
    (visitable : Visitable library (four ++ six ++ [address])) (ipv4 : address.isIpv4 = true) :
    match addListeningTransport library whitelist tls 1
      (.tcpv4 descriptor (library.setWanAddress ip) :: sixes) address with
    | .ok built => Shaped library (four ++ six ++ [address]) built
    | .error fault => fault = .outOfFuel ∧ ¬ OneIp (four ++ six ++ [address]) := by
  have self : address ∈ four ++ six ++ [address] :=
    List.mem_append_right _ (List.mem_singleton_self _)
  have tcp := visitable.tcp address self
  have wanAddress := library.getWanAddress_setWanAddress ip format
  obtain ⟨first, firstMember⟩ := List.exists_mem_of_ne_nil four nonempty
  obtain ⟨firstIpv4, firstIp⟩ := same first firstMember
  by_cases sameIp : address.ip = ip
  · rw [addListeningTransport_of_same tcp ipv4 (sameIp.trans wanAddress.symm)]
    -- A TCPv6 address in between would have the same ip.
    have withoutSix : six = [] := by
      by_contra some
      obtain ⟨other, member⟩ := List.exists_mem_of_ne_nil six some
      have between := (List.pairwise_append.mp visitable.of_append.ordered).2.2 first firstMember
        other member
      have last := visitable.ip_le_last (List.mem_append_right four member)
      have equal : address.ip = other.ip :=
        le_antisymm (by rw [sameIp, ← firstIp]; exact between) last
      exact Address.ip_ne_of_isValid (visitable.valid address self) ipv4
        (visitable.valid other (List.mem_append_left _ (List.mem_append_right _ member)))
        (built.isIpv6 other member) equal
    subst withoutSix
    rw [built.empty.mpr rfl, List.append_nil]
    refine ⟨four ++ [address], [], (List.append_nil _).symm, .withFour ?_ ?_ format ?_
      (Sixes.nil library)⟩
    · exact List.append_ne_nil_of_right_ne_nil _ (List.cons_ne_nil _ _)
    · intro other member
      rcases List.mem_append.mp member with earlier | last
      · exact same other earlier
      · rw [List.mem_singleton.mp last]
        exact ⟨ipv4, sameIp⟩
    · rw [List.map_append]
      exact congrArg (· ++ [address.port]) ports
  · have different : TransportDescriptor.listensAt library address.ip
        (.tcpv4 descriptor (library.setWanAddress ip)) = false := by
      show (library.getWanAddress (library.setWanAddress ip) == address.ip) = false
      rw [wanAddress]
      exact beq_false_of_ne (Ne.symm sameIp)
    rw [addListeningTransport_of_different tcp ipv4 different]
    refine ⟨rfl, not_oneIp_of_other_ip ipv4 (List.mem_append_left _ firstMember) firstIpv4 ?_⟩
    rw [firstIp]
    exact sameIp

variable (whitelist) in
/-- **One address**: the descriptors keep their shape, or the search does not end. -/
theorem shaped_step (accepts : ¬ tls.RefusesServers) {visited : List Address}
    {transports : List (TransportDescriptor library.WanAddress)} {address : Address}
    (shaped : Shaped library visited transports)
    (visitable : Visitable library (visited ++ [address])) :
    match addListeningTransport library whitelist tls 1 transports address with
    | .ok built => Shaped library (visited ++ [address]) built
    | .error fault => fault = .outOfFuel ∧ ¬ OneIp (visited ++ [address]) := by
  obtain ⟨four, six, rfl, shape⟩ := shaped
  cases ipv4 : address.isIpv4 with
  | false =>
      have tcp := visitable.tcp address (List.mem_append_right _ (List.mem_singleton_self _))
      obtain ⟨descriptor, added⟩ :=
        addListeningTransport_of_ipv6 whitelist accepts transports tcp ipv4 1
      rw [added]
      refine ⟨four, six ++ [address], List.append_assoc _ _ _, ?_⟩
      cases shape with
      | withoutFour built => exact .withoutFour (built.concat ipv4 descriptor)
      | withFour nonempty same format ports built =>
          exact .withFour nonempty same format ports (built.concat ipv4 descriptor)
  | true =>
      cases shape with
      | withoutFour built => exact shaped_step_withoutFour accepts built visitable ipv4
      | withFour nonempty same format ports built =>
          exact shaped_step_withFour nonempty same format ports built visitable ipv4

variable (whitelist) in
/-- **All addresses**: the descriptors have the shape, or a search does not end. -/
theorem shaped_run (accepts : ¬ tls.RefusesServers) (rest : List Address) {visited : List Address}
    {transports : List (TransportDescriptor library.WanAddress)}
    (shaped : Shaped library visited transports)
    (visitable : Visitable library (visited ++ rest)) :
    match rest.foldlM (addListeningTransport library whitelist tls 1) transports with
    | .ok built => Shaped library (visited ++ rest) built
    | .error fault => fault = .outOfFuel ∧ ¬ OneIp (visited ++ rest) := by
  induction rest generalizing visited transports with
  | nil =>
      rw [List.append_nil]
      exact shaped
  | cons address rest inductionHypothesis =>
      have split : visited ++ address :: rest = visited ++ [address] ++ rest := by simp
      rw [split] at visitable ⊢
      rw [List.foldlM_cons]
      have step := shaped_step whitelist accepts shaped visitable.of_append
      cases added : addListeningTransport library whitelist tls 1 transports address with
      | error fault =>
          rw [added] at step
          exact ⟨step.1, fun oneIp => step.2 oneIp.of_append⟩
      | ok built =>
          rw [added] at step
          exact inductionHypothesis step visitable

/-- Descriptors of the shape are built of addresses with one ip. -/
theorem Shaped.oneIp {addresses : List Address}
    {transports : List (TransportDescriptor library.WanAddress)}
    (shaped : Shaped library addresses transports) (visitable : Visitable library addresses) :
    OneIp addresses := by
  obtain ⟨four, six, rfl, shape⟩ := shaped
  obtain ⟨sixes, built⟩ := shape.sixes
  have four_of_ipv4 : ∀ address ∈ four ++ six, address.isIpv4 = true → address ∈ four := by
    intro address member ipv4
    apply (List.mem_append.mp member).resolve_right
    intro late
    rw [built.isIpv6 address late] at ipv4
    cases ipv4
  intro address member ipv4 other otherMember
  have early := four_of_ipv4 address member ipv4
  cases otherIpv4 : other.isIpv4 with
  | true =>
      rw [if_pos rfl]
      have otherEarly := four_of_ipv4 other otherMember otherIpv4
      cases shape with
      | withoutFour _ => cases early
      | withFour _ same _ _ _ => exact (same other otherEarly).2.trans (same address early).2.symm
  | false =>
      rw [if_neg Bool.false_ne_true]
      have late : other ∈ six := by
        apply (List.mem_append.mp otherMember).resolve_left
        intro otherEarly
        rw [shape.isIpv4 other otherEarly] at otherIpv4
        cases otherIpv4
      apply lt_of_le_of_ne
      · exact (List.pairwise_append.mp visitable.ordered).2.2 address early other late
      · exact Address.ip_ne_of_isValid (visitable.valid address member) ipv4
          (visitable.valid other otherMember) otherIpv4

/-- Descriptors of other kinds are of no TCPv4 ip. -/
theorem filter_listensAt_of_kinds {transports : List (TransportDescriptor library.WanAddress)}
    (kinds : ∀ transport ∈ transports, transport.kind ≠ .tcpv4) (ip : String) :
    transports.filter (TransportDescriptor.listensAt library ip) = [] := by
  apply List.filter_eq_nil_iff.mpr
  intro transport member listens
  cases transport with
  | tcpv4 descriptor wanAddress => exact kinds _ member rfl
  | udpv4 _ => cases listens
  | udpv6 _ => cases listens
  | tcpv6 _ => cases listens

/-- **Descriptors of the shape** have one of each TCPv4 ip, with its ports. -/
theorem Shaped.filter_listensAt {addresses : List Address}
    {transports : List (TransportDescriptor library.WanAddress)}
    (shaped : Shaped library addresses transports) {address : Address}
    (member : address ∈ addresses) (ipv4 : address.isIpv4 = true) :
    ∃ descriptor wanAddress,
      transports.filter (TransportDescriptor.listensAt library address.ip) =
        [.tcpv4 descriptor wanAddress] ∧
      descriptor.listeningPorts = (addresses.filter fun other =>
        other.isIpv4 && other.ip == address.ip).map Address.port := by
  obtain ⟨four, six, rfl, shape⟩ := shaped
  obtain ⟨sixes, built⟩ := shape.sixes
  have early : address ∈ four := by
    apply (List.mem_append.mp member).resolve_right
    intro late
    rw [built.isIpv6 address late] at ipv4
    cases ipv4
  cases shape with
  | withoutFour _ => cases early
  | @withFour _ _ sixes descriptor ip nonempty same format ports built =>
      rw [(same address early).2]
      refine ⟨descriptor, library.setWanAddress ip, ?_, ?_⟩
      · have listens : TransportDescriptor.listensAt library ip
            (.tcpv4 descriptor (library.setWanAddress ip)) = true :=
          beq_iff_eq.mpr (library.getWanAddress_setWanAddress ip format)
        rw [List.filter_cons_of_pos listens, filter_listensAt_of_kinds]
        intro transport sixMember
        rw [built.kinds transport sixMember]
        exact LocatorKind.noConfusion
      · have all : four.filter (fun other => other.isIpv4 && other.ip == ip) = four := by
          apply List.filter_eq_self.mpr
          intro other otherMember
          simp [same other otherMember]
        have none : six.filter (fun other => other.isIpv4 && other.ip == ip) = [] := by
          apply List.filter_eq_nil_iff.mpr
          intro other otherMember
          simp [built.isIpv6 other otherMember]
        rw [List.filter_append, all, none, List.append_nil]
        exact ports

/-! ### The whole computation -/

theorem visitable_validTcpAddresses (library : IpLocator) (listening : AddressSet) :
    Visitable library (validTcpAddresses library listening.addresses) where
  valid _ member := (mem_validTcpAddresses.mp member).2.1
  tcp _ member := (mem_validTcpAddresses.mp member).2.2
  ordered := (listening.ascending.sublist List.filter_sublist).imp Address.ip_le_of_less

/-- Where a TCPv4 address listens, the flags ask for no TCPv4 descriptor. -/
theorem reckonedFlags_asksFor_tcpv4 {listening : List Address} {address : Address}
    (member : address ∈ validTcpAddresses library listening) (ipv4 : address.isIpv4 = true)
    (connections : List Address) :
    (reckonedFlags (listening.filter (Address.isValid library)) connections).asksFor .tcpv4 =
      false := by
  obtain ⟨listens, valid, tcp⟩ := mem_validTcpAddresses.mp member
  have listensTcpv4 : ((listening.filter (Address.isValid library)).any fun address =>
      address.isTcp && address.isIpv4) = true :=
    List.any_eq_true.mpr ⟨address, List.mem_filter.mpr ⟨listens, valid⟩, by rw [tcp, ipv4]; rfl⟩
  unfold reckonedFlags AddressFlags.asksFor
  rw [foldl_markListening, foldl_markConnection]
  dsimp only
  rw [listensTcpv4, Bool.not_true, Bool.and_false]

/-- The descriptors created last are of no TCPv4 ip at which an address listens. -/
theorem filter_listensAt_created {listening connections : List Address} {address : Address}
    (member : address ∈ validTcpAddresses library listening) (ipv4 : address.isIpv4 = true)
    {created : List (TransportDescriptor library.WanAddress)}
    (done : createSpecificDescriptors library whitelist tls
      (reckonedFlags (listening.filter (Address.isValid library)) connections) = .ok created) :
    created.filter (TransportDescriptor.listensAt library address.ip) = [] := by
  apply filter_listensAt_of_kinds
  intro transport created tcpv4
  have asked := (createSpecificDescriptors_kinds done .tcpv4).mp ⟨transport, created, tcpv4⟩
  rw [reckonedFlags_asksFor_tcpv4 member ipv4] at asked
  cases asked

section Reckoned

variable {connections : List Address}
  {attributes : List (TransportDescriptor library.WanAddress) →
    ParticipantAttributes library.WanAddress}

/-- The computation ends, and gives the same, as soon as the listening loop ends. -/
theorem reckonWith_finishes {listening : List Address}
    {loop : Except ReckonFault (List (TransportDescriptor library.WanAddress))}
    (done : (validTcpAddresses library listening).foldlM
      (addListeningTransport library whitelist tls 1) [] = loop)
    (ended : loop ≠ .error .outOfFuel) :
    Finishes (reckonWith library whitelist tls listening connections attributes)
      (reckonWith library whitelist tls listening connections attributes 1) := by
  constructor
  · unfold reckonWith
    rw [done]
    cases loop with
    | error fault => exact fun stuck => ended (congrArg _ (Except.error.inj stuck))
    | ok listened =>
        intro stuck
        cases created : createSpecificDescriptors library whitelist tls
          (reckonedFlags (listening.filter (Address.isValid library)) connections) with
        | error fault =>
            simp only [Except.bind, created, Except.map, Except.error.injEq] at stuck
            exact createSpecificDescriptors_ne_outOfFuel _ (stuck ▸ created)
        | ok created' =>
            simp only [Except.bind, created, Except.map] at stuck
            cases stuck
  · refine ⟨1, fun fuel enough => ?_⟩
    obtain ⟨fuel, rfl⟩ := Nat.exists_eq_add_of_le' enough
    unfold reckonWith
    rw [foldlM_addListeningTransport_succ]

/-- A configuration that refuses servers ends the loop at its first address. -/
theorem foldlM_addListeningTransport_of_refusesServers (refuses : tls.RefusesServers)
    {listening : List Address} {address : Address}
    (member : address ∈ validTcpAddresses library listening) :
    (validTcpAddresses library listening).foldlM
      (addListeningTransport library whitelist tls 1) [] =
        .error (.configurationException "TLS Configuration expected a Server configuration.") := by
  cases tcp : validTcpAddresses library listening with
  | nil =>
      rw [tcp] at member
      cases member
  | cons first rest =>
      have isTcp : first.isTcp = true :=
        (mem_validTcpAddresses.mp (tcp ▸ List.mem_cons_self)).2.2
      have refused := TlsConfiguration.secure_server_of_refusesServers refuses
      rw [List.foldlM_cons]
      unfold addListeningTransport
      rw [findSameWanAddress_succ, isTcp, refused, refused]
      cases first.isIpv4 <;> rfl

theorem buildsOneDescriptorPerIp_of_refusesServers (refuses : tls.RefusesServers)
    (listening : List Address) :
    BuildsOneDescriptorPerIp library listening
      (reckonWith library whitelist tls listening connections attributes) := by
  have refused : ∀ address ∈ validTcpAddresses library listening,
      (validTcpAddresses library listening).foldlM
        (addListeningTransport library whitelist tls 1) [] =
          .error (.configurationException "TLS Configuration expected a Server configuration.") :=
    fun _ => foldlM_addListeningTransport_of_refusesServers refuses
  refine ⟨_, reckonWith_finishes rfl ?_, ?_⟩
  · cases tcp : validTcpAddresses library listening with
    | nil => exact fun stuck => by cases stuck
    | cons first rest =>
        rw [← tcp, refused first (tcp ▸ List.mem_cons_self)]
        exact fun stuck => by cases stuck
  · intro attributes reckoned address member
    unfold reckonWith at reckoned
    rw [refused address member] at reckoned
    cases reckoned

/-- **One descriptor per ip**, for a participant with the attributes. -/
theorem buildsOneDescriptorPerIp_of_reckonWith (listening : AddressSet)
    (transports : ∀ userTransports, (attributes userTransports).userTransports = userTransports) :
    BuildsOneDescriptorPerIp library listening.addresses
        (reckonWith library whitelist tls listening.addresses connections attributes) ↔
      tls.RefusesServers ∨ OneIp (validTcpAddresses library listening.addresses) := by
  by_cases refuses : tls.RefusesServers
  · exact ⟨fun _ => .inl refuses, fun _ => buildsOneDescriptorPerIp_of_refusesServers refuses _⟩
  have visitable := visitable_validTcpAddresses library listening
  have loop := shaped_run whitelist refuses
    (validTcpAddresses library listening.addresses)
    ⟨[], [], rfl, .withoutFour (Sixes.nil library)⟩ visitable
  rw [List.nil_append] at loop
  cases built : (validTcpAddresses library listening.addresses).foldlM
    (addListeningTransport library whitelist tls 1) [] with
  | error fault =>
      rw [built] at loop
      obtain ⟨rfl, different⟩ := loop
      constructor
      · intro ⟨result, ⟨ended, enough, finishes⟩, _⟩
        have stuck := finishes (enough + 1) (Nat.le_succ enough)
        unfold reckonWith at stuck
        rw [foldlM_addListeningTransport_succ, built] at stuck
        exact absurd stuck.symm ended
      · intro condition
        exact absurd (condition.resolve_left refuses) different
  | ok listened =>
      rw [built] at loop
      refine ⟨fun _ => .inr (loop.oneIp visitable), fun _ => ?_⟩
      refine ⟨_, reckonWith_finishes built (fun stuck => by cases stuck), ?_⟩
      intro reckoned computed address member ipv4
      unfold reckonWith at computed
      rw [built] at computed
      cases done : createSpecificDescriptors library whitelist tls (reckonedFlags
        (listening.addresses.filter (Address.isValid library)) connections) with
      | error fault =>
          simp only [Except.bind, done, Except.map] at computed
          cases computed
      | ok created =>
          simp only [Except.bind, done, Except.map] at computed
          cases computed
          rw [transports, List.filter_append, filter_listensAt_created member ipv4 done,
            List.append_nil]
          exact loop.filter_listensAt member ipv4

end Reckoned

end Shape

/-- **One descriptor per ip**: the computation of either participant ends, with one
TCPv4 descriptor for each ip, exactly when the TCPv4 listening addresses have one ip
that comes before those of the TCPv6 ones, or the TLS configuration lets nothing
listen. -/
theorem buildsOneDescriptorPerIp_iff (library : IpLocator)
    (initialPeers : InitialPeersParticipantConfiguration)
    (discoveryServer : DiscoveryServerParticipantConfiguration) :
    (BuildsOneDescriptorPerIp library initialPeers.listeningAddresses.addresses
        (InitialPeersParticipant.reckonParticipantAttributes library initialPeers) ↔
      initialPeers.tlsConfiguration.RefusesServers ∨
        OneIp (validTcpAddresses library initialPeers.listeningAddresses.addresses)) ∧
    (BuildsOneDescriptorPerIp library discoveryServer.listeningAddresses.addresses
        (DiscoveryServerParticipant.reckonParticipantAttributes library discoveryServer) ↔
      discoveryServer.tlsConfiguration.RefusesServers ∨
        OneIp (validTcpAddresses library discoveryServer.listeningAddresses.addresses)) := by
  constructor
  · have computed : InitialPeersParticipant.reckonParticipantAttributes library initialPeers = _ :=
      funext (InitialPeersParticipant.reckonVisiting_eq library initialPeers
        initialPeers.listeningAddresses.addresses initialPeers.connectionAddresses.addresses)
    rw [computed]
    exact buildsOneDescriptorPerIp_of_reckonWith _ fun _ => rfl
  · have computed :
        DiscoveryServerParticipant.reckonParticipantAttributes library discoveryServer = _ :=
      funext (DiscoveryServerParticipant.reckonVisiting_eq library discoveryServer
        discoveryServer.listeningAddresses.addresses discoveryServer.connectionAddresses)
    rw [computed]
    exact buildsOneDescriptorPerIp_of_reckonWith _ fun _ => rfl

/-- A library that tells the formats by their separators. -/
def separatorLocator : IpLocator where
  WanAddress := String
  isIPv4 ip :=
    ip.toList.count '.' == 3 && ip.toList.all fun letter => letter.isDigit || letter == '.'
  isIPv6 ip := ip.toList.any (· == ':')
  noWanAddress := "0.0.0.0"
  setWanAddress := id
  getWanAddress := id
  not_isIPv6_of_isIPv4 := by
    intro ip format
    apply List.any_eq_false.mpr
    intro letter member colon
    have allowed := List.all_eq_true.mp (Bool.and_eq_true_iff.mp format).2 letter member
    rw [beq_iff_eq.mp colon] at allowed
    revert allowed
    decide
  getWanAddress_setWanAddress _ _ := rfl

/-- Two TCPv4 addresses of the local host. -/
def localHostAddresses : AddressSet where
  addresses := [
    { ip := "127.0.0.1", port := 11666, externalPort := 11666, ipVersion := .v4
      transportProtocol := .tcp },
    { ip := "127.0.0.2", port := 11666, externalPort := 11666, ipVersion := .v4
      transportProtocol := .tcp }]
  ascending := by decide +kernel

/-- With two TCPv4 ips, neither computation ends. -/
theorem not_buildsOneDescriptorPerIp :
    ¬ ∀ (library : IpLocator) (initialPeers : InitialPeersParticipantConfiguration)
        (discoveryServer : DiscoveryServerParticipantConfiguration),
      BuildsOneDescriptorPerIp library initialPeers.listeningAddresses.addresses
          (InitialPeersParticipant.reckonParticipantAttributes library initialPeers) ∧
        BuildsOneDescriptorPerIp library discoveryServer.listeningAddresses.addresses
          (DiscoveryServerParticipant.reckonParticipantAttributes library discoveryServer) := by
  intro builds
  let initialPeers : InitialPeersParticipantConfiguration := {
    id := "initial_peers"
    listeningAddresses := localHostAddresses
    connectionAddresses := { addresses := [], ascending := .nil } }
  let discoveryServer : DiscoveryServerParticipantConfiguration := {
    id := "discovery_server"
    discoveryServerGuidPrefix := 1
    listeningAddresses := localHostAddresses
    connectionAddresses := [] }
  have built := (builds separatorLocator initialPeers discoveryServer).1
  have computed :
      InitialPeersParticipant.reckonParticipantAttributes separatorLocator initialPeers = _ :=
    funext (InitialPeersParticipant.reckonVisiting_eq separatorLocator initialPeers
      localHostAddresses.addresses [])
  rw [computed] at built
  have condition :=
    (buildsOneDescriptorPerIp_of_reckonWith localHostAddresses fun _ => rfl).mp built
  revert condition
  decide +kernel

end DdsPipe.Participants
