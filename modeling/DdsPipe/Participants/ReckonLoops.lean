import DdsPipe.Participants.ParticipantAttributes

/-!
Owns what the loops of a computation of attributes leave behind: the listening loop
builds its descriptors apart from the locators and the flags, and a loop over
connections writes locators and flags only.

Does not own: which descriptors are built, and for which addresses.
-/

namespace DdsPipe.Participants

open DdsPipe.Types

/-! ### The loop over the listening addresses -/

section Listening

variable {library : IpLocator} {whitelist : List String} {tls : TlsConfiguration}

/-- The addresses for which the loop looks for a descriptor. -/
def validTcpAddresses (library : IpLocator) (addresses : List Address) : List Address :=
  addresses.filter fun address => address.isValid library && address.isTcp

/-- What the loop writes besides the descriptors. -/
def listenLocators (library : IpLocator) (logicalPort : Address → UInt16)
    (reckoning : Reckoning library.WanAddress) (address : Address) :
    Reckoning library.WanAddress :=
  if !address.isValid library then reckoning
  else
    { params := reckoning.params.pushListening (listeningLocator logicalPort address)
      flags := reckoning.flags.markListening address }

theorem mem_validTcpAddresses {addresses : List Address} {address : Address} :
    address ∈ validTcpAddresses library addresses ↔
      address ∈ addresses ∧ address.isValid library = true ∧ address.isTcp = true := by
  unfold validTcpAddresses
  rw [List.mem_filter, Bool.and_eq_true]

/-- **The search**, however long it goes on, ends at its first descriptor or never. -/
theorem findSameWanAddress_succ (userTransports : List (TransportDescriptor library.WanAddress))
    (ip : String) (it fuel : Nat) :
    findSameWanAddress library userTransports ip it (fuel + 1) =
      match userTransports[it]? with
      | none => .ok none
      | some (.tcpv4 descriptor wanAddress) =>
          if ip = library.getWanAddress wanAddress then
            .ok (some (descriptor, wanAddress, userTransports.eraseIdx it))
          else .error .outOfFuel
      | some _ => .error .outOfFuel := by
  induction fuel with
  | zero => rfl
  | succ fuel inductionHypothesis =>
      rw [findSameWanAddress]
      rw [inductionHypothesis]
      rcases userTransports[it]? with _ | ⟨_⟩ | ⟨_⟩ | ⟨descriptor, wanAddress⟩ | ⟨_⟩
      · rfl
      · rfl
      · rfl
      · dsimp only
        split <;> rfl
      · rfl

theorem addListeningTransport_succ (fuel : Nat)
    (userTransports : List (TransportDescriptor library.WanAddress)) (address : Address) :
    addListeningTransport library whitelist tls (fuel + 1) userTransports address =
      addListeningTransport library whitelist tls 1 userTransports address := by
  unfold addListeningTransport
  rw [findSameWanAddress_succ, findSameWanAddress_succ]

/-- The descriptors that the listening loop builds do not depend on the fuel, as
long as there is some. -/
theorem foldlM_addListeningTransport_succ (fuel : Nat) (addresses : List Address)
    (userTransports : List (TransportDescriptor library.WanAddress)) :
    addresses.foldlM (addListeningTransport library whitelist tls (fuel + 1)) userTransports =
      addresses.foldlM (addListeningTransport library whitelist tls 1) userTransports := by
  have same : addListeningTransport library whitelist tls (fuel + 1) =
      addListeningTransport library whitelist tls 1 := by
    funext userTransports address
    exact addListeningTransport_succ fuel userTransports address
  rw [same]

theorem addListeningTransport_of_udp (fuel : Nat)
    (userTransports : List (TransportDescriptor library.WanAddress)) {address : Address}
    (udp : address.isTcp = false) :
    addListeningTransport library whitelist tls fuel userTransports address =
      .ok userTransports := by
  unfold addListeningTransport
  rw [udp]
  rfl

theorem listenLocators_setUserTransports (logicalPort : Address → UInt16)
    (reckoning : Reckoning library.WanAddress)
    (userTransports : List (TransportDescriptor library.WanAddress)) (address : Address) :
    listenLocators library logicalPort (reckoning.setUserTransports userTransports) address =
      (listenLocators library logicalPort reckoning address).setUserTransports userTransports := by
  unfold listenLocators
  split <;> rfl

theorem foldl_listenLocators_setUserTransports (logicalPort : Address → UInt16)
    (addresses : List Address) (reckoning : Reckoning library.WanAddress)
    (userTransports : List (TransportDescriptor library.WanAddress)) :
    addresses.foldl (listenLocators library logicalPort)
        (reckoning.setUserTransports userTransports) =
      (addresses.foldl (listenLocators library logicalPort) reckoning).setUserTransports
        userTransports := by
  induction addresses generalizing reckoning with
  | nil => rfl
  | cons address rest inductionHypothesis =>
      rw [List.foldl_cons, List.foldl_cons, listenLocators_setUserTransports]
      exact inductionHypothesis _

/-- **The loop over the listening addresses** builds the descriptors apart from the
locators and the flags. -/
theorem foldlM_listen (logicalPort : Address → UInt16) (fuel : Nat) (addresses : List Address)
    (reckoning : Reckoning library.WanAddress) :
    addresses.foldlM (listen library whitelist tls logicalPort fuel) reckoning =
      ((validTcpAddresses library addresses).foldlM
        (addListeningTransport library whitelist tls fuel) reckoning.params.userTransports).map
          (addresses.foldl (listenLocators library logicalPort) reckoning).setUserTransports := by
  induction addresses generalizing reckoning with
  | nil => rfl
  | cons address rest inductionHypothesis =>
      rw [List.foldlM_cons, List.foldl_cons]
      unfold listen listenLocators validTcpAddresses
      cases valid : address.isValid library with
      | false =>
          rw [List.filter_cons_of_neg (by simp [valid])]
          exact inductionHypothesis reckoning
      | true =>
          cases tcp : address.isTcp with
          | false =>
              rw [List.filter_cons_of_neg (by simp [tcp]), addListeningTransport_of_udp _ _ tcp]
              exact inductionHypothesis _
          | true =>
              rw [List.filter_cons_of_pos (by simp [valid, tcp]), List.foldlM_cons]
              cases addListeningTransport library whitelist tls fuel
                reckoning.params.userTransports address with
              | error fault => rfl
              | ok userTransports =>
                  refine (inductionHypothesis _).trans ?_
                  rw [foldl_listenLocators_setUserTransports]
                  rfl

/-- **The locators and the flags** are those of the valid addresses. -/
theorem foldl_listenLocators (logicalPort : Address → UInt16) (addresses : List Address)
    (reckoning : Reckoning library.WanAddress) :
    addresses.foldl (listenLocators library logicalPort) reckoning =
      let valid := addresses.filter (Address.isValid library)
      let locators := valid.map (listeningLocator logicalPort)
      { params := { reckoning.params with
          metatrafficUnicastLocatorList :=
            reckoning.params.metatrafficUnicastLocatorList ++ locators
          defaultUnicastLocatorList := reckoning.params.defaultUnicastLocatorList ++ locators }
        flags := valid.foldl AddressFlags.markListening reckoning.flags } := by
  induction addresses generalizing reckoning with
  | nil => simp
  | cons address rest inductionHypothesis =>
      rw [List.foldl_cons, inductionHypothesis]
      unfold listenLocators
      cases valid : address.isValid library with
      | false => simp [valid]
      | true => simp [valid, ParticipantAttributes.pushListening]

end Listening

/-! ### The loops over the connection addresses -/

section Connections

variable {library : IpLocator}

theorem InitialPeersParticipant.foldl_connect (addresses : List Address)
    (reckoning : Reckoning library.WanAddress) :
    addresses.foldl (connect library) reckoning =
      let valid := addresses.filter (Address.isValid library)
      { params := { reckoning.params with
          initialPeersList := reckoning.params.initialPeersList ++ valid.map connectionLocator }
        flags := valid.foldl AddressFlags.markConnection reckoning.flags } := by
  induction addresses generalizing reckoning with
  | nil => simp
  | cons address rest inductionHypothesis =>
      rw [List.foldl_cons, inductionHypothesis]
      unfold connect
      cases valid : address.isValid library with
      | false => simp [valid]
      | true => simp [valid]

namespace DiscoveryServerParticipant

theorem foldl_connectAddress (serverPrefix : GuidPrefix) (addresses : List Address)
    (reckoning : Reckoning library.WanAddress) :
    addresses.foldl (connectAddress library serverPrefix) reckoning =
      let valid := addresses.filter (Address.isValid library)
      { params := { reckoning.params with
          discoveryServers := reckoning.params.discoveryServers ++
            valid.map (connectionServer serverPrefix) }
        flags := valid.foldl AddressFlags.markConnection reckoning.flags } := by
  induction addresses generalizing reckoning with
  | nil => simp
  | cons address rest inductionHypothesis =>
      rw [List.foldl_cons, inductionHypothesis]
      unfold connectAddress
      cases valid : address.isValid library with
      | false => simp [valid]
      | true => simp [valid]

/-- The addresses of the valid servers that are valid themselves. -/
def validConnectionAddresses (library : IpLocator)
    (servers : List DiscoveryServerConnectionAddress) : List Address :=
  (servers.filter (DiscoveryServerConnectionAddress.isValid library)).flatMap fun server =>
    server.addresses.filter (Address.isValid library)

/-- The remote servers, one for each address. -/
def validConnectionServers (library : IpLocator)
    (servers : List DiscoveryServerConnectionAddress) : List RemoteServerAttributes :=
  (servers.filter (DiscoveryServerConnectionAddress.isValid library)).flatMap fun server =>
    (server.addresses.filter (Address.isValid library)).map
      (connectionServer server.discoveryServerGuidPrefix)

theorem foldl_connect (servers : List DiscoveryServerConnectionAddress)
    (reckoning : Reckoning library.WanAddress) :
    servers.foldl (connect library) reckoning =
      { params := { reckoning.params with
          discoveryServers := reckoning.params.discoveryServers ++
            validConnectionServers library servers }
        flags := (validConnectionAddresses library servers).foldl AddressFlags.markConnection
          reckoning.flags } := by
  induction servers generalizing reckoning with
  | nil => simp [validConnectionServers, validConnectionAddresses]
  | cons server rest inductionHypothesis =>
      rw [List.foldl_cons, inductionHypothesis]
      unfold connect validConnectionServers validConnectionAddresses
      cases valid : server.isValid library with
      | false => simp [valid]
      | true => simp [valid, foldl_connectAddress, List.foldl_append]

end DiscoveryServerParticipant

end Connections

/-! ### The flags -/

def lastUdp (addresses : List Address) : Option Address :=
  (addresses.filter Address.isUdp).getLast?

def lastTcp (addresses : List Address) : Option Address :=
  (addresses.filter Address.isTcp).getLast?

theorem Address.isUdp_eq_not_isTcp (address : Address) : address.isUdp = !address.isTcp := by
  unfold Address.isUdp Address.isTcp
  cases address.transportProtocol <;> rfl

theorem lastUdp_concat (addresses : List Address) (address : Address) :
    lastUdp (addresses ++ [address]) =
      if address.isTcp then lastUdp addresses else some address := by
  unfold lastUdp
  cases tcp : address.isTcp with
  | false => simp [Address.isUdp_eq_not_isTcp, tcp, List.filter_append]
  | true => simp [Address.isUdp_eq_not_isTcp, tcp, List.filter_append]

theorem lastTcp_concat (addresses : List Address) (address : Address) :
    lastTcp (addresses ++ [address]) =
      if address.isTcp then some address else lastTcp addresses := by
  unfold lastTcp
  cases tcp : address.isTcp with
  | false => simp [tcp, List.filter_append]
  | true => simp [tcp, List.filter_append]

/-- **The flags of the listening addresses**: a UDP flag is that of the last UDP
address, a TCP flag stays. -/
theorem foldl_markListening (addresses : List Address) :
    addresses.foldl AddressFlags.markListening {} = {
      hasListeningAddresses := !addresses.isEmpty
      hasListeningTcpIpv4 := addresses.any fun address => address.isTcp && address.isIpv4
      hasListeningTcpIpv6 := addresses.any fun address => address.isTcp && !address.isIpv4
      hasUdpIpv4 := (lastUdp addresses).any Address.isIpv4
      hasUdpIpv6 := (lastUdp addresses).any fun address => !address.isIpv4 } := by
  induction addresses using List.reverseRecOn with
  | nil => rfl
  | append_singleton addresses address inductionHypothesis =>
      rw [List.foldl_concat, inductionHypothesis, lastUdp_concat]
      unfold AddressFlags.markListening
      cases tcp : address.isTcp with
      | false => simp [tcp]
      | true => cases ipv4 : address.isIpv4 <;> simp [tcp, ipv4]

/-- **The flags of the connection addresses** are those of the last one of each
protocol. -/
theorem foldl_markConnection (addresses : List Address) (flags : AddressFlags) :
    addresses.foldl AddressFlags.markConnection flags = { flags with
      hasConnectionTcpIpv4 :=
        ((lastTcp addresses).map Address.isIpv4).getD flags.hasConnectionTcpIpv4
      hasConnectionTcpIpv6 :=
        ((lastTcp addresses).map fun address => !address.isIpv4).getD flags.hasConnectionTcpIpv6
      hasConnectionUdpIpv4 :=
        ((lastUdp addresses).map Address.isIpv4).getD flags.hasConnectionUdpIpv4
      hasConnectionUdpIpv6 :=
        ((lastUdp addresses).map fun address => !address.isIpv4).getD flags.hasConnectionUdpIpv6
      hasUdpIpv4 := ((lastUdp addresses).map Address.isIpv4).getD flags.hasUdpIpv4
      hasUdpIpv6 :=
        ((lastUdp addresses).map fun address => !address.isIpv4).getD flags.hasUdpIpv6 } := by
  induction addresses using List.reverseRecOn with
  | nil => rfl
  | append_singleton addresses address inductionHypothesis =>
      rw [List.foldl_concat, inductionHypothesis, lastUdp_concat, lastTcp_concat]
      unfold AddressFlags.markConnection
      cases tcp : address.isTcp with
      | false => simp
      | true => simp

/-- The flags after both loops, of the valid addresses. -/
def reckonedFlags (listening connections : List Address) : AddressFlags :=
  connections.foldl AddressFlags.markConnection (listening.foldl AddressFlags.markListening {})

/-! ### The descriptors created last -/

/-- The kinds of the descriptors that the flags ask for. -/
def AddressFlags.asksFor (flags : AddressFlags) : LocatorKind → Bool
  | .tcpv4 => flags.hasConnectionTcpIpv4 && !flags.hasListeningTcpIpv4
  | .tcpv6 => flags.hasConnectionTcpIpv6 && !flags.hasListeningTcpIpv6
  | .udpv4 => flags.hasUdpIpv4
  | .udpv6 => flags.hasUdpIpv6

section Created

variable {library : IpLocator} {whitelist : List String} {tls : TlsConfiguration}

theorem createConnectionDescriptor_ne_outOfFuel (needed : Bool) (isCorrect : String → Bool)
    (transport : TcpTransportDescriptor → TransportDescriptor library.WanAddress) :
    createConnectionDescriptor library whitelist tls needed isCorrect transport ≠
      .error .outOfFuel := by
  unfold createConnectionDescriptor
  split
  · cases secured : tls.secure (createTcpDescriptor isCorrect whitelist) true with
    | error fault =>
        intro stuck
        cases stuck
        exact tls.secure_ne_outOfFuel _ _ secured
    | ok descriptor =>
        intro stuck
        cases stuck
  · intro stuck
    cases stuck

theorem createConnectionDescriptor_kinds {needed : Bool} {isCorrect : String → Bool}
    {transport : TcpTransportDescriptor → TransportDescriptor library.WanAddress}
    {created : List (TransportDescriptor library.WanAddress)}
    (done : createConnectionDescriptor library whitelist tls needed isCorrect transport =
      .ok created) {ofTransport : LocatorKind}
    (constant : ∀ descriptor, (transport descriptor).kind = ofTransport) (kind : LocatorKind) :
    (∃ transport ∈ created, transport.kind = kind) ↔ needed = true ∧ ofTransport = kind := by
  unfold createConnectionDescriptor at done
  cases needed with
  | false =>
      cases done
      simp
  | true =>
      rw [if_pos rfl] at done
      cases secured : tls.secure (createTcpDescriptor isCorrect whitelist) true with
      | error fault =>
          rw [secured] at done
          cases done
      | ok descriptor =>
          rw [secured] at done
          cases done
          simp [constant]

theorem createSpecificDescriptors_ne_outOfFuel (flags : AddressFlags) :
    createSpecificDescriptors library whitelist tls flags ≠ .error .outOfFuel := by
  unfold createSpecificDescriptors
  intro stuck
  cases tcpv4 : createConnectionDescriptor library whitelist tls
    (flags.hasConnectionTcpIpv4 && !flags.hasListeningTcpIpv4) library.isIPv4
    fun descriptor => .tcpv4 descriptor library.noWanAddress with
  | error fault =>
      rw [tcpv4] at stuck
      cases stuck
      exact createConnectionDescriptor_ne_outOfFuel _ _ _ tcpv4
  | ok first =>
      rw [tcpv4] at stuck
      cases tcpv6 : createConnectionDescriptor library whitelist tls
        (flags.hasConnectionTcpIpv6 && !flags.hasListeningTcpIpv6) library.isIPv6
        fun descriptor => .tcpv6 descriptor with
      | error fault =>
          rw [tcpv6] at stuck
          cases stuck
          exact createConnectionDescriptor_ne_outOfFuel _ _ _ tcpv6
      | ok second =>
          rw [tcpv6] at stuck
          cases stuck

/-- **The descriptors created last** are of the kinds that the flags ask for. -/
theorem createSpecificDescriptors_kinds {flags : AddressFlags}
    {created : List (TransportDescriptor library.WanAddress)}
    (done : createSpecificDescriptors library whitelist tls flags = .ok created)
    (kind : LocatorKind) :
    (∃ transport ∈ created, transport.kind = kind) ↔ flags.asksFor kind = true := by
  unfold createSpecificDescriptors at done
  cases tcpv4 : createConnectionDescriptor library whitelist tls
    (flags.hasConnectionTcpIpv4 && !flags.hasListeningTcpIpv4) library.isIPv4
    fun descriptor => .tcpv4 descriptor library.noWanAddress with
  | error fault =>
      rw [tcpv4] at done
      cases done
  | ok first =>
      rw [tcpv4] at done
      cases tcpv6 : createConnectionDescriptor library whitelist tls
        (flags.hasConnectionTcpIpv6 && !flags.hasListeningTcpIpv6) library.isIPv6
        fun descriptor => .tcpv6 descriptor with
      | error fault =>
          rw [tcpv6] at done
          cases done
      | ok second =>
          rw [tcpv6] at done
          cases done
          have ofFirst := createConnectionDescriptor_kinds tcpv4 (fun _ => rfl) kind
          have ofSecond := createConnectionDescriptor_kinds tcpv6 (fun _ => rfl) kind
          simp only [List.mem_append, or_and_right, exists_or, ofFirst, ofSecond]
          cases udpv4 : flags.hasUdpIpv4 <;> cases udpv6 : flags.hasUdpIpv6 <;> cases kind <;>
            simp [AddressFlags.asksFor, TransportDescriptor.kind, udpv4, udpv6]

end Created

/-! ### The whole computation -/

section Whole

variable (library : IpLocator)

/-- The attributes of the initial peers participant with the descriptors. -/
def InitialPeersParticipant.attributes (configuration : InitialPeersParticipantConfiguration)
    (listening connections : List Address)
    (userTransports : List (TransportDescriptor library.WanAddress)) :
    ParticipantAttributes library.WanAddress :=
  let valid := listening.filter (Address.isValid library)
  let peers := connections.filter (Address.isValid library)
  let locators := valid.map (listeningLocator fun _ => 0)
  { commonParticipantAttributes library.WanAddress configuration.toParticipantConfiguration with
    useBuiltinTransports := false
    userTransports := userTransports
    metatrafficUnicastLocatorList :=
      locators ++ defaultMetatrafficLocators (reckonedFlags valid peers)
    defaultUnicastLocatorList := locators
    initialPeersList := peers.map connectionLocator }

/-- The attributes of the discovery server participant with the descriptors. -/
def DiscoveryServerParticipant.attributes (configuration : DiscoveryServerParticipantConfiguration)
    (listening : List Address) (connections : List DiscoveryServerConnectionAddress)
    (userTransports : List (TransportDescriptor library.WanAddress)) :
    ParticipantAttributes library.WanAddress :=
  let locators :=
    (listening.filter (Address.isValid library)).map (listeningLocator Address.externalPort)
  { commonParticipantAttributes library.WanAddress configuration.toParticipantConfiguration with
    useBuiltinTransports := false
    userTransports := userTransports
    metatrafficUnicastLocatorList := locators
    defaultUnicastLocatorList := locators
    discoveryProtocol := .server
    discoveryServers := validConnectionServers library connections
    guidPrefix := configuration.discoveryServerGuidPrefix }

/-- Both participants: the descriptors of the listening loop, and those that the flags
ask for. -/
def reckonWith (whitelist : List String) (tls : TlsConfiguration)
    (listening validConnections : List Address)
    (attributes : List (TransportDescriptor library.WanAddress) →
      ParticipantAttributes library.WanAddress) (fuel : Nat) :
    Except ReckonFault (ParticipantAttributes library.WanAddress) :=
  ((validTcpAddresses library listening).foldlM
    (addListeningTransport library whitelist tls fuel) []).bind fun listened =>
      (createSpecificDescriptors library whitelist tls
        (reckonedFlags (listening.filter (Address.isValid library)) validConnections)).map
          fun created => attributes (listened ++ created)

/-- **The computation of the initial peers participant.** -/
theorem InitialPeersParticipant.reckonVisiting_eq
    (configuration : InitialPeersParticipantConfiguration) (listening connections : List Address)
    (fuel : Nat) :
    reckonVisiting library configuration listening connections fuel =
      reckonWith library configuration.whitelist configuration.tlsConfiguration listening
        (connections.filter (Address.isValid library))
        (attributes library configuration listening connections) fuel := by
  unfold reckonVisiting reckonWith
  dsimp only
  rw [foldlM_listen]
  dsimp only [commonParticipantAttributes]
  cases (validTcpAddresses library listening).foldlM (addListeningTransport library
    configuration.whitelist configuration.tlsConfiguration fuel) [] with
  | error fault => rfl
  | ok listened =>
      show reckonConnections _ _ _ _ = _
      unfold reckonConnections
      rw [foldl_connect, foldl_listenLocators]
      rfl

/-- **The computation of the discovery server participant.** -/
theorem DiscoveryServerParticipant.reckonVisiting_eq
    (configuration : DiscoveryServerParticipantConfiguration) (listening : List Address)
    (connections : List DiscoveryServerConnectionAddress) (fuel : Nat) :
    reckonVisiting library configuration listening connections fuel =
      reckonWith library configuration.whitelist configuration.tlsConfiguration listening
        (validConnectionAddresses library connections)
        (attributes library configuration listening connections) fuel := by
  unfold reckonVisiting reckonWith
  dsimp only
  rw [foldlM_listen]
  dsimp only [commonParticipantAttributes]
  cases (validTcpAddresses library listening).foldlM (addListeningTransport library
    configuration.whitelist configuration.tlsConfiguration fuel) [] with
  | error fault => rfl
  | ok listened =>
      show reckonConnections _ _ _ _ = _
      unfold reckonConnections
      rw [foldl_connect, foldl_listenLocators]
      rfl

end Whole

end DdsPipe.Participants
