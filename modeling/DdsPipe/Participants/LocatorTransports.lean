import DdsPipe.Participants.TransportKinds

/-!
Owns the descriptors next to the locators of a participant. The flags of the two loops
keep the version of the last address only, so each locator has a descriptor of its
kind, in any order of the addresses, exactly when no two versions compete for a flag
(`locatorsHaveTransports_iff`).

Does not own: orders of the addresses in which the computation does not end.
-/

namespace DdsPipe.Participants

/-! ### The property -/

/-- The locators of the attributes. -/
def ParticipantAttributes.locators {WanAddress : Type}
    (attributes : ParticipantAttributes WanAddress) :
    List Locator :=
  attributes.defaultUnicastLocatorList ++ attributes.metatrafficUnicastLocatorList ++
    attributes.initialPeersList ++
    attributes.discoveryServers.flatMap RemoteServerAttributes.metatrafficUnicastLocatorList

/-- Each locator has a descriptor of its kind. -/
def CoversLocators {WanAddress : Type} (attributes : ParticipantAttributes WanAddress) : Prop :=
  ∀ locator ∈ attributes.locators, locator.kind ∈ attributes.userTransports.map
    TransportDescriptor.kind

/-- Each locator has a descriptor of its kind, and the descriptors have the same kinds in
every order of the addresses in which the computation ends with attributes. -/
def LocatorsHaveTransports {WanAddress Visit : Type} (reorders : Visit → Visit → Prop)
    (run : Visit → Nat → Except ReckonFault (ParticipantAttributes WanAddress)) (visit : Visit)
    (attributes : ParticipantAttributes WanAddress) : Prop :=
  CoversLocators attributes ∧
    ∀ other reordered, reorders visit other → Finishes (run other) (.ok reordered) →
      ∀ kind, kind ∈ attributes.userTransports.map TransportDescriptor.kind ↔
        kind ∈ reordered.userTransports.map TransportDescriptor.kind

section Visits

variable {library : IpLocator} {whitelist : List String} {tls : TlsConfiguration} {Visit : Type}
  {reorders : Visit → Visit → Prop} {listening connections : Visit → List Address}
  {attributes : Visit → List (TransportDescriptor library.WanAddress) →
    ParticipantAttributes library.WanAddress}

/-- **Locators and descriptors**, for a participant whose visits have listening
addresses and valid connection addresses. -/
theorem locatorsHaveTransports_of_reckonWith
    (transports : ∀ visit userTransports,
      (attributes visit userTransports).userTransports = userTransports)
    (locators : ∀ visit userTransports kind,
      (∃ locator ∈ (attributes visit userTransports).locators, locator.kind = kind) ↔
        kind ∈ kinds ((listening visit).filter (Address.isValid library) ++ connections visit))
    (reordered : ∀ visit other, reorders visit other →
      (listening visit).Perm (listening other) ∧ (connections visit).Perm (connections other))
    (moves : ∀ visit, ∀ address ∈ connections visit, ∃ other rest, reorders visit other ∧
      listening other = listening visit ∧ connections other = rest ++ [address])
    {visit : Visit} {reckoned : ParticipantAttributes library.WanAddress}
    (finished : Finishes (reckonWith library whitelist tls (listening visit) (connections visit)
      (attributes visit)) (.ok reckoned)) :
    LocatorsHaveTransports reorders (fun visit => reckonWith library whitelist tls (listening visit)
        (connections visit) (attributes visit)) visit reckoned ↔
      OneVersionEach ((listening visit).filter (Address.isValid library)) (connections visit) := by
  have done := reckonWith_of_finishes finished
  have built := reckonWith_kinds (transports visit) done
  obtain ⟨listened, created, loop, _, rfl⟩ := reckonWith_ok done
  have covers : CoversLocators (attributes visit (listened ++ created)) ↔
      ∀ kind ∈ kinds ((listening visit).filter (Address.isValid library) ++ connections visit),
        kind ∈ builtKinds ((listening visit).filter (Address.isValid library))
          (connections visit) := by
    constructor
    · intro covered kind needed
      obtain ⟨locator, member, rfl⟩ := (locators visit _ kind).mpr needed
      exact (built _).mp (covered locator member)
    · intro covered locator member
      exact (built _).mpr (covered _ ((locators visit _ _).mp ⟨locator, member, rfl⟩))
  constructor
  · intro ⟨covered, independent⟩
    have all := covers.mp covered
    refine ⟨udp_of_mem_builtKinds all, tcp_of_mem_builtKinds all ?_⟩
    intro address member tcp listens
    obtain ⟨other, rest, reorder, sameListening, moved⟩ := moves visit address member
    have last : lastTcp (connections other) = some address := by
      rw [moved, lastTcp_concat, if_pos tcp]
    refine ⟨connections other, last, ?_⟩
    have asks : ∀ kind : LocatorKind, kind.isTcp = true →
        (reckonedFlags ((listening visit).filter (Address.isValid library))
          (connections other)).asksFor kind = false :=
      fun kind => asksFor_of_lastTcp last listens
    obtain ⟨otherCreated, otherDone⟩ : ∃ otherCreated, createSpecificDescriptors library whitelist
        tls (reckonedFlags ((listening visit).filter (Address.isValid library))
          (connections other)) = .ok otherCreated :=
      exists_createSpecificDescriptors (asks .tcpv4 rfl) (asks .tcpv6 rfl)
    rw [← sameListening] at loop otherDone
    have otherReckoned : reckonWith library whitelist tls (listening other) (connections other)
        (attributes other) 1 = .ok (attributes other (listened ++ otherCreated)) := by
      unfold reckonWith
      rw [loop]
      simp only [Except.bind, otherDone, Except.map]
    have otherFinished : Finishes (reckonWith library whitelist tls (listening other)
        (connections other) (attributes other)) _ :=
      reckonWith_finishes loop (fun stuck => by cases stuck)
    rw [otherReckoned] at otherFinished
    have same := independent other _ reorder otherFinished
    have otherBuilt := reckonWith_kinds (transports other) otherReckoned
    rw [sameListening] at otherBuilt
    intro kind member
    exact (otherBuilt kind).mp ((same kind).mp ((built kind).mpr member))
  · intro each
    refine ⟨covers.mpr fun kind => each.mem_builtKinds, ?_⟩
    intro other otherReckoned reorder otherFinished kind
    have otherBuilt := reckonWith_kinds (transports other) (reckonWith_of_finishes otherFinished)
    obtain ⟨listens, connects⟩ := reordered visit other reorder
    have validListens := listens.filter (Address.isValid library)
    have otherEach := each.of_perm validListens connects
    have sameKinds := (validListens.append connects).map Address.getLocatorKind
    rw [built, otherBuilt]
    constructor
    · intro member
      exact otherEach.mem_builtKinds (sameKinds.mem_iff.mp (mem_kinds_of_mem_builtKinds member))
    · intro member
      exact each.mem_builtKinds (sameKinds.mem_iff.mpr (mem_kinds_of_mem_builtKinds member))

end Visits

theorem listeningLocator_kind (logicalPort : Address → UInt16) (address : Address) :
    (listeningLocator logicalPort address).kind = address.getLocatorKind := by
  unfold listeningLocator
  split <;> rfl

theorem mem_kinds_of_listeningLocator {logicalPort : Address → UInt16} {addresses : List Address}
    {locator : Locator} (member : locator ∈ addresses.map (listeningLocator logicalPort))
    (others : List Address) : locator.kind ∈ kinds (addresses ++ others) := by
  obtain ⟨address, found, rfl⟩ := List.mem_map.mp member
  rw [listeningLocator_kind]
  exact mem_kinds.mpr ⟨address, List.mem_append_left _ found, rfl⟩

/-! ### The initial peers participant -/

namespace InitialPeersParticipant

/-- Without listening addresses there is one empty locator, of the kind of the last UDP
connection. -/
theorem defaultMetatrafficLocators_eq (listening connections : List Address) :
    defaultMetatrafficLocators (reckonedFlags listening connections) =
      if listening = [] then
        (lastUdp connections).toList.map fun last => { kind := last.getLocatorKind }
      else [] := by
  unfold defaultMetatrafficLocators reckonedFlags
  rw [foldl_markListening, foldl_markConnection]
  cases listening with
  | cons first rest => rfl
  | nil =>
      cases found : lastUdp connections with
      | none => rfl
      | some last =>
          simp only [Option.toList_some, List.map_singleton, Option.map_some, Option.getD_some,
            last.getLocatorKind_eq, (isUdp_of_lastUdp found).2]
          by_cases ipv4 : last.isIpv4 = true
          · simp [ipv4]
          · simp [ipv4]

/-- An empty locator has the kind of a connection. -/
theorem kind_of_defaultMetatrafficLocators {listening connections : List Address}
    {locator : Locator}
    (member : locator ∈ defaultMetatrafficLocators (reckonedFlags listening connections)) :
    locator.kind ∈ kinds connections := by
  rw [defaultMetatrafficLocators_eq] at member
  split at member
  · obtain ⟨last, found, rfl⟩ := List.mem_map.mp member
    exact mem_kinds.mpr ⟨last, (isUdp_of_lastUdp (Option.mem_toList.mp found)).1, rfl⟩
  · cases member

/-- Other orders of the listening and of the connection addresses. -/
def Reorders (visit other : List Address × List Address) : Prop :=
  visit.1.Perm other.1 ∧ visit.2.Perm other.2

/-- The kinds of the locators are those of the valid addresses. -/
theorem attributes_locators (library : IpLocator)
    (configuration : InitialPeersParticipantConfiguration) (listening connections : List Address)
    (userTransports : List (TransportDescriptor library.WanAddress)) (kind : LocatorKind) :
    (∃ locator ∈ (attributes library configuration listening connections userTransports).locators,
        locator.kind = kind) ↔
      kind ∈ kinds (listening.filter (Address.isValid library) ++
        connections.filter (Address.isValid library)) := by
  unfold ParticipantAttributes.locators attributes
  simp only [List.mem_append, commonParticipantAttributes, List.flatMap_nil, List.not_mem_nil,
    or_false]
  constructor
  · rintro ⟨locator, (listens | listens | default) | peer, rfl⟩
    · exact mem_kinds_of_listeningLocator listens _
    · exact mem_kinds_of_listeningLocator listens _
    · obtain ⟨address, member, same⟩ := mem_kinds.mp (kind_of_defaultMetatrafficLocators default)
      exact mem_kinds.mpr ⟨address, List.mem_append_right _ member, same⟩
    · obtain ⟨address, member, rfl⟩ := List.mem_map.mp peer
      exact mem_kinds.mpr ⟨address, List.mem_append_right _ member, rfl⟩
  · intro needed
    obtain ⟨address, member, rfl⟩ := mem_kinds.mp needed
    rcases List.mem_append.mp member with listens | peer
    · exact ⟨listeningLocator _ address, .inl (.inl (List.mem_map.mpr ⟨address, listens, rfl⟩)),
        listeningLocator_kind _ address⟩
    · exact ⟨connectionLocator address, .inr (List.mem_map.mpr ⟨address, peer, rfl⟩), rfl⟩

theorem reorders_moves (library : IpLocator) (visit : List Address × List Address)
    (address : Address) (member : address ∈ visit.2.filter (Address.isValid library)) :
    ∃ other rest, Reorders visit other ∧ other.1 = visit.1 ∧
      other.2.filter (Address.isValid library) = rest ++ [address] := by
  obtain ⟨found, valid⟩ := List.mem_filter.mp member
  obtain ⟨earlier, later, split⟩ := List.append_of_mem found
  refine ⟨(visit.1, earlier ++ later ++ [address]),
    (earlier ++ later).filter (Address.isValid library), ⟨List.Perm.refl _, ?_⟩, rfl, ?_⟩
  · rw [split]
    exact (List.perm_middle.trans (List.perm_append_singleton _ _).symm)
  · rw [List.filter_append, List.filter_cons_of_pos valid]
    rfl

end InitialPeersParticipant

/-! ### The discovery server participant -/

namespace DiscoveryServerParticipant

/-- The same servers in another order, and their addresses in other orders. -/
def SameServers (servers others : List DiscoveryServerConnectionAddress) : Prop :=
  ∃ middle, servers.Perm middle ∧ List.Forall₂ (fun server other =>
    server.discoveryServerGuidPrefix = other.discoveryServerGuidPrefix ∧
      server.addresses.Perm other.addresses) middle others

def Reorders (visit other : List Address × List DiscoveryServerConnectionAddress) : Prop :=
  visit.1.Perm other.1 ∧ SameServers visit.2 other.2

/-- The kinds of the locators are those of the valid addresses. -/
theorem attributes_locators (library : IpLocator)
    (configuration : DiscoveryServerParticipantConfiguration) (listening : List Address)
    (connections : List DiscoveryServerConnectionAddress)
    (userTransports : List (TransportDescriptor library.WanAddress)) (kind : LocatorKind) :
    (∃ locator ∈ (attributes library configuration listening connections userTransports).locators,
        locator.kind = kind) ↔
      kind ∈ kinds (listening.filter (Address.isValid library) ++
        validConnectionAddresses library connections) := by
  unfold ParticipantAttributes.locators attributes
  simp only [List.mem_append, commonParticipantAttributes, List.not_mem_nil, or_false, or_self]
  constructor
  · rintro ⟨locator, listens | remote, rfl⟩
    · exact mem_kinds_of_listeningLocator listens _
    · obtain ⟨remoteServer, serverMember, locatorMember⟩ := List.mem_flatMap.mp remote
      obtain ⟨server, found, built⟩ := List.mem_flatMap.mp serverMember
      obtain ⟨address, member, rfl⟩ := List.mem_map.mp built
      rw [List.mem_singleton.mp locatorMember]
      exact mem_kinds.mpr ⟨address, List.mem_append_right _
        (List.mem_flatMap.mpr ⟨server, found, member⟩), rfl⟩
  · intro needed
    obtain ⟨address, member, rfl⟩ := mem_kinds.mp needed
    rcases List.mem_append.mp member with listens | remote
    · exact ⟨listeningLocator _ address, .inl (List.mem_map.mpr ⟨address, listens, rfl⟩),
        listeningLocator_kind _ address⟩
    · obtain ⟨server, found, addressMember⟩ := List.mem_flatMap.mp remote
      refine ⟨_, .inr (List.mem_flatMap.mpr ⟨connectionServer server.discoveryServerGuidPrefix
        address, ?_, List.mem_singleton_self _⟩), rfl⟩
      exact List.mem_flatMap.mpr ⟨server, found, List.mem_map.mpr ⟨address, addressMember, rfl⟩⟩

theorem validConnectionAddresses_of_sameServers {library : IpLocator}
    {servers others : List DiscoveryServerConnectionAddress} (same : SameServers servers others) :
    (validConnectionAddresses library servers).Perm (validConnectionAddresses library others) := by
  obtain ⟨middle, reordered, each⟩ := same
  unfold validConnectionAddresses
  refine ((reordered.filter _).flatMap_right _).trans ?_
  clear reordered
  induction each with
  | nil => exact List.Perm.refl _
  | @cons server other rest otherRest same _ inductionHypothesis =>
      have sameValid : server.isValid library = other.isValid library := by
        unfold DiscoveryServerConnectionAddress.isValid
        rw [same.1, same.2.any_eq]
      cases valid : server.isValid library with
      | false =>
          rw [List.filter_cons_of_neg (by simp [valid]),
            List.filter_cons_of_neg (by simp [← sameValid, valid])]
          exact inductionHypothesis
      | true =>
          rw [List.filter_cons_of_pos valid, List.filter_cons_of_pos (sameValid ▸ valid),
            List.flatMap_cons, List.flatMap_cons]
          exact (same.2.filter _).append inductionHypothesis

theorem reorders_moves (library : IpLocator)
    (visit : List Address × List DiscoveryServerConnectionAddress) (address : Address)
    (member : address ∈ validConnectionAddresses library visit.2) :
    ∃ other rest, Reorders visit other ∧ other.1 = visit.1 ∧
      validConnectionAddresses library other.2 = rest ++ [address] := by
  obtain ⟨server, found, addressMember⟩ := List.mem_flatMap.mp member
  obtain ⟨serverMember, serverValid⟩ := List.mem_filter.mp found
  obtain ⟨addressFound, valid⟩ := List.mem_filter.mp addressMember
  obtain ⟨earlier, later, split⟩ := List.append_of_mem serverMember
  obtain ⟨before, after, addressSplit⟩ := List.append_of_mem addressFound
  let moved : DiscoveryServerConnectionAddress :=
    { server with addresses := before ++ after ++ [address] }
  have same : server.addresses.Perm moved.addresses := by
    rw [addressSplit]
    exact List.perm_middle.trans (List.perm_append_singleton _ _).symm
  have movedValid : moved.isValid library = true := by
    rw [← serverValid]
    unfold DiscoveryServerConnectionAddress.isValid
    rw [same.any_eq]
  refine ⟨(visit.1, earlier ++ later ++ [moved]),
    validConnectionAddresses library (earlier ++ later) ++
      (before ++ after).filter (Address.isValid library), ⟨List.Perm.refl _, ?_⟩, rfl, ?_⟩
  · refine ⟨earlier ++ later ++ [server], ?_, ?_⟩
    · rw [split]
      exact List.perm_middle.trans (List.perm_append_singleton _ _).symm
    · apply List.rel_append
      · exact List.forall₂_same.mpr fun _ _ => ⟨rfl, List.Perm.refl _⟩
      · exact .cons ⟨rfl, same⟩ .nil
  · unfold validConnectionAddresses
    rw [List.filter_append, List.filter_cons_of_pos movedValid, List.flatMap_append,
      List.append_assoc]
    congr 1
    rw [List.filter_nil, List.flatMap_singleton, List.filter_append,
      List.filter_cons_of_pos valid]
    rfl

end DiscoveryServerParticipant

/-! ### Both participants -/

section Participants

variable (library : IpLocator)

theorem InitialPeersParticipant.oneVersionEach_iff
    (configuration : InitialPeersParticipantConfiguration)
    (attributes : ParticipantAttributes library.WanAddress)
    (finished : Finishes (reckonParticipantAttributes library configuration) (.ok attributes)) :
    LocatorsHaveTransports Reorders
        (fun visit => reckonVisiting library configuration visit.1 visit.2)
        (configuration.listeningAddresses.addresses, configuration.connectionAddresses.addresses)
        attributes ↔
      OneVersionEach (configuration.listeningAddresses.addresses.filter (Address.isValid library))
        (configuration.connectionAddresses.addresses.filter (Address.isValid library)) := by
  have computed : (fun visit : List Address × List Address =>
      reckonVisiting library configuration visit.1 visit.2) = _ :=
    funext fun visit => funext fun fuel =>
      reckonVisiting_eq library configuration visit.1 visit.2 fuel
  have visited := congrFun computed
    (configuration.listeningAddresses.addresses, configuration.connectionAddresses.addresses)
  rw [computed]
  refine locatorsHaveTransports_of_reckonWith (fun _ _ => rfl) ?_ ?_ ?_ (visited ▸ finished)
  · exact fun visit => attributes_locators library configuration visit.1 visit.2
  · exact fun visit other reorder => ⟨reorder.1, reorder.2.filter _⟩
  · exact reorders_moves library

theorem DiscoveryServerParticipant.oneVersionEach_iff
    (configuration : DiscoveryServerParticipantConfiguration)
    (attributes : ParticipantAttributes library.WanAddress)
    (finished : Finishes (reckonParticipantAttributes library configuration) (.ok attributes)) :
    LocatorsHaveTransports Reorders
        (fun visit => reckonVisiting library configuration visit.1 visit.2)
        (configuration.listeningAddresses.addresses, configuration.connectionAddresses)
        attributes ↔
      OneVersionEach (configuration.listeningAddresses.addresses.filter (Address.isValid library))
        (validConnectionAddresses library configuration.connectionAddresses) := by
  have computed : (fun visit : List Address × List DiscoveryServerConnectionAddress =>
      reckonVisiting library configuration visit.1 visit.2) = _ :=
    funext fun visit => funext fun fuel =>
      reckonVisiting_eq library configuration visit.1 visit.2 fuel
  have visited := congrFun computed
    (configuration.listeningAddresses.addresses, configuration.connectionAddresses)
  rw [computed]
  refine locatorsHaveTransports_of_reckonWith (fun _ _ => rfl) ?_ ?_ ?_ (visited ▸ finished)
  · exact fun visit => attributes_locators library configuration visit.1 visit.2
  · exact fun visit other reorder => ⟨reorder.1, validConnectionAddresses_of_sameServers reorder.2⟩
  · exact reorders_moves library

/-- **Locators and descriptors**: where the computation of a participant ends with
attributes, each locator has a descriptor of its kind in every order of the addresses,
exactly when no two versions of its valid addresses compete for a flag. -/
theorem locatorsHaveTransports_iff (initialPeers : InitialPeersParticipantConfiguration)
    (discoveryServer : DiscoveryServerParticipantConfiguration) :
    (∀ attributes, Finishes (InitialPeersParticipant.reckonParticipantAttributes library
        initialPeers) (.ok attributes) →
      (LocatorsHaveTransports InitialPeersParticipant.Reorders
        (fun visit => InitialPeersParticipant.reckonVisiting library initialPeers visit.1 visit.2)
        (initialPeers.listeningAddresses.addresses, initialPeers.connectionAddresses.addresses)
        attributes ↔
      OneVersionEach
        (initialPeers.listeningAddresses.addresses.filter (Address.isValid library))
        (initialPeers.connectionAddresses.addresses.filter (Address.isValid library)))) ∧
    (∀ attributes, Finishes (DiscoveryServerParticipant.reckonParticipantAttributes library
        discoveryServer) (.ok attributes) →
      (LocatorsHaveTransports DiscoveryServerParticipant.Reorders
        (fun visit =>
          DiscoveryServerParticipant.reckonVisiting library discoveryServer visit.1 visit.2)
        (discoveryServer.listeningAddresses.addresses, discoveryServer.connectionAddresses)
        attributes ↔
      OneVersionEach
        (discoveryServer.listeningAddresses.addresses.filter (Address.isValid library))
        (DiscoveryServerParticipant.validConnectionAddresses library
          discoveryServer.connectionAddresses))) :=
  ⟨InitialPeersParticipant.oneVersionEach_iff library initialPeers,
    DiscoveryServerParticipant.oneVersionEach_iff library discoveryServer⟩

end Participants

/-- A TCPv4 listening address, a TCPv4 connection and UDPv4 connections. -/
def ipv4Peers : InitialPeersParticipantConfiguration where
  id := "initial_peers"
  listeningAddresses := {
    addresses := [{ ip := "127.0.0.1", port := 11666, externalPort := 11666, ipVersion := .v4
                    transportProtocol := .tcp }]
    ascending := List.pairwise_singleton _ _ }
  connectionAddresses := {
    addresses := [
      { ip := "127.0.0.1", port := 11667, externalPort := 11667, ipVersion := .v4
        transportProtocol := .udp },
      { ip := "127.0.0.2", port := 11667, externalPort := 11667, ipVersion := .v4
        transportProtocol := .udp },
      { ip := "127.0.0.2", port := 11668, externalPort := 11668, ipVersion := .v4
        transportProtocol := .tcp }]
    ascending := by decide +kernel }

/-- A TCPv6 listening address, and a server with a UDPv6 address. -/
def ipv6Server : DiscoveryServerParticipantConfiguration where
  id := "discovery_server"
  discoveryServerGuidPrefix := 1
  listeningAddresses := {
    addresses := [{ ip := "::1", port := 11666, externalPort := 11666, ipVersion := .v6
                    transportProtocol := .tcp }]
    ascending := List.pairwise_singleton _ _ }
  connectionAddresses := [{
    discoveryServerGuidPrefix := 2
    addresses := [{ ip := "::1", port := 11667, externalPort := 11667, ipVersion := .v6
                    transportProtocol := .udp }] }]

/-- A computation that succeeds with some fuel ends with attributes. -/
theorem exists_finishes {library : IpLocator} {whitelist : List String} {tls : TlsConfiguration}
    {listening connections : List Address}
    {attributes : List (TransportDescriptor library.WanAddress) →
      ParticipantAttributes library.WanAddress}
    (run : Nat → Except ReckonFault (ParticipantAttributes library.WanAddress))
    (computed : ∀ fuel,
      run fuel = reckonWith library whitelist tls listening connections attributes fuel)
    (succeeds : (run 1).isOk = true) : ∃ reckoned, Finishes run (.ok reckoned) := by
  cases done : run 1 with
  | error fault =>
      rw [done] at succeeds
      cases succeeds
  | ok reckoned =>
      obtain ⟨listened, created, loop, _⟩ := reckonWith_ok ((computed 1).symm.trans done)
      have finished : Finishes (reckonWith library whitelist tls listening connections attributes)
          _ := reckonWith_finishes loop (fun stuck => by cases stuck)
      rw [← computed 1, done, ← funext computed] at finished
      exact ⟨reckoned, finished⟩

/-- Addresses of one version have descriptors, in both participants. -/
theorem locatorsHaveTransports_iff_versions :
    ∃ peers server,
      LocatorsHaveTransports InitialPeersParticipant.Reorders
        (fun visit =>
          InitialPeersParticipant.reckonVisiting separatorLocator ipv4Peers visit.1 visit.2)
        (ipv4Peers.listeningAddresses.addresses, ipv4Peers.connectionAddresses.addresses) peers ∧
      LocatorsHaveTransports DiscoveryServerParticipant.Reorders
        (fun visit =>
          DiscoveryServerParticipant.reckonVisiting separatorLocator ipv6Server visit.1 visit.2)
        (ipv6Server.listeningAddresses.addresses, ipv6Server.connectionAddresses) server := by
  obtain ⟨peers, peersFinished⟩ := exists_finishes
    (InitialPeersParticipant.reckonParticipantAttributes separatorLocator ipv4Peers)
    (InitialPeersParticipant.reckonVisiting_eq separatorLocator ipv4Peers _ _) (by decide +kernel)
  obtain ⟨server, serverFinished⟩ := exists_finishes
    (DiscoveryServerParticipant.reckonParticipantAttributes separatorLocator ipv6Server)
    (DiscoveryServerParticipant.reckonVisiting_eq separatorLocator ipv6Server _ _)
    (by decide +kernel)
  have both := locatorsHaveTransports_iff separatorLocator ipv4Peers ipv6Server
  exact ⟨peers, server, (both.1 peers peersFinished).mpr ⟨by decide +kernel, by decide +kernel⟩,
    (both.2 server serverFinished).mpr ⟨by decide +kernel, by decide +kernel⟩⟩

/-- UDP listening addresses of both versions. -/
def udpPeers : InitialPeersParticipantConfiguration where
  id := "initial_peers"
  listeningAddresses := {
    addresses := [
      { ip := "127.0.0.1", port := 11666, externalPort := 11666, ipVersion := .v4
        transportProtocol := .udp },
      { ip := "::1", port := 11666, externalPort := 11666, ipVersion := .v6
        transportProtocol := .udp }]
    ascending := by decide +kernel }
  connectionAddresses := { addresses := [], ascending := .nil }

/-- With UDP addresses of both versions, one version has no descriptor. -/
theorem not_locatorsHaveTransports :
    ¬ ∀ (library : IpLocator) (initialPeers : InitialPeersParticipantConfiguration)
        (attributes : ParticipantAttributes library.WanAddress),
      Finishes (InitialPeersParticipant.reckonParticipantAttributes library initialPeers)
          (.ok attributes) →
        LocatorsHaveTransports InitialPeersParticipant.Reorders
          (fun visit =>
            InitialPeersParticipant.reckonVisiting library initialPeers visit.1 visit.2)
          (initialPeers.listeningAddresses.addresses, initialPeers.connectionAddresses.addresses)
          attributes := by
  intro covers
  obtain ⟨attributes, finished⟩ := exists_finishes
    (InitialPeersParticipant.reckonParticipantAttributes separatorLocator udpPeers)
    (InitialPeersParticipant.reckonVisiting_eq separatorLocator udpPeers _ _) (by decide +kernel)
  have each := (InitialPeersParticipant.oneVersionEach_iff separatorLocator udpPeers attributes
    finished).mp (covers separatorLocator udpPeers attributes finished)
  exact each.udp (by decide +kernel) (by decide +kernel)

end DdsPipe.Participants
