import DdsPipe.Participants.LocatorTransports
import DdsPipe.Yaml.ParticipantsReader

/-!
Owns what the documents of the initial peers participant and of the discovery server
participant come to, from the text to the attributes with which they are created.

Of the written addresses the sets keep the first at each place, and the locators are
those of the kept ones that are valid (`announcesWritten_of_read`). Where there is a TLS
section, and only there, the TCP descriptors of a valid configuration apply security,
with the files that the section writes (`securedByDocument_of_read`).

Does not own: the participants that are created.
-/

namespace DdsPipe.Yaml

open DdsPipe.Types DdsPipe.Participants KeyOrder

variable {types : ParticipantTypes} {yml : Node}

/-! ### Addresses under a tag -/

/-- The elements of the list under a tag stand for the items. -/
def Node.Lists {Item : Type} (yml : Node) (tag : String) (stands : Node → Item → Prop)
    (items : List Item) : Prop :=
  ∃ elements, yml.find tag = some (.sequence elements) ∧ List.Forall₂ stands elements items

/-- The addresses that a participant uses: the first of the list at each place, where
it is valid. -/
def Node.UsesAddress (types : ParticipantTypes) (yml : Node) (tag : String) (address : Address) :
    Prop :=
  ∃ addresses, yml.Lists tag (Node.StandsForAddress types) addresses ∧
    IsFirst Address.orderKey addresses address ∧ address.isValid types.library = true

theorem getListInTag_lists {Item : Type} {reader : Reader Item} {stands : Node → Item → Prop}
    {tag : String} (reads : ∀ node item, reader.get node = .ok item ↔ stands node item)
    {items : List Item} :
    getListInTag reader yml tag = .ok items ↔ yml.Lists tag stands items := by
  rw [getListInTag_eq_ok]
  constructor
  · intro ⟨_, found, read⟩
    obtain ⟨elements, rfl, all⟩ := getList_eq_ok.mp read
    exact ⟨elements, found, all.imp fun _ _ => (reads _ _).mp⟩
  · intro ⟨elements, found, all⟩
    exact ⟨_, found, getList_eq_ok.mpr ⟨elements, rfl, all.imp fun _ _ => (reads _ _).mpr⟩⟩

theorem getAddresses_eq_ok {tag : String} {addresses : AddressSet} :
    types.getAddresses yml tag = .ok addresses ↔
      ∃ written, yml.Lists tag (Node.StandsForAddress types) written ∧
        addressSetOf written = addresses := by
  unfold ParticipantTypes.getAddresses
  rw [OrderedMap.map_eq_ok_iff]
  apply exists_congr
  intro written
  rw [getListInTag_lists fun _ _ => getAddress_eq_ok]

theorem mem_addressSetOf {addresses : List Address} {address : Address} :
    address ∈ (addressSetOf addresses).addresses ↔ IsFirst Address.orderKey addresses address :=
  mem_setOf_iff Address.ordersBy_less

/-- What stands under a tag is one thing. -/
theorem Node.Lists.unique {Item : Type} {stands : Node → Item → Prop} {tag : String}
    (one : ∀ node item other, stands node item → stands node other → item = other)
    {items others : List Item} (lists : yml.Lists tag stands items)
    (otherLists : yml.Lists tag stands others) : items = others := by
  obtain ⟨elements, found, all⟩ := lists
  obtain ⟨otherElements, otherFound, otherAll⟩ := otherLists
  rw [found] at otherFound
  cases otherFound
  clear found
  induction all generalizing others with
  | nil =>
      cases otherAll
      rfl
  | cons stood _ inductionHypothesis =>
      cases otherAll with
      | cons otherStood otherRest =>
          rw [one _ _ _ stood otherStood, inductionHypothesis otherRest]

theorem standsForAddress_unique (node : Node) (address other : Address)
    (stands : node.StandsForAddress types address)
    (otherStands : node.StandsForAddress types other) : address = other := by
  have read := getAddress_eq_ok.mpr stands
  rw [getAddress_eq_ok.mpr otherStands] at read
  cases read
  rfl

/-- **The valid addresses of a set that is read** are those that the document uses. -/
theorem mem_filter_isValid_iff {tag : String} {addresses : AddressSet}
    (read : getOptional yml tag types.getAddresses (addressSetOf []) = .ok addresses)
    (address : Address) :
    address ∈ addresses.addresses.filter (Address.isValid types.library) ↔
      yml.UsesAddress types tag address := by
  obtain ⟨_, read⟩ := getOptional_eq_ok.mp read
  rw [List.mem_filter]
  cases found : yml.find tag with
  | none =>
      rw [found, if_neg (by decide)] at read
      subst read
      constructor
      · intro ⟨member, _⟩
        cases member
      · intro ⟨_, ⟨_, otherFound, _⟩, _⟩
        rw [found] at otherFound
        cases otherFound
  | some node =>
      rw [found, Option.isSome_some, if_pos rfl] at read
      obtain ⟨written, lists, rfl⟩ := getAddresses_eq_ok.mp read
      rw [mem_addressSetOf]
      constructor
      · intro ⟨isFirst, valid⟩
        exact ⟨written, lists, isFirst, valid⟩
      · intro ⟨others, otherLists, isFirst, valid⟩
        rw [otherLists.unique standsForAddress_unique lists] at isFirst
        exact ⟨isFirst, valid⟩

/-! ### Remote servers -/

/-- A node is written as a remote server: a guid prefix, and its addresses. -/
structure Node.StandsForServer (types : ParticipantTypes) (version : YamlReaderVersion) (yml : Node)
    (server : DiscoveryServerConnectionAddress) : Prop where
  guidPrefix : yml.WritesServerPrefix types version server.discoveryServerGuidPrefix
  addresses : ∃ written, yml.Lists "addresses" (Node.StandsForAddress types) written ∧
    (addressSetOf written).addresses = server.addresses

/-- The connections that a discovery server uses: a server that is the first at its
places and whose prefix is known, with each of its addresses that is valid. -/
def Node.UsesServer (types : ParticipantTypes) (version : YamlReaderVersion) (yml : Node)
    (guidPrefix : GuidPrefix) (address : Address) : Prop :=
  ∃ servers server, yml.Lists "connection-addresses" (Node.StandsForServer types version) servers ∧
    IsFirst DiscoveryServerConnectionAddress.orderKey servers server ∧
      server.discoveryServerGuidPrefix = guidPrefix ∧ guidPrefix ≠ unknownGuidPrefix ∧
        address ∈ server.addresses ∧ address.isValid types.library = true

theorem getServer_eq_ok {version : YamlReaderVersion} {server : DiscoveryServerConnectionAddress} :
    (types.serverAddressReader version).get yml = .ok server ↔
      yml.StandsForServer types version server := by
  constructor
  · intro read
    obtain ⟨guidPrefix, readPrefix, read⟩ := bind_eq_ok.mp read
    obtain ⟨addresses, readAddresses, rfl⟩ := OrderedMap.map_eq_ok_iff.mp read
    obtain ⟨written, lists, rfl⟩ := getAddresses_eq_ok.mp readAddresses
    exact ⟨getServerGuidPrefix_eq_ok.mp readPrefix, written, lists, rfl⟩
  · intro stands
    obtain ⟨written, lists, kept⟩ := stands.addresses
    apply bind_eq_ok.mpr
    refine ⟨_, getServerGuidPrefix_eq_ok.mpr stands.guidPrefix,
      OrderedMap.map_eq_ok_iff.mpr ?_⟩
    refine ⟨_, getAddresses_eq_ok.mpr ⟨written, lists, rfl⟩, ?_⟩
    rw [kept]

theorem standsForServer_unique {version : YamlReaderVersion} (node : Node)
    (server other : DiscoveryServerConnectionAddress)
    (stands : node.StandsForServer types version server)
    (otherStands : node.StandsForServer types version other) : server = other := by
  have read := getServer_eq_ok.mpr stands
  rw [getServer_eq_ok.mpr otherStands] at read
  cases read
  rfl

theorem isValid_server_iff {library : IpLocator} {server : DiscoveryServerConnectionAddress} :
    server.isValid library = true ↔ server.discoveryServerGuidPrefix ≠ unknownGuidPrefix ∧
      ∃ address ∈ server.addresses, address.isValid library = true := by
  simp [DiscoveryServerConnectionAddress.isValid]

theorem mem_validConnectionServers_iff {library : IpLocator}
    {servers : List DiscoveryServerConnectionAddress} {remote : RemoteServerAttributes} :
    remote ∈ DiscoveryServerParticipant.validConnectionServers library servers ↔
      ∃ server ∈ servers, server.discoveryServerGuidPrefix ≠ unknownGuidPrefix ∧
        ∃ address ∈ server.addresses, address.isValid library = true ∧
          DiscoveryServerParticipant.connectionServer server.discoveryServerGuidPrefix address =
            remote := by
  unfold DiscoveryServerParticipant.validConnectionServers
  simp only [List.mem_flatMap, List.mem_filter, List.mem_map, isValid_server_iff]
  constructor
  · intro ⟨server, ⟨member, known, _⟩, address, ⟨there, valid⟩, same⟩
    exact ⟨server, member, known, address, there, valid, same⟩
  · intro ⟨server, member, known, address, there, valid, same⟩
    exact ⟨server, ⟨member, known, address, there, valid⟩, address, ⟨there, valid⟩, same⟩

/-- **The remote servers** are those that the document uses, one for each address. -/
theorem mem_validConnectionServers_of_read {version : YamlReaderVersion}
    {servers : List DiscoveryServerConnectionAddress}
    (read : getOptional yml "connection-addresses" (types.getServerAddresses version) [] =
      .ok servers) (remote : RemoteServerAttributes) :
    remote ∈ DiscoveryServerParticipant.validConnectionServers types.library servers ↔
      ∃ guidPrefix address, yml.UsesServer types version guidPrefix address ∧
        DiscoveryServerParticipant.connectionServer guidPrefix address = remote := by
  obtain ⟨_, read⟩ := getOptional_eq_ok.mp read
  rw [mem_validConnectionServers_iff]
  cases found : yml.find "connection-addresses" with
  | none =>
      rw [found, if_neg (by decide)] at read
      subst read
      constructor
      · intro ⟨_, member, _⟩
        cases member
      · intro ⟨_, _, ⟨_, _, ⟨_, otherFound, _⟩, _⟩, _⟩
        rw [found] at otherFound
        cases otherFound
  | some node =>
      rw [found, Option.isSome_some, if_pos rfl] at read
      obtain ⟨written, readWritten, rfl⟩ := OrderedMap.map_eq_ok_iff.mp read
      have lists := (getListInTag_lists fun _ _ => getServer_eq_ok).mp readWritten
      constructor
      · intro ⟨server, member, known, address, there, valid, same⟩
        have isFirst := (mem_setOf_iff DiscoveryServerConnectionAddress.ordersBy_less).mp member
        exact ⟨_, address, ⟨written, server, lists, isFirst, rfl, known, there, valid⟩, same⟩
      · intro ⟨guidPrefix, address, uses, same⟩
        obtain ⟨others, server, otherLists, isFirst, rfl, known, there, valid⟩ := uses
        rw [otherLists.unique standsForServer_unique lists] at isFirst
        have member := (mem_setOf_iff DiscoveryServerConnectionAddress.ordersBy_less).mpr isFirst
        exact ⟨server, member, known, address, there, valid, same⟩

/-! ### Announced locators -/

/-- The attributes have the name that is written and announce the listening addresses. -/
structure Node.AnnouncedBy (types : ParticipantTypes) (yml : Node)
    (logicalPort : Address → UInt16)
    (attributes : ParticipantAttributes types.library.WanAddress) : Prop where
  name : yml.find "name" = some (.scalar attributes.name)
  unicast : ∀ locator, locator ∈ attributes.defaultUnicastLocatorList ↔
    ∃ address, yml.UsesAddress types "listening-addresses" address ∧
      listeningLocator logicalPort address = locator

/-- The UDP address that is connected to last: none comes after it. -/
structure Node.ConnectsLast (types : ParticipantTypes) (yml : Node) (address : Address) :
    Prop where
  uses : yml.UsesAddress types "connection-addresses" address
  udp : address.isUdp = true
  last : ∀ other, yml.UsesAddress types "connection-addresses" other → other.isUdp = true →
    address.less other = false

/-- The peers are the connection addresses. Where no listening address is used, the
metatraffic has the default locator of the version of the last UDP connection. -/
structure Node.PeersOf (types : ParticipantTypes) (yml : Node)
    (attributes : ParticipantAttributes types.library.WanAddress) : Prop where
  announces : yml.AnnouncedBy types (fun _ => 0) attributes
  metatraffic : (∃ address, yml.UsesAddress types "listening-addresses" address) →
    attributes.metatrafficUnicastLocatorList = attributes.defaultUnicastLocatorList
  defaultMetatraffic : (¬ ∃ address, yml.UsesAddress types "listening-addresses" address) →
    ∀ locator, locator ∈ attributes.metatrafficUnicastLocatorList ↔
      ∃ address, yml.ConnectsLast types address ∧ { kind := address.getLocatorKind } = locator
  peers : ∀ locator, locator ∈ attributes.initialPeersList ↔
    ∃ address, yml.UsesAddress types "connection-addresses" address ∧
      InitialPeersParticipant.connectionLocator address = locator

/-- The prefix is the written one, and the remote servers are those of the document. -/
structure Node.ServersOf (types : ParticipantTypes) (version : YamlReaderVersion) (yml : Node)
    (attributes : ParticipantAttributes types.library.WanAddress) : Prop where
  announces : yml.AnnouncedBy types Address.externalPort attributes
  metatraffic : attributes.metatrafficUnicastLocatorList = attributes.defaultUnicastLocatorList
  guidPrefix : yml.WritesServerPrefix types version attributes.guidPrefix
  servers : ∀ remote, remote ∈ attributes.discoveryServers ↔
    ∃ guidPrefix address, yml.UsesServer types version guidPrefix address ∧
      DiscoveryServerParticipant.connectionServer guidPrefix address = remote

theorem exists_attributes_of_reckonWith {library : IpLocator} {whitelist : List String}
    {tls : TlsConfiguration} {listening connections : List Address}
    {attributes : List (TransportDescriptor library.WanAddress) →
      ParticipantAttributes library.WanAddress}
    {fuel : Nat} {reckoned : ParticipantAttributes library.WanAddress}
    (done : reckonWith library whitelist tls listening connections attributes fuel = .ok reckoned) :
    ∃ userTransports, attributes userTransports = reckoned := by
  obtain ⟨listened, _, done⟩ := OrderedMap.bind_eq_ok_iff.mp done
  obtain ⟨created, _, same⟩ := OrderedMap.map_eq_ok_iff.mp done
  exact ⟨_, same⟩

theorem name_of_getSimpleParticipant {defaultTopicQos : Option (TopicQoS FuzzyLevelValues)}
    {simple : SimpleParticipantConfiguration}
    (read : types.getSimpleParticipant defaultTopicQos yml = .ok simple) :
    yml.find "name" = some (.scalar simple.id) := by
  obtain ⟨id, readId, read⟩ := OrderedMap.bind_eq_ok_iff.mp read
  obtain ⟨_, _, read⟩ := OrderedMap.bind_eq_ok_iff.mp read
  obtain ⟨_, _, read⟩ := OrderedMap.bind_eq_ok_iff.mp read
  obtain ⟨_, _, read⟩ := OrderedMap.bind_eq_ok_iff.mp read
  obtain ⟨_, _, read⟩ := OrderedMap.bind_eq_ok_iff.mp read
  obtain ⟨_, _, read⟩ := OrderedMap.bind_eq_ok_iff.mp read
  cases read
  exact getInTag_string.mp readId

/-- The locators of the valid addresses of a set that is read. -/
theorem mem_map_filter_iff {tag : String} {addresses : AddressSet}
    (read : getOptional yml tag types.getAddresses (addressSetOf []) = .ok addresses)
    (toLocator : Address → Locator) (locator : Locator) :
    locator ∈ (addresses.addresses.filter (Address.isValid types.library)).map toLocator ↔
      ∃ address, yml.UsesAddress types tag address ∧ toLocator address = locator := by
  rw [List.mem_map]
  apply exists_congr
  intro address
  rw [mem_filter_isValid_iff read]

section Announced

variable {defaultTopicQos : Option (TopicQoS FuzzyLevelValues)}

/-- What is read of an initial peers participant. -/
structure ReadsInitialPeers (types : ParticipantTypes) (yml : Node)
    (configuration : InitialPeersParticipantConfiguration) : Prop where
  name : yml.find "name" = some (.scalar configuration.id)
  listening : getOptional yml "listening-addresses" types.getAddresses (addressSetOf []) =
    .ok configuration.listeningAddresses
  connections : getOptional yml "connection-addresses" types.getAddresses (addressSetOf []) =
    .ok configuration.connectionAddresses
  tls : types.getTls yml = .ok configuration.tlsConfiguration

theorem readsInitialPeers_of_read {read : ReadParticipant InitialPeersParticipantConfiguration}
    (done : types.getInitialPeersParticipant defaultTopicQos yml = .ok read) :
    ReadsInitialPeers types yml read.configuration := by
  obtain ⟨simple, readSimple, done⟩ := OrderedMap.bind_eq_ok_iff.mp done
  obtain ⟨_, _, done⟩ := OrderedMap.bind_eq_ok_iff.mp done
  obtain ⟨listening, readListening, done⟩ := OrderedMap.bind_eq_ok_iff.mp done
  obtain ⟨connections, readConnections, done⟩ := OrderedMap.bind_eq_ok_iff.mp done
  obtain ⟨tls, readTls, done⟩ := OrderedMap.bind_eq_ok_iff.mp done
  obtain ⟨_, _, done⟩ := OrderedMap.bind_eq_ok_iff.mp done
  cases done
  exact ⟨name_of_getSimpleParticipant readSimple, readListening, readConnections, readTls⟩

/-- What is read of a discovery server participant. -/
structure ReadsDiscoveryServer (types : ParticipantTypes) (version : YamlReaderVersion) (yml : Node)
    (configuration : DiscoveryServerParticipantConfiguration) : Prop where
  name : yml.find "name" = some (.scalar configuration.id)
  guidPrefix : types.getServerGuidPrefix version yml = .ok configuration.discoveryServerGuidPrefix
  listening : getOptional yml "listening-addresses" types.getAddresses (addressSetOf []) =
    .ok configuration.listeningAddresses
  connections : getOptional yml "connection-addresses" (types.getServerAddresses version) [] =
    .ok configuration.connectionAddresses
  tls : types.getTls yml = .ok configuration.tlsConfiguration

theorem readsDiscoveryServer_of_read {version : YamlReaderVersion}
    {read : ReadParticipant DiscoveryServerParticipantConfiguration}
    (done : types.getDiscoveryServerParticipant version defaultTopicQos yml = .ok read) :
    ReadsDiscoveryServer types version yml read.configuration := by
  obtain ⟨simple, readSimple, done⟩ := OrderedMap.bind_eq_ok_iff.mp done
  obtain ⟨_, _, done⟩ := OrderedMap.bind_eq_ok_iff.mp done
  obtain ⟨listening, readListening, done⟩ := OrderedMap.bind_eq_ok_iff.mp done
  obtain ⟨connections, readConnections, done⟩ := OrderedMap.bind_eq_ok_iff.mp done
  obtain ⟨tls, readTls, done⟩ := OrderedMap.bind_eq_ok_iff.mp done
  obtain ⟨guidPrefix, readPrefix, done⟩ := OrderedMap.bind_eq_ok_iff.mp done
  cases done
  exact ⟨name_of_getSimpleParticipant readSimple, readPrefix, readListening, readConnections,
    readTls⟩

/-- No valid listening address is left where the document uses none. -/
theorem filter_isValid_eq_nil_iff {tag : String} {addresses : AddressSet}
    (read : getOptional yml tag types.getAddresses (addressSetOf []) = .ok addresses) :
    addresses.addresses.filter (Address.isValid types.library) = [] ↔
      ¬ ∃ address, yml.UsesAddress types tag address := by
  rw [List.eq_nil_iff_forall_not_mem, not_exists]
  apply forall_congr'
  intro address
  rw [mem_filter_isValid_iff read]

/-- The last of the valid UDP connections. -/
theorem lastUdp_eq_some_iff {addresses : AddressSet}
    (read : getOptional yml "connection-addresses" types.getAddresses (addressSetOf []) =
      .ok addresses) (address : Address) :
    lastUdp (addresses.addresses.filter (Address.isValid types.library)) = some address ↔
      yml.ConnectsLast types address := by
  have ascending : Ascending Address.orderKey
      ((addresses.addresses.filter (Address.isValid types.library)).filter Address.isUdp) := by
    apply ((addresses.ascending.filter _).filter _).imp
    intro first second before
    exact (Address.ordersBy_less first second).mp before
  unfold lastUdp
  rw [getLast?_eq_some_iff Address.ordersBy_less ascending, List.mem_filter,
    mem_filter_isValid_iff read]
  constructor
  · intro ⟨⟨uses, udp⟩, last⟩
    refine ⟨uses, udp, fun other otherUses otherUdp => last other ?_⟩
    exact List.mem_filter.mpr ⟨(mem_filter_isValid_iff read other).mpr otherUses, otherUdp⟩
  · intro ⟨uses, udp, last⟩
    refine ⟨⟨uses, udp⟩, fun other member => ?_⟩
    obtain ⟨there, otherUdp⟩ := List.mem_filter.mp member
    exact last other ((mem_filter_isValid_iff read other).mp there) otherUdp

theorem peersOf_of_readsInitialPeers {configuration : InitialPeersParticipantConfiguration}
    (reads : ReadsInitialPeers types yml configuration) {fuel : Nat}
    {attributes : ParticipantAttributes types.library.WanAddress}
    (reckoned : InitialPeersParticipant.reckonParticipantAttributes types.library configuration
      fuel = .ok attributes) : yml.PeersOf types attributes := by
  unfold InitialPeersParticipant.reckonParticipantAttributes at reckoned
  rw [InitialPeersParticipant.reckonVisiting_eq] at reckoned
  obtain ⟨userTransports, rfl⟩ := exists_attributes_of_reckonWith reckoned
  have listens := filter_isValid_eq_nil_iff reads.listening
  refine ⟨⟨reads.name, mem_map_filter_iff reads.listening _⟩, ?_, ?_,
    mem_map_filter_iff reads.connections _⟩
  · intro uses
    show _ ++ InitialPeersParticipant.defaultMetatrafficLocators _ = _
    rw [InitialPeersParticipant.defaultMetatrafficLocators_eq,
      if_neg fun none => listens.mp none uses]
    exact List.append_nil _
  · intro unused locator
    show locator ∈ _ ++ InitialPeersParticipant.defaultMetatrafficLocators _ ↔ _
    rw [InitialPeersParticipant.defaultMetatrafficLocators_eq, listens.mpr unused, if_pos rfl,
      List.map_nil, List.nil_append, List.mem_map]
    apply exists_congr
    intro address
    rw [Option.mem_toList, lastUdp_eq_some_iff reads.connections]

theorem serversOf_of_readsDiscoveryServer {version : YamlReaderVersion}
    {configuration : DiscoveryServerParticipantConfiguration}
    (reads : ReadsDiscoveryServer types version yml configuration) {fuel : Nat}
    {attributes : ParticipantAttributes types.library.WanAddress}
    (reckoned : DiscoveryServerParticipant.reckonParticipantAttributes types.library configuration
      fuel = .ok attributes) : yml.ServersOf types version attributes := by
  unfold DiscoveryServerParticipant.reckonParticipantAttributes at reckoned
  rw [DiscoveryServerParticipant.reckonVisiting_eq] at reckoned
  obtain ⟨userTransports, rfl⟩ := exists_attributes_of_reckonWith reckoned
  exact ⟨⟨reads.name, mem_map_filter_iff reads.listening _⟩, rfl,
    getServerGuidPrefix_eq_ok.mp reads.guidPrefix,
    mem_validConnectionServers_of_read reads.connections⟩

/-- **What is written is announced.** The locators of a participant that is read from a
document are those of the addresses in the document: of the addresses at one place the
first, where it is valid. -/
theorem announcesWritten_of_read (fuel : Nat) :
    (∀ read, types.getInitialPeersParticipant defaultTopicQos yml = .ok read →
      ∀ attributes, InitialPeersParticipant.reckonParticipantAttributes types.library
        read.configuration fuel = .ok attributes → yml.PeersOf types attributes) ∧
    ∀ version read, types.getDiscoveryServerParticipant version defaultTopicQos yml = .ok read →
      ∀ attributes, DiscoveryServerParticipant.reckonParticipantAttributes types.library
        read.configuration fuel = .ok attributes → yml.ServersOf types version attributes := by
  constructor
  · intro read done attributes reckoned
    exact peersOf_of_readsInitialPeers (readsInitialPeers_of_read done) reckoned
  · intro version read done attributes reckoned
    exact serversOf_of_readsDiscoveryServer (readsDiscoveryServer_of_read done) reckoned

end Announced

/-! ### TLS -/

/-- The text under a tag, empty where there is none. -/
def Node.textUnder (yml : Node) (tag : String) : String :=
  ((yml.find tag).bind Node.text?).getD ""

/-- Peers are verified unless the section says that they are not. -/
def Node.verifiesPeers (types : ParticipantTypes) (yml : Node) : Bool :=
  ((yml.find "peer_verification").bind Node.text?).all fun text =>
    decide (types.qos.bool.parse text = .ok true)

/-- The files of the section are those of the configuration. -/
structure Node.WritesTls (types : ParticipantTypes) (yml : Node) (tls : TlsConfiguration) :
    Prop where
  privateKeyFile : tls.privateKeyFile = yml.textUnder "private_key"
  privateKeyFilePassword : tls.privateKeyFilePassword = yml.textUnder "password"
  certificateAuthorityFile : tls.certificateAuthorityFile = yml.textUnder "ca"
  certificateChainFile : tls.certificateChainFile = yml.textUnder "cert"
  sniServerName : tls.sniServerName = yml.textUnder "sni_host"
  dhParamsFile : tls.dhParamsFile = yml.textUnder "dh_params"
  verifyPeer : tls.verifyPeer = yml.verifiesPeers types

theorem textUnder_of_getOptional {tag text : String}
    (read : getOptional yml tag (getInTag types.printed.string) "" = .ok text) :
    text = yml.textUnder tag := by
  obtain ⟨_, read⟩ := getOptional_eq_ok.mp read
  unfold Node.textUnder
  cases found : yml.find tag with
  | none =>
      rw [found, if_neg (by decide)] at read
      exact read
  | some node =>
      rw [found, Option.isSome_some, if_pos rfl, getInTag_text?, found] at read
      rw [read]
      rfl

theorem verifiesPeers_of_getOptional {verifyPeer : Bool}
    (read : getOptional yml "peer_verification" (getInTag (scalarReader types.qos.bool)) true =
      .ok verifyPeer) : verifyPeer = yml.verifiesPeers types := by
  obtain ⟨_, read⟩ := getOptional_eq_ok.mp read
  unfold Node.verifiesPeers
  cases found : yml.find "peer_verification" with
  | none =>
      rw [found, if_neg (by decide)] at read
      exact read
  | some node =>
      rw [found, Option.isSome_some, if_pos rfl] at read
      obtain ⟨_, isFound, read⟩ := getInTag_eq_ok.mp read
      rw [found] at isFound
      cases isFound
      obtain ⟨text, rfl, parsed⟩ := getScalar_eq_ok.mp read
      simp [Node.text?, parsed]

/-- The sides that a configuration has are those that its files are enough for. -/
theorem chooseTlsKind_ok {object tls : TlsConfiguration}
    (chosen : types.chooseTlsKind object = .ok tls) :
    tls.isActive = true ∧ tls.isValid = .ok () ∧ ∃ kind, tls = { object with kind := kind } := by
  unfold ParticipantTypes.chooseTlsKind at chosen
  cases both : object.isValidBoth with
  | ok _ =>
      rw [both] at chosen
      cases chosen
      exact ⟨rfl, both, _, rfl⟩
  | error _ =>
      cases client : object.isValidClient with
      | ok _ =>
          rw [both, client] at chosen
          cases chosen
          exact ⟨rfl, client, _, rfl⟩
      | error _ =>
          cases server : object.isValidServer with
          | ok _ =>
              rw [both, client, server] at chosen
              cases chosen
              exact ⟨rfl, server, _, rfl⟩
          | error _ =>
              rw [both, client, server] at chosen
              cases chosen

/-- **A TLS section** makes an active and valid configuration, with what it writes. -/
theorem fillTls_ok {tls : TlsConfiguration} (read : types.fillTls {} yml = .ok tls) :
    tls.isActive = true ∧ tls.isValid = .ok () ∧ yml.WritesTls types tls := by
  obtain ⟨object, readFiles, chosen⟩ := bind_eq_ok.mp read
  obtain ⟨active, valid, kind, rfl⟩ := chooseTlsKind_ok chosen
  refine ⟨active, valid, ?_⟩
  obtain ⟨_, readKey, readFiles⟩ := OrderedMap.bind_eq_ok_iff.mp readFiles
  obtain ⟨_, readPassword, readFiles⟩ := OrderedMap.bind_eq_ok_iff.mp readFiles
  obtain ⟨_, readAuthority, readFiles⟩ := OrderedMap.bind_eq_ok_iff.mp readFiles
  obtain ⟨_, readChain, readFiles⟩ := OrderedMap.bind_eq_ok_iff.mp readFiles
  obtain ⟨_, readName, readFiles⟩ := OrderedMap.bind_eq_ok_iff.mp readFiles
  obtain ⟨_, readParams, readFiles⟩ := OrderedMap.bind_eq_ok_iff.mp readFiles
  obtain ⟨_, readVerify, readFiles⟩ := OrderedMap.bind_eq_ok_iff.mp readFiles
  cases readFiles
  exact ⟨textUnder_of_getOptional readKey, textUnder_of_getOptional readPassword,
    textUnder_of_getOptional readAuthority, textUnder_of_getOptional readChain,
    textUnder_of_getOptional readName, textUnder_of_getOptional readParams,
    verifiesPeers_of_getOptional readVerify⟩

/-- What a section gives to a TCP descriptor: the files of a server, if it listens, and
a verified server, if it only connects. -/
structure Node.SecuresTcp (types : ParticipantTypes) (yml : Node)
    (descriptor : TcpTransportDescriptor) : Prop where
  noSslv2 : .noSslv2 ∈ descriptor.tlsConfig.options
  verifies : yml.verifiesPeers types = true → .verifyPeer ∈ descriptor.tlsConfig.verifyMode ∧
    .verifyNone ∉ descriptor.tlsConfig.verifyMode
  listens : descriptor.listeningPorts ≠ [] →
    descriptor.tlsConfig.privateKeyFile = yml.textUnder "private_key" ∧
      descriptor.tlsConfig.password = yml.textUnder "password" ∧
        descriptor.tlsConfig.certChainFile = yml.textUnder "cert" ∧
          descriptor.tlsConfig.tmpDhFile = yml.textUnder "dh_params"
  written : descriptor.listeningPorts ≠ [] → yml.textUnder "private_key" ≠ "" ∧
    yml.textUnder "cert" ≠ "" ∧ yml.textUnder "dh_params" ≠ ""
  connects : descriptor.listeningPorts = [] →
    descriptor.tlsConfig.verifyFile = yml.textUnder "ca" ∧
      descriptor.tlsConfig.serverName = yml.textUnder "sni_host" ∧
        (yml.verifiesPeers types = true → yml.textUnder "ca" ≠ "" ∧
          .verifyFailIfNoPeerCert ∈ descriptor.tlsConfig.verifyMode)

/-- Of a computation of attributes: no exception, and a TCP descriptor applies security
where the document has a TLS section, and nowhere else, as the section writes. -/
def Node.SecuredBy (types : ParticipantTypes) (yml : Node)
    (result : Except ReckonFault (ParticipantAttributes types.library.WanAddress)) : Prop :=
  (∀ message, result ≠ .error (.configurationException message)) ∧
    ∀ reckoned, result = .ok reckoned → ∀ transport ∈ reckoned.userTransports,
      ∀ descriptor ∈ transport.tcp?,
        descriptor.applySecurity = (yml.find "tls").isSome ∧
          ∀ tls, yml.find "tls" = some tls → tls.SecuresTcp types descriptor

theorem securesTcp_of_suits {tls : TlsConfiguration} {descriptor : TcpTransportDescriptor}
    (active : tls.isActive = true) (valid : tls.isValid = .ok ()) (writes : yml.WritesTls types tls)
    (suits : tls.Suits descriptor) : yml.SecuresTcp types descriptor := by
  have secures := suits.secures active
  obtain ⟨clientFiles, serverFiles⟩ := tls.isValid_eq_ok.mp valid
  constructor
  · exact secures.noSslv2
  · intro verifies
    apply secures.verifies
    rw [writes.verifyPeer, verifies]
  · intro listens
    obtain ⟨_, privateKey, password, chain, params⟩ := secures.listens listens
    rw [privateKey, password, chain, params, writes.privateKeyFile, writes.privateKeyFilePassword,
      writes.certificateChainFile, writes.dhParamsFile]
    exact ⟨rfl, rfl, rfl, rfl⟩
  · intro listens
    have files := serverFiles (secures.listens listens).1
    rw [← writes.privateKeyFile, ← writes.certificateChainFile, ← writes.dhParamsFile]
    exact ⟨files.privateKey, files.certificateChain, files.dhParams⟩
  · intro connects
    obtain ⟨client, fails⟩ := secures.connects connects
    obtain ⟨authority, name⟩ := secures.client client
    rw [authority, name, writes.certificateAuthorityFile, writes.sniServerName]
    refine ⟨rfl, rfl, ?_⟩
    intro verifies
    rw [← writes.verifyPeer] at verifies
    rw [← writes.certificateAuthorityFile]
    exact ⟨clientFiles client verifies, fails verifies⟩

/-- What keeps a configuration that is read keeps the section. -/
theorem securedBy_of_keptBy {tls : TlsConfiguration} (read : types.getTls yml = .ok tls)
    {result : Except ReckonFault (ParticipantAttributes types.library.WanAddress)}
    (kept : tls.KeptBy result) : yml.SecuredBy types result := by
  refine ⟨kept.1, ?_⟩
  intro reckoned done transport member descriptor isTcp
  have suits := kept.2 reckoned done transport member descriptor isTcp
  obtain ⟨_, read⟩ := getOptional_eq_ok.mp read
  cases found : yml.find "tls" with
  | none =>
      rw [found, if_neg (by decide)] at read
      rw [read] at suits
      exact ⟨suits.applies, fun _ none => by cases none⟩
  | some node =>
      rw [found, Option.isSome_some, if_pos rfl, bind_eq_ok] at read
      obtain ⟨_, isFound, read⟩ := read
      rw [getValueInTag_eq_ok, found] at isFound
      cases isFound
      obtain ⟨active, valid, writes⟩ := fillTls_ok read
      refine ⟨suits.applies.trans active, ?_⟩
      intro other same
      cases same
      exact securesTcp_of_suits active valid writes suits

/-- **A TLS section is applied.** Where a participant that is read from a document is
valid, its attributes are computed without an exception, and its TCP descriptors apply
security as the TLS section of the document writes, and only if it has one. -/
theorem securedByDocument_of_read {defaultTopicQos : Option (TopicQoS FuzzyLevelValues)}
    (printer : ErrorPrinter) (fuel : Nat) :
    (∀ read, types.getInitialPeersParticipant defaultTopicQos yml = .ok read →
      read.configuration.isValid types.library printer read.simple.domainId = .ok () →
        yml.SecuredBy types (InitialPeersParticipant.reckonParticipantAttributes types.library
          read.configuration fuel)) ∧
    ∀ version read, types.getDiscoveryServerParticipant version defaultTopicQos yml = .ok read →
      read.configuration.isValid types.library printer read.simple.domainId = .ok () →
        yml.SecuredBy types (DiscoveryServerParticipant.reckonParticipantAttributes types.library
          read.configuration fuel) := by
  constructor
  · intro read done valid
    exact securedBy_of_keptBy (readsInitialPeers_of_read done).tls
      (InitialPeersParticipant.keptBy_of_isValid valid fuel)
  · intro version read done valid
    exact securedBy_of_keptBy (readsDiscoveryServer_of_read done).tls
      (DiscoveryServerParticipant.keptBy_of_isValid valid fuel)

/-! ### A document -/

def plainParticipantTypes : ParticipantTypes where
  printed := ⟨"string", "RoutesConfiguration", DdsTopic.topicName⟩
  qos := plainTypes
  port := ⟨"uint16", fun text =>
    if text = "5100" then .ok 5100 else if text = "5101" then .ok 5101 else .error "bad conversion"⟩
  domainId := ⟨"uint32", fun _ => .ok 0⟩
  serverId := ⟨"uint32", fun _ => .ok 0⟩
  ipVersionName := "IpVersion"
  transportProtocolName := "TransportProtocol"
  transportDescriptorsName := "TransportDescriptors"
  ignoreParticipantFlagsName := "IgnoreParticipantFlags"
  domainIdName := "DomainId"
  portName := "uint16"
  guidPrefixName := "GuidPrefix"
  addressName := "Address"
  serverAddressName := "DiscoveryServerConnectionAddress"
  entry := ""
  library := separatorLocator
  resolveNameDns _ := ([], [])
  unsetIpVersion := .v4
  parseGuidPrefix _ := 1

/-- Two peers at one place, and the files of a client. -/
def twicePeers : Node :=
  .map [("name", .scalar "P"),
    ("connection-addresses", .sequence [
      .map [("ip", .scalar "10.0.0.1"), ("port", .scalar "5100"), ("transport", .scalar "tcp")],
      .map [("ip", .scalar "10.0.0.1"), ("port", .scalar "5100"), ("transport", .scalar "tcp"),
        ("external-port", .scalar "5101")]]),
    ("tls", .map [("ca", .scalar "ca.crt")])]

theorem announcesWritten_of_read_twicePeers :
    ∃ attributes : ParticipantAttributes String,
      attributes.initialPeersList.map Locator.ip = ["10.0.0.1"] ∧
        twicePeers.PeersOf plainParticipantTypes attributes := by
  have read : plainParticipantTypes.getInitialPeersParticipant none twicePeers = .ok _ := rfl
  exact ⟨_, rfl, (announcesWritten_of_read 1).1 _ read _ rfl⟩

theorem securedByDocument_of_read_twicePeers :
    ∃ reckoned : ParticipantAttributes String,
      reckoned.userTransports.map TransportDescriptor.kind = [.tcpv4] ∧
        twicePeers.SecuredBy plainParticipantTypes (.ok reckoned) := by
  have read : plainParticipantTypes.getInitialPeersParticipant none twicePeers = .ok _ := rfl
  have secured := (securedByDocument_of_read
    { address := Address.ip, server := fun _ => "", guidPrefix := fun _ => ""
      domainId := fun _ => "" } 1).1 _ read rfl
  exact ⟨_, rfl, secured⟩

end DdsPipe.Yaml
