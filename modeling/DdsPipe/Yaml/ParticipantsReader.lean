import DdsPipe.Participants.AddressOrder
import DdsPipe.Participants.TlsSecurity
import DdsPipe.Yaml.QosReader

/-!
Owns the reading of the configurations of the initial peers participant and of the
discovery server participant: their addresses, their guid prefix and their TLS
section, with the texts of the errors.

An address is read exactly when it is written as one (`getAddress_eq_ok`), and so is a
guid prefix (`getGuidPrefix_eq_ok`).

Does not own: the queries of domain names and the text of a guid prefix, which the
RTPS library resolves.
-/

namespace DdsPipe.Yaml

open Std (TreeSet)
open DdsPipe.Types DdsPipe.Participants

/-! ### What reading uses -/

/-- The names and the types of scalars, and what the libraries compute. -/
structure ParticipantTypes where
  printed : Printed
  qos : QosTypes
  port : ScalarType UInt16
  domainId : ScalarType Nat
  serverId : ScalarType UInt32
  ipVersionName : String
  transportProtocolName : String
  transportDescriptorsName : String
  ignoreParticipantFlagsName : String
  domainIdName : String
  portName : String
  guidPrefixName : String
  addressName : String
  serverAddressName : String
  /-- `STR_ENTRY`, of the one error that has it. -/
  entry : String
  library : IpLocator
  /-- `IPLocator::resolveNameDNS`: the IPv4 and the IPv6 addresses, in order. -/
  resolveNameDns : String → List String × List String
  /-- What a version is that nothing has set. -/
  unsetIpVersion : IpVersion
  parseGuidPrefix : String → GuidPrefix

/-- `get_scalar` under a tag. -/
def getScalarInTag {Value : Type} (type : ScalarType Value) (yml : Node) (tag : String) :
    Except ConfigurationException Value :=
  rethrow ("Error reading yaml scalar under tag <" ++ tag ++ "> :\n ")
    ((getValueInTag yml tag).bind (getScalar type))

/-- A value whose presence is asked for later. -/
def getIfPresent {Value : Type} (yml : Node) (tag : String)
    (get : Node → String → Except ConfigurationException Value) :
    Except ConfigurationException (Option Value) :=
  getOptional yml tag (fun yml tag => (get yml tag).map some) none

/-! ### Addresses -/

namespace ParticipantTypes

variable (types : ParticipantTypes)

def ipVersion : Reader IpVersion where
  typeName := types.ipVersionName
  get := getEnumeration types.ipVersionName (stringType types.printed.stringName)
    [("v4", .v4), ("v6", .v6)]

def transportProtocol : Reader TransportProtocol where
  typeName := types.transportProtocolName
  get := getEnumeration types.transportProtocolName (stringType types.printed.stringName)
    [("tcp", .tcp), ("udp", .udp)]

/-- The constructors of an address with an ip. -/
def addressOfIp (ip : String) (port externalPort : UInt16) (ipVersion : Option IpVersion)
    (transportProtocol : TransportProtocol) : Address where
  ip := ip
  port := port
  externalPort := externalPort
  ipVersion := ipVersion.getD (if types.library.isIPv6 ip then .v6 else .v4)
  transportProtocol := transportProtocol

/-- `resolve_dns`: the first address of the version, or of one of the two versions. -/
def resolveDns (domain : String) (ipVersion : Option IpVersion) : Option (String × IpVersion) :=
  let response := types.resolveNameDns domain
  match ipVersion with
  | some .v4 => response.1.head?.map fun ip => (ip, .v4)
  | some .v6 => response.2.head?.map fun ip => (ip, .v6)
  | none =>
      (response.1.head?.map fun ip => (ip, .v4)).or (response.2.head?.map fun ip => (ip, .v6))

/-- The constructors of an address with a domain, which may not be found. -/
def addressOfDomain (domain : String) (port externalPort : UInt16) (ipVersion : Option IpVersion)
    (transportProtocol : TransportProtocol) : Address :=
  match types.resolveDns domain ipVersion with
  | some (ip, version) =>
      { ip := ip, port := port, externalPort := externalPort, ipVersion := version
        transportProtocol := transportProtocol, hasDomain := true, hasValidDomain := true }
  | none =>
      { ip := "", port := port, externalPort := externalPort
        ipVersion := ipVersion.getD types.unsetIpVersion
        transportProtocol := transportProtocol, hasDomain := true, hasValidDomain := false }

def portReader : Reader UInt16 :=
  { typeName := types.portName, get := getScalar types.port }

/-- The constructor of an address: an ip is preferred to a domain. -/
def chooseConstructor (ip domain : Option String) : Except ConfigurationException
    (UInt16 → UInt16 → Option IpVersion → TransportProtocol → Address) :=
  match ip, domain with
  | some ip, _ => .ok (types.addressOfIp ip)
  | none, some domain => .ok (types.addressOfDomain domain)
  | none, none => .error ⟨"Address requires to specify <" ++ "ip" ++ "> or <" ++ "domain" ++ ">."⟩

/-- `get` of an address. -/
def getAddress (yml : Node) : Except ConfigurationException Address := do
  let ipVersion ← getIfPresent yml "ip-version" (getInTag types.ipVersion)
  let ip ← getIfPresent yml "ip" (getInTag types.printed.string)
  let domain ← getIfPresent yml "domain"
    (getScalarInTag (stringType types.printed.stringName))
  let create ← types.chooseConstructor ip domain
  let port ← getOptional yml "port" (getInTag types.portReader) 11666
  let externalPort ← getOptional yml "external-port" (getInTag types.portReader) port
  let transportProtocol ← getOptional yml "transport" (getInTag types.transportProtocol) .udp
  return create port externalPort ipVersion transportProtocol

def addressReader : Reader Address where
  typeName := types.addressName
  get := types.getAddress

end ParticipantTypes

/-- `std::set` of the addresses of a list. -/
def addressSetOf (addresses : List Address) : AddressSet where
  addresses := KeyOrder.setOf Address.less addresses
  ascending := by
    have ascending : KeyOrder.Ascending Address.orderKey (KeyOrder.setOf Address.less addresses) :=
      KeyOrder.ascending_foldl Address.ordersBy_less addresses List.Pairwise.nil
    apply ascending.imp
    intro address other before
    exact (Address.ordersBy_less address other).mpr before

/-! ### Guid prefixes -/

/-- The number that twelve octets stand for. -/
def guidPrefixOfOctets (octets : List UInt8) : GuidPrefix :=
  octets.foldl (fun value octet => 256 * value + octet.toNat) 0

/-- `GuidPrefix::GuidPrefix(ros, id)`: one octet of a constant is that of the id. -/
def guidPrefixOfId (ros : Bool) (id : UInt32) : GuidPrefix :=
  guidPrefixOfOctets <|
    if ros then [0x44, 0x53, id.toUInt8, 0x5f, 0x45, 0x50, 0x52, 0x4f, 0x53, 0x49, 0x4d, 0x41]
    else [0x01, 0x0f, id.toUInt8, 0, 0, 0, 0, 0, 0, 0, 0xca, 0xfe]

namespace ParticipantTypes

variable (types : ParticipantTypes)

/-- `get` of a guid prefix: of its text, or of an id. -/
def getGuidPrefix (yml : Node) : Except ConfigurationException GuidPrefix :=
  (isTagPresent yml "guid").bind fun present =>
    if present then
      (getScalarInTag (stringType types.printed.stringName) yml "guid").map types.parseGuidPrefix
    else
      (getOptional yml "ros-discovery-server" (getScalarInTag types.qos.bool) false).bind fun ros =>
        (getScalarInTag types.serverId yml "id").map (guidPrefixOfId ros)

def guidPrefixReader : Reader GuidPrefix where
  typeName := types.guidPrefixName
  get := types.getGuidPrefix

/-! ### TLS -/

/-- The files of a TLS section. -/
def fillTlsFiles (object : TlsConfiguration) (yml : Node) :
    Except ConfigurationException TlsConfiguration := do
  let get := getInTag types.printed.string
  let privateKeyFile ← getOptional yml "private_key" get object.privateKeyFile
  let privateKeyFilePassword ← getOptional yml "password" get object.privateKeyFilePassword
  let certificateAuthorityFile ← getOptional yml "ca" get object.certificateAuthorityFile
  let certificateChainFile ← getOptional yml "cert" get object.certificateChainFile
  let sniServerName ← getOptional yml "sni_host" get object.sniServerName
  let dhParamsFile ← getOptional yml "dh_params" get object.dhParamsFile
  let verifyPeer ← getOptional yml "peer_verification"
    (getInTag (scalarReader types.qos.bool)) object.verifyPeer
  return { object with
    privateKeyFile, privateKeyFilePassword, certificateAuthorityFile, certificateChainFile
    sniServerName, dhParamsFile, verifyPeer }

/-- The sides that the files are enough for. -/
def chooseTlsKind (object : TlsConfiguration) : Except ConfigurationException TlsConfiguration :=
  match object.isValidBoth, object.isValidClient, object.isValidServer with
  | .ok (), _, _ => .ok { object with kind := .both }
  | .error _, .ok (), _ => .ok { object with kind := .client }
  | .error _, .error _, .ok () => .ok { object with kind := .server }
  | .error _, .error client, .error server =>
      .error ⟨types.entry ++ "Incorrect TLS configuration." ++
        " Could not be client because: " ++ client ++ " Neither server because: " ++ server ++ "."⟩

/-- `fill` of a TLS configuration. -/
def fillTls (object : TlsConfiguration) (yml : Node) :
    Except ConfigurationException TlsConfiguration :=
  (types.fillTlsFiles object yml).bind types.chooseTlsKind

end ParticipantTypes

/-! ### Participants -/

/-- The versions of the documents; only the first one is told from the others here. -/
inductive YamlReaderVersion where
  | v1_0
  | v2_0
  | v3_0
  | v3_1
  | v4_0
deriving DecidableEq, Repr

inductive TransportDescriptors where
  | builtin
  | udpOnly
  | shmOnly
deriving DecidableEq, Repr

inductive IgnoreParticipantFlags where
  | noFilter
  | filterDifferentHost
  | filterDifferentProcess
  | filterSameProcess
  | filterDifferentAndSameProcess
deriving DecidableEq, Repr

/-- The fields that the other participants have in common. -/
structure SimpleParticipantConfiguration extends ParticipantConfiguration where
  domainId : Nat := 0
  whitelist : List String := []
  transport : TransportDescriptors := .builtin
  ignoreParticipantFlags : IgnoreParticipantFlags := .noFilter
  topicQos : TopicQoS FuzzyLevelValues

/-- A configuration with what it shares with a simple one, and the flag of a repeater. -/
structure ReadParticipant (Configuration : Type) where
  simple : SimpleParticipantConfiguration
  configuration : Configuration
  isRepeater : Bool := false

namespace ParticipantTypes

variable (types : ParticipantTypes)

def transportDescriptors : Reader TransportDescriptors where
  typeName := types.transportDescriptorsName
  get := getEnumeration types.transportDescriptorsName (stringType types.printed.stringName)
    [("builtin", .builtin), ("udp", .udpOnly), ("shm", .shmOnly)]

def ignoreParticipantFlags : Reader IgnoreParticipantFlags where
  typeName := types.ignoreParticipantFlagsName
  get := getEnumeration types.ignoreParticipantFlagsName (stringType types.printed.stringName)
    [("no_filter", .noFilter), ("filter_different_host", .filterDifferentHost),
      ("filter_different_process", .filterDifferentProcess),
      ("filter_same_process", .filterSameProcess),
      ("filter_different_and_same_process", .filterDifferentAndSameProcess)]

def domainIdReader : Reader Nat :=
  { typeName := types.domainIdName, get := getScalar types.domainId }

/-- The interfaces of a whitelist, in the order of their set. -/
def getWhitelist (yml : Node) (tag : String) : Except ConfigurationException (List String) :=
  (getSetInTag types.printed.string yml tag).map TreeSet.toList

/-- `fill` of a new simple participant. -/
def getSimpleParticipant (defaultTopicQos : Option (TopicQoS FuzzyLevelValues)) (yml : Node) :
    Except ConfigurationException SimpleParticipantConfiguration := do
  let id ← getInTag types.printed.string yml "name"
  let domainId ← getOptional yml "domain" (getInTag types.domainIdReader) 0
  let whitelist ← getOptional yml "whitelist-interfaces" types.getWhitelist []
  let transport ← getOptional yml "transport" (getInTag types.transportDescriptors) .builtin
  let ignoreParticipantFlags ← getOptional yml "ignore-participant-flags"
    (getInTag types.ignoreParticipantFlags) .noFilter
  let topicQos ← getSection types.qos defaultTopicQos yml participantQosTag
  return { id, domainId, whitelist, transport, ignoreParticipantFlags, topicQos }

def getAddresses (yml : Node) (tag : String) : Except ConfigurationException AddressSet :=
  (getListInTag types.addressReader yml tag).map addressSetOf

/-- `fill` from the section under a tag. -/
def getTls (yml : Node) : Except ConfigurationException TlsConfiguration :=
  getOptional yml "tls" (fun yml tag => (getValueInTag yml tag).bind (types.fillTls {})) {}

/-- `fill` of a new initial peers participant; the whitelist is read a second time. -/
def getInitialPeersParticipant (defaultTopicQos : Option (TopicQoS FuzzyLevelValues))
    (yml : Node) :
    Except ConfigurationException (ReadParticipant InitialPeersParticipantConfiguration) := do
  let simple ← types.getSimpleParticipant defaultTopicQos yml
  let whitelist ← getOptional yml "whitelist-interfaces" types.getWhitelist simple.whitelist
  let listeningAddresses ←
    getOptional yml "listening-addresses" types.getAddresses (addressSetOf [])
  let connectionAddresses ←
    getOptional yml "connection-addresses" types.getAddresses (addressSetOf [])
  let tlsConfiguration ← types.getTls yml
  let isRepeater ← getOptional yml "repeater" (getInTag (scalarReader types.qos.bool)) false
  return {
    simple := simple
    configuration := {
      toParticipantConfiguration := simple.toParticipantConfiguration
      whitelist, listeningAddresses, connectionAddresses, tlsConfiguration }
    isRepeater := isRepeater }

/-- The guid prefix has a section of its own, except in documents of the first version. -/
def getServerGuidPrefix (version : YamlReaderVersion) (yml : Node) :
    Except ConfigurationException GuidPrefix :=
  match version with
  | .v1_0 => types.getGuidPrefix yml
  | _ => getInTag types.guidPrefixReader yml "discovery-server-guid"

/-- `get` of the addresses of a remote server. -/
def serverAddressReader (version : YamlReaderVersion) :
    Reader DiscoveryServerConnectionAddress where
  typeName := types.serverAddressName
  get yml :=
    (types.getServerGuidPrefix version yml).bind fun guidPrefix =>
      (types.getAddresses yml "addresses").map fun addresses =>
        { discoveryServerGuidPrefix := guidPrefix, addresses := addresses.addresses }

def getServerAddresses (version : YamlReaderVersion) (yml : Node) (tag : String) :
    Except ConfigurationException (List DiscoveryServerConnectionAddress) :=
  (getListInTag (types.serverAddressReader version) yml tag).map
    (KeyOrder.setOf DiscoveryServerConnectionAddress.less)

/-- `fill` of a new discovery server participant. -/
def getDiscoveryServerParticipant (version : YamlReaderVersion)
    (defaultTopicQos : Option (TopicQoS FuzzyLevelValues)) (yml : Node) :
    Except ConfigurationException (ReadParticipant DiscoveryServerParticipantConfiguration) := do
  let simple ← types.getSimpleParticipant defaultTopicQos yml
  let whitelist ← getOptional yml "whitelist-interfaces" types.getWhitelist simple.whitelist
  let listeningAddresses ←
    getOptional yml "listening-addresses" types.getAddresses (addressSetOf [])
  let connectionAddresses ←
    getOptional yml "connection-addresses" (types.getServerAddresses version) []
  let tlsConfiguration ← types.getTls yml
  let discoveryServerGuidPrefix ← types.getServerGuidPrefix version yml
  return {
    simple := simple
    configuration := {
      toParticipantConfiguration := simple.toParticipantConfiguration
      whitelist, discoveryServerGuidPrefix, listeningAddresses, connectionAddresses
      tlsConfiguration } }

end ParticipantTypes

/-! ### What an address is written as -/

def IpVersion.text : IpVersion → String
  | .v4 => "v4"
  | .v6 => "v6"

def TransportProtocol.text : TransportProtocol → String
  | .tcp => "tcp"
  | .udp => "udp"

/-- A tag that is missing, or that has a node which stands for a value. -/
def Node.Writes {Value : Type} (yml : Node) (tag : String) (stands : Node → Value → Prop) :
    Option Value → Prop
  | none => yml.find tag = none
  | some value => ∃ node, yml.find tag = some node ∧ stands node value

/-- The fields of an address section. -/
structure WrittenAddress where
  ip : Option String
  domain : Option String
  ipVersion : Option IpVersion
  port : Option UInt16
  externalPort : Option UInt16
  transportProtocol : Option TransportProtocol

/-- The address that the fields stand for: an ip is preferred to a domain, the external
port is the port unless it is written. -/
def WrittenAddress.address (types : ParticipantTypes) (written : WrittenAddress) :
    Option Address :=
  let port := written.port.getD 11666
  let externalPort := written.externalPort.getD port
  let transportProtocol := written.transportProtocol.getD .udp
  match written.ip, written.domain with
  | some ip, _ => some (types.addressOfIp ip port externalPort written.ipVersion transportProtocol)
  | none, some domain =>
      some (types.addressOfDomain domain port externalPort written.ipVersion transportProtocol)
  | none, none => none

structure Node.WritesAddress (types : ParticipantTypes) (yml : Node) (written : WrittenAddress) :
    Prop where
  searchable : yml.Searchable
  ip : yml.Writes "ip" (fun node ip => node = .scalar ip) written.ip
  domain : yml.Writes "domain" (fun node domain => node = .scalar domain) written.domain
  ipVersion : yml.Writes "ip-version" (fun node version => node = .scalar (IpVersion.text version))
    written.ipVersion
  port : yml.Writes "port" (fun node port => getScalar types.port node = .ok port) written.port
  externalPort : yml.Writes "external-port" (fun node port => getScalar types.port node = .ok port)
    written.externalPort
  transportProtocol : yml.Writes "transport"
    (fun node protocol => node = .scalar (TransportProtocol.text protocol))
    written.transportProtocol

/-- A node is written as an address. -/
def Node.StandsForAddress (types : ParticipantTypes) (yml : Node) (address : Address) : Prop :=
  ∃ written, yml.WritesAddress types written ∧ written.address types = some address

/-! ### What a guid prefix is written as -/

/-- A node is written as a guid prefix: with its text, or else with the id of a server,
which is a ROS one where the section says so. -/
structure Node.StandsForGuidPrefix (types : ParticipantTypes) (yml : Node)
    (guidPrefix : GuidPrefix) : Prop where
  searchable : yml.Searchable
  written : (∃ text, yml.find "guid" = some (.scalar text) ∧
      types.parseGuidPrefix text = guidPrefix) ∨
    yml.find "guid" = none ∧ ∃ ros id node,
      yml.Writes "ros-discovery-server" (fun node ros => getScalar types.qos.bool node = .ok ros)
        ros ∧
      yml.find "id" = some node ∧ getScalar types.serverId node = .ok id ∧
        guidPrefixOfId (ros.getD false) id = guidPrefix

/-- The section that writes the prefix of a server: in the first version its own, later
one under a tag. -/
def Node.WritesServerPrefix (types : ParticipantTypes) (version : YamlReaderVersion) (yml : Node)
    (guidPrefix : GuidPrefix) : Prop :=
  if version = .v1_0 then yml.StandsForGuidPrefix types guidPrefix
  else ∃ node, yml.find "discovery-server-guid" = some node ∧
    node.StandsForGuidPrefix types guidPrefix

section Written

variable {Value : Type} {yml : Node} {tag : String}

theorem lookup_named {name : Value → String} (injective : Function.Injective name)
    {values : List Value} {text : String} {value : Value} (member : value ∈ values) :
    (values.map fun value => (name value, value)).lookup text = some value ↔ text = name value := by
  induction values with
  | nil => cases member
  | cons first rest inductionHypothesis =>
      rw [List.map_cons, List.lookup_cons]
      by_cases same : text = name first
      · rw [same, beq_self_eq_true]
        constructor
        · intro found
          cases found
          rfl
        · intro named
          rw [injective named]
      · rw [beq_false_of_ne same]
        rcases List.mem_cons.mp member with rfl | later
        · constructor
          · intro found
            obtain ⟨before, after, split, _⟩ := List.lookup_eq_some_iff.mp found
            have stored : (text, value) ∈ rest.map fun value => (name value, value) := by
              rw [split]
              exact List.mem_append_right _ List.mem_cons_self
            obtain ⟨other, _, pair⟩ := List.mem_map.mp stored
            cases pair
            rfl
          · intro named
            exact absurd named same
        · exact inductionHypothesis later

/-- **An enumeration** whose values all have a name of their own. -/
theorem getEnumeration_eq_ok {name : Value → String} (injective : Function.Injective name)
    {values : List Value} {value : Value} (member : value ∈ values)
    {typeName stringName : String} :
    getEnumeration typeName (stringType stringName)
        (values.map fun value => (name value, value)) yml = .ok value ↔
      yml = .scalar (name value) := by
  rw [getEnumeration, bind_eq_ok]
  constructor
  · intro ⟨text, read, found⟩
    rw [getScalar_string] at read
    rw [read]
    split at found
    · next other isFound =>
        cases found
        rw [(lookup_named injective member).mp isFound]
    · cases found
  · intro written
    refine ⟨name value, getScalar_string.mpr written, ?_⟩
    rw [(lookup_named injective member).mpr rfl]

/-- A reader under a tag, by what its values stand for. -/
theorem getInTag_stands {reader : Reader Value} {stands : Node → Value → Prop}
    (reads : ∀ node value, reader.get node = .ok value ↔ stands node value) (value : Value) :
    getInTag reader yml tag = .ok value ↔ ∃ node, yml.find tag = some node ∧ stands node value := by
  rw [getInTag_eq_ok]
  apply exists_congr
  intro node
  rw [reads]

variable {stands : Node → Value → Prop} {get : Node → String → Except ConfigurationException Value}

/-- **An optional field** is that of what is written, if anything is. -/
theorem getOptional_writes
    (reads : ∀ value, get yml tag = .ok value ↔
      ∃ node, yml.find tag = some node ∧ stands node value)
    {field value : Value} :
    getOptional yml tag get field = .ok value ↔
      yml.Searchable ∧ ∃ written, yml.Writes tag stands written ∧ written.getD field = value := by
  rw [getOptional_eq_ok]
  apply and_congr_right
  intro _
  cases found : yml.find tag with
  | none =>
      constructor
      · intro kept
        exact ⟨none, found, Eq.symm kept⟩
      · intro ⟨written, writes, same⟩
        cases written with
        | none => exact Eq.symm same
        | some other =>
            obtain ⟨node, isFound, _⟩ := writes
            rw [found] at isFound
            cases isFound
  | some node =>
      rw [Option.isSome_some, if_pos rfl, reads]
      constructor
      · intro ⟨other, isFound, stood⟩
        exact ⟨some value, ⟨other, isFound, stood⟩, rfl⟩
      · intro ⟨written, writes, same⟩
        cases written with
        | none =>
            unfold Node.Writes at writes
            rw [found] at writes
            cases writes
        | some other =>
            cases same
            exact writes

theorem getIfPresent_writes
    (reads : ∀ value, get yml tag = .ok value ↔
      ∃ node, yml.find tag = some node ∧ stands node value)
    {written : Option Value} :
    getIfPresent yml tag get = .ok written ↔
      yml.Searchable ∧ yml.Writes tag stands written := by
  unfold getIfPresent
  rw [getOptional_eq_ok]
  apply and_congr_right
  intro _
  cases found : yml.find tag with
  | none =>
      cases written with
      | none => simp [Node.Writes, found]
      | some value => simp [Node.Writes, found]
  | some node =>
      rw [Option.isSome_some, if_pos rfl, OrderedMap.map_eq_ok_iff]
      cases written with
      | none => simp [Node.Writes, found]
      | some value => simp [Node.Writes, reads]

end Written

section Addresses

variable {types : ParticipantTypes} {yml : Node}

theorem IpVersion.text_injective : Function.Injective IpVersion.text := by
  intro version other same
  cases version <;> cases other <;> first | rfl | exact absurd same (by decide)

theorem TransportProtocol.text_injective : Function.Injective TransportProtocol.text := by
  intro protocol other same
  cases protocol <;> cases other <;> first | rfl | exact absurd same (by decide)

theorem getIpVersion_eq_ok {node : Node} {version : IpVersion} :
    types.ipVersion.get node = .ok version ↔ node = .scalar (IpVersion.text version) := by
  have member : version ∈ [IpVersion.v4, .v6] := by cases version <;> decide
  exact getEnumeration_eq_ok IpVersion.text_injective member

theorem getTransportProtocol_eq_ok {node : Node} {protocol : TransportProtocol} :
    types.transportProtocol.get node = .ok protocol ↔
      node = .scalar (TransportProtocol.text protocol) := by
  have member : protocol ∈ [TransportProtocol.tcp, .udp] := by cases protocol <;> decide
  exact getEnumeration_eq_ok TransportProtocol.text_injective member

theorem getScalarInTag_string {tag typeName text : String} :
    getScalarInTag (stringType typeName) yml tag = .ok text ↔
      ∃ node, yml.find tag = some node ∧ node = .scalar text := by
  simp [getScalarInTag, getScalar_string]

theorem getPort_eq_ok {tag : String} (value : UInt16) :
    getInTag types.portReader yml tag = .ok value ↔
      ∃ node, yml.find tag = some node ∧ getScalar types.port node = .ok value :=
  getInTag_stands (fun _ _ => Iff.rfl) value

/-- The fields stand for the address that the chosen constructor makes of them. -/
theorem WrittenAddress.address_eq_some_iff {written : WrittenAddress} {address : Address} :
    written.address types = some address ↔
      ∃ create, types.chooseConstructor written.ip written.domain = .ok create ∧
        create (written.port.getD 11666) (written.externalPort.getD (written.port.getD 11666))
          written.ipVersion (written.transportProtocol.getD .udp) = address := by
  unfold WrittenAddress.address ParticipantTypes.chooseConstructor
  cases written.ip with
  | some ip => simp
  | none =>
      cases written.domain with
      | some domain => simp
      | none => simp

/-- **An address** is read exactly where one is written. -/
theorem getAddress_eq_ok {address : Address} :
    types.getAddress yml = .ok address ↔ yml.StandsForAddress types address := by
  have readsVersion : ∀ version, getInTag types.ipVersion yml "ip-version" = .ok version ↔
      ∃ node, yml.find "ip-version" = some node ∧ node = .scalar (IpVersion.text version) :=
    getInTag_stands fun _ _ => getIpVersion_eq_ok
  have readsIp : ∀ ip, getInTag types.printed.string yml "ip" = .ok ip ↔
      ∃ node, yml.find "ip" = some node ∧ node = .scalar ip :=
    getInTag_stands fun _ _ => getScalar_string
  have readsDomain : ∀ domain, getScalarInTag (stringType types.printed.stringName) yml "domain" =
      .ok domain ↔ ∃ node, yml.find "domain" = some node ∧ node = .scalar domain :=
    fun _ => getScalarInTag_string
  have readsTransport : ∀ protocol, getInTag types.transportProtocol yml "transport" =
      .ok protocol ↔ ∃ node, yml.find "transport" = some node ∧
        node = .scalar (TransportProtocol.text protocol) :=
    getInTag_stands fun _ _ => getTransportProtocol_eq_ok
  constructor
  · intro read
    obtain ⟨ipVersion, readVersion, read⟩ := OrderedMap.bind_eq_ok_iff.mp read
    obtain ⟨ip, readIp, read⟩ := OrderedMap.bind_eq_ok_iff.mp read
    obtain ⟨domain, readDomain, read⟩ := OrderedMap.bind_eq_ok_iff.mp read
    obtain ⟨create, chosen, read⟩ := OrderedMap.bind_eq_ok_iff.mp read
    obtain ⟨port, readPort, read⟩ := OrderedMap.bind_eq_ok_iff.mp read
    obtain ⟨externalPort, readExternalPort, read⟩ := OrderedMap.bind_eq_ok_iff.mp read
    obtain ⟨transportProtocol, readTransport, read⟩ := OrderedMap.bind_eq_ok_iff.mp read
    obtain ⟨searchable, writesVersion⟩ := (getIfPresent_writes readsVersion).mp readVersion
    obtain ⟨_, writesIp⟩ := (getIfPresent_writes readsIp).mp readIp
    obtain ⟨_, writesDomain⟩ := (getIfPresent_writes readsDomain).mp readDomain
    obtain ⟨_, writtenPort, writesPort, rfl⟩ := (getOptional_writes getPort_eq_ok).mp readPort
    obtain ⟨_, writtenExternal, writesExternal, rfl⟩ :=
      (getOptional_writes getPort_eq_ok).mp readExternalPort
    obtain ⟨_, writtenTransport, writesTransport, rfl⟩ :=
      (getOptional_writes readsTransport).mp readTransport
    refine ⟨⟨ip, domain, ipVersion, writtenPort, writtenExternal, writtenTransport⟩,
      ⟨searchable, writesIp, writesDomain, writesVersion, writesPort, writesExternal,
        writesTransport⟩, ?_⟩
    exact WrittenAddress.address_eq_some_iff.mpr ⟨create, chosen, Except.ok.inj read⟩
  · intro ⟨written, writes, stands⟩
    have readVersion := (getIfPresent_writes readsVersion).mpr ⟨writes.searchable, writes.ipVersion⟩
    have readIp := (getIfPresent_writes readsIp).mpr ⟨writes.searchable, writes.ip⟩
    have readDomain := (getIfPresent_writes readsDomain).mpr ⟨writes.searchable, writes.domain⟩
    have readPort : ∀ field, getOptional yml "port" (getInTag types.portReader) field =
        .ok (written.port.getD field) :=
      fun field => (getOptional_writes getPort_eq_ok).mpr
        ⟨writes.searchable, _, writes.port, rfl⟩
    have readExternalPort : ∀ field, getOptional yml "external-port" (getInTag types.portReader)
        field = .ok (written.externalPort.getD field) :=
      fun field => (getOptional_writes getPort_eq_ok).mpr
        ⟨writes.searchable, _, writes.externalPort, rfl⟩
    have readTransport : ∀ field, getOptional yml "transport"
        (getInTag types.transportProtocol) field = .ok (written.transportProtocol.getD field) :=
      fun field => (getOptional_writes readsTransport).mpr
        ⟨writes.searchable, _, writes.transportProtocol, rfl⟩
    obtain ⟨create, isChosen, created⟩ := WrittenAddress.address_eq_some_iff.mp stands
    unfold ParticipantTypes.getAddress
    rw [readVersion, readIp, readDomain]
    simp only [bind, Except.bind, isChosen, readPort, readExternalPort, readTransport, pure,
      Except.pure, created]

/-- **A guid prefix** is read exactly where one is written. -/
theorem getGuidPrefix_eq_ok {guidPrefix : GuidPrefix} :
    types.getGuidPrefix yml = .ok guidPrefix ↔ yml.StandsForGuidPrefix types guidPrefix := by
  have readsRos : ∀ ros, getScalarInTag types.qos.bool yml "ros-discovery-server" = .ok ros ↔
      ∃ node, yml.find "ros-discovery-server" = some node ∧
        getScalar types.qos.bool node = .ok ros := by
    intro ros
    simp [getScalarInTag]
  unfold ParticipantTypes.getGuidPrefix
  rw [bind_eq_ok]
  constructor
  · intro ⟨present, checked, read⟩
    obtain ⟨searchable, rfl⟩ := isTagPresent_eq_ok.mp checked
    refine ⟨searchable, ?_⟩
    cases found : yml.find "guid" with
    | some node =>
        rw [found, Option.isSome_some, if_pos rfl] at read
        obtain ⟨text, readText, same⟩ := OrderedMap.map_eq_ok_iff.mp read
        obtain ⟨_, isFound, rfl⟩ := getScalarInTag_string.mp readText
        rw [found] at isFound
        exact .inl ⟨text, isFound, same⟩
    | none =>
        rw [found, Option.isSome_none, if_neg (by decide), bind_eq_ok] at read
        obtain ⟨_, readRos, read⟩ := read
        obtain ⟨_, ros, writes, rfl⟩ := (getOptional_writes readsRos).mp readRos
        obtain ⟨id, readId, same⟩ := OrderedMap.map_eq_ok_iff.mp read
        obtain ⟨node, isFound, readNode⟩ : ∃ node, yml.find "id" = some node ∧
            getScalar types.serverId node = .ok id := by
          simpa [getScalarInTag] using readId
        exact .inr ⟨rfl, ros, id, node, writes, isFound, readNode, same⟩
  · intro ⟨searchable, written⟩
    refine ⟨_, isTagPresent_eq_ok.mpr ⟨searchable, rfl⟩, ?_⟩
    rcases written with ⟨text, found, rfl⟩ | ⟨absent, ros, id, node, writes, found, readNode, rfl⟩
    · rw [found, Option.isSome_some, if_pos rfl]
      exact OrderedMap.map_eq_ok_iff.mpr ⟨text, getScalarInTag_string.mpr ⟨_, found, rfl⟩, rfl⟩
    · rw [absent, Option.isSome_none, if_neg (by decide), bind_eq_ok]
      refine ⟨_, (getOptional_writes readsRos).mpr ⟨searchable, ros, writes, rfl⟩, ?_⟩
      refine OrderedMap.map_eq_ok_iff.mpr ⟨id, ?_, rfl⟩
      simp [getScalarInTag, found, readNode]

theorem getServerGuidPrefix_eq_ok {version : YamlReaderVersion} {guidPrefix : GuidPrefix} :
    types.getServerGuidPrefix version yml = .ok guidPrefix ↔
      yml.WritesServerPrefix types version guidPrefix := by
  have later : getInTag types.guidPrefixReader yml "discovery-server-guid" = .ok guidPrefix ↔
      ∃ node, yml.find "discovery-server-guid" = some node ∧
        node.StandsForGuidPrefix types guidPrefix :=
    getInTag_stands (fun _ _ => getGuidPrefix_eq_ok) guidPrefix
  cases version with
  | v1_0 => exact getGuidPrefix_eq_ok
  | v2_0 | v3_0 | v3_1 | v4_0 => exact later

end Addresses

end DdsPipe.Yaml
