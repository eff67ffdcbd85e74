import DdsPipe.Types.Endpoint
import Mathlib.Data.String.Basic
import Mathlib.Data.List.Sort

/-!
Owns the attributes that the initial peers participant and the discovery server
participant compute from their addresses: the locators, the transport descriptors
and the flags from which the last descriptors are decided.

Does not own: the creation of a participant from its attributes, and the DNS
queries from which the ip of an address may come.
-/

namespace DdsPipe.Participants

open DdsPipe.Types

/-! ### Addresses -/

inductive IpVersion where
  | v4
  | v6
deriving DecidableEq, Repr

/-- The value of the enumeration, by which `operator <` compares. -/
def IpVersion.value : IpVersion → Nat
  | .v4 => 4
  | .v6 => 6

inductive TransportProtocol where
  | udp
  | tcp
deriving DecidableEq, Repr

def TransportProtocol.value : TransportProtocol → Nat
  | .udp => 0
  | .tcp => 1

/-- `LOCATOR_KIND_*`; the invalid kind belongs to no address. -/
inductive LocatorKind where
  | udpv4
  | udpv6
  | tcpv4
  | tcpv6
deriving DecidableEq, Repr

/-- What the participants use of the RTPS library: the two formats of an ip, and
the WAN address of a TCPv4 descriptor, which is stored as four octets. -/
structure IpLocator where
  WanAddress : Type
  isIPv4 : String → Bool
  isIPv6 : String → Bool
  /-- The WAN address of a descriptor on which none is set. -/
  noWanAddress : WanAddress
  setWanAddress : String → WanAddress
  getWanAddress : WanAddress → String
  not_isIPv6_of_isIPv4 : ∀ ip, isIPv4 ip = true → isIPv6 ip = false
  getWanAddress_setWanAddress : ∀ ip, isIPv4 ip = true → getWanAddress (setWanAddress ip) = ip

structure Address where
  ip : String
  port : UInt16
  externalPort : UInt16
  ipVersion : IpVersion
  transportProtocol : TransportProtocol
  hasDomain : Bool := false
  hasValidDomain : Bool := false
deriving DecidableEq, Repr

namespace Address

def isUdp (address : Address) : Bool :=
  address.transportProtocol == .udp

def isTcp (address : Address) : Bool :=
  address.transportProtocol == .tcp

def isIpv4 (address : Address) : Bool :=
  address.ipVersion == .v4

def getLocatorKind (address : Address) : LocatorKind :=
  match address.ipVersion, address.transportProtocol with
  | .v4, .udp => .udpv4
  | .v4, .tcp => .tcpv4
  | .v6, .udp => .udpv6
  | .v6, .tcp => .tcpv6

def isValid (library : IpLocator) (address : Address) : Bool :=
  if address.hasDomain && !address.hasValidDomain then false
  else if address.isUdp && address.port != address.externalPort then false
  else
    match address.ipVersion with
    | .v4 => library.isIPv4 address.ip
    | .v6 => library.isIPv6 address.ip

/-- `operator <`: by ip, port, protocol and version. -/
def less (address other : Address) : Bool :=
  if address.ip < other.ip then true
  else if other.ip < address.ip then false
  else if address.port < other.port then true
  else if other.port < address.port then false
  else if address.transportProtocol.value < other.transportProtocol.value then true
  else if other.transportProtocol.value < address.transportProtocol.value then false
  else decide (address.ipVersion.value < other.ipVersion.value)

theorem ip_le_of_less {address other : Address} (before : address.less other = true) :
    address.ip ≤ other.ip := by
  unfold less at before
  by_cases smaller : address.ip < other.ip
  · exact le_of_lt smaller
  · rw [if_neg smaller] at before
    by_cases greater : other.ip < address.ip
    · rw [if_pos greater] at before
      cases before
    · exact le_of_not_gt greater

theorem ipVersion_of_isIpv4 {address : Address} (ipv4 : address.isIpv4 = true) :
    address.ipVersion = .v4 :=
  beq_iff_eq.mp ipv4

theorem ipVersion_of_not_isIpv4 {address : Address} (ipv6 : address.isIpv4 = false) :
    address.ipVersion = .v6 := by
  unfold isIpv4 at ipv6
  cases version : address.ipVersion with
  | v4 =>
      rw [version] at ipv6
      cases ipv6
  | v6 => rfl

/-- The ip of a valid address has the format of its version. -/
theorem format_of_isValid {library : IpLocator} {address : Address}
    (valid : address.isValid library = true) :
    (match address.ipVersion with
      | .v4 => library.isIPv4 address.ip
      | .v6 => library.isIPv6 address.ip) = true := by
  unfold isValid at valid
  split at valid
  · cases valid
  · split at valid
    · cases valid
    · exact valid

theorem isIPv4_of_isValid {library : IpLocator} {address : Address}
    (valid : address.isValid library = true) (ipv4 : address.isIpv4 = true) :
    library.isIPv4 address.ip = true := by
  have format := format_of_isValid valid
  rwa [ipVersion_of_isIpv4 ipv4] at format

theorem isIPv6_of_isValid {library : IpLocator} {address : Address}
    (valid : address.isValid library = true) (ipv6 : address.isIpv4 = false) :
    library.isIPv6 address.ip = true := by
  have format := format_of_isValid valid
  rwa [ipVersion_of_not_isIpv4 ipv6] at format

/-- Valid addresses of the two versions have different ips. -/
theorem ip_ne_of_isValid {library : IpLocator} {address other : Address}
    (valid : address.isValid library = true) (ipv4 : address.isIpv4 = true)
    (otherValid : other.isValid library = true) (otherIpv6 : other.isIpv4 = false) :
    address.ip ≠ other.ip := by
  intro same
  have notSix := library.not_isIPv6_of_isIPv4 _ (isIPv4_of_isValid valid ipv4)
  rw [same, isIPv6_of_isValid otherValid otherIpv6] at notSix
  cases notSix

end Address

/-- A `std::set` of addresses, with the order in which it is visited. -/
structure AddressSet where
  addresses : List Address
  ascending : addresses.Pairwise fun address other => address.less other = true

/-- The addresses of one remote discovery server, in the order in which they are
visited. -/
structure DiscoveryServerConnectionAddress where
  discoveryServerGuidPrefix : GuidPrefix
  addresses : List Address
deriving DecidableEq, Repr

/-- `GuidPrefix_t::unknown`. -/
def unknownGuidPrefix : GuidPrefix := 0

def DiscoveryServerConnectionAddress.isValid (library : IpLocator)
    (server : DiscoveryServerConnectionAddress) : Bool :=
  server.discoveryServerGuidPrefix != unknownGuidPrefix &&
    server.addresses.any fun address => address.isValid library

/-! ### Transport descriptors -/

inductive TlsOption where
  | defaultWorkarounds
  | singleDhUse
  | noSslv2
deriving DecidableEq, Repr

inductive TlsVerifyMode where
  | verifyNone
  | verifyPeer
  | verifyFailIfNoPeerCert
deriving DecidableEq, Repr

/-- `TCPTransportDescriptor::TLSConfig`. -/
structure TlsConfig where
  options : List TlsOption := []
  verifyMode : List TlsVerifyMode := []
  verifyFile : String := ""
  serverName : String := ""
  password : String := ""
  privateKeyFile : String := ""
  certChainFile : String := ""
  tmpDhFile : String := ""
deriving DecidableEq, Repr

structure TcpTransportDescriptor where
  interfaceWhiteList : List String
  listeningPorts : List UInt16 := []
  applySecurity : Bool := false
  tlsConfig : TlsConfig := {}
deriving DecidableEq, Repr

/-- `create_descriptor` of a TCP transport: the interfaces in the format of its
version. -/
def createTcpDescriptor (isCorrect : String → Bool) (whitelist : List String) :
    TcpTransportDescriptor where
  interfaceWhiteList := whitelist.filter isCorrect

def TcpTransportDescriptor.addListenerPort (descriptor : TcpTransportDescriptor) (port : UInt16) :
    TcpTransportDescriptor :=
  { descriptor with listeningPorts := descriptor.listeningPorts ++ [port] }

inductive TransportDescriptor (WanAddress : Type) where
  | udpv4 (interfaceWhiteList : List String)
  | udpv6 (interfaceWhiteList : List String)
  | tcpv4 (descriptor : TcpTransportDescriptor) (wanAddress : WanAddress)
  | tcpv6 (descriptor : TcpTransportDescriptor)

def TransportDescriptor.kind {WanAddress : Type} : TransportDescriptor WanAddress → LocatorKind
  | .udpv4 _ => .udpv4
  | .udpv6 _ => .udpv6
  | .tcpv4 _ _ => .tcpv4
  | .tcpv6 _ => .tcpv6

/-- How a computation of attributes ends without attributes. -/
inductive ReckonFault where
  /-- The fuel of a loop is used up. -/
  | outOfFuel
  | configurationException (message : String)
deriving DecidableEq, Repr

/-! ### TLS -/

inductive TlsKind where
  | inactive
  | client
  | server
  | both
deriving DecidableEq, Repr

structure TlsConfiguration where
  kind : TlsKind := .inactive
  verifyPeer : Bool := true
  certificateAuthorityFile : String := ""
  sniServerName : String := ""
  privateKeyFilePassword : String := ""
  privateKeyFile : String := ""
  certificateChainFile : String := ""
  dhParamsFile : String := ""
deriving DecidableEq, Repr

namespace TlsConfiguration

def isActive (tls : TlsConfiguration) : Bool :=
  tls.kind != .inactive

def compatible (tls : TlsConfiguration) (kind : TlsKind) : Bool :=
  tls.kind != .inactive && (kind == tls.kind || (tls.kind == .both && kind != .inactive))

def enableTlsClient (tls : TlsConfiguration) (config : TlsConfig) (onlyClient : Bool) : TlsConfig :=
  { config with
    verifyMode := if onlyClient && tls.verifyPeer then
      config.verifyMode ++ [.verifyFailIfNoPeerCert] else config.verifyMode
    verifyFile := tls.certificateAuthorityFile
    serverName := tls.sniServerName }

def enableTlsServer (tls : TlsConfiguration) (config : TlsConfig) : TlsConfig :=
  { config with
    password := tls.privateKeyFilePassword
    privateKeyFile := tls.privateKeyFile
    certChainFile := tls.certificateChainFile
    tmpDhFile := tls.dhParamsFile }

def enableTls (tls : TlsConfiguration) (descriptor : TcpTransportDescriptor) (client : Bool) :
    Except ReckonFault TcpTransportDescriptor :=
  let config := { descriptor.tlsConfig with
    options := descriptor.tlsConfig.options ++ [.defaultWorkarounds, .singleDhUse, .noSslv2]
    verifyMode := descriptor.tlsConfig.verifyMode ++
      [if tls.verifyPeer then .verifyPeer else .verifyNone] }
  let secured := { descriptor with applySecurity := true }
  if client then
    if !tls.compatible .client then
      .error (.configurationException "TLS Configuration expected a Client configuration.")
    else .ok { secured with tlsConfig := tls.enableTlsClient config true }
  else if !tls.compatible .server then
    .error (.configurationException "TLS Configuration expected a Server configuration.")
  else
    let config := tls.enableTlsServer config
    .ok { secured with
      tlsConfig := if tls.compatible .client then tls.enableTlsClient config false else config }

/-- TLS is enabled on a new descriptor where it is active. -/
def secure (tls : TlsConfiguration) (descriptor : TcpTransportDescriptor) (client : Bool) :
    Except ReckonFault TcpTransportDescriptor :=
  if tls.isActive then tls.enableTls descriptor client else .ok descriptor

/-- Where the configuration has no server part, no descriptor can listen. -/
def RefusesServers (tls : TlsConfiguration) : Prop :=
  tls.isActive = true ∧ tls.compatible .server = false

instance (tls : TlsConfiguration) : Decidable tls.RefusesServers :=
  inferInstanceAs (Decidable (_ ∧ _))

/-- TLS changes no port of a descriptor. -/
theorem enableTls_listeningPorts {tls : TlsConfiguration}
    {descriptor secured : TcpTransportDescriptor}
    {client : Bool} (enabled : tls.enableTls descriptor client = .ok secured) :
    secured.listeningPorts = descriptor.listeningPorts := by
  unfold enableTls at enabled
  dsimp only at enabled
  split at enabled <;> split at enabled <;> cases enabled <;> rfl

theorem secure_listeningPorts {tls : TlsConfiguration} {descriptor secured : TcpTransportDescriptor}
    {client : Bool} (done : tls.secure descriptor client = .ok secured) :
    secured.listeningPorts = descriptor.listeningPorts := by
  unfold secure at done
  split at done
  · exact enableTls_listeningPorts done
  · cases done
    rfl

theorem secure_server_of_refusesServers {tls : TlsConfiguration} (refuses : tls.RefusesServers)
    (descriptor : TcpTransportDescriptor) :
    tls.secure descriptor false =
      .error (.configurationException "TLS Configuration expected a Server configuration.") := by
  unfold secure enableTls
  rw [if_pos refuses.1]
  simp [refuses.2]

theorem exists_secure_server {tls : TlsConfiguration} (accepts : ¬ tls.RefusesServers)
    (descriptor : TcpTransportDescriptor) :
    ∃ secured, tls.secure descriptor false = .ok secured := by
  unfold secure
  split
  · rename_i active
    have server : tls.compatible .server = true :=
      Bool.eq_true_of_not_eq_false fun missing => accepts ⟨active, missing⟩
    unfold enableTls
    simp [server]
  · exact ⟨descriptor, rfl⟩

/-- Enabling TLS ends, with a descriptor or with an exception. -/
theorem secure_ne_outOfFuel (tls : TlsConfiguration) (descriptor : TcpTransportDescriptor)
    (client : Bool) : tls.secure descriptor client ≠ .error .outOfFuel := by
  intro stuck
  unfold secure enableTls at stuck
  split at stuck
  · dsimp only at stuck
    split at stuck <;> split at stuck <;> cases stuck
  · cases stuck

end TlsConfiguration

/-! ### Attributes -/

structure Locator where
  kind : LocatorKind
  ip : String := ""
  physicalPort : UInt16 := 0
  logicalPort : UInt16 := 0
deriving DecidableEq, Repr

structure Property where
  name : String
  value : String
  propagate : Bool := false
deriving DecidableEq, Repr

structure RemoteServerAttributes where
  guidPrefix : GuidPrefix
  metatrafficUnicastLocatorList : List Locator := []
deriving DecidableEq, Repr

inductive DiscoveryProtocol where
  | simple
  | server
  | superClient
deriving DecidableEq, Repr

/-- The fields of `RTPSParticipantAttributes` that the computation sets. -/
structure ParticipantAttributes (WanAddress : Type) where
  name : String := ""
  properties : List Property := []
  useBuiltinTransports : Bool := true
  userTransports : List (TransportDescriptor WanAddress) := []
  defaultUnicastLocatorList : List Locator := []
  metatrafficUnicastLocatorList : List Locator := []
  initialPeersList : List Locator := []
  discoveryProtocol : DiscoveryProtocol := .simple
  discoveryServers : List RemoteServerAttributes := []
  guidPrefix : GuidPrefix := unknownGuidPrefix

structure ParticipantConfiguration where
  id : ParticipantId
  appId : String := "UNKNOWN_APP"
  appMetadata : String := ""
deriving DecidableEq, Repr

structure InitialPeersParticipantConfiguration extends ParticipantConfiguration where
  whitelist : List String := []
  listeningAddresses : AddressSet
  connectionAddresses : AddressSet
  tlsConfiguration : TlsConfiguration := {}

/-- The order of the set of servers, and of the set of addresses of one server, is
left open. -/
structure DiscoveryServerParticipantConfiguration extends ParticipantConfiguration where
  whitelist : List String := []
  discoveryServerGuidPrefix : GuidPrefix
  listeningAddresses : AddressSet
  connectionAddresses : List DiscoveryServerConnectionAddress
  tlsConfiguration : TlsConfiguration := {}

/-- `CommonParticipant::reckon_participant_attributes_`. -/
def commonParticipantAttributes (WanAddress : Type) (configuration : ParticipantConfiguration) :
    ParticipantAttributes WanAddress where
  name := configuration.id
  properties := [
    { name := "fastdds.ignore_local_endpoints", value := "true" },
    { name := "fastdds.application.id", value := configuration.appId, propagate := true },
    { name := "fastdds.application.metadata", value := configuration.appMetadata,
      propagate := true }]

/-- The flags that the loops over the addresses write. -/
structure AddressFlags where
  hasListeningAddresses : Bool := false
  hasListeningTcpIpv4 : Bool := false
  hasListeningTcpIpv6 : Bool := false
  hasConnectionTcpIpv4 : Bool := false
  hasConnectionTcpIpv6 : Bool := false
  hasConnectionUdpIpv4 : Bool := false
  hasConnectionUdpIpv6 : Bool := false
  hasUdpIpv4 : Bool := false
  hasUdpIpv6 : Bool := false
deriving DecidableEq, Repr

structure Reckoning (WanAddress : Type) where
  params : ParticipantAttributes WanAddress
  flags : AddressFlags := {}

def Reckoning.setUserTransports {WanAddress : Type} (reckoning : Reckoning WanAddress)
    (userTransports : List (TransportDescriptor WanAddress)) : Reckoning WanAddress :=
  { reckoning with params := { reckoning.params with userTransports := userTransports } }

section Reckon

variable (library : IpLocator) (whitelist : List String) (tls : TlsConfiguration)

/-- The search for a descriptor of the same WAN address. The iterator is never
advanced, so a descriptor that does not match is looked at again. -/
def findSameWanAddress (userTransports : List (TransportDescriptor library.WanAddress))
    (ip : String) (it : Nat) : Nat → Except ReckonFault
      (Option (TcpTransportDescriptor × library.WanAddress ×
        List (TransportDescriptor library.WanAddress)))
  | 0 => .error .outOfFuel
  | fuel + 1 =>
      match userTransports[it]? with
      | none => .ok none
      | some (.tcpv4 descriptor wanAddress) =>
          if ip = library.getWanAddress wanAddress then
            .ok (some (descriptor, wanAddress, userTransports.eraseIdx it))
          else findSameWanAddress userTransports ip it fuel
      | some _ => findSameWanAddress userTransports ip it fuel

/-- The descriptors after a listening address: a UDP address adds none. -/
def addListeningTransport (fuel : Nat)
    (userTransports : List (TransportDescriptor library.WanAddress)) (address : Address) :
    Except ReckonFault (List (TransportDescriptor library.WanAddress)) :=
  if !address.isTcp then .ok userTransports
  else if address.isIpv4 then
    (findSameWanAddress library userTransports address.ip 0 fuel).bind fun found =>
      match found with
      | some (descriptor, wanAddress, others) =>
          .ok (others ++ [.tcpv4 (descriptor.addListenerPort address.port) wanAddress])
      | none =>
          (tls.secure ((createTcpDescriptor library.isIPv4 whitelist).addListenerPort address.port)
            false).map fun descriptor =>
              userTransports ++ [.tcpv4 descriptor (library.setWanAddress address.ip)]
  else
    (tls.secure ((createTcpDescriptor library.isIPv6 whitelist).addListenerPort address.port)
      false).map fun descriptor => userTransports ++ [.tcpv6 descriptor]

/-- The locator of a listening address: TCP announces the external port. -/
def listeningLocator (logicalPort : Address → UInt16) (address : Address) : Locator :=
  if address.isTcp then
    { kind := address.getLocatorKind, ip := address.ip, physicalPort := address.externalPort
      logicalPort := logicalPort address }
  else { kind := address.getLocatorKind, ip := address.ip, physicalPort := address.port }

/-- The flags after a valid listening address. -/
def AddressFlags.markListening (flags : AddressFlags) (address : Address) : AddressFlags :=
  if address.isTcp then
    if address.isIpv4 then
      { flags with hasListeningAddresses := true, hasListeningTcpIpv4 := true }
    else { flags with hasListeningAddresses := true, hasListeningTcpIpv6 := true }
  else
    { flags with
      hasListeningAddresses := true
      hasUdpIpv4 := address.isIpv4
      hasUdpIpv6 := !address.isIpv4 }

/-- The locator lists after a valid listening address. -/
def ParticipantAttributes.pushListening {WanAddress : Type}
    (params : ParticipantAttributes WanAddress) (locator : Locator) :
    ParticipantAttributes WanAddress :=
  { params with
    metatrafficUnicastLocatorList := params.metatrafficUnicastLocatorList ++ [locator]
    defaultUnicastLocatorList := params.defaultUnicastLocatorList ++ [locator] }

/-- The loop over the listening addresses, for one address. -/
def listen (logicalPort : Address → UInt16) (fuel : Nat)
    (reckoning : Reckoning library.WanAddress) (address : Address) :
    Except ReckonFault (Reckoning library.WanAddress) :=
  if !address.isValid library then .ok reckoning
  else
    (addListeningTransport library whitelist tls fuel reckoning.params.userTransports
      address).map fun userTransports =>
        Reckoning.setUserTransports
          { params := reckoning.params.pushListening (listeningLocator logicalPort address)
            flags := reckoning.flags.markListening address }
          userTransports

/-- The flags after a valid connection address. Of the discovery server
participant, nothing reads the flags of UDP connections. -/
def AddressFlags.markConnection (flags : AddressFlags) (address : Address) : AddressFlags :=
  if address.isTcp then
    { flags with
      hasConnectionTcpIpv4 := address.isIpv4
      hasConnectionTcpIpv6 := !address.isIpv4 }
  else
    { flags with
      hasConnectionUdpIpv4 := address.isIpv4
      hasConnectionUdpIpv6 := !address.isIpv4
      hasUdpIpv4 := address.isIpv4
      hasUdpIpv6 := !address.isIpv4 }

/-- The descriptor of a TCP transport of which no address listens. -/
def createConnectionDescriptor (needed : Bool) (isCorrect : String → Bool)
    (transport : TcpTransportDescriptor → TransportDescriptor library.WanAddress) :
    Except ReckonFault (List (TransportDescriptor library.WanAddress)) :=
  if needed then
    (tls.secure (createTcpDescriptor isCorrect whitelist) true).map fun descriptor =>
      [transport descriptor]
  else .ok []

/-- The descriptors that the loops have not created. -/
def createSpecificDescriptors (flags : AddressFlags) :
    Except ReckonFault (List (TransportDescriptor library.WanAddress)) := do
  let tcpv4 ← createConnectionDescriptor library whitelist tls
    (flags.hasConnectionTcpIpv4 && !flags.hasListeningTcpIpv4) library.isIPv4
    fun descriptor => .tcpv4 descriptor library.noWanAddress
  let tcpv6 ← createConnectionDescriptor library whitelist tls
    (flags.hasConnectionTcpIpv6 && !flags.hasListeningTcpIpv6) library.isIPv6
    fun descriptor => .tcpv6 descriptor
  let udpv4 := if flags.hasUdpIpv4 then [.udpv4 (whitelist.filter library.isIPv4)] else []
  let udpv6 := if flags.hasUdpIpv6 then [.udpv6 (whitelist.filter library.isIPv6)] else []
  return tcpv4 ++ tcpv6 ++ udpv4 ++ udpv6

end Reckon

/-! ### The initial peers participant -/

namespace InitialPeersParticipant

variable (library : IpLocator)

def connectionLocator (address : Address) : Locator where
  kind := address.getLocatorKind
  ip := address.ip
  physicalPort := address.port

/-- The loop over the connection addresses, for one address. -/
def connect (reckoning : Reckoning library.WanAddress) (address : Address) :
    Reckoning library.WanAddress :=
  if !address.isValid library then reckoning
  else
    { params := { reckoning.params with
        initialPeersList := reckoning.params.initialPeersList ++ [connectionLocator address] }
      flags := reckoning.flags.markConnection address }

/-- Without listening addresses, an empty locator of each kind in use. -/
def defaultMetatrafficLocators (flags : AddressFlags) : List Locator :=
  if flags.hasListeningAddresses then []
  else
    (if flags.hasConnectionUdpIpv4 then [{ kind := .udpv4 }] else []) ++
      if flags.hasConnectionUdpIpv6 then [{ kind := .udpv6 }] else []

/-- What follows the loop over the listening addresses. -/
def reckonConnections (configuration : InitialPeersParticipantConfiguration)
    (connectionAddresses : List Address) (reckoning : Reckoning library.WanAddress) :
    Except ReckonFault (ParticipantAttributes library.WanAddress) :=
  let reckoning := connectionAddresses.foldl (connect library) reckoning
  (createSpecificDescriptors library configuration.whitelist configuration.tlsConfiguration
    reckoning.flags).map fun created =>
      { reckoning.params with
        userTransports := reckoning.params.userTransports ++ created
        metatrafficUnicastLocatorList := reckoning.params.metatrafficUnicastLocatorList ++
          defaultMetatrafficLocators reckoning.flags }

/-- `reckon_participant_attributes_`, with the addresses in the given orders. -/
def reckonVisiting (configuration : InitialPeersParticipantConfiguration)
    (listeningAddresses connectionAddresses : List Address) (fuel : Nat) :
    Except ReckonFault (ParticipantAttributes library.WanAddress) :=
  let params := { commonParticipantAttributes library.WanAddress
    configuration.toParticipantConfiguration with useBuiltinTransports := false }
  (listeningAddresses.foldlM (listen library configuration.whitelist
    configuration.tlsConfiguration (fun _ => 0) fuel) { params := params }).bind
      (reckonConnections library configuration connectionAddresses)

def reckonParticipantAttributes (configuration : InitialPeersParticipantConfiguration)
    (fuel : Nat) : Except ReckonFault (ParticipantAttributes library.WanAddress) :=
  reckonVisiting library configuration configuration.listeningAddresses.addresses
    configuration.connectionAddresses.addresses fuel

end InitialPeersParticipant

/-! ### The discovery server participant -/

namespace DiscoveryServerParticipant

variable (library : IpLocator)

def connectionServer (serverPrefix : GuidPrefix) (address : Address) : RemoteServerAttributes where
  guidPrefix := serverPrefix
  metatrafficUnicastLocatorList := [{
    kind := address.getLocatorKind
    ip := address.ip
    physicalPort := address.port
    logicalPort := address.port }]

/-- The loop over the addresses of a remote server, for one address. -/
def connectAddress (serverPrefix : GuidPrefix) (reckoning : Reckoning library.WanAddress)
    (address : Address) : Reckoning library.WanAddress :=
  if !address.isValid library then reckoning
  else
    { params := { reckoning.params with
        discoveryServers :=
          reckoning.params.discoveryServers ++ [connectionServer serverPrefix address] }
      flags := reckoning.flags.markConnection address }

/-- The loop over the remote servers, for one server. -/
def connect (reckoning : Reckoning library.WanAddress)
    (server : DiscoveryServerConnectionAddress) : Reckoning library.WanAddress :=
  if !server.isValid library then reckoning
  else server.addresses.foldl (connectAddress library server.discoveryServerGuidPrefix) reckoning

/-- What follows the loop over the listening addresses. The participant is a server
also without listening addresses: the flag is set before it is read. -/
def reckonConnections (configuration : DiscoveryServerParticipantConfiguration)
    (connectionAddresses : List DiscoveryServerConnectionAddress)
    (reckoning : Reckoning library.WanAddress) :
    Except ReckonFault (ParticipantAttributes library.WanAddress) :=
  let reckoning := connectionAddresses.foldl (connect library) reckoning
  let flags := { reckoning.flags with hasListeningAddresses := true }
  (createSpecificDescriptors library configuration.whitelist configuration.tlsConfiguration
    flags).map fun created =>
      { reckoning.params with
        discoveryProtocol := if flags.hasListeningAddresses then .server else .superClient
        guidPrefix := configuration.discoveryServerGuidPrefix
        userTransports := reckoning.params.userTransports ++ created }

/-- `reckon_participant_attributes_`, with the addresses in the given orders. -/
def reckonVisiting (configuration : DiscoveryServerParticipantConfiguration)
    (listeningAddresses : List Address)
    (connectionAddresses : List DiscoveryServerConnectionAddress) (fuel : Nat) :
    Except ReckonFault (ParticipantAttributes library.WanAddress) :=
  let params := { commonParticipantAttributes library.WanAddress
    configuration.toParticipantConfiguration with useBuiltinTransports := false }
  (listeningAddresses.foldlM (listen library configuration.whitelist
    configuration.tlsConfiguration Address.externalPort fuel) { params := params }).bind
      (reckonConnections library configuration connectionAddresses)

def reckonParticipantAttributes (configuration : DiscoveryServerParticipantConfiguration)
    (fuel : Nat) : Except ReckonFault (ParticipantAttributes library.WanAddress) :=
  reckonVisiting library configuration configuration.listeningAddresses.addresses
    configuration.connectionAddresses fuel

end DiscoveryServerParticipant

end DdsPipe.Participants
