import DdsPipe.Library.OrderedMap
import DdsPipe.Participants.TransportKinds

/-!
Owns the check of the configurations of the initial peers participant and of the
discovery server participant, with the texts of its errors, and what it gives to
the TCP descriptors: the computation of the attributes of a valid configuration
meets no exception, and where TLS is active every TCP descriptor has the TLS
configuration of its side (`securesTls_of_isValid`).

Does not own: whether the computation ends.
-/

namespace DdsPipe.Participants

open DdsPipe.Types

/-! ### The check of a TLS configuration -/

namespace TlsConfiguration

variable (tls : TlsConfiguration)

/-- `is_valid_kind`, with the text that it writes where it returns false. -/
def isValidClient : Except String Unit :=
  if tls.verifyPeer && tls.certificateAuthorityFile.isEmpty then
    .error "Invalid certificate_authority_file while server verification must be done."
  else .ok ()

def isValidServer : Except String Unit :=
  if tls.privateKeyFile.isEmpty then .error "Invalid private_key_file."
  else if tls.dhParamsFile.isEmpty then .error "Invalid dh_params_file."
  else if tls.certificateChainFile.isEmpty then .error "Invalid certificate_chain_file."
  else .ok ()

def isValidBoth : Except String Unit :=
  tls.isValidClient.bind fun _ => tls.isValidServer

def isValid : Except String Unit :=
  match tls.kind with
  | .client => tls.isValidClient
  | .server => tls.isValidServer
  | .both => tls.isValidBoth
  | .inactive => .ok ()

/-- The files of a client: an authority, where the server is verified. -/
def HasClientFiles : Prop :=
  tls.verifyPeer = true → tls.certificateAuthorityFile ≠ ""

/-- The files of a server. -/
structure HasServerFiles : Prop where
  privateKey : tls.privateKeyFile ≠ ""
  dhParams : tls.dhParamsFile ≠ ""
  certificateChain : tls.certificateChainFile ≠ ""

theorem isValidClient_eq_ok : tls.isValidClient = .ok () ↔ tls.HasClientFiles := by
  unfold isValidClient HasClientFiles
  cases tls.verifyPeer <;> simp

theorem isValidServer_eq_ok : tls.isValidServer = .ok () ↔ tls.HasServerFiles := by
  unfold isValidServer
  constructor
  · intro valid
    by_cases privateKey : tls.privateKeyFile = ""
    · simp [privateKey] at valid
    · by_cases dhParams : tls.dhParamsFile = ""
      · simp [privateKey, dhParams] at valid
      · by_cases certificateChain : tls.certificateChainFile = ""
        · simp [privateKey, dhParams, certificateChain] at valid
        · exact ⟨privateKey, dhParams, certificateChain⟩
  · intro files
    simp [files.privateKey, files.dhParams, files.certificateChain]

theorem isValidBoth_eq_ok : tls.isValidBoth = .ok () ↔ tls.HasClientFiles ∧ tls.HasServerFiles := by
  rw [← isValidClient_eq_ok, ← isValidServer_eq_ok]
  unfold isValidBoth
  cases tls.isValidClient with
  | error what => simp [Except.bind]
  | ok done => simp [Except.bind]

/-- **A valid TLS configuration** has the files of each side that it is compatible
with. -/
theorem isValid_eq_ok : tls.isValid = .ok () ↔
    (tls.compatible .client = true → tls.HasClientFiles) ∧
      (tls.compatible .server = true → tls.HasServerFiles) := by
  unfold isValid compatible
  cases tls.kind with
  | inactive => simp
  | client => simp [isValidClient_eq_ok]
  | server => simp [isValidServer_eq_ok]
  | both => simp [isValidBoth_eq_ok]

end TlsConfiguration

/-! ### The checks of the configurations -/

/-- How the error texts write what they name. -/
structure ErrorPrinter where
  address : Address → String
  server : DiscoveryServerConnectionAddress → String
  guidPrefix : GuidPrefix → String
  domainId : Nat → String

/-- `MAX_DOMAIN_ID`. -/
def maxDomainId : Nat := 232

/-- Each of the items is valid, or the text names the first that is not. -/
def checkAll {Item : Type} (accepts : Item → Bool) (what : Item → String) (items : List Item) :
    Except String Unit :=
  items.forM fun item => if accepts item then .ok () else .error (what item)

namespace TlsConfiguration

/-- The part of the checks that is about TLS. -/
def isCompatible (tls : TlsConfiguration) (listens connects : Bool) : Except String Unit :=
  if !tls.isActive then .ok ()
  else if listens && !tls.compatible .server then
    .error "TLS requires to support Server Configuration if listening addresses set. "
  else if connects && !tls.compatible .client then
    .error "TLS requires to support Client Configuration if connection addresses set. "
  else .ok ()

/-- TLS has the sides that the addresses need. -/
structure Compatible (tls : TlsConfiguration) (listens connects : Prop) : Prop where
  server : tls.isActive = true → listens → tls.compatible .server = true
  client : tls.isActive = true → connects → tls.compatible .client = true

theorem isCompatible_eq_ok {tls : TlsConfiguration} {listens connects : Bool} :
    tls.isCompatible listens connects = .ok () ↔
      tls.Compatible (listens = true) (connects = true) := by
  unfold isCompatible
  constructor
  · intro accepted
    cases active : tls.isActive with
    | false => exact ⟨fun impossible => by simp [active] at impossible,
        fun impossible => by simp [active] at impossible⟩
    | true =>
        cases listens <;> cases connects <;> cases server : tls.compatible .server <;>
          cases client : tls.compatible .client <;> simp [active, server, client] at accepted <;>
          constructor <;> simp [server, client]
  · intro compatible
    cases active : tls.isActive with
    | false => rfl
    | true =>
        have server := compatible.server active
        have client := compatible.client active
        cases listens <;> cases connects <;> simp_all

end TlsConfiguration

def ParticipantConfiguration.isValid (configuration : ParticipantConfiguration) :
    Except String Unit :=
  if configuration.id.isEmpty then
    .error ("Non valid Participant Id " ++ configuration.id ++ ". ")
  else .ok ()

section Checks

variable (library : IpLocator) (printer : ErrorPrinter)

/-- `SimpleParticipantConfiguration::is_valid`. -/
def simpleIsValid (configuration : ParticipantConfiguration) (domainId : Nat)
    (whitelist : List String) : Except String Unit :=
  configuration.isValid.bind fun _ =>
    if maxDomainId < domainId then
      .error ("Domain could not be higher than 232. " ++ "Incorrect domain " ++
        printer.domainId domainId ++ ". ")
    else
      checkAll library.isIPv4
        (fun ip => "Incorrect IPv4 address " ++ ip ++ " in whitelist interfaces. ") whitelist

def checkAddresses (role : String) (addresses : List Address) : Except String Unit :=
  checkAll (Address.isValid library)
    (fun address => "Incorrect address " ++ printer.address address ++ " in " ++ role ++
      " addresses. ") addresses

/-- What both checks end with. -/
def checkTransports (tls : TlsConfiguration) (listens connects : Bool) : Except String Unit :=
  if !listens && !connects then .error "No listening or connection address specified. "
  else tls.isCompatible listens connects

def InitialPeersParticipantConfiguration.isValid
    (configuration : InitialPeersParticipantConfiguration) (domainId : Nat) : Except String Unit :=
  let listening := configuration.listeningAddresses.addresses
  let connections := configuration.connectionAddresses.addresses
  (simpleIsValid library printer configuration.toParticipantConfiguration domainId
    configuration.whitelist).bind fun _ =>
      (checkAddresses library printer "listening" listening).bind fun _ =>
        (checkAddresses library printer "connection" connections).bind fun _ =>
          checkTransports configuration.tlsConfiguration (!listening.isEmpty) (!connections.isEmpty)

def DiscoveryServerParticipantConfiguration.isValid
    (configuration : DiscoveryServerParticipantConfiguration) (domainId : Nat) :
    Except String Unit :=
  let listening := configuration.listeningAddresses.addresses
  let connections := configuration.connectionAddresses
  (simpleIsValid library printer configuration.toParticipantConfiguration domainId
    configuration.whitelist).bind fun _ =>
      if configuration.discoveryServerGuidPrefix = unknownGuidPrefix then
        .error ("Non valid Participant Guid Prefix " ++
          printer.guidPrefix configuration.discoveryServerGuidPrefix ++ ". ")
      else
        (checkAddresses library printer "listening" listening).bind fun _ =>
          (checkAll (DiscoveryServerConnectionAddress.isValid library)
            (fun server => "Incorrect address " ++ printer.server server ++
              " in connection addresses. ") connections).bind fun _ =>
                checkTransports configuration.tlsConfiguration (!listening.isEmpty)
                  (!connections.isEmpty)

end Checks

/-! ### What TLS gives to a descriptor -/

/-- The descriptor of a TCP transport. -/
def TransportDescriptor.tcp? {WanAddress : Type} :
    TransportDescriptor WanAddress → Option TcpTransportDescriptor
  | .tcpv4 descriptor _ => some descriptor
  | .tcpv6 descriptor => some descriptor
  | .udpv4 _ => none
  | .udpv6 _ => none

/-- A TCP descriptor has the TLS configuration of its side: one that listens has the
files of a server, and the others verify the server as a client. -/
structure TlsConfiguration.Secures (tls : TlsConfiguration) (descriptor : TcpTransportDescriptor) :
    Prop where
  noSslv2 : .noSslv2 ∈ descriptor.tlsConfig.options
  verifies : tls.verifyPeer = true →
    .verifyPeer ∈ descriptor.tlsConfig.verifyMode ∧ .verifyNone ∉ descriptor.tlsConfig.verifyMode
  client : tls.compatible .client = true →
    descriptor.tlsConfig.verifyFile = tls.certificateAuthorityFile ∧
      descriptor.tlsConfig.serverName = tls.sniServerName
  listens : descriptor.listeningPorts ≠ [] → tls.compatible .server = true ∧
    descriptor.tlsConfig.privateKeyFile = tls.privateKeyFile ∧
      descriptor.tlsConfig.password = tls.privateKeyFilePassword ∧
        descriptor.tlsConfig.certChainFile = tls.certificateChainFile ∧
          descriptor.tlsConfig.tmpDhFile = tls.dhParamsFile
  connects : descriptor.listeningPorts = [] → tls.compatible .client = true ∧
    (tls.verifyPeer = true → .verifyFailIfNoPeerCert ∈ descriptor.tlsConfig.verifyMode)

/-- A TCP descriptor applies security where TLS is active, and nowhere else. -/
structure TlsConfiguration.Suits (tls : TlsConfiguration) (descriptor : TcpTransportDescriptor) :
    Prop where
  applies : descriptor.applySecurity = tls.isActive
  secures : tls.isActive = true → tls.Secures descriptor

def TlsConfiguration.SuitsAll {WanAddress : Type} (tls : TlsConfiguration)
    (transports : List (TransportDescriptor WanAddress)) : Prop :=
  ∀ transport ∈ transports, ∀ descriptor ∈ transport.tcp?, tls.Suits descriptor

/-- Of a computation of attributes: no exception, and each TCP descriptor is secured
where TLS is active. -/
def TlsConfiguration.KeptBy {WanAddress : Type} (tls : TlsConfiguration)
    (result : Except ReckonFault (ParticipantAttributes WanAddress)) : Prop :=
  (∀ message, result ≠ .error (.configurationException message)) ∧
    ∀ reckoned, result = .ok reckoned → tls.SuitsAll reckoned.userTransports

namespace TlsConfiguration

variable {tls : TlsConfiguration}

theorem suits_server {descriptor secured : TcpTransportDescriptor}
    (fresh : descriptor.tlsConfig = {}) (plain : descriptor.applySecurity = false)
    (listens : descriptor.listeningPorts ≠ [])
    (done : tls.secure descriptor false = .ok secured) : tls.Suits secured := by
  unfold secure enableTls at done
  cases active : tls.isActive with
  | false =>
      rw [active, if_neg Bool.false_ne_true] at done
      cases done
      exact ⟨plain.trans active.symm, fun impossible => by simp [active] at impossible⟩
  | true =>
      rw [active, if_pos rfl, fresh] at done
      cases server : tls.compatible .server with
      | false => simp [server] at done
      | true =>
          cases client : tls.compatible .client with
          | false =>
              simp [server, client] at done
              subst done
              refine ⟨active.symm, fun _ => ?_⟩
              constructor <;> simp_all [enableTlsServer]
          | true =>
              simp [server, client] at done
              subst done
              refine ⟨active.symm, fun _ => ?_⟩
              constructor <;> simp_all [enableTlsServer, enableTlsClient]

theorem suits_client {descriptor secured : TcpTransportDescriptor}
    (fresh : descriptor.tlsConfig = {}) (plain : descriptor.applySecurity = false)
    (connects : descriptor.listeningPorts = [])
    (done : tls.secure descriptor true = .ok secured) : tls.Suits secured := by
  unfold secure enableTls at done
  cases active : tls.isActive with
  | false =>
      rw [active, if_neg Bool.false_ne_true] at done
      cases done
      exact ⟨plain.trans active.symm, fun impossible => by simp [active] at impossible⟩
  | true =>
      rw [active, if_pos rfl, fresh] at done
      cases client : tls.compatible .client with
      | false => simp [client] at done
      | true =>
          simp [client] at done
          subst done
          refine ⟨active.symm, fun _ => ?_⟩
          constructor <;> simp_all [enableTlsClient]

end TlsConfiguration

/-! ### The descriptors of the loops -/

section Descriptors

variable {library : IpLocator} {whitelist : List String} {tls : TlsConfiguration}

/-- Each descriptor of the listening loop listens, secured where TLS is active. -/
def ListenSecured (tls : TlsConfiguration)
    (transports : List (TransportDescriptor library.WanAddress)) : Prop :=
  ∀ transport ∈ transports, ∀ descriptor ∈ transport.tcp?,
    descriptor.listeningPorts ≠ [] ∧ tls.Suits descriptor

theorem listenSecured_concat {transports : List (TransportDescriptor library.WanAddress)}
    {transport : TransportDescriptor library.WanAddress} (secured : ListenSecured tls transports)
    (last : ∀ descriptor ∈ transport.tcp?,
      descriptor.listeningPorts ≠ [] ∧ tls.Suits descriptor) :
    ListenSecured tls (transports ++ [transport]) := by
  intro other member
  rcases List.mem_append.mp member with earlier | isLast
  · exact secured other earlier
  · rw [List.mem_singleton.mp isLast]
    exact last

/-- The descriptor that is found is one of them. -/
theorem findSameWanAddress_mem {transports others : List (TransportDescriptor library.WanAddress)}
    {ip : String} {it fuel : Nat} {descriptor : TcpTransportDescriptor}
    {wanAddress : library.WanAddress}
    (found : findSameWanAddress library transports ip it fuel =
      .ok (some (descriptor, wanAddress, others))) :
    .tcpv4 descriptor wanAddress ∈ transports ∧ ∀ other ∈ others, other ∈ transports := by
  induction fuel with
  | zero => cases found
  | succ fuel inductionHypothesis =>
      rw [findSameWanAddress] at found
      cases at? : transports[it]? with
      | none =>
          rw [at?] at found
          cases found
      | some transport =>
          rw [at?] at found
          cases transport with
          | udpv4 _ => exact inductionHypothesis found
          | udpv6 _ => exact inductionHypothesis found
          | tcpv6 _ => exact inductionHypothesis found
          | tcpv4 candidate candidateWan =>
              dsimp only at found
              by_cases same : ip = library.getWanAddress candidateWan
              · rw [if_pos same] at found
                cases found
                exact ⟨List.mem_of_getElem? at?, fun other => List.mem_of_mem_eraseIdx⟩
              · rw [if_neg same] at found
                exact inductionHypothesis found

/-- The search throws no exception. -/
theorem findSameWanAddress_ne_exception
    (transports : List (TransportDescriptor library.WanAddress)) (ip : String) (it fuel : Nat)
    (message : String) :
    findSameWanAddress library transports ip it fuel ≠
      .error (.configurationException message) := by
  intro thrown
  induction fuel with
  | zero => cases thrown
  | succ fuel inductionHypothesis =>
      rw [findSameWanAddress] at thrown
      cases at? : transports[it]? with
      | none =>
          rw [at?] at thrown
          cases thrown
      | some transport =>
          rw [at?] at thrown
          cases transport with
          | udpv4 _ => exact inductionHypothesis thrown
          | udpv6 _ => exact inductionHypothesis thrown
          | tcpv6 _ => exact inductionHypothesis thrown
          | tcpv4 candidate candidateWan =>
              dsimp only at thrown
              by_cases same : ip = library.getWanAddress candidateWan
              · rw [if_pos same] at thrown
                cases thrown
              · rw [if_neg same] at thrown
                exact inductionHypothesis thrown

/-- A port that a listening descriptor takes over changes nothing else. -/
theorem suits_addListenerPort {descriptor : TcpTransportDescriptor} (suits : tls.Suits descriptor)
    (listens : descriptor.listeningPorts ≠ []) (port : UInt16) :
    tls.Suits (descriptor.addListenerPort port) where
  applies := suits.applies
  secures := by
    intro active
    have secures := suits.secures active
    exact {
      noSslv2 := secures.noSslv2
      verifies := secures.verifies
      client := secures.client
      listens := fun _ => secures.listens listens
      connects := fun none => absurd none (List.append_ne_nil_of_left_ne_nil listens _) }

/-- A new descriptor of a listening address. -/
theorem listens_of_secure {isCorrect : String → Bool} {port : UInt16}
    {descriptor : TcpTransportDescriptor}
    (done : tls.secure ((createTcpDescriptor isCorrect whitelist).addListenerPort port) false =
      .ok descriptor) :
    descriptor.listeningPorts ≠ [] ∧ tls.Suits descriptor := by
  have ports : descriptor.listeningPorts = [port] := TlsConfiguration.secure_listeningPorts done
  constructor
  · rw [ports]
    exact List.cons_ne_nil _ _
  · exact TlsConfiguration.suits_server rfl rfl (List.cons_ne_nil _ _) done

/-- **A listening address** keeps the descriptors secured. -/
theorem listenSecured_addListeningTransport {fuel : Nat}
    {transports built : List (TransportDescriptor library.WanAddress)} {address : Address}
    (secured : ListenSecured tls transports)
    (added : addListeningTransport library whitelist tls fuel transports address = .ok built) :
    ListenSecured tls built := by
  unfold addListeningTransport at added
  cases tcp : address.isTcp with
  | false =>
      rw [tcp] at added
      cases added
      exact secured
  | true =>
      rw [tcp] at added
      cases ipv4 : address.isIpv4 with
      | false =>
          rw [ipv4] at added
          cases done : tls.secure
            ((createTcpDescriptor library.isIPv6 whitelist).addListenerPort address.port) false with
          | error fault =>
              rw [done] at added
              cases added
          | ok descriptor =>
              rw [done] at added
              cases added
              apply listenSecured_concat secured
              intro other same
              cases same
              exact listens_of_secure done
      | true =>
          rw [ipv4] at added
          cases found : findSameWanAddress library transports address.ip 0 fuel with
          | error fault =>
              rw [found] at added
              cases added
          | ok result =>
              rw [found] at added
              cases result with
              | some triple =>
                  obtain ⟨descriptor, wanAddress, others⟩ := triple
                  cases added
                  obtain ⟨member, subset⟩ := findSameWanAddress_mem found
                  obtain ⟨listens, suits⟩ := secured _ member descriptor rfl
                  apply listenSecured_concat fun other isOther =>
                    secured other (subset other isOther)
                  intro other same
                  cases same
                  exact ⟨List.append_ne_nil_of_left_ne_nil listens _,
                    suits_addListenerPort suits listens _⟩
              | none =>
                  cases done : tls.secure
                    ((createTcpDescriptor library.isIPv4 whitelist).addListenerPort address.port)
                    false with
                  | error fault =>
                      simp only [Except.bind, done] at added
                      cases added
                  | ok descriptor =>
                      simp only [Except.bind, done] at added
                      cases added
                      apply listenSecured_concat secured
                      intro other same
                      cases same
                      exact listens_of_secure done

/-- Where TLS accepts servers, **a listening address** throws no exception. -/
theorem addListeningTransport_ne_exception (accepts : ¬ tls.RefusesServers) (fuel : Nat)
    (transports : List (TransportDescriptor library.WanAddress)) (address : Address)
    (message : String) :
    addListeningTransport library whitelist tls fuel transports address ≠
      .error (.configurationException message) := by
  intro thrown
  unfold addListeningTransport at thrown
  cases tcp : address.isTcp with
  | false =>
      rw [tcp] at thrown
      cases thrown
  | true =>
      rw [tcp] at thrown
      cases ipv4 : address.isIpv4 with
      | false =>
          rw [ipv4] at thrown
          obtain ⟨descriptor, done⟩ := TlsConfiguration.exists_secure_server accepts
            ((createTcpDescriptor library.isIPv6 whitelist).addListenerPort address.port)
          rw [done] at thrown
          cases thrown
      | true =>
          rw [ipv4] at thrown
          cases found : findSameWanAddress library transports address.ip 0 fuel with
          | error fault =>
              rw [found] at thrown
              cases thrown
              exact findSameWanAddress_ne_exception _ _ _ _ _ found
          | ok result =>
              rw [found] at thrown
              obtain ⟨descriptor, done⟩ := TlsConfiguration.exists_secure_server accepts
                ((createTcpDescriptor library.isIPv4 whitelist).addListenerPort address.port)
              cases result with
              | some triple => cases thrown
              | none =>
                  simp only [Except.bind, done] at thrown
                  cases thrown

/-- **The listening loop**: no exception where TLS accepts servers or no address
listens, and secured descriptors. -/
theorem foldlM_addListeningTransport_secured {fuel : Nat} {addresses : List Address}
    {transports : List (TransportDescriptor library.WanAddress)}
    (secured : ListenSecured tls transports) (accepts : addresses ≠ [] → ¬ tls.RefusesServers) :
    (∀ message, addresses.foldlM (addListeningTransport library whitelist tls fuel) transports ≠
        .error (.configurationException message)) ∧
      ∀ built, addresses.foldlM (addListeningTransport library whitelist tls fuel) transports =
        .ok built → ListenSecured tls built := by
  induction addresses generalizing transports with
  | nil =>
      refine ⟨fun message thrown => (by cases thrown), ?_⟩
      intro built done
      cases done
      exact secured
  | cons address rest inductionHypothesis =>
      rw [List.foldlM_cons]
      have accepted := accepts (List.cons_ne_nil _ _)
      cases added : addListeningTransport library whitelist tls fuel transports address with
      | error fault =>
          refine ⟨?_, fun built done => (by cases done)⟩
          intro message thrown
          cases thrown
          exact addListeningTransport_ne_exception accepted _ _ _ _ added
      | ok next =>
          exact inductionHypothesis (listenSecured_addListeningTransport secured added)
            fun _ => accepted

end Descriptors

/-! ### The whole computation -/

section Whole

variable {library : IpLocator} {whitelist : List String} {tls : TlsConfiguration}

theorem exists_secure_client (accepts : tls.isActive = true → tls.compatible .client = true)
    (descriptor : TcpTransportDescriptor) :
    ∃ secured, tls.secure descriptor true = .ok secured := by
  unfold TlsConfiguration.secure
  cases active : tls.isActive with
  | false => exact ⟨descriptor, rfl⟩
  | true =>
      unfold TlsConfiguration.enableTls
      simp [accepts active]

/-- A descriptor for connections only. -/
theorem createConnectionDescriptor_secured {needed : Bool} {isCorrect : String → Bool}
    {transport : TcpTransportDescriptor → TransportDescriptor library.WanAddress}
    (ofTransport : ∀ descriptor, (transport descriptor).tcp? = some descriptor)
    (accepts : needed = true → tls.isActive = true → tls.compatible .client = true) :
    ∃ created, createConnectionDescriptor library whitelist tls needed isCorrect transport =
      .ok created ∧ tls.SuitsAll created := by
  unfold createConnectionDescriptor
  cases needed with
  | false => exact ⟨[], rfl, fun _ member => (by cases member)⟩
  | true =>
      obtain ⟨secured, done⟩ := exists_secure_client (accepts rfl)
        (createTcpDescriptor isCorrect whitelist)
      refine ⟨[transport secured], ?_, ?_⟩
      · rw [if_pos rfl, done]
        rfl
      · intro other member descriptor isTcp
        rw [List.mem_singleton.mp member, ofTransport] at isTcp
        cases isTcp
        exact TlsConfiguration.suits_client rfl rfl rfl done

/-- **The last descriptors**: no exception where TLS accepts clients or no TCP
connection asks for one. -/
theorem createSpecificDescriptors_secured {flags : AddressFlags}
    (accepts : flags.hasConnectionTcpIpv4 = true ∨ flags.hasConnectionTcpIpv6 = true →
      tls.isActive = true → tls.compatible .client = true) :
    ∃ created, createSpecificDescriptors library whitelist tls flags = .ok created ∧
      tls.SuitsAll created := by
  have tcpv4 : ∃ created, createConnectionDescriptor library whitelist tls
      (flags.hasConnectionTcpIpv4 && !flags.hasListeningTcpIpv4) library.isIPv4
      (fun descriptor => .tcpv4 descriptor library.noWanAddress) = .ok created ∧
        tls.SuitsAll created := by
    apply createConnectionDescriptor_secured
    · intro descriptor
      rfl
    · intro needed
      exact accepts (.inl (Bool.and_eq_true_iff.mp needed).1)
  have tcpv6 : ∃ created, createConnectionDescriptor library whitelist tls
      (flags.hasConnectionTcpIpv6 && !flags.hasListeningTcpIpv6) library.isIPv6
      (fun descriptor => .tcpv6 descriptor) = .ok created ∧ tls.SuitsAll created := by
    apply createConnectionDescriptor_secured
    · intro descriptor
      rfl
    · intro needed
      exact accepts (.inr (Bool.and_eq_true_iff.mp needed).1)
  obtain ⟨first, doneV4, securedV4⟩ := tcpv4
  obtain ⟨second, doneV6, securedV6⟩ := tcpv6
  unfold createSpecificDescriptors
  rw [doneV4]
  simp only [bind, Except.bind, doneV6, pure, Except.pure]
  refine ⟨_, rfl, ?_⟩
  intro transport member descriptor isTcp
  rw [List.mem_append, List.mem_append, List.mem_append] at member
  rcases member with ((ofFirst | ofSecond) | udpv4) | udpv6
  · exact securedV4 transport ofFirst descriptor isTcp
  · exact securedV6 transport ofSecond descriptor isTcp
  · split at udpv4
    · rw [List.mem_singleton.mp udpv4] at isTcp
      cases isTcp
    · cases udpv4
  · split at udpv6
    · rw [List.mem_singleton.mp udpv6] at isTcp
      cases isTcp
    · cases udpv6

theorem not_refusesServers_of_compatible {listens connects : Prop}
    (compatible : tls.Compatible listens connects) (listening : listens) :
    ¬ tls.RefusesServers := by
  intro refuses
  have server := compatible.server refuses.1 listening
  rw [refuses.2] at server
  cases server

/-- No connection, no flag of a TCP connection. -/
theorem reckonedFlags_nil (listening : List Address) :
    (reckonedFlags listening []).hasConnectionTcpIpv4 = false ∧
      (reckonedFlags listening []).hasConnectionTcpIpv6 = false := by
  unfold reckonedFlags
  rw [foldl_markListening]
  exact ⟨rfl, rfl⟩

/-- **The computation** keeps a TLS configuration that is compatible with the addresses. -/
theorem keptBy_reckonWith {listening connections : List Address}
    {attributes : List (TransportDescriptor library.WanAddress) →
      ParticipantAttributes library.WanAddress}
    (transports : ∀ userTransports, (attributes userTransports).userTransports = userTransports)
    (compatible : tls.Compatible (listening ≠ []) (connections ≠ [])) (fuel : Nat) :
    tls.KeptBy (reckonWith library whitelist tls listening connections attributes fuel) := by
  have loop : (∀ message, (validTcpAddresses library listening).foldlM
        (addListeningTransport library whitelist tls fuel) [] ≠
          .error (.configurationException message)) ∧
      ∀ built, (validTcpAddresses library listening).foldlM
        (addListeningTransport library whitelist tls fuel) [] = .ok built →
          ListenSecured tls built := by
    apply foldlM_addListeningTransport_secured
    · intro transport member
      cases member
    · intro some
      apply not_refusesServers_of_compatible compatible
      intro none
      rw [none] at some
      exact some rfl
  have last : ∃ created, createSpecificDescriptors library whitelist tls
      (reckonedFlags (listening.filter (Address.isValid library)) connections) = .ok created ∧
        tls.SuitsAll created := by
    apply createSpecificDescriptors_secured
    intro connects active
    apply compatible.client active
    intro none
    rw [none, (reckonedFlags_nil _).1, (reckonedFlags_nil _).2] at connects
    rcases connects with impossible | impossible <;> cases impossible
  obtain ⟨created, isCreated, securedCreated⟩ := last
  unfold reckonWith
  rw [isCreated]
  cases listened : (validTcpAddresses library listening).foldlM
    (addListeningTransport library whitelist tls fuel) [] with
  | error fault =>
      refine ⟨?_, fun reckoned done => (by cases done)⟩
      intro message thrown
      cases thrown
      exact loop.1 message listened
  | ok built =>
      refine ⟨fun message thrown => (by cases thrown), ?_⟩
      intro reckoned done
      cases done
      rw [transports]
      intro transport member descriptor isTcp
      rcases List.mem_append.mp member with ofLoop | ofLast
      · exact (loop.2 built listened transport ofLoop descriptor isTcp).2
      · exact securedCreated transport ofLast descriptor isTcp

end Whole

/-! ### Valid configurations -/

theorem compatible_of_checkTransports {tls : TlsConfiguration} {Listening Connection : Type}
    {listening : List Listening} {connections : List Connection}
    (accepted : checkTransports tls (!listening.isEmpty) (!connections.isEmpty) = .ok ()) :
    tls.Compatible (listening ≠ []) (connections ≠ []) := by
  unfold checkTransports at accepted
  split at accepted
  · cases accepted
  · have compatible := TlsConfiguration.isCompatible_eq_ok.mp accepted
    simpa using compatible

/-- The last check of a valid configuration. -/
theorem InitialPeersParticipantConfiguration.compatible_of_isValid {library : IpLocator}
    {printer : ErrorPrinter} {configuration : InitialPeersParticipantConfiguration} {domainId : Nat}
    (valid : configuration.isValid library printer domainId = .ok ()) :
    configuration.tlsConfiguration.Compatible (configuration.listeningAddresses.addresses ≠ [])
      (configuration.connectionAddresses.addresses ≠ []) := by
  obtain ⟨_, _, afterSimple⟩ := OrderedMap.bind_eq_ok_iff.mp valid
  obtain ⟨_, _, afterListening⟩ := OrderedMap.bind_eq_ok_iff.mp afterSimple
  obtain ⟨_, _, afterConnections⟩ := OrderedMap.bind_eq_ok_iff.mp afterListening
  exact compatible_of_checkTransports afterConnections

theorem DiscoveryServerParticipantConfiguration.compatible_of_isValid {library : IpLocator}
    {printer : ErrorPrinter} {configuration : DiscoveryServerParticipantConfiguration}
    {domainId : Nat}
    (valid : configuration.isValid library printer domainId = .ok ()) :
    configuration.tlsConfiguration.Compatible (configuration.listeningAddresses.addresses ≠ [])
      (configuration.connectionAddresses ≠ []) := by
  obtain ⟨_, _, afterSimple⟩ := OrderedMap.bind_eq_ok_iff.mp valid
  split at afterSimple
  · cases afterSimple
  · obtain ⟨_, _, afterListening⟩ := OrderedMap.bind_eq_ok_iff.mp afterSimple
    obtain ⟨_, _, afterConnections⟩ := OrderedMap.bind_eq_ok_iff.mp afterListening
    exact compatible_of_checkTransports afterConnections

theorem TlsConfiguration.Compatible.mono {tls : TlsConfiguration}
    {listens connects others otherConnects : Prop} (compatible : tls.Compatible listens connects)
    (listening : others → listens) (connecting : otherConnects → connects) :
    tls.Compatible others otherConnects where
  server active needed := compatible.server active (listening needed)
  client active needed := compatible.client active (connecting needed)

theorem InitialPeersParticipant.keptBy_of_isValid {library : IpLocator} {printer : ErrorPrinter}
    {configuration : InitialPeersParticipantConfiguration} {domainId : Nat}
    (valid : configuration.isValid library printer domainId = .ok ()) (fuel : Nat) :
    configuration.tlsConfiguration.KeptBy
      (reckonParticipantAttributes library configuration fuel) := by
  have compatible := configuration.compatible_of_isValid valid
  unfold reckonParticipantAttributes
  rw [reckonVisiting_eq]
  apply keptBy_reckonWith (fun _ => rfl)
  apply compatible.mono id
  intro some none
  rw [none] at some
  exact some rfl

theorem DiscoveryServerParticipant.keptBy_of_isValid {library : IpLocator} {printer : ErrorPrinter}
    {configuration : DiscoveryServerParticipantConfiguration} {domainId : Nat}
    (valid : configuration.isValid library printer domainId = .ok ()) (fuel : Nat) :
    configuration.tlsConfiguration.KeptBy
      (reckonParticipantAttributes library configuration fuel) := by
  have compatible := configuration.compatible_of_isValid valid
  unfold reckonParticipantAttributes
  rw [reckonVisiting_eq]
  apply keptBy_reckonWith (fun _ => rfl)
  apply compatible.mono id
  intro some none
  rw [none] at some
  exact some rfl

/-- **TLS of a valid configuration**: whatever the fuel, neither computation of
attributes meets an exception, and the TCP descriptors that come out are secured where
TLS is active, and nowhere else. -/
theorem securesTls_of_isValid (library : IpLocator) (printer : ErrorPrinter) (domainId fuel : Nat) :
    (∀ configuration : InitialPeersParticipantConfiguration,
      configuration.isValid library printer domainId = .ok () →
        configuration.tlsConfiguration.KeptBy
          (InitialPeersParticipant.reckonParticipantAttributes library configuration fuel)) ∧
    ∀ configuration : DiscoveryServerParticipantConfiguration,
      configuration.isValid library printer domainId = .ok () →
        configuration.tlsConfiguration.KeptBy
          (DiscoveryServerParticipant.reckonParticipantAttributes library configuration fuel) := by
  constructor
  · intro configuration valid
    exact InitialPeersParticipant.keptBy_of_isValid valid fuel
  · intro configuration valid
    exact DiscoveryServerParticipant.keptBy_of_isValid valid fuel

/-- A client and server that verifies its peers. -/
def bothSidesTls : TlsConfiguration where
  kind := .both
  certificateAuthorityFile := "ca.crt"
  privateKeyFile := "router.key"
  certificateChainFile := "router.crt"
  dhParamsFile := "dh_params.pem"

/-- It listens on TCPv4 and connects over TCPv6. -/
def tlsInitialPeers : InitialPeersParticipantConfiguration where
  id := "initial_peers"
  listeningAddresses := {
    addresses := [{ ip := "127.0.0.1", port := 5100, externalPort := 5100, ipVersion := .v4
                    transportProtocol := .tcp }]
    ascending := List.pairwise_singleton _ _ }
  connectionAddresses := {
    addresses := [{ ip := "::1", port := 5101, externalPort := 5101, ipVersion := .v6
                    transportProtocol := .tcp }]
    ascending := List.pairwise_singleton _ _ }
  tlsConfiguration := bothSidesTls

theorem securesTls_of_isValid_tlsInitialPeers :
    ∃ reckoned, InitialPeersParticipant.reckonParticipantAttributes separatorLocator
        tlsInitialPeers 1 = .ok reckoned ∧
      reckoned.userTransports.map TransportDescriptor.kind = [.tcpv4, .tcpv6] ∧
        bothSidesTls.SuitsAll reckoned.userTransports := by
  have valid : tlsInitialPeers.isValid separatorLocator
      { address := Address.ip, server := fun _ => "", guidPrefix := fun _ => ""
        domainId := fun _ => "" } 0 = .ok () := by
    decide +kernel
  have kept := (securesTls_of_isValid separatorLocator _ 0 1).1 tlsInitialPeers valid
  exact ⟨_, rfl, rfl, kept.2 _ rfl⟩

end DdsPipe.Participants
