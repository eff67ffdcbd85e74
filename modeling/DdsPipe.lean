import DdsPipe.Communication.BridgeFailures
import DdsPipe.Communication.DdsBridge
import DdsPipe.Communication.RegistryHistory
import DdsPipe.Communication.Routing
import DdsPipe.Communication.RpcBridge
import DdsPipe.Communication.RpcCorrelation
import DdsPipe.Communication.RpcRegistries
import DdsPipe.Communication.RpcServers
import DdsPipe.Communication.RpcTransmission
import DdsPipe.Communication.RpcWakeUps
import DdsPipe.Communication.ServiceRegistry
import DdsPipe.Communication.TrackDataPath
import DdsPipe.Communication.TrackLifetime
import DdsPipe.Communication.TrackWakeUps
import DdsPipe.Communication.Transmission
import DdsPipe.Configuration.DdsPipeConfiguration
import DdsPipe.Core.Activation
import DdsPipe.Core.ActiveBridges
import DdsPipe.Core.Calls
import DdsPipe.Core.Containment
import DdsPipe.Core.DdsPipe
import DdsPipe.Core.Disabling
import DdsPipe.Core.Discovery
import DdsPipe.Core.Forwarding
import DdsPipe.Core.Invariants
import DdsPipe.Core.Servers
import DdsPipe.Core.ServiceSlot
import DdsPipe.Core.Services
import DdsPipe.Core.SlotChange
import DdsPipe.Core.TopicSlot
import DdsPipe.Core.Writers
import DdsPipe.Dynamic.AllowedTopicList
import DdsPipe.Dynamic.DiscoveryDatabase
import DdsPipe.Dynamic.DiscoveryQueue
import DdsPipe.Dynamic.FilterReduction
import DdsPipe.Efficiency.CopyPayloadPool
import DdsPipe.Efficiency.FastPayloadPool
import DdsPipe.Efficiency.PayloadFlow
import DdsPipe.Efficiency.PayloadPools
import DdsPipe.Efficiency.ReferenceCounting
import DdsPipe.Library.Antichain
import DdsPipe.Library.KeyOrder
import DdsPipe.Library.Lists
import DdsPipe.Library.OrderedMap
import DdsPipe.Library.TransitionSystem
import DdsPipe.Library.TreeWalk
import DdsPipe.Monitoring.MonitorProducer
import DdsPipe.Monitoring.StatusMonitorProducer
import DdsPipe.Monitoring.TopicsMonitorProducer
import DdsPipe.Monitoring.TopicsReports
import DdsPipe.Participants.AddressOrder
import DdsPipe.Participants.CommonParticipant
import DdsPipe.Participants.Downsampling
import DdsPipe.Participants.LocatorTransports
import DdsPipe.Participants.ParticipantAttributes
import DdsPipe.Participants.RateLimit
import DdsPipe.Participants.ReckonLoops
import DdsPipe.Participants.RtpsReader
import DdsPipe.Participants.RtpsWriter
import DdsPipe.Participants.SampleLoops
import DdsPipe.Participants.SpecificQos
import DdsPipe.Participants.TlsSecurity
import DdsPipe.Participants.TransportKinds
import DdsPipe.Participants.TransportPerIp
import DdsPipe.Types.ArrayDeclarators
import DdsPipe.Types.DynamicTypes
import DdsPipe.Types.Endpoint
import DdsPipe.Types.IdlClosure
import DdsPipe.Types.IdlDefinitions
import DdsPipe.Types.IdlPieces
import DdsPipe.Types.MsgClosure
import DdsPipe.Types.MsgDefinitions
import DdsPipe.Types.RpcTopic
import DdsPipe.Types.SchemaIdl
import DdsPipe.Types.SchemaMsg
import DdsPipe.Types.SchemaTree
import DdsPipe.Types.SpecificEndpointQoS
import DdsPipe.Types.StringSearch
import DdsPipe.Types.Topic
import DdsPipe.Types.TopicIdentity
import DdsPipe.Types.TopicQoS
import DdsPipe.Yaml.ParticipantsDocument
import DdsPipe.Yaml.ParticipantsReader
import DdsPipe.Yaml.QosReader
import DdsPipe.Yaml.RoutesReader
import DdsPipe.Yaml.YamlReader
