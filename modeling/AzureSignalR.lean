import AzureSignalR.Library.Decoder
import AzureSignalR.Common.BinaryMessage
import AzureSignalR.Protocol.MessagePack
import AzureSignalR.Protocol.MessagePackUtils
import AzureSignalR.Protocol.ExtensionMembers
import AzureSignalR.Protocol.ServiceProtocol
import AzureSignalR.Protocol.RoundTrip
import AzureSignalR.Protocol.MessagePackFormat
import AzureSignalR.Library.Machine
import AzureSignalR.Library.Pipe
import AzureSignalR.ServiceConnections.Receive
import AzureSignalR.ServiceConnections.ReceiveDelivery
import AzureSignalR.ServiceConnections.ReceiveTermination
import AzureSignalR.ServiceConnections.ReceiveProgress
import AzureSignalR.ClientConnections.Inbound
import AzureSignalR.ClientConnections.InboundDelivery
import AzureSignalR.Library.Semaphore
import AzureSignalR.ClientConnections.Outgoing
import AzureSignalR.ClientConnections.OutgoingOrder
import AzureSignalR.Library.Trace
import AzureSignalR.ClientConnections.OutgoingDelivery
import AzureSignalR.ClientConnections.PauseProtocol
import AzureSignalR.Utilities.AckHandler
import AzureSignalR.Utilities.AckCauses
import AzureSignalR.ServiceConnections.ContainerAcks
import AzureSignalR.Utilities.AckCorrelation
import AzureSignalR.Utilities.AckIsolation
import AzureSignalR.Utilities.MultiAck
import AzureSignalR.Utilities.AckCounting
import AzureSignalR.Utilities.MultiAckRuns
import AzureSignalR.Protocol.MessagePackValues
import AzureSignalR.Protocol.ExtensionMap
import AzureSignalR.Protocol.ForwardCompatibility
import AzureSignalR.Library.Layout
import AzureSignalR.Protocol.MessageLayouts
import AzureSignalR.Protocol.VersionTolerance
import AzureSignalR.ServiceConnections.MultiEndpointAcks
import AzureSignalR.ClientInvocation.Invocation
import AzureSignalR.ClientInvocation.InvocationDelivery
import AzureSignalR.ClientInvocation.InvocationCompletion
import AzureSignalR.ClientInvocation.InvocationFailure
import AzureSignalR.ClientInvocation.InvocationResult
import AzureSignalR.Endpoints.ServiceEndpoint
import AzureSignalR.Endpoints.ReloadAlgebra
import AzureSignalR.ServiceConnections.ConnectionSlots
import AzureSignalR.ServiceConnections.ContainerStatus
import AzureSignalR.ServiceConnections.WriteLock
import AzureSignalR.ServiceConnections.ConnectionSelection
import AzureSignalR.ServiceConnections.MessageWrite
import AzureSignalR.ServiceConnections.ServersPing
import AzureSignalR.ClientConnections.OutputCompletion
import AzureSignalR.ServiceConnections.ClientBookkeeping
import AzureSignalR.ServiceConnections.ClientOwnership
import AzureSignalR.ServiceConnections.ClientRegistration
import AzureSignalR.Endpoints.ServiceEndpointManager
import AzureSignalR.Endpoints.ReloadConvergence
import AzureSignalR.Library.AsyncIterator
import AzureSignalR.ServiceConnections.GroupListing
import AzureSignalR.Common.MemoryBufferWriter
import AzureSignalR.ServiceConnections.OnDemandCap
import AzureSignalR.Auth.AccessKeyAvailability
import AzureSignalR.Auth.AccessKeyLifeCycle
import AzureSignalR.Auth.KeyPairing
import AzureSignalR.Endpoints.HealthCheck
import AzureSignalR.Library.Json
import AzureSignalR.Management.HubMessageText
import AzureSignalR.Protocol.MessageEncoding
import AzureSignalR.Serverless.ArgumentPositions
import AzureSignalR.Serverless.InvocationMessages
import AzureSignalR.AspNet.ClientDisconnects
import AzureSignalR.AspNet.ClientMessages
import AzureSignalR.AspNet.ClientReceiving
import AzureSignalR.AspNet.ClientRuns
import AzureSignalR.AspNet.PossibleNames
import AzureSignalR.ClientConnections.FakeBlazorPackHubProtocol
import AzureSignalR.Endpoints.HubRouting
import AzureSignalR.Endpoints.RenameReload
import AzureSignalR.Library.FiniteMap
import AzureSignalR.Protocol.ArrayDictionary
import AzureSignalR.ServiceConnections.PingHandling
import AzureSignalR.ServiceConnections.SelectConnection
import AzureSignalR.Utilities.ClaimsUtility
import AzureSignalR.Utilities.ConnectionStringParser
import AzureSignalR.Utilities.IdentitySettings
import AzureSignalR.Common.MemoryBufferOperations
import AzureSignalR.Emulator.CloseConnections
import AzureSignalR.Emulator.HubProxyDispatch
import AzureSignalR.Emulator.MembershipRace
import AzureSignalR.Endpoints.DefaultEndpointRouter
import AzureSignalR.Endpoints.NegotiateRedirect
import AzureSignalR.Management.ExponentialBackOffPolicy
import AzureSignalR.Management.RestHubLifetimeManager
import AzureSignalR.Common.LengthPrefix
import AzureSignalR.Library.CyclicWalk
import AzureSignalR.Library.SegmentCursors
import AzureSignalR.Serverless.ReadOnlySequenceStream
import AzureSignalR.ServiceConnections.ActiveScan
import AzureSignalR.ServiceConnections.Wire
import AzureSignalR.Utilities.TimerAwaitable
import AzureSignalR.Management.RestClient
import AzureSignalR.ServiceConnections.GracefulShutdown
import AzureSignalR.AspNet.TransportSend
import AzureSignalR.Auth.JwtToken
