import ConsulAgent.Go
import ConsulAgent.Structs
import ConsulAgent.Snapshot
import ConsulAgent.Upstreams
import ConsulAgent.ConnectProxy
import ConsulAgent.TerminatingGateway
import ConsulAgent.MeshGateway
import ConsulAgent.IngressGateway
import ConsulAgent.State
import ConsulAgent.Initialize
import ConsulAgent.Run
import ConsulAgent.Routing
import ConsulAgent.ChainReset
import ConsulAgent.HandlesIssued
import ConsulAgent.Watches
import ConsulAgent.LoopRuns
import ConsulAgent.Deliveries
import ConsulAgent.Books
import ConsulAgent.TerminatingBooks
import ConsulAgent.MeshBooks
import ConsulAgent.Passthrough
import ConsulAgent.IntentionUpstreams
import ConsulAgent.IngressLeaf
import ConsulAgent.Errors
import ConsulAgent.MeshData
import ConsulAgent.Hostnames
import ConsulAgent.GatewayWatch
import ConsulAgent.Dispatch
import ConsulAgent.AntiEntropy.ScaleFactor
import ConsulAgent.AntiEntropy.Pause
import ConsulAgent.AntiEntropy.Syncer
import ConsulAgent.AntiEntropy.Triggers
