import Gadget.AggSigGossip.Equivocation
import Gadget.AggSigGossip.Framing
import Gadget.AggregationSvc.Rollback
import Gadget.Auth.IssuedKeys
import Gadget.Auth.OAuth
import Gadget.Auth.Revocation
import Gadget.Cli.CoercionPanics
import Gadget.Cli.CompactLength
import Gadget.EvmExtra.Polling
import Gadget.GossipPrimitives.Store
import Gadget.Keystore.MapRefinement
import Gadget.Manager.Bridge.Server
import Gadget.Manager.Rt.Service
import Gadget.Manager.Tangle.FaultIsolation
import Gadget.Manager.Tangle.RunningRecord
import Gadget.Manager.Tangle.Sources
import Gadget.Manager.Upgrade.LocalAuthz
import Gadget.Manager.Upgrade.Notifications
import Gadget.Manager.Upgrade.TrustChain
import Gadget.Networking.Consistency
import Gadget.Networking.Identity
import Gadget.Networking.PeerTables
import Gadget.Networking.PrivateMessages
import Gadget.Networking.SenderAuthenticity
import Gadget.PricingEngine.Listener
import Gadget.PricingEngine.ProofOfWork
import Gadget.PricingEngine.Settlement
import Gadget.Qos.Heartbeat
import Gadget.RemoteProviders.Firewall
import Gadget.RemoteProviders.Health
import Gadget.RemoteProviders.UpdateManager
import Gadget.Runner.BackgroundServices
import Gadget.Runner.Faas
import Gadget.Runner.JobAccounting
import Gadget.Runner.Shutdown
import Gadget.TangleExtra.CacheInvalidation
import Gadget.TangleExtra.Delivery
import Gadget.TangleExtra.EventDecoding
import Gadget.TangleExtra.OffChain
import Gadget.TangleExtra.P2pResult
import Gadget.TangleExtra.Redundancy
import Gadget.TangleExtra.SignedPayloads
import Gadget.TangleExtra.Thresholds
import Gadget.Tee.VerificationLevel
import Gadget.X402.PayerCache
import Gadget.X402.PriceConversion
import Gadget.X402.QuoteRace
