import EbcNet.Base.FieldStream
import EbcNet.Base.Framing
import EbcNet.Base.Grammar
import EbcNet.Base.Grants
import EbcNet.Base.InverseIndex
import EbcNet.Base.Machine
import EbcNet.Base.Sweep
import EbcNet.Base.Simulation
import EbcNet.Base.Varint
import EbcNet.Wire.Runtime
import EbcNet.Wire.Message
import EbcNet.Wire.Parse
import EbcNet.Wire.Fields
import EbcNet.Wire.RoundTrip
import EbcNet.Wire.Accepted
import EbcNet.Node
import EbcNet.MsgPack
import EbcNet.Wire.Reference
import EbcNet.Wire.Cached
import EbcNet.Wire.Declared
import EbcNet.Wire.Recognized
import EbcNet.Wire.Canonical
import EbcNet.Wire.Merge
import EbcNet.Engine
import EbcNet.Engine.Calls
import EbcNet.Engine.Announce
import EbcNet.Engine.Sends
import EbcNet.Engine.Punches
import EbcNet.Registry
import EbcNet.Boot
import EbcNet.Boot.Loop
import EbcNet.Boot.Tracking
import EbcNet.Boot.Closing
import EbcNet.Boot.Registrations
import EbcNet.Boot.Listening
import EbcNet.MsgPack.Reuse
import EbcNet.Engine.Delivery
import EbcNet.Stream
import EbcNet.Coalesced
import EbcNet.Hello
import EbcNet.Provenance
import EbcNet.Engine.Access
import EbcNet.Engine.Sizes
import EbcNet.Rendezvous
import EbcNet.Rendezvous.Pairs
import EbcNet.Rendezvous.Peers
import EbcNet.Rendezvous.Mutual
import EbcNet.ServerLoop
import EbcNet.Network
import EbcNet.Network.Sockets
import EbcNet.Network.Clients
import EbcNet.Network.Introductions
import EbcNet.Server.Thread
import EbcNet.Deployment
import EbcNet.Deployment.Visits
import EbcNet.Deployment.Clients
import EbcNet.Server.Refinement
import EbcNet.Deployment.Refinement
import EbcNet.MsgPack.Leftovers
import EbcNet.Engine.Ids
import EbcNet.Established
import EbcNet.Latest
import EbcNet.MsgPack.Truncated
import EbcNet.MsgPack.Documented
import EbcNet.NatRelay
import EbcNet.OpenClients
import EbcNet.SelfIntroduction
import EbcNet.Server.Connections
