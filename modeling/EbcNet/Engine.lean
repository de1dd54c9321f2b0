import EbcNet.MsgPack
import Std.Data.ExtTreeMap.Lemmas

/-! `NetEngine`: the registries of clients and peers, and the handler of received
messages that both roles share. -/

namespace EbcNet

open Wire
open Std (ExtTreeMap)

/-- How the calls of `startPunch` went. A socket that could be made is closed again
when a later call fails. -/
inductive PunchOutcome where
  | socketFails
  | bindFails (sock : UDTSOCKET)
  | connectFails (sock : UDTSOCKET)
  | connects (sock : UDTSOCKET)

/-- What a handler does to the outside, in order. A `send` is of a buffer that
`pack` filled and of the length that it returned. -/
inductive Action where
  | send (sock : UDTSOCKET) (packed : Packed)
  | startPunch (ip : UInt32) (port : UInt16)
  | connect (sock : UDTSOCKET) (addr : SockAddrIn)
  | close (sock : UDTSOCKET)
  | epollAdd (epollFd : Int) (sock : UDTSOCKET)

/-- What one call of `handleMsg` gets from outside the program: the bytes that
`UDT::recv` returns, the address of `UDT::getpeername`, how each `startPunch` goes,
and the memory it did not write. -/
structure Env where
  recv : Option Bytes
  peerName : SockAddrIn
  punch : Nat → PunchOutcome
  memory : Memory

structure NetEngine where
  self : Node
  isServer : Bool
  peerNode : ExtTreeMap NodeId Node := ∅
  clientNode : ExtTreeMap NodeId Node := ∅
  sockIdPair : ExtTreeMap UDTSOCKET NodeId := ∅

namespace NetEngine

/-! ### Registries -/

/-- The entry that `addClientNode` makes. -/
def clientEntry (memory : Memory) (id : NodeId) (addr : SockAddrIn) (nat : NatType)
    (sock : UDTSOCKET) : Node :=
  { Node.ofId memory id with
    addr := ((SockAddr.new memory).setPort addr.sinPort).setIPv4 addr.sinAddr
    nat := nat
    sock := sock
    state := .CONNECTED }

/-- `map::insert` keeps an entry that is there, `operator[]` overwrites it. -/
def addClientNode (engine : NetEngine) (memory : Memory) (id : Bytes) (addr : SockAddrIn)
    (nat : NatType) (sock : UDTSOCKET) : NetEngine :=
  let id := string2NodeId memory id
  { engine with
    clientNode := engine.clientNode.insertIfNew id (clientEntry memory id addr nat sock)
    sockIdPair := engine.sockIdPair.insert sock id }

/-- The entry that `addPeerNode` makes. -/
def peerEntry (memory : Memory) (id : NodeId) (ip portNat : UInt32) (sock : UDTSOCKET) : Node :=
  { Node.ofId memory id with
    addr := ((SockAddr.new memory).setPort (parPort portNat).toUInt16).setIPv4 ip
    nat := parNat portNat
    sock := sock }

def addPeerNode (engine : NetEngine) (memory : Memory) (id : Bytes) (ip portNat : UInt32)
    (sock : UDTSOCKET) : NetEngine :=
  let id := string2NodeId memory id
  { engine with
    peerNode := engine.peerNode.insertIfNew id (peerEntry memory id ip portNat sock)
    sockIdPair := engine.sockIdPair.insert sock id }

def delClientNode (engine : NetEngine) (sock : UDTSOCKET) : NetEngine :=
  match engine.sockIdPair[sock]? with
  | none => engine
  | some id =>
    { engine with
      clientNode := engine.clientNode.erase id
      sockIdPair := engine.sockIdPair.erase sock }

def delPeerNode (engine : NetEngine) (sock : UDTSOCKET) : NetEngine :=
  match engine.sockIdPair[sock]? with
  | none => engine
  | some id =>
    { engine with
      peerNode := engine.peerNode.erase id
      sockIdPair := engine.sockIdPair.erase sock }

/-- The branch of the boot loop for a peer's socket whose connect succeeded.
`operator[]` makes an id for a socket that has none, and a peer that is not found
is written back as a new node. -/
def peerConnected (engine : NetEngine) (memory : Memory) (sock : UDTSOCKET) : NetEngine :=
  let peerId := engine.sockIdPair.getD sock .zero
  let node := engine.peerNode.getD peerId (.new memory)
  { engine with
    sockIdPair := engine.sockIdPair.insertIfNew sock .zero
    peerNode := engine.peerNode.insert peerId { node with state := .CONNECTED } }

/-! ### Messages -/

/-- `startPunch`: the socket it returns and what it did. -/
def startPunch (outcome : PunchOutcome) (epollFd : Int) (ip : UInt32) (port : UInt16) :
    UDTSOCKET × List Action :=
  let addr : SockAddrIn := ⟨ip, port⟩
  match outcome with
  | .socketFails => (INVALID_SOCK, [.startPunch ip port])
  | .bindFails sock => (INVALID_SOCK, [.startPunch ip port, .close sock])
  | .connectFails sock => (INVALID_SOCK, [.startPunch ip port, .connect sock addr, .close sock])
  | .connects sock => (sock, [.startPunch ip port, .connect sock addr, .epollAdd epollFd sock])

/-- Punch towards a node, and store it as a peer unless that failed. The turn
counts the calls of `startPunch` in one message. -/
def introduce (env : Env) (epollFd : Int) (engine : NetEngine) (turn : Nat) (node : EbcNode) :
    NetEngine × List Action :=
  let (sock, actions) :=
    startPunch (env.punch turn) epollFd node.ip (parPort node.portNat).toUInt16
  if sock = INVALID_SOCK then (engine, actions)
  else (engine.addPeerNode env.memory node.id node.ip node.portNat sock, actions)

def introduceAll (env : Env) (epollFd : Int) :
    NetEngine → Nat → List EbcNode → NetEngine × List Action
  | engine, _, [] => (engine, [])
  | engine, turn, node :: nodes =>
    let (engine, actions) := introduce env epollFd engine turn node
    let (engine, later) := introduceAll env epollFd engine (turn + 1) nodes
    (engine, actions ++ later)

/-- The size of the buffer of `handleMsg`. -/
def bufSize : Nat := 6 * 1024

/-- `memset(buf, 0, sizeof(buf))` -/
def zeroBuf : Bytes := List.replicate bufSize 0

/-- How a registered client is listed. -/
def listed (node : Node) : EbcNode where
  id := node.id.bytes
  ip := node.addr.getIPv4.sinAddr
  portNat := comPortNat node.addr.getIPv4.sinPort node.nat

section Handlers
variable (runtime : Runtime)

/-- The node that a server tells its clients about. -/
def punchNode (env : Env) (msg : EbcMsg) (first : EbcNode) : EbcNode where
  id := msg.srcId
  ip := env.peerName.sinAddr
  portNat := comPortNat env.peerName.sinPort (parNat first.portNat)

/-- The server's part of `GET_NODE`, up to the reply: tell every client, list them
all, and register the sender. It is `none` where the code indexes an empty list, and
`some none` where it leaves the handler. -/
def tellClients (engine : NetEngine) (env : Env) (sock : UDTSOCKET) (msg : EbcMsg) :
    Option (Option (NetEngine × EbcNodes × List Action)) :=
  msg.nodes.ebcNodes[0]?.bind fun first =>
    (MsgPack.pack runtime { selfId := engine.self.id } .PUNCH (.node (punchNode env msg first))
      (some zeroBuf) (Int32.ofNat bufSize) .EMPTY_SUB .zero).map fun punch =>
        if punch.ret < 0 then none
        else
          let clients := engine.clientNode.toList.map Prod.snd
          some (engine.addClientNode env.memory msg.srcId env.peerName (parNat first.portNat) sock,
            { ebcNodes := clients.map listed },
            clients.map fun node => .send node.sock punch)

/-- The answer to `GET_NODE`, packed on the object that received it. -/
def reply (object : MsgPack) (sock : UDTSOCKET) (nodes : EbcNodes) : Option (List Action) :=
  (object.pack runtime .REP (.nodes nodes) (some zeroBuf) (Int32.ofNat bufSize) .NODE .zero).map
    fun packed => if packed.ret < 0 then [] else [.send sock packed]

def handleGetNode (engine : NetEngine) (env : Env) (sock : UDTSOCKET) (object : MsgPack) :
    Option (NetEngine × List Action) :=
  if engine.isServer then
    (engine.tellClients runtime env sock object.ebcMsg).bind fun told =>
      match told with
      | none => some (engine, [])
      | some (engine, nodes, sends) =>
        (reply runtime object sock nodes).map fun answer => (engine, sends ++ answer)
  else (reply runtime object sock {}).map fun answer => (engine, answer)

def handleRep (engine : NetEngine) (env : Env) (epollFd : Int) (msg : EbcMsg) :
    NetEngine × List Action :=
  if msg.subType = MsgSubType.NODE.toInt32 then
    introduceAll env epollFd engine 0 msg.nodes.ebcNodes
  else (engine, [])

/-- It is `none` where the code indexes an empty list. -/
def handlePunch (engine : NetEngine) (env : Env) (epollFd : Int) (msg : EbcMsg) :
    Option (NetEngine × List Action) :=
  msg.nodes.ebcNodes[0]?.map (introduce env epollFd engine 0)

/-- The object that a `handleMsg` goes on with, if it receives and accepts a message. -/
def received (engine : NetEngine) (env : Env) : Option MsgPack :=
  env.recv.bind (MsgPack.unpack runtime { selfId := engine.self.id })

/-- `handleMsg`. It is `none` where the code has no defined behaviour. -/
def handleMsg (engine : NetEngine) (env : Env) (sock : UDTSOCKET) (epollFd : Int) :
    Option (NetEngine × List Action) :=
  match engine.received runtime env with
  | none => some (engine, [])
  | some object =>
    if object.ebcMsg.type = MsgType.GET_NODE.toInt32 then
      engine.handleGetNode runtime env sock object
    else if object.ebcMsg.type = MsgType.REP.toInt32 then
      some (engine.handleRep env epollFd object.ebcMsg)
    else if object.ebcMsg.type = MsgType.PUNCH.toInt32 then
      engine.handlePunch env epollFd object.ebcMsg
    else some (engine, [])

end Handlers

end NetEngine

end EbcNet
