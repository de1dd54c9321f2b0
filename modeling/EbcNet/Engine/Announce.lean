import EbcNet.Engine.Calls
import EbcNet.Wire.Reference

/-! The `GET_NODE` that a client sends once it is connected to a server, and what a
server receives of it. -/

namespace EbcNet

open Wire

/-- The message that the boot loop packs. A client does not know its own address. -/
def announce (runtime : Runtime) (self : Node) : Option Packed :=
  MsgPack.pack runtime { selfId := self.id } .GET_NODE
    (.node { portNat := comPortNat 0 self.nat }) (some (List.replicate 1024 0)) 1024 .EMPTY_SUB .zero

/-- The message as it stands after that. -/
def announcement (runtime : Runtime) (self : Node) : EbcMsg where
  head := msgHead
  version := NET_VERSION
  srcId := self.id.bytes
  type := MsgType.GET_NODE.toInt32
  length := UInt32.ofNat
    (EbcNodes.byteSizeLong runtime { ebcNodes := [{ portNat := comPortNat 0 self.nat }] })
  body := .nodes { ebcNodes := [{ portNat := comPortNat 0 self.nat }] }

theorem unknownFields_nil (runtime : Runtime) : runtime.unknownFields [] = [] := by
  simp [Runtime.unknownFields]

/-- A list of one node without unknown fields. -/
theorem byteSizeLong_single_le (runtime : Runtime) (node : EbcNode) (known : node.unknown = []) :
    EbcNodes.byteSizeLong runtime { ebcNodes := [node] } ≤ node.id.length + 24 := by
  have size := node.byteSizeLong_le runtime
  have counted := lengthDelimitedSize_le (node.byteSizeLong runtime)
  rw [known, List.length_nil] at size
  simp only [EbcNodes.byteSizeLong, unknownFields_nil, List.length_nil, List.map_cons, List.map_nil,
    List.sum_singleton]
  omega

theorem announcement_fits (runtime : Runtime) (self : Node) :
    (announcement runtime self).byteSizeLong runtime ≤ 1024 := by
  have size := (announcement runtime self).byteSizeLong_le runtime
  have body := Body.byteSizeLong_nodes_le runtime { ebcNodes := [{ portNat := comPortNat 0 self.nat }] }
  have single := byteSizeLong_single_le runtime { portNat := comPortNat 0 self.nat } rfl
  have version : NET_VERSION.length = 6 := rfl
  simp only [announcement, List.length_nil, self.id.length_eq, idLength, version] at size single ⊢
  omega

theorem announce_eq (runtime : Runtime) (self : Node) :
    ∃ packed, announce runtime self = some packed ∧
      packed.object.ebcMsg = announcement runtime self ∧
      packed.sent = (announcement runtime self).serializeWithCachedSizes runtime := by
  obtain ⟨packed, done⟩ : ∃ packed, announce runtime self = some packed := ⟨_, rfl⟩
  have message : packed.object.ebcMsg = announcement runtime self := by
    rw [← Option.some.inj (MsgPack.pack_eq done).1]
    simp [announcement, MsgPack.addNode, EbcMsg.mutableNodes, EbcMsg.nodes, EbcNodes.addEbcnodes]
  have fits : packed.object.ebcMsg.byteSizeLong runtime ≤ (1024 : Int32).toInt := by
    rw [message]
    exact Int.ofNat_le.mpr (announcement_fits runtime self)
  exact ⟨packed, done, message, by rw [MsgPack.sent_eq done fits, message]⟩

/-- Any object accepts an announcement as it was sent. -/
theorem unpack_announcement (runtime : Runtime) (self : Node) (receiver : MsgPack) :
    receiver.unpack runtime ((announcement runtime self).serializeWithCachedSizes runtime) =
      some { receiver with ebcMsg := announcement runtime self } := by
  have nodes : EbcNodes.Valid runtime { ebcNodes := [{ portNat := comPortNat 0 self.nat }] } := by
    refine ⟨?_, .nil⟩
    intro node member
    rw [List.mem_singleton.mp member]
    exact EbcNode.Valid.empty
  have sound : (announcement runtime self).Sound runtime :=
    ⟨rfl, MsgPack.version_valid, nodes, .nil⟩
  have observable : (announcement runtime self).observable runtime = announcement runtime self := by
    simp [EbcMsg.observable, announcement, Body.observable, EbcNodes.observable,
      EbcNode.observable, unknownFields_nil]
  have fits := announcement_fits runtime self
  have typed : MsgType.GET_NODE.toInt32 ≠ MsgType.EMPTY.toInt32 := by simp
  rw [MsgPack.unpack_serialize sound rfl typed (by unfold intMax; omega), observable]

/-! ### Arrivals to evaluate the model with -/

namespace Sample

def memory : Memory where
  behind _ := .zero
  addr := ⟨0, 0⟩
  sock := 0

/-- The id that repeats one byte. -/
def nodeId (byte : UInt8) : NodeId := ⟨List.replicate idLength byte, List.length_replicate⟩

def server : NetEngine where
  self := Node.new memory
  isServer := true

/-- What a client sends to a server once it is connected. -/
def getNode (id : NodeId) : Bytes :=
  (announcement Wire.Reference.runtime (Node.ofId memory id)).serializeWithCachedSizes
    Wire.Reference.runtime

def env (id : NodeId) (addr : SockAddrIn) : Env where
  recv := some (getNode id)
  peerName := addr
  punch _ := .socketFails
  memory := memory

/-- A `GET_NODE` from a client at an address. -/
def arrival (id : NodeId) (addr : SockAddrIn) (sock : UDTSOCKET) : NetEngine.Event :=
  .message (env id addr) sock 0

theorem received_env (engine : NetEngine) (id : NodeId) (addr : SockAddrIn) :
    engine.received Wire.Reference.runtime (env id addr) =
      some { selfId := engine.self.id,
             ebcMsg := announcement Wire.Reference.runtime (Node.ofId memory id) } := by
  simp only [NetEngine.received, env, getNode, Option.bind_some, unpack_announcement]

end Sample

end EbcNet
