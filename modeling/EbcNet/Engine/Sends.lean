import EbcNet.Engine.Announce

/-! The messages that a handler sends: the `PUNCH` to every registered client and
the `REP` to the sender of a `GET_NODE`. -/

namespace EbcNet

open Wire

namespace NetEngine

/-- The `PUNCH` that introduces a node. -/
def punchMsg (runtime : Runtime) (selfId : NodeId) (node : EbcNode) : EbcMsg where
  head := msgHead
  version := NET_VERSION
  srcId := selfId.bytes
  type := MsgType.PUNCH.toInt32
  length := UInt32.ofNat (EbcNodes.byteSizeLong runtime { ebcNodes := [node] })
  body := .nodes { ebcNodes := [node] }

/-- The `REP` that lists nodes. It keeps what else the request held. -/
def repMsg (runtime : Runtime) (object : MsgPack) (nodes : EbcNodes) : EbcMsg :=
  { object.ebcMsg with
    head := msgHead
    version := NET_VERSION
    srcId := object.selfId.bytes
    dstId := NodeId.zero.bytes
    type := MsgType.REP.toInt32
    subType := MsgSubType.NODE.toInt32
    length := UInt32.ofNat (nodes.byteSizeLong runtime)
    body := .nodes nodes }

variable {runtime : Runtime} {selfId : NodeId} {node : EbcNode} {buf : Option Bytes} {size : Int32}
variable {packed : Packed} {object : MsgPack} {nodes : EbcNodes}

theorem pack_punch_eq
    (done : MsgPack.pack runtime { selfId } .PUNCH (.node node) buf size .EMPTY_SUB .zero =
      some packed) : packed.object.ebcMsg = punchMsg runtime selfId node := by
  rw [← Option.some.inj (MsgPack.pack_eq done).1]
  simp [punchMsg, MsgPack.addNode, EbcMsg.mutableNodes, EbcMsg.nodes, EbcNodes.addEbcnodes]

theorem pack_rep_eq
    (done : object.pack runtime .REP (.nodes nodes) buf size .NODE .zero = some packed) :
    packed.object.ebcMsg = repMsg runtime object nodes := by
  rw [← Option.some.inj (MsgPack.pack_eq done).1]
  simp [repMsg, EbcMsg.mutableNodes]

theorem punchMsg_size_le (runtime : Runtime) (selfId : NodeId) {node : EbcNode}
    (known : node.unknown = []) :
    (punchMsg runtime selfId node).byteSizeLong runtime ≤ node.id.length + 120 := by
  have size := (punchMsg runtime selfId node).byteSizeLong_le runtime
  have body := Body.byteSizeLong_nodes_le runtime { ebcNodes := [node] }
  have single := byteSizeLong_single_le runtime node known
  have version : NET_VERSION.length = 6 := rfl
  simp only [punchMsg, List.length_nil, selfId.length_eq, idLength, version] at size ⊢
  omega

theorem ret_not_neg (done : packed.ret = Int32.ofNat (packed.object.ebcMsg.byteSizeLong runtime))
    (fits : packed.object.ebcMsg.byteSizeLong runtime ≤ intMax) : ¬ packed.ret < 0 := by
  rw [done, Int32.lt_iff_toInt_lt, MsgPack.toInt_ofNat fits]
  change ¬ (_ : Int) < 0
  omega

/-! ### Roles do not change -/

theorem call_role (engine : NetEngine) (made : Call) :
    (engine.call made).self = engine.self ∧ (engine.call made).isServer = engine.isServer := by
  cases made with
  | addClient => exact ⟨rfl, rfl⟩
  | addPeer => exact ⟨rfl, rfl⟩
  | delClient sock =>
    simp only [call, delClientNode]
    split <;> exact ⟨rfl, rfl⟩
  | delPeer sock =>
    simp only [call, delPeerNode]
    split <;> exact ⟨rfl, rfl⟩

theorem step_role {engine next : NetEngine} {event : Event} {effect : Effect}
    (taken : step runtime engine event = some (next, effect)) :
    next.self = engine.self ∧ next.isServer = engine.isServer :=
  @step_preserves runtime (fun state => state.self = engine.self ∧ state.isServer = engine.isServer)
    (fun same made => ⟨(call_role _ made).1.trans same.1, (call_role _ made).2.trans same.2⟩)
    _ _ _ _ ⟨rfl, rfl⟩ taken

theorem run_role {start state : NetEngine} {trace : List (Event × Effect)}
    (run : Machine.Run (step runtime) start trace state) :
    state.self = start.self ∧ state.isServer = start.isServer :=
  @run_preserves runtime (fun state => state.self = start.self ∧ state.isServer = start.isServer)
    (fun same made => ⟨(call_role _ made).1.trans same.1, (call_role _ made).2.trans same.2⟩)
    _ _ _ ⟨rfl, rfl⟩ run

/-! ### What a server sends -/

section Server
variable {engine next : NetEngine} {env : Env} {sock : UDTSOCKET} {epollFd : Int}
variable {actions : List Action} {first : EbcNode} {punch rep : Packed}

/-- The nodes that a server lists, in the order of their ids. -/
def clientList (engine : NetEngine) : List Node := engine.clientNode.toList.map Prod.snd

/-- What a `GET_NODE` does at a server that can tell of its id: every client is told about
the sender, the sender is answered with all of them, and then it is one of them. -/
structure Registration (runtime : Runtime) (engine next : NetEngine) (env : Env) (sock : UDTSOCKET)
    (object : MsgPack) (actions : List Action) (first : EbcNode) (punch rep : Packed) : Prop where
  indexed : object.ebcMsg.nodes.ebcNodes[0]? = some first
  punched : MsgPack.pack runtime { selfId := engine.self.id } .PUNCH
    (.node (punchNode env object.ebcMsg first)) (some zeroBuf) (Int32.ofNat bufSize) .EMPTY_SUB
    .zero = some punch
  replied : object.pack runtime .REP (.nodes { ebcNodes := engine.clientList.map listed })
    (some zeroBuf) (Int32.ofNat bufSize) .NODE .zero = some rep
  calls : engine.calls runtime env sock =
    [.addClient env.memory object.ebcMsg.srcId env.peerName (parNat first.portNat) sock]
  next : next =
    engine.addClientNode env.memory object.ebcMsg.srcId env.peerName (parNat first.portNat) sock
  actions : actions = engine.clientList.map (fun node => .send node.sock punch) ++
    if rep.ret < 0 then [] else [.send sock rep]

theorem bufSize_toInt : (Int32.ofNat bufSize).toInt = bufSize := by decide

theorem punch_size_le (runtime : Runtime) (selfId : NodeId) (env : Env) (first : EbcNode) :
    (punchMsg runtime selfId (punchNode env object.ebcMsg first)).byteSizeLong runtime ≤
      object.ebcMsg.srcId.length + 120 := by
  have known : (punchNode env object.ebcMsg first).unknown = [] := rfl
  exact punchMsg_size_le runtime selfId known

theorem punch_fits (runtime : Runtime) (selfId : NodeId) (env : Env) (first : EbcNode)
    (whole : object.ebcMsg.srcId.length = idLength) :
    (punchMsg runtime selfId (punchNode env object.ebcMsg first)).byteSizeLong runtime ≤ bufSize := by
  have size := @punch_size_le object runtime selfId env first
  rw [whole] at size
  exact Nat.le_trans size (by decide)

/-- A server does not give up on telling its clients about an id that is not too long. -/
theorem tellClients_ne_none (short : object.ebcMsg.srcId.length ≤ bufSize) :
    engine.tellClients runtime env sock object.ebcMsg ≠ some none := by
  intro gaveUp
  obtain ⟨first, _, packing⟩ := Option.bind_eq_some_iff.mp gaveUp
  obtain ⟨punch, packed, sending⟩ := Option.map_eq_some_iff.mp packing
  have message := pack_punch_eq packed
  have small : punch.object.ebcMsg.byteSizeLong runtime ≤ intMax := by
    have size := @punch_size_le object runtime engine.self.id env first
    rw [message]
    unfold bufSize at short
    unfold intMax
    omega
  simp [ret_not_neg (MsgPack.pack_eq packed).2.2 small] at sending

/-- At a server, a handled `GET_NODE` is a registration unless its id is too long. -/
theorem handleMsg_getNode
    (done : engine.handleMsg runtime env sock epollFd = some (next, actions))
    (server : engine.isServer = true) (accepted : engine.received runtime env = some object)
    (type : object.ebcMsg.type = MsgType.GET_NODE.toInt32)
    (short : object.ebcMsg.srcId.length ≤ bufSize) :
    ∃ first punch rep, Registration runtime engine next env sock object actions first punch rep := by
  have notIgnored : engine.calls runtime env sock ≠ [] := by
    simp only [handleMsg, accepted, type, if_true, handleGetNode, server] at done
    obtain ⟨outcome, told, _⟩ := Option.bind_eq_some_iff.mp done
    cases outcome with
    | none => exact absurd told (tellClients_ne_none short)
    | some outcome =>
      obtain ⟨first, _, indexed, _⟩ := tellClients_eq_some told
      simp [calls, accepted, type, server, told, indexed]
  cases handleMsg_handled done with
  | ignored nothing => exact absurd nothing notIgnored
  | registered acceptedAgain _ _ indexed packed sendable told answered =>
    obtain rfl := Option.some.inj (accepted.symm.trans acceptedAgain)
    obtain ⟨rep, replied, rfl⟩ := Option.map_eq_some_iff.mp answered
    exact ⟨_, _, rep, indexed, packed, replied, told, rfl, rfl⟩
  | answered _ _ client _ _ => simp [server] at client
  | introduced acceptedAgain typeAgain _ _ =>
    obtain rfl := Option.some.inj (accepted.symm.trans acceptedAgain)
    simp [type] at typeAgain
  | punched acceptedAgain typeAgain _ _ =>
    obtain rfl := Option.some.inj (accepted.symm.trans acceptedAgain)
    simp [type] at typeAgain

private theorem startPunch_send (packed : Packed) (epollFd : Int) (outcome : PunchOutcome)
    (ip : UInt32) (port : UInt16) (target : UDTSOCKET) : .send target packed ∉ (startPunch outcome epollFd ip port).2 := by
  cases outcome <;> simp [startPunch]

theorem introduce_send (turn : Nat) (node : EbcNode) (target : UDTSOCKET) :
    .send target packed ∉ (introduce env epollFd engine turn node).2 := by
  rw [introduce_actions]
  exact startPunch_send packed epollFd (env.punch turn) node.ip (parPort node.portNat).toUInt16 target

theorem introduceAll_send (turn : Nat) (nodes : List EbcNode) (target : UDTSOCKET) :
    .send target packed ∉ (introduceAll env epollFd engine turn nodes).2 := by
  induction nodes generalizing engine turn with
  | nil => simp [introduceAll]
  | cons node nodes ih =>
    intro sent
    rcases List.mem_append.mp sent with now | later
    · exact introduce_send turn node target now
    · exact ih (turn + 1) later

/-- What a handler sends is a `PUNCH` or a `REP`. -/
theorem handleMsg_type {target : UDTSOCKET} {packed : Packed}
    (done : engine.handleMsg runtime env sock epollFd = some (next, actions))
    (sent : .send target packed ∈ actions) :
    packed.object.ebcMsg.type ≠ MsgType.GET_NODE.toInt32 := by
  have answer : ∀ {object nodes} {answer : List Action}, reply runtime object sock nodes = some answer →
      .send target packed ∈ answer → packed.object.ebcMsg.type ≠ MsgType.GET_NODE.toInt32 := by
    intro object nodes answer answered member
    obtain ⟨rep, replied, rfl⟩ := Option.map_eq_some_iff.mp answered
    split at member
    · simp at member
    · cases List.mem_singleton.mp member
      rw [pack_rep_eq replied]
      simp [repMsg]
  cases handleMsg_handled done with
  | ignored => simp at sent
  | registered _ _ _ _ punched _ _ answered =>
    rcases List.mem_append.mp sent with toClient | toSender
    · obtain ⟨node, _, same⟩ := List.mem_map.mp toClient
      cases same
      rw [pack_punch_eq punched]
      simp [punchMsg]
    · exact answer answered toSender
  | answered _ _ _ _ answered => exact answer answered sent
  | introduced => exact absurd sent (introduceAll_send 0 _ target)
  | punched => exact absurd sent (introduce_send 0 _ target)

/-- A message that a server sends when it handles a `GET_NODE`. -/
inductive Sent (runtime : Runtime) (engine : NetEngine) (env : Env) (sock : UDTSOCKET)
    (object : MsgPack) (first : EbcNode) : UDTSOCKET → Packed → Prop where
  | punch {node : Node} {packed : Packed} (client : node ∈ engine.clientList)
      (punched : MsgPack.pack runtime { selfId := engine.self.id } .PUNCH
        (.node (punchNode env object.ebcMsg first)) (some zeroBuf) (Int32.ofNat bufSize) .EMPTY_SUB
        .zero = some packed) : Sent runtime engine env sock object first node.sock packed
  | rep {packed : Packed}
      (replied : object.pack runtime .REP (.nodes { ebcNodes := engine.clientList.map listed })
        (some zeroBuf) (Int32.ofNat bufSize) .NODE .zero = some packed) :
      Sent runtime engine env sock object first sock packed

/-- A server sends nothing but on the arrival of a `GET_NODE`. -/
theorem step_sends {event : Event} {effect : Effect} {target : UDTSOCKET}
    (server : engine.isServer = true) (taken : step runtime engine event = some (next, effect))
    (sent : .send target packed ∈ effect.actions) :
    ∃ env sock epollFd object first, event = .message env sock epollFd ∧
      engine.received runtime env = some object ∧
      object.ebcMsg.type = MsgType.GET_NODE.toInt32 ∧
      object.ebcMsg.nodes.ebcNodes[0]? = some first ∧
      effect.calls =
        [.addClient env.memory object.ebcMsg.srcId env.peerName (parNat first.portNat) sock] ∧
      Sent runtime engine env sock object first target packed := by
  cases event with
  | clientLost lost =>
    cases taken
    simp at sent
  | peerLost lost =>
    cases taken
    simp at sent
  | message env sock epollFd =>
    obtain ⟨actions, done, rfl⟩ := step_message taken
    dsimp only at sent
    cases handleMsg_handled done with
    | ignored nothing => simp at sent
    | registered accepted type _ indexed punched _ told answered =>
      refine ⟨env, sock, epollFd, _, _, rfl, accepted, type, indexed, told, ?_⟩
      obtain ⟨rep, replied, rfl⟩ := Option.map_eq_some_iff.mp answered
      rcases List.mem_append.mp sent with toClient | toSender
      · obtain ⟨node, client, same⟩ := List.mem_map.mp toClient
        cases same
        exact .punch client punched
      · split at toSender
        · simp at toSender
        · cases List.mem_singleton.mp toSender
          exact .rep replied
    | answered _ _ client _ _ => simp [server] at client
    | introduced => exact absurd sent (introduceAll_send 0 _ target)
    | punched => exact absurd sent (introduce_send 0 _ target)

end Server

end NetEngine

end EbcNet
