import EbcNet.Engine.Sends
import EbcNet.MsgPack.Reuse
import EbcNet.Registry

/-! What a receiver makes of the messages that a server sends. -/

namespace EbcNet

open Wire

/-- The nodes that a packed message lists. -/
def Packed.listing (packed : Packed) : List EbcNode := packed.object.ebcMsg.nodes.ebcNodes

/-- The address of a `startPunch`. -/
def Action.punched : Action → Option SockAddrIn
  | .startPunch ip port => some ⟨ip, port⟩
  | _ => none

/-- The messages that actions send on a socket. -/
def sentTo (sock : UDTSOCKET) (actions : List Action) : List Packed :=
  actions.filterMap fun
    | .send target packed => if target = sock then some packed else none
    | _ => none

namespace NetEngine

section Message
variable {runtime : Runtime} {engine receiver next : NetEngine} {env : Env}
variable {sock target : UDTSOCKET} {epollFd : Int} {object : MsgPack} {first : EbcNode}
variable {packed : Packed} {actions : List Action}

private theorem known_valid {node : EbcNode} (known : node.unknown = []) : node.Valid runtime := by
  unfold EbcNode.Valid
  rw [known]
  exact .nil

/-- The messages that a server packs on an event: the `PUNCH` about the sender of a
`GET_NODE`, and the list of all clients for the sender. -/
def Packs (runtime : Runtime) (engine : NetEngine) (event : Event) (packed : Packed) : Prop :=
  ∃ env sock epollFd object first, event = .message env sock epollFd ∧
    engine.received runtime env = some object ∧
    object.ebcMsg.type = MsgType.GET_NODE.toInt32 ∧
    object.ebcMsg.nodes.ebcNodes[0]? = some first ∧
    (MsgPack.pack runtime { selfId := engine.self.id } .PUNCH
        (.node (punchNode env object.ebcMsg first)) (some zeroBuf) (Int32.ofNat bufSize) .EMPTY_SUB
        .zero = some packed ∨
      object.pack runtime .REP (.nodes { ebcNodes := engine.clientList.map listed }) (some zeroBuf)
        (Int32.ofNat bufSize) .NODE .zero = some packed)

/-- A server sends only what it packs. -/
theorem step_sends_packs {event : Event} {effect : Effect} (server : engine.isServer = true)
    (taken : step runtime engine event = some (next, effect))
    (sent : .send target packed ∈ effect.actions) : engine.Packs runtime event packed := by
  obtain ⟨env, sock, epollFd, object, first, arrived, accepted, type, indexed, _, sent⟩ :=
    step_sends server taken sent
  refine ⟨env, sock, epollFd, object, first, arrived, accepted, type, indexed, ?_⟩
  cases sent with
  | punch _ punched => exact Or.inl punched
  | rep replied => exact Or.inr replied

/-- A message that introduces nodes. It says which kind it is, and lists nodes that
were set field by field. -/
structure Introduces (runtime : Runtime) (packed : Packed) : Prop where
  sound : packed.object.ebcMsg.Sound runtime
  head : packed.object.ebcMsg.head = msgHead
  known : ∀ node ∈ packed.listing, node.unknown = []
  kind : (packed.object.ebcMsg.type = MsgType.PUNCH.toInt32 ∧ ∃ node, packed.listing = [node]) ∨
    (packed.object.ebcMsg.type = MsgType.REP.toInt32 ∧
      packed.object.ebcMsg.subType = MsgSubType.NODE.toInt32)
  returned : packed.ret = Int32.ofNat (packed.object.ebcMsg.byteSizeLong runtime)
  written : ∃ buf, packed.buf =
    some (packed.object.ebcMsg.serializeToArray runtime buf (Int32.ofNat bufSize))

theorem punch_introduces
    (punched : MsgPack.pack runtime { selfId := engine.self.id } .PUNCH
      (.node (punchNode env object.ebcMsg first)) (some zeroBuf) (Int32.ofNat bufSize) .EMPTY_SUB
      .zero = some packed) :
    Introduces runtime packed ∧ packed.listing = [punchNode env object.ebcMsg first] := by
  obtain ⟨assembled, written, returned⟩ := MsgPack.pack_eq punched
  obtain ⟨headed, keeps⟩ := MsgPack.assemble_spec assembled
  have list : packed.listing = [punchNode env object.ebcMsg first] := by
    rw [Packed.listing, pack_punch_eq punched]
    rfl
  refine ⟨⟨?_, headed.head, ?_, Or.inl ⟨headed.type, _, list⟩, returned, _, written⟩, list⟩
  · exact keeps (known_valid rfl) (MsgPack.Reachable.new engine.self.id).sound
  · intro node member
    rw [list] at member
    rw [List.mem_singleton.mp member]
    rfl

theorem rep_introduces {clients : List Node}
    (accepted : engine.received runtime env = some object)
    (replied : object.pack runtime .REP (.nodes { ebcNodes := clients.map listed })
      (some zeroBuf) (Int32.ofNat bufSize) .NODE .zero = some packed) :
    Introduces runtime packed ∧ packed.listing = clients.map listed := by
  obtain ⟨assembled, written, returned⟩ := MsgPack.pack_eq replied
  obtain ⟨headed, keeps⟩ := MsgPack.assemble_spec assembled
  obtain ⟨buf, _, unpacked⟩ := Option.bind_eq_some_iff.mp accepted
  have sound := (MsgPack.Reachable.unpack (.new engine.self.id) unpacked).sound
  have message := pack_rep_eq replied
  have list : packed.listing = clients.map listed := by
    rw [Packed.listing, message]
    rfl
  refine ⟨⟨keeps ⟨?_, .nil⟩ sound, headed.head, ?_, Or.inr ⟨headed.type, ?_⟩, returned, _,
    written⟩, list⟩
  · intro node member
    obtain ⟨client, _, rfl⟩ := List.mem_map.mp member
    exact known_valid rfl
  · intro node member
    rw [list] at member
    obtain ⟨client, _, rfl⟩ := List.mem_map.mp member
    rfl
  · rw [message]
    rfl

/-- What a server packs is about the sender of the `GET_NODE`, or lists its clients. -/
theorem Packs.introduces {event : Event} (packs : engine.Packs runtime event packed) :
    Introduces runtime packed ∧ ∃ env sock epollFd object first,
      event = .message env sock epollFd ∧ engine.received runtime env = some object ∧
      object.ebcMsg.type = MsgType.GET_NODE.toInt32 ∧
      object.ebcMsg.nodes.ebcNodes[0]? = some first ∧
      (packed.listing = [punchNode env object.ebcMsg first] ∨
        packed.listing = engine.clientList.map listed) := by
  obtain ⟨env, sock, epollFd, object, first, arrived, accepted, type, indexed, packs⟩ := packs
  rcases packs with punched | replied
  · obtain ⟨introduces, list⟩ := punch_introduces punched
    exact ⟨introduces, env, sock, epollFd, object, first, arrived, accepted, type, indexed,
      Or.inl list⟩
  · obtain ⟨introduces, list⟩ := rep_introduces accepted replied
    exact ⟨introduces, env, sock, epollFd, object, first, arrived, accepted, type, indexed,
      Or.inr list⟩

theorem Introduces.sent_eq (introduces : Introduces runtime packed)
    (fits : packed.object.ebcMsg.byteSizeLong runtime ≤ bufSize) :
    packed.sent = packed.object.ebcMsg.serializeWithCachedSizes runtime := by
  obtain ⟨buf, written⟩ := introduces.written
  have small : packed.object.ebcMsg.byteSizeLong runtime ≤ intMax := Nat.le_trans fits (by decide)
  have inside : (packed.object.ebcMsg.byteSizeLong runtime : Int) ≤ (Int32.ofNat bufSize).toInt := by
    rw [bufSize_toInt]
    exact Int.ofNat_le.mpr fits
  rw [Packed.sent, written, introduces.returned, MsgPack.toInt_ofNat small, Option.getD_some,
    EbcMsg.serializeToArray, if_pos inside, Int.toNat_natCast]
  exact List.take_left' (EbcMsg.serialize_length runtime _)

theorem listing_observable (known : ∀ node ∈ packed.listing, node.unknown = []) :
    (packed.object.ebcMsg.observable runtime).nodes.ebcNodes = packed.listing := by
  unfold EbcMsg.observable EbcMsg.nodes Packed.listing EbcMsg.nodes at *
  cases body : packed.object.ebcMsg.body with
  | notSet => rfl
  | msg content => rfl
  | nodes content =>
    rw [body] at known
    have same : ∀ node ∈ content.ebcNodes, node.observable runtime = node := by
      intro node member
      have empty := known node member
      unfold EbcNode.observable
      rw [empty, unknownFields_nil, ← empty]
    exact (List.map_congr_left same).trans (List.map_id _)

/-- A receiver has unpacked a message that was packed. -/
def Gets (runtime : Runtime) (receiver : NetEngine) (env : Env) (packed : Packed) : Prop :=
  ∃ object, receiver.received runtime env = some object ∧
    object.ebcMsg = packed.object.ebcMsg.observable runtime

/-- A message that fits its buffer is unpacked as it was packed. -/
theorem Introduces.unpacked (introduces : Introduces runtime packed)
    (fits : packed.object.ebcMsg.byteSizeLong runtime ≤ bufSize) (receiver : MsgPack) :
    receiver.unpack runtime packed.sent =
      some { receiver with ebcMsg := packed.object.ebcMsg.observable runtime } := by
  have typed : packed.object.ebcMsg.type ≠ MsgType.EMPTY.toInt32 := by
    rcases introduces.kind with ⟨punch, _⟩ | ⟨rep, _⟩
    · simp [punch]
    · simp [rep]
  have small : packed.object.ebcMsg.byteSizeLong runtime ≤ intMax := Nat.le_trans fits (by decide)
  rw [introduces.sent_eq fits, MsgPack.unpack_serialize introduces.sound introduces.head typed small]

theorem Introduces.gets (introduces : Introduces runtime packed)
    (fits : packed.object.ebcMsg.byteSizeLong runtime ≤ bufSize)
    (whole : env.recv = some packed.sent) : receiver.Gets runtime env packed := by
  refine ⟨{ selfId := receiver.self.id, ebcMsg := packed.object.ebcMsg.observable runtime }, ?_, rfl⟩
  rw [received, whole, Option.bind_some, introduces.unpacked fits]

/-- Such a message says the same to whoever gets it. -/
private theorem Introduces.looks (introduces : Introduces runtime packed)
    (message : object.ebcMsg = packed.object.ebcMsg.observable runtime) :
    object.ebcMsg.nodes.ebcNodes = packed.listing ∧
      ((object.ebcMsg.type = MsgType.PUNCH.toInt32 ∧ ∃ node, packed.listing = [node]) ∨
        (object.ebcMsg.type = MsgType.REP.toInt32 ∧
          object.ebcMsg.subType = MsgSubType.NODE.toInt32)) := by
  rw [message]
  exact ⟨listing_observable introduces.known, introduces.kind⟩

/-- Whoever gets such a message introduces itself to all its nodes. -/
theorem Introduces.handled (introduces : Introduces runtime packed)
    (gets : receiver.Gets runtime env packed) :
    receiver.handleMsg runtime env sock epollFd =
      some (introduceAll env epollFd receiver 0 packed.listing) := by
  obtain ⟨object, accepted, message⟩ := gets
  obtain ⟨list, kind⟩ := introduces.looks message
  unfold handleMsg
  rw [accepted]
  dsimp only
  rcases kind with ⟨punch, node, single⟩ | ⟨rep, node⟩
  · rw [punch, if_neg (by simp), if_neg (by simp), if_pos rfl, handlePunch, list, single]
    simp [introduceAll]
  · rw [rep, if_neg (by simp), if_pos rfl, handleRep, if_pos node, list]

/-- And adds just those of them that it has punched towards. -/
theorem Introduces.calls (introduces : Introduces runtime packed)
    (gets : receiver.Gets runtime env packed) :
    receiver.calls runtime env sock = introductions env 0 packed.listing := by
  obtain ⟨object, accepted, message⟩ := gets
  obtain ⟨list, kind⟩ := introduces.looks message
  unfold NetEngine.calls
  rw [accepted]
  dsimp only
  rcases kind with ⟨punch, node, single⟩ | ⟨rep, node⟩
  · rw [punch, if_neg (by simp), if_neg (by simp), if_pos rfl, list, single]
    rfl
  · rw [rep, if_neg (by simp), if_pos rfl, if_pos node, list]

end Message

/-! ### Introductions at the receiver -/

section Receiver
variable {engine : NetEngine} {env : Env} {epollFd : Int} {turn : Nat} {nodes : List EbcNode}

/-- What one introduction makes of a peer: an entry stays, and a new one is the node's. -/
theorem introduce_peers (node : EbcNode) (id : NodeId) :
    (introduce env epollFd engine turn node).1.peers id = engine.peers id ∨
      engine.peers id = none ∧ string2NodeId env.memory node.id = id ∧
        ∃ sock, (introduce env epollFd engine turn node).1.peers id =
          some (peerEntry env.memory id node.ip node.portNat sock) := by
  unfold introduce
  dsimp only
  split
  · exact Or.inl rfl
  · rw [peers_addPeerNode]
    by_cases same : string2NodeId env.memory node.id = id
    · subst same
      rw [Function.update_self]
      cases engine.peers (string2NodeId env.memory node.id) with
      | none => exact Or.inr ⟨rfl, rfl, _, rfl⟩
      | some entry => exact Or.inl rfl
    · exact Or.inl (Function.update_of_ne (Ne.symm same) _ _)

theorem introduceAll_kept {id : NodeId} {entry : Node} (present : engine.peers id = some entry) :
    (introduceAll env epollFd engine turn nodes).1.peers id = some entry := by
  induction nodes generalizing engine turn with
  | nil => exact present
  | cons node nodes ih =>
    apply ih
    rcases introduce_peers node id with same | ⟨absent, _⟩
    · exact same.trans present
    · rw [absent] at present
      cases present

/-- A new peer is the entry of a node that was introduced. -/
theorem introduceAll_peers {id : NodeId} {entry : Node} (absent : engine.peers id = none)
    (present : (introduceAll env epollFd engine turn nodes).1.peers id = some entry) :
    ∃ node ∈ nodes, string2NodeId env.memory node.id = id ∧
      ∃ sock, entry = peerEntry env.memory id node.ip node.portNat sock := by
  induction nodes generalizing engine turn with
  | nil =>
    rw [introduceAll, absent] at present
    cases present
  | cons node nodes ih =>
    rcases introduce_peers node id with same | ⟨_, named, sock, made⟩
    · obtain ⟨other, member, made⟩ := ih (same.trans absent) present
      exact ⟨other, List.mem_cons_of_mem _ member, made⟩
    · rw [introduceAll, introduceAll_kept made] at present
      cases present
      exact ⟨node, List.mem_cons_self, named, sock, rfl⟩

private theorem startPunch_punched (outcome : PunchOutcome) (ip : UInt32) (port : UInt16) :
    (startPunch outcome epollFd ip port).2.filterMap Action.punched = [⟨ip, port⟩] := by
  cases outcome <;> rfl

theorem introduce_punched (node : EbcNode) :
    (introduce env epollFd engine turn node).2.filterMap Action.punched =
      [⟨node.ip, (parPort node.portNat).toUInt16⟩] := by
  rw [introduce_actions]
  exact startPunch_punched _ _ _

/-- One `startPunch` for each node, in the order of the list. -/
theorem introduceAll_punched :
    (introduceAll env epollFd engine turn nodes).2.filterMap Action.punched =
      nodes.map fun node => ⟨node.ip, (parPort node.portNat).toUInt16⟩ := by
  induction nodes generalizing engine turn with
  | nil => rfl
  | cons node nodes ih =>
    rw [introduceAll, List.filterMap_append, introduce_punched, ih]
    rfl

end Receiver

end NetEngine

end EbcNet
