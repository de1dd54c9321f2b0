import EbcNet.Engine.Delivery

/-! Every address that a server tells of an id is one that it has seen the id at. -/

namespace EbcNet

open Wire (Bytes Runtime MsgType EbcMsg EbcNode)

namespace NetEngine

/-- A `GET_NODE` that arrived at a server and was accepted. -/
def Arrived (runtime : Runtime) (server : NetEngine) (events : List Event) (env : Env)
    (sock : UDTSOCKET) (msg : EbcMsg) : Prop :=
  ∃ epollFd object, .message env sock epollFd ∈ events ∧
    server.received runtime env = some object ∧ object.ebcMsg = msg ∧
    msg.type = MsgType.GET_NODE.toInt32

/-- An id has announced itself from an address. -/
def Observed (runtime : Runtime) (server : NetEngine) (events : List Event) (id : Bytes)
    (addr : SockAddrIn) : Prop :=
  ∃ env sock msg, Arrived runtime server events env sock msg ∧ msg.srcId = id ∧ env.peerName = addr

/-- A node of a message carries an address, bit for bit and in network byte order. -/
structure Carries (node : EbcNode) (addr : SockAddrIn) : Prop where
  ip : node.ip = addr.sinAddr
  port : parPort node.portNat = addr.sinPort.toUInt32

section Runs
variable {runtime : Runtime} {start engine : NetEngine} {trace past : List (Event × Effect)}
variable {event : Event} {packed : Packed} {addr : SockAddrIn} {events : List Event}

theorem received_of_run (run : Machine.Run (step runtime) start trace engine) (env : Env) :
    engine.received runtime env = start.received runtime env := by
  unfold received
  rw [(run_role run).1]

theorem Arrived.later {env : Env} {sock : UDTSOCKET} {msg : EbcMsg}
    (arrived : Arrived runtime start events env sock msg) (future : List Event) :
    Arrived runtime start (events ++ future) env sock msg := by
  obtain ⟨epollFd, object, member, arrived⟩ := arrived
  exact ⟨epollFd, object, List.mem_append_left _ member, arrived⟩

theorem Observed.later {id : Bytes} (observed : Observed runtime start events id addr)
    (future : List Event) : Observed runtime start (events ++ future) id addr := by
  obtain ⟨env, sock, msg, arrived, named⟩ := observed
  exact ⟨env, sock, msg, arrived.later future, named⟩

/-- Every client stands at an address that it announced itself from. -/
theorem clients_observed (empty : ∀ id, start.clients id = none)
    (run : Machine.Run (step runtime) start trace engine)
    (whole : ∀ env sock msg, Arrived runtime start (trace.map Prod.fst) env sock msg →
      msg.srcId.length = idLength) {id : NodeId} {node : Node}
    (present : engine.clients id = some node) :
    Observed runtime start (trace.map Prod.fst) id.bytes node.addr.getIPv4 := by
  induction run generalizing id node with
  | start =>
    rw [empty] at present
    cases present
  | @step trace engine next event effect before taken ih =>
    rw [List.map_append] at whole ⊢
    rw [step_calls taken] at present
    rcases clients_calls present with old | ⟨memory, str, addr, nat, sock, member, named, made⟩
    · exact (ih (fun env sock msg arrived => whole env sock msg (arrived.later _)) old).later _
    · obtain ⟨env, epollFd, object, first, rfl, accepted, type, _, rfl, rfl, rfl, _⟩ :=
        step_addClient taken member
      rw [received_of_run before] at accepted
      have arrived : Arrived runtime start
          (trace.map Prod.fst ++ [(Event.message env sock epollFd, effect)].map Prod.fst) env sock
          object.ebcMsg :=
        ⟨epollFd, object, by simp, accepted, rfl, type⟩
      have length := whole env sock _ arrived
      refine ⟨env, sock, _, arrived, ?_, ?_⟩
      · rw [← named]
        exact (string2NodeId_bytes env.memory length).symm
      · rw [made]
        rfl

private theorem carries_comPortNat (id : Bytes) (addr : SockAddrIn) (nat : NatType) :
    Carries { id, ip := addr.sinAddr, portNat := comPortNat addr.sinPort nat } addr :=
  ⟨rfl, parPort_comPortNat _ _⟩

/-- The address that a node carries. -/
theorem Carries.eq {node : EbcNode} (carries : Carries node addr) :
    addr = ⟨node.ip, (parPort node.portNat).toUInt16⟩ := by
  rw [carries.ip, carries.port, UInt16.toUInt16_toUInt32]

/-- What a server packs carries only addresses that it has observed. -/
theorem packs_carries {self : Node}
    (run : Machine.Run (step runtime) { self, isServer := true } past engine)
    (whole : ∀ env sock msg, Arrived runtime { self, isServer := true } (past.map Prod.fst) env sock
      msg → msg.srcId.length = idLength)
    (packs : engine.Packs runtime event packed) {node : EbcNode} (member : node ∈ packed.listing) :
    ∃ addr, Carries node addr ∧
      Observed runtime { self, isServer := true } (past.map Prod.fst ++ [event]) node.id addr := by
  obtain ⟨_, env, sock, epollFd, object, first, rfl, accepted, type, indexed, list⟩ :=
    packs.introduces
  rcases list with single | list
  · rw [single] at member
    rw [List.mem_singleton.mp member]
    rw [received_of_run run] at accepted
    exact ⟨env.peerName, carries_comPortNat _ _ _, env, sock, object.ebcMsg,
      ⟨epollFd, object, by simp, accepted, rfl, type⟩, rfl, rfl⟩
  · rw [list] at member
    obtain ⟨client, registered, rfl⟩ := List.mem_map.mp member
    obtain ⟨id, present⟩ := mem_clientList.mp registered
    have observed := (clients_observed (clients_initial self true) run whole present).later
      [.message env sock epollFd]
    rw [← (run_keyed run).1 id client present] at observed
    exact ⟨client.addr.getIPv4, carries_comPortNat _ _ _, observed⟩

/-- Provenance: every node that a server packs carries an address it has observed for
the node's id, and whoever gets the message punches towards just these addresses and
stores just these. -/
theorem packs_observed {self : Node}
    (run : Machine.Run (step runtime) { self, isServer := true } past engine)
    (whole : ∀ env sock msg, Arrived runtime { self, isServer := true } (past.map Prod.fst) env sock
      msg → msg.srcId.length = idLength)
    (packs : engine.Packs runtime event packed) :
    ∃ addrs : List SockAddrIn,
      List.Forall₂ (fun node addr => Carries node addr ∧
        Observed runtime { self, isServer := true } (past.map Prod.fst ++ [event]) node.id addr)
        packed.listing addrs ∧
      (packed.object.ebcMsg.byteSizeLong runtime ≤ bufSize → ∀ receiver env,
        env.recv = some packed.sent → NetEngine.Gets runtime receiver env packed) ∧
      ∀ receiver env sock epollFd, NetEngine.Gets runtime receiver env packed →
        ∃ reached actions, receiver.handleMsg runtime env sock epollFd = some (reached, actions) ∧
          actions.filterMap Action.punched = addrs ∧
          (∀ made ∈ receiver.calls runtime env sock, ∃ node addr place,
            (node, addr) ∈ packed.listing.zip addrs ∧
              made = .addPeer env.memory node.id node.ip node.portNat place ∧
              (peerEntry env.memory (string2NodeId env.memory node.id) node.ip node.portNat
                place).addr = ⟨.AF_INET, addr.sinAddr, addr.sinPort⟩) ∧
          ∀ id entry, receiver.peers id = none → reached.peers id = some entry →
            ∃ node addr, (node, addr) ∈ packed.listing.zip addrs ∧
              string2NodeId env.memory node.id = id ∧
              entry.addr = ⟨.AF_INET, addr.sinAddr, addr.sinPort⟩ := by
  have introduces := packs.introduces.1
  refine ⟨packed.listing.map fun node => ⟨node.ip, (parPort node.portNat).toUInt16⟩, ?_,
    fun fits receiver env sent => introduces.gets fits sent, ?_⟩
  · rw [List.forall₂_map_right_iff, List.forall₂_same]
    intro node member
    obtain ⟨addr, carries, observed⟩ := packs_carries run whole packs member
    rw [← carries.eq]
    exact ⟨carries, observed⟩
  · intro receiver env sock epollFd gets
    have paired : ∀ node ∈ packed.listing,
        (node, (⟨node.ip, (parPort node.portNat).toUInt16⟩ : SockAddrIn)) ∈
          packed.listing.zip (packed.listing.map fun node =>
            ⟨node.ip, (parPort node.portNat).toUInt16⟩) := by
      intro node member
      rw [← List.map_prod_left_eq_zip, List.mem_map]
      exact ⟨node, member, rfl⟩
    refine ⟨_, _, introduces.handled gets, introduceAll_punched, ?_, ?_⟩
    · intro made member
      rw [introduces.calls gets] at member
      obtain ⟨node, listed, place, rfl⟩ := mem_introductions member
      exact ⟨node, _, place, paired node listed, rfl, rfl⟩
    · intro id entry absent present
      obtain ⟨node, member, named, place, rfl⟩ := introduceAll_peers absent present
      exact ⟨node, _, paired node member, named, rfl⟩

end Runs

open Sample

/-- A client registers, and is listed to the next one. -/
theorem packs_observed_arrivals :
    ∃ past engine packed addrs, Machine.Run (step Wire.Reference.runtime) server past engine ∧
      engine.Packs Wire.Reference.runtime (arrival (nodeId 8) ⟨1, 3⟩ 2) packed ∧
      packed.listing.map EbcNode.id = [(nodeId 7).bytes] ∧
      List.Forall₂ (fun node addr => Carries node addr ∧
        Observed Wire.Reference.runtime server
          (past.map Prod.fst ++ [arrival (nodeId 8) ⟨1, 3⟩ 2]) node.id addr) packed.listing addrs := by
  have check : ((step Wire.Reference.runtime server (arrival (nodeId 7) ⟨1, 2⟩ 1)).map
      fun (first, _) => (first.clientList.map listed).map EbcNode.id) =
        some [(nodeId 7).bytes] := by
    decide +kernel
  obtain ⟨⟨first, effect⟩, taken, list⟩ := Option.map_eq_some_iff.mp check
  have run := Machine.Run.step .start taken
  have whole : ∀ env sock msg, Arrived Wire.Reference.runtime server
      ([(arrival (nodeId 7) ⟨1, 2⟩ 1, effect)].map Prod.fst) env sock msg →
      msg.srcId.length = idLength := by
    intro other sock msg ⟨epollFd, object, member, accepted, message, _⟩
    cases List.mem_singleton.mp member
    rw [received_env] at accepted
    cases accepted
    rw [← message]
    exact (nodeId 7).length_eq
  obtain ⟨rep, replied⟩ : ∃ packed, MsgPack.pack Wire.Reference.runtime
      { selfId := first.self.id,
        ebcMsg := announcement Wire.Reference.runtime (Node.ofId memory (nodeId 8)) } .REP
      (.nodes { ebcNodes := first.clientList.map listed }) (some zeroBuf) (Int32.ofNat bufSize) .NODE
      .zero = some packed := ⟨_, rfl⟩
  have packs : first.Packs Wire.Reference.runtime (arrival (nodeId 8) ⟨1, 3⟩ 2) rep :=
    ⟨_, _, _, _, _, rfl, received_env first (nodeId 8) ⟨1, 3⟩, rfl, rfl, Or.inr replied⟩
  obtain ⟨addrs, carried, _⟩ := packs_observed run whole packs
  refine ⟨_, first, rep, addrs, run, packs, ?_, carried⟩
  rw [Packed.listing, pack_rep_eq replied]
  exact list

end NetEngine

end EbcNet
