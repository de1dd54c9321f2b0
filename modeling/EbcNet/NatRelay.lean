import EbcNet.Provenance

/-! What becomes of a NAT type on its way from a client over the server to the peers. -/

namespace EbcNet

open Wire (Runtime MsgType EbcNode)

namespace NetEngine

/-- All that arrives under the id of a client is the `GET_NODE` of that client. -/
def Own (runtime : Runtime) (server : NetEngine) (events : List Event) (client : Node) : Prop :=
  ∀ env sock msg, Arrived runtime server events env sock msg →
    string2NodeId env.memory msg.srcId = client.id →
    ∃ packed, announce runtime client = some packed ∧ env.recv = some packed.sent

/-- No other id of a message is read as the one of a client. -/
def Apart (memory : Memory) (packed : Packed) (client : Node) : Prop :=
  ∀ node ∈ packed.listing, string2NodeId memory node.id = client.id → node.id = client.id.bytes

/-- A NAT type survives the relay: the server stores it, whoever is told about the client
stores it, and the word that carries it gives it back. -/
structure NatSurvives (nat : NatType) : Prop where
  stored : ∀ runtime self trace engine (client : Node), client.nat = nat →
    Machine.Run (step runtime) { self, isServer := true } trace engine →
    Own runtime { self, isServer := true } (trace.map Prod.fst) client →
    ∀ node, engine.clients client.id = some node → node.nat = nat
  told : ∀ runtime self past engine (client : Node) event packed, client.nat = nat →
    Machine.Run (step runtime) { self, isServer := true } past engine →
    Own runtime { self, isServer := true } (past.map Prod.fst ++ [event]) client →
    NetEngine.Packs runtime engine event packed →
    ∀ receiver env sock epollFd reached actions entry, NetEngine.Gets runtime receiver env packed →
      Apart env.memory packed client →
      receiver.handleMsg runtime env sock epollFd = some (reached, actions) →
      receiver.peers client.id = none → reached.peers client.id = some entry → entry.nat = nat
  word : ∀ port, parNat (comPortNat port nat) = nat ∧ parPort (comPortNat port nat) = port.toUInt32

section Runs
variable {runtime : Runtime} {start engine : NetEngine} {trace : List (Event × Effect)}
variable {client : Node} {events : List Event} {env : Env} {sock : UDTSOCKET} {object : MsgPack}

theorem Own.past {future : List Event} (own : Own runtime start (events ++ future) client) :
    Own runtime start events client :=
  fun env sock msg arrived => own env sock msg (arrived.later future)

/-- The first node of what arrives from a client is its NAT type without an address. -/
theorem Own.first (own : Own runtime start events client) {epollFd : Int} {first : EbcNode}
    (member : .message env sock epollFd ∈ events)
    (accepted : start.received runtime env = some object)
    (type : object.ebcMsg.type = MsgType.GET_NODE.toInt32)
    (indexed : object.ebcMsg.nodes.ebcNodes[0]? = some first)
    (named : string2NodeId env.memory object.ebcMsg.srcId = client.id) :
    first.portNat = comPortNat 0 client.nat := by
  obtain ⟨packed, announced, whole⟩ :=
    own env sock object.ebcMsg ⟨epollFd, object, member, accepted, rfl, type⟩ named
  obtain ⟨again, same, _, sent⟩ := announce_eq runtime client
  obtain rfl : packed = again := Option.some.inj (announced.symm.trans same)
  rw [received, whole, sent, Option.bind_some, unpack_announcement] at accepted
  obtain rfl := Option.some.inj accepted
  cases indexed
  rfl

/-- A server stores of the NAT type what the word keeps of it. -/
theorem stored_nat (empty : ∀ id, start.clients id = none)
    (run : Machine.Run (step runtime) start trace engine)
    (own : Own runtime start (trace.map Prod.fst) client) {node : Node}
    (present : engine.clients client.id = some node) : node.nat = parNat client.nat := by
  induction run generalizing node with
  | start =>
    rw [empty] at present
    cases present
  | @step trace engine next event effect before taken ih =>
    rw [List.map_append] at own
    rw [step_calls taken] at present
    rcases clients_calls present with old | ⟨memory, str, addr, nat, sock, member, named, made⟩
    · exact ih own.past old
    · obtain ⟨env, epollFd, object, first, rfl, accepted, type, indexed, rfl, rfl, rfl, rfl⟩ :=
        step_addClient taken member
      rw [received_of_run before] at accepted
      have word := own.first (List.mem_append_right _ List.mem_cons_self) accepted type indexed named
      rw [made, clientEntry, word, parNat_comPortNat]

/-- A node that a server packs for a client holds what is left of that. -/
theorem packed_nat {self : Node} {past : List (Event × Effect)} {event : Event} {packed : Packed}
    (run : Machine.Run (step runtime) { self, isServer := true } past engine)
    (own : Own runtime { self, isServer := true } (past.map Prod.fst ++ [event]) client)
    (packs : engine.Packs runtime event packed) {node : EbcNode} (member : node ∈ packed.listing)
    (named : node.id = client.id.bytes) : parNat node.portNat = parNat (parNat client.nat) := by
  obtain ⟨_, env, sock, epollFd, object, first, arrived, accepted, type, indexed, list⟩ :=
    packs.introduces
  rcases list with single | list
  · rw [single] at member
    rw [List.mem_singleton.mp member] at named ⊢
    rw [received_of_run run] at accepted
    have id : string2NodeId env.memory object.ebcMsg.srcId = client.id := by
      rw [show object.ebcMsg.srcId = client.id.bytes from named, string2NodeId_id]
    subst arrived
    have word := own.first (List.mem_append_right _ List.mem_cons_self) accepted type indexed id
    rw [punchNode, parNat_comPortNat, word, parNat_comPortNat]
  · rw [list] at member
    obtain ⟨stored, registered, rfl⟩ := List.mem_map.mp member
    obtain ⟨id, present⟩ := mem_clientList.mp registered
    have same : stored.id = client.id := NodeId.ext named
    rw [(run_keyed run).1 id stored present] at same
    subst same
    rw [listed, parNat_comPortNat, stored_nat (clients_initial self true) run own.past present]

end Runs

/-- The mask of `parNat` leaves nothing of a NAT type that fits it after the shift. -/
private theorem parNat_eq_self {nat : NatType} (fixed : parNat nat = nat) : nat = 0 := by
  have value : nat.toNat = (nat.toNat &&& 0xf000) >>> 12 := by
    have same := congrArg UInt32.toNat fixed
    rw [parNat, UInt32.toNat_shiftRight, UInt32.toNat_and] at same
    exact same.symm
  have small : nat.toNat < 16 := by
    have masked : nat.toNat &&& 0xf000 ≤ 0xf000 := Nat.and_le_right
    rw [value, Nat.shiftRight_eq_div_pow]
    omega
  have none : ∀ value < 16, value = (value &&& 0xf000) >>> 12 → value = 0 := by decide
  exact UInt32.toNat_inj.mp (none _ small value)

/-- No NAT type but 0 survives the relay. -/
theorem natSurvives_iff (nat : NatType) : NatSurvives nat ↔ nat = 0 := by
  constructor
  · intro survives
    apply parNat_eq_self
    have kept := (survives.word 0).1
    rwa [parNat_comPortNat] at kept
  · intro zero
    subst zero
    refine ⟨?_, ?_, fun port => ⟨by rw [parNat_comPortNat]; rfl, parPort_comPortNat port 0⟩⟩
    · intro runtime self trace engine client none run own node present
      rw [stored_nat (clients_initial self true) run own present, none]
      rfl
    · intro runtime self past engine client event packed none run own packs receiver env sock epollFd
        reached actions entry gets apart done absent present
      rw [packs.introduces.1.handled gets] at done
      obtain rfl := (congrArg Prod.fst (Option.some.inj done) :)
      obtain ⟨node, member, named, place, rfl⟩ := introduceAll_peers absent present
      have word := packed_nat run own packs member (apart node member named)
      rw [none] at word
      exact word

open Sample

/-- A client behind a symmetric NAT is stored as one behind a full cone. -/
theorem natSurvives_counterexample : ¬ NatSurvives SYMMTRIC := by
  intro survives
  have check : ((step Wire.Reference.runtime server (arrival (nodeId 7) ⟨1, 2⟩ 1)).map
      fun (first, _) => (first.clients (nodeId 7)).map Node.nat) = some (some 0) := by
    decide +kernel
  obtain ⟨⟨first, effect⟩, taken, stored⟩ := Option.map_eq_some_iff.mp check
  obtain ⟨node, present, none⟩ := Option.map_eq_some_iff.mp stored
  have kept := survives.stored _ _ _ first (Node.ofId memory (nodeId 7)) rfl (.step .start taken)
    (by
      intro env sock msg ⟨epollFd, object, member, _⟩ _
      cases List.mem_singleton.mp member
      obtain ⟨packed, announced, _, sent⟩ :=
        announce_eq Wire.Reference.runtime (Node.ofId memory (nodeId 7))
      exact ⟨packed, announced, congrArg some sent.symm⟩) node present
  rw [none] at kept
  exact absurd kept (by decide)

end NetEngine

end EbcNet
