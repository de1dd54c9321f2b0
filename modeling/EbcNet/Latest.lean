import EbcNet.Engine.Sends
import EbcNet.Registry

/-! Whether the latest registration of an id is the one that a server keeps and
lists. -/

namespace EbcNet

open Wire (Runtime MsgType EbcNode)

namespace NetEngine

/-- The registry holds an id as a client at a socket and an address. -/
def RegisteredAt (engine : NetEngine) (id : NodeId) (sock : UDTSOCKET) (addr : SockAddrIn) : Prop :=
  ∃ node, engine.clients id = some node ∧ node.id = id ∧ node.sock = sock ∧
    node.addr.getIPv4 = addr

/-- What a node of a message says of an id, in network byte order. -/
def Names (node : EbcNode) (id : NodeId) (addr : SockAddrIn) : Prop :=
  node.id = id.bytes ∧ node.ip = addr.sinAddr ∧ parPort node.portNat = addr.sinPort.toUInt32

/-- A message names an id, and at one address only. -/
def Shows (packed : Packed) (id : NodeId) (addr : SockAddrIn) : Prop :=
  (∃ node ∈ packed.object.ebcMsg.nodes.ebcNodes, node.id = id.bytes) ∧
    ∀ node ∈ packed.object.ebcMsg.nodes.ebcNodes, node.id = id.bytes → Names node id addr

/-- The calls that neither register an id again nor disconnect its socket. -/
def Leaves (id : NodeId) (sock : UDTSOCKET) : Call → Prop
  | .addClient memory str _ _ _ => string2NodeId memory str ≠ id
  | .addPeer memory str _ _ _ => string2NodeId memory str ≠ id
  | .delClient lost => lost ≠ sock
  | .delPeer _ => True

/-- A registration wins: the registry holds it, the clients that are told are told of
it, and as long as the socket stays connected and the id is not registered again the
registry keeps it and every list shows it. -/
structure LatestWins (runtime : Runtime) (next : NetEngine) (effect : Effect) (id : NodeId)
    (sock : UDTSOCKET) (addr : SockAddrIn) : Prop where
  registered : next.RegisteredAt id sock addr
  told : ∀ target packed, .send target packed ∈ effect.actions →
    packed.object.ebcMsg.type = MsgType.PUNCH.toInt32 → Shows packed id addr
  later : ∀ trace final, Machine.Run (step runtime) next trace final →
    (∀ event effect, (event, effect) ∈ trace → ∀ made ∈ effect.calls, Leaves id sock made) →
    final.RegisteredAt id sock addr ∧
      ∀ event effect, (event, effect) ∈ trace → ∀ target packed,
        .send target packed ∈ effect.actions →
        packed.object.ebcMsg.type = MsgType.REP.toInt32 → Shows packed id addr

/-- An id that is not registered elsewhere: an entry is at the same socket and address,
and no other socket is recorded for it. -/
structure NotElsewhere (engine : NetEngine) (id : NodeId) (sock : UDTSOCKET) (addr : SockAddrIn) :
    Prop where
  entry : ∀ node, engine.clients id = some node → node.sock = sock ∧ node.addr.getIPv4 = addr
  alone : ∀ other, other ≠ sock → engine.owner other ≠ some id

/-- What stands as long as it is left alone. -/
structure Stands (engine : NetEngine) (id : NodeId) (sock : UDTSOCKET) (addr : SockAddrIn) :
    Prop where
  registered : engine.RegisteredAt id sock addr
  alone : ∀ other, other ≠ sock → engine.owner other ≠ some id

section Rules
variable {runtime : Runtime} {engine next : NetEngine} {id : NodeId} {sock : UDTSOCKET}
variable {addr : SockAddrIn}

private theorem alone_update {other place : UDTSOCKET} {named : Option NodeId}
    (alone : engine.owner other ≠ some id) (different : named ≠ some id) :
    Function.update engine.owner place named other ≠ some id := by
  intro now
  rcases InverseIndex.update_eq_some.mp now with ⟨_, same⟩ | ⟨_, old⟩
  · exact different same
  · exact alone old

theorem Stands.call (stands : engine.Stands id sock addr) {made : Call}
    (leaves : Leaves id sock made) : (engine.call made).Stands id sock addr := by
  obtain ⟨⟨node, present, registered⟩, alone⟩ := stands
  cases made with
  | addClient memory str from_ nat place =>
    refine ⟨⟨node, ?_, registered⟩, fun other elsewhere => ?_⟩
    · rw [NetEngine.call, clients_addClientNode, Function.update_of_ne (Ne.symm leaves)]
      exact present
    · rw [NetEngine.call, owner_addClientNode]
      exact alone_update (alone other elsewhere) fun same => leaves (Option.some.inj same)
  | addPeer memory str ip portNat place =>
    refine ⟨⟨node, present, registered⟩, fun other elsewhere => ?_⟩
    rw [NetEngine.call, owner_addPeerNode]
    exact alone_update (alone other elsewhere) fun same => leaves (Option.some.inj same)
  | delClient lost =>
    refine ⟨⟨node, ?_, registered⟩, fun other elsewhere => ?_⟩
    · rw [NetEngine.call, clients_delClientNode, InverseIndex.eraseVia_eq_some]
      exact ⟨alone lost leaves, present⟩
    · rw [NetEngine.call, owner_delClientNode]
      exact alone_update (alone other elsewhere) (by simp)
  | delPeer lost =>
    refine ⟨⟨node, by rw [NetEngine.call, clients_delPeerNode]; exact present, registered⟩,
      fun other elsewhere => ?_⟩
    rw [NetEngine.call, owner_delPeerNode]
    exact alone_update (alone other elsewhere) (by simp)

theorem Stands.calls (stands : engine.Stands id sock addr) {calls : List Call}
    (leaves : ∀ made ∈ calls, Leaves id sock made) :
    (calls.foldl NetEngine.call engine).Stands id sock addr := by
  induction calls generalizing engine with
  | nil => exact stands
  | cons made calls ih =>
    exact ih (stands.call (leaves made (by simp)))
      fun other member => leaves other (List.mem_cons_of_mem _ member)

/-- A list of all clients shows a registered one. -/
theorem RegisteredAt.shows (registered : engine.RegisteredAt id sock addr) (keyed : engine.Keyed)
    {packed : Packed}
    (list : packed.object.ebcMsg.nodes.ebcNodes = engine.clientList.map listed) :
    Shows packed id addr := by
  obtain ⟨node, present, own, _, home⟩ := registered
  have names : Names (listed node) id addr := by
    refine ⟨by rw [listed, own], by rw [listed, home], ?_⟩
    rw [listed, parPort_comPortNat, home]
  unfold Shows
  rw [list]
  refine ⟨⟨listed node, ?_, names.1⟩, ?_⟩
  · exact List.mem_map.mpr ⟨node, mem_clientList.mpr ⟨id, present⟩, rfl⟩
  · intro shown member same
    obtain ⟨other, client, rfl⟩ := List.mem_map.mp member
    obtain ⟨key, stored⟩ := mem_clientList.mp client
    have own : other.id = id := NodeId.ext same
    rw [keyed.1 key other stored] at own
    subst own
    rw [present] at stored
    cases stored
    exact names

private theorem sent_type {env : Env} {object : MsgPack} {first : EbcNode} {target : UDTSOCKET}
    {packed : Packed} (sent : Sent runtime engine env sock object first target packed) :
    (packed.object.ebcMsg.type = MsgType.PUNCH.toInt32 ∧
        packed.object.ebcMsg.nodes.ebcNodes = [punchNode env object.ebcMsg first]) ∨
      (packed.object.ebcMsg.type = MsgType.REP.toInt32 ∧
        packed.object.ebcMsg.nodes.ebcNodes = engine.clientList.map listed) := by
  cases sent with
  | punch client punched =>
    rw [pack_punch_eq punched]
    exact Or.inl ⟨rfl, rfl⟩
  | rep replied =>
    rw [pack_rep_eq replied]
    exact Or.inr ⟨rfl, rfl⟩

/-- A registration that stands is kept and shown for as long as it is left alone. -/
theorem Stands.later (stands : engine.Stands id sock addr) (keyed : engine.Keyed)
    (server : engine.isServer = true) {trace : List (Event × Effect)} {final : NetEngine}
    (run : Machine.Run (step runtime) engine trace final)
    (leaves : ∀ event effect, (event, effect) ∈ trace → ∀ made ∈ effect.calls, Leaves id sock made) :
    final.Stands id sock addr ∧
      ∀ event effect, (event, effect) ∈ trace → ∀ target packed,
        .send target packed ∈ effect.actions →
        packed.object.ebcMsg.type = MsgType.REP.toInt32 → Shows packed id addr := by
  induction run with
  | start => exact ⟨stands, by simp⟩
  | @step trace state final event effect before taken ih =>
    obtain ⟨standing, shown⟩ := ih fun event effect member =>
      leaves event effect (List.mem_append_left _ member)
    refine ⟨?_, ?_⟩
    · rw [step_calls taken]
      exact standing.calls (leaves event effect (by simp))
    · intro other otherEffect member target packed sent type
      rcases List.mem_append.mp member with member | member
      · exact shown other otherEffect member target packed sent type
      · cases List.mem_singleton.mp member
        have role := (run_role before).2.trans server
        obtain ⟨_, _, _, _, _, _, _, _, _, _, sent⟩ := step_sends role taken sent
        rcases sent_type sent with ⟨punch, _⟩ | ⟨_, list⟩
        · simp [type] at punch
        · exact standing.registered.shows (run_preserves Keyed.call keyed before) list

/-- What a `GET_NODE` makes of the registry and of the sockets. -/
private theorem registered_lookups {env : Env} {epollFd : Int} {effect : Effect} {object : MsgPack}
    (server : engine.isServer = true) (accepted : engine.received runtime env = some object)
    (type : object.ebcMsg.type = MsgType.GET_NODE.toInt32)
    (named : object.ebcMsg.srcId = id.bytes)
    (taken : step runtime engine (.message env sock epollFd) = some (next, effect)) :
    ∃ nat, next.clients id = (engine.clients id).or
        (some (clientEntry env.memory id env.peerName nat sock)) ∧
      next.owner = Function.update engine.owner sock (some id) := by
  obtain ⟨actions, done, rfl⟩ := step_message taken
  have whole : object.ebcMsg.srcId.length = idLength := by rw [named, id.length_eq]
  obtain ⟨first, punch, rep, registration⟩ := handleMsg_getNode done server accepted type
    (by rw [whole]; decide)
  have copied : string2NodeId env.memory object.ebcMsg.srcId = id := by
    rw [named, string2NodeId_id]
  refine ⟨parNat first.portNat, ?_, ?_⟩
  · rw [registration.next, clients_addClientNode, copied, Function.update_self]
  · rw [registration.next, owner_addClientNode, copied]

/-- The clients that are told of a sender are told of it at its own address. -/
private theorem told_shows {env : Env} {epollFd : Int} {effect : Effect} {object : MsgPack}
    (server : engine.isServer = true) (accepted : engine.received runtime env = some object)
    (named : object.ebcMsg.srcId = id.bytes)
    (taken : step runtime engine (.message env sock epollFd) = some (next, effect))
    {target : UDTSOCKET} {packed : Packed} (sent : .send target packed ∈ effect.actions)
    (punched : packed.object.ebcMsg.type = MsgType.PUNCH.toInt32) : Shows packed id env.peerName := by
  obtain ⟨_, _, _, otherObject, first, same, again, _, _, _, sent⟩ := step_sends server taken sent
  cases same
  obtain rfl := Option.some.inj (accepted.symm.trans again)
  rcases sent_type sent with ⟨_, single⟩ | ⟨rep, _⟩
  · unfold Shows
    rw [single]
    have names : Names (punchNode env object.ebcMsg first) id env.peerName :=
      ⟨named, rfl, parPort_comPortNat _ _⟩
    refine ⟨⟨_, List.mem_singleton_self _, names.1⟩, ?_⟩
    intro node member _
    rw [List.mem_singleton.mp member]
    exact names
  · simp [punched] at rep

/-- An id that is not registered elsewhere stands where it registers. -/
private theorem NotElsewhere.stands {entry : Node} (free : engine.NotElsewhere id sock addr)
    (keyed : engine.Keyed)
    (client : next.clients id = (engine.clients id).or (some entry))
    (made : entry.id = id ∧ entry.sock = sock ∧ entry.addr.getIPv4 = addr)
    (owner : next.owner = Function.update engine.owner sock (some id)) :
    next.Stands id sock addr := by
  refine ⟨?_, ?_⟩
  · cases old : engine.clients id with
    | none =>
      rw [old, Option.none_or] at client
      exact ⟨entry, client, made⟩
    | some node =>
      rw [old, Option.some_or] at client
      exact ⟨node, client, keyed.1 id node old, free.entry node old⟩
  · intro other elsewhere
    rw [owner, Function.update_of_ne elsewhere]
    exact free.alone other elsewhere

end Rules

/-- After an accepted `GET_NODE`, the latest registration wins if and only if the id
was not registered elsewhere. -/
theorem latestWins_iff {runtime : Runtime} {self : Node} {trace : List (Event × Effect)}
    {engine next : NetEngine} {env : Env} {sock : UDTSOCKET} {epollFd : Int} {effect : Effect}
    {object : MsgPack} {id : NodeId}
    (run : Machine.Run (step runtime) { self, isServer := true } trace engine)
    (accepted : engine.received runtime env = some object)
    (type : object.ebcMsg.type = MsgType.GET_NODE.toInt32)
    (named : object.ebcMsg.srcId = id.bytes)
    (taken : step runtime engine (.message env sock epollFd) = some (next, effect)) :
    LatestWins runtime next effect id sock env.peerName ↔
      engine.NotElsewhere id sock env.peerName := by
  have server : engine.isServer = true := (run_role run).2
  have keyed := run_keyed run
  obtain ⟨nat, client, owner⟩ := registered_lookups server accepted type named taken
  constructor
  · intro wins
    refine ⟨?_, ?_⟩
    · intro node present
      obtain ⟨kept, found, _, home⟩ := wins.registered
      rw [client, present, Option.some_or] at found
      cases found
      exact home
    · -- The disconnect of another socket recorded for the id takes the entry out.
      intro other elsewhere recorded
      obtain ⟨⟨node, present, _⟩, _⟩ := wins.later [(.clientLost other, _)] _ (.step .start rfl)
        (by simpa [Leaves] using elsewhere)
      rw [clients_delClientNode, InverseIndex.eraseVia_eq_some, owner,
        Function.update_of_ne elsewhere] at present
      exact present.1 recorded
  · intro free
    have stands := free.stands keyed client ⟨rfl, rfl, rfl⟩ owner
    refine ⟨stands.registered, fun _ _ => told_shows server accepted named taken, ?_⟩
    intro trace final run leaves
    obtain ⟨standing, shown⟩ := stands.later (step_preserves Keyed.call keyed taken)
      ((step_role taken).2.trans server) run leaves
    exact ⟨standing.registered, shown⟩

open Sample

/-- A second client registers. -/
theorem latestWins_iff_arrivals :
    ∃ trace engine next effect, Machine.Run (step Wire.Reference.runtime) server trace engine ∧
      trace.map Prod.fst = [arrival (nodeId 7) ⟨1, 2⟩ 1] ∧
      step Wire.Reference.runtime engine (arrival (nodeId 8) ⟨1, 3⟩ 2) = some (next, effect) ∧
      (LatestWins Wire.Reference.runtime next effect (nodeId 8) 2 ⟨1, 3⟩ ↔
        engine.NotElsewhere (nodeId 8) 2 ⟨1, 3⟩) := by
  obtain ⟨first, second, _, effect, firstStep, secondStep⟩ := registered_both
  have run := Machine.Run.start.step firstStep
  exact ⟨_, first, second, effect, run, rfl, secondStep,
    latestWins_iff run (received_env first (nodeId 8) ⟨1, 3⟩) rfl rfl secondStep⟩

/-- A client that reconnects from another port is still listed at its old one. -/
theorem latestWins_counterexample :
    ∃ trace engine next effect, Machine.Run (step Wire.Reference.runtime) server trace engine ∧
      step Wire.Reference.runtime engine (arrival (nodeId 7) ⟨1, 3⟩ 2) = some (next, effect) ∧
      ¬ LatestWins Wire.Reference.runtime next effect (nodeId 7) 2 ⟨1, 3⟩ := by
  obtain ⟨first, second, firstEffect, secondEffect, firstStep, secondStep, _, home, _⟩ :=
    reconnected
  refine ⟨_, first, second, secondEffect, .step .start firstStep, secondStep, ?_⟩
  intro wins
  obtain ⟨node, present, _, moved, _⟩ := wins.registered
  simp [present, moved] at home

end NetEngine

end EbcNet
