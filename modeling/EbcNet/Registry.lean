import EbcNet.Base.InverseIndex
import EbcNet.Engine.Sends

/-! The registries as tables of nodes that live at their sockets, and `sockIdPair`
as the one index of both, from sockets back to ids. -/

namespace EbcNet

open Wire (Bytes Runtime)
open InverseIndex (Indexes eraseVia dropAt)

/-- The socket that a call records an id for, and the id. -/
def Call.recorded : Call → Option (UDTSOCKET × NodeId)
  | .addClient memory id _ _ sock => some (sock, string2NodeId memory id)
  | .addPeer memory id _ _ sock => some (sock, string2NodeId memory id)
  | .delClient _ => none
  | .delPeer _ => none

namespace NetEngine

def clients (engine : NetEngine) : NodeId → Option Node := fun id => engine.clientNode[id]?
def peers (engine : NetEngine) : NodeId → Option Node := fun id => engine.peerNode[id]?

/-- The id that `sockIdPair` records for a socket. -/
def owner (engine : NetEngine) : UDTSOCKET → Option NodeId := fun sock => engine.sockIdPair[sock]?

section Lookup
variable {Key Value : Type} [Ord Key] [Std.TransOrd Key] [Std.LawfulEqOrd Key] [DecidableEq Key]
variable (map : Std.ExtTreeMap Key Value)

private theorem lookup_insert (key : Key) (value : Value) :
    (fun other => (map.insert key value)[other]?) =
      Function.update (fun other => map[other]?) key (some value) := by
  funext other
  by_cases same : other = key
  · subst same
    simp
  · rw [Function.update_of_ne same, Std.ExtTreeMap.getElem?_insert]
    simp [Ne.symm same]

private theorem lookup_insertIfNew (key : Key) (value : Value) :
    (fun other => (map.insertIfNew key value)[other]?) =
      Function.update (fun other => map[other]?) key (map[key]?.or (some value)) := by
  funext other
  rw [Std.ExtTreeMap.getElem?_insertIfNew]
  by_cases same : other = key
  · subst same
    rw [Function.update_self]
    cases present : map[other]? with
    | none => simp [Std.ExtTreeMap.mem_iff_isSome_getElem?, present]
    | some stored => simp [Std.ExtTreeMap.mem_iff_isSome_getElem?, present]
  · rw [Function.update_of_ne same]
    simp [Ne.symm same]

private theorem lookup_erase (key : Key) :
    (fun other => (map.erase key)[other]?) =
      Function.update (fun other => map[other]?) key none := by
  funext other
  by_cases same : other = key
  · subst same
    simp
  · rw [Function.update_of_ne same, Std.ExtTreeMap.getElem?_erase]
    simp [Ne.symm same]

end Lookup

section Calls
variable (engine : NetEngine) (memory : Memory) (id : Bytes) (sock : UDTSOCKET)

@[simp] theorem clients_addClientNode (addr : SockAddrIn) (nat : NatType) :
    (engine.addClientNode memory id addr nat sock).clients =
      Function.update engine.clients (string2NodeId memory id)
        ((engine.clients (string2NodeId memory id)).or
          (some (clientEntry memory (string2NodeId memory id) addr nat sock))) :=
  lookup_insertIfNew _ _ _

@[simp] theorem peers_addClientNode (addr : SockAddrIn) (nat : NatType) :
    (engine.addClientNode memory id addr nat sock).peers = engine.peers := rfl

@[simp] theorem owner_addClientNode (addr : SockAddrIn) (nat : NatType) :
    (engine.addClientNode memory id addr nat sock).owner =
      Function.update engine.owner sock (some (string2NodeId memory id)) :=
  lookup_insert _ _ _

@[simp] theorem clients_addPeerNode (ip portNat : UInt32) :
    (engine.addPeerNode memory id ip portNat sock).clients = engine.clients := rfl

@[simp] theorem peers_addPeerNode (ip portNat : UInt32) :
    (engine.addPeerNode memory id ip portNat sock).peers =
      Function.update engine.peers (string2NodeId memory id)
        ((engine.peers (string2NodeId memory id)).or
          (some (peerEntry memory (string2NodeId memory id) ip portNat sock))) :=
  lookup_insertIfNew _ _ _

@[simp] theorem owner_addPeerNode (ip portNat : UInt32) :
    (engine.addPeerNode memory id ip portNat sock).owner =
      Function.update engine.owner sock (some (string2NodeId memory id)) :=
  lookup_insert _ _ _

private theorem owner_erase :
    (match engine.sockIdPair[sock]? with
      | none => engine.owner
      | some _ => fun other => (engine.sockIdPair.erase sock)[other]?) =
      Function.update engine.owner sock none := by
  cases recorded : engine.sockIdPair[sock]? with
  | none =>
    dsimp only
    rw [← recorded]
    exact (Function.update_eq_self sock engine.owner).symm
  | some key => exact lookup_erase _ _

@[simp] theorem clients_delClientNode :
    (engine.delClientNode sock).clients = eraseVia engine.owner engine.clients sock := by
  unfold delClientNode eraseVia
  rw [show engine.owner sock = engine.sockIdPair[sock]? from rfl]
  cases engine.sockIdPair[sock]? with
  | none => rfl
  | some key => exact lookup_erase _ _

@[simp] theorem peers_delClientNode : (engine.delClientNode sock).peers = engine.peers := by
  unfold delClientNode
  cases engine.sockIdPair[sock]? <;> rfl

@[simp] theorem owner_delClientNode :
    (engine.delClientNode sock).owner = Function.update engine.owner sock none := by
  rw [← owner_erase]
  unfold delClientNode
  cases engine.sockIdPair[sock]? <;> rfl

@[simp] theorem clients_delPeerNode : (engine.delPeerNode sock).clients = engine.clients := by
  unfold delPeerNode
  cases engine.sockIdPair[sock]? <;> rfl

@[simp] theorem peers_delPeerNode :
    (engine.delPeerNode sock).peers = eraseVia engine.owner engine.peers sock := by
  unfold delPeerNode eraseVia
  rw [show engine.owner sock = engine.sockIdPair[sock]? from rfl]
  cases engine.sockIdPair[sock]? with
  | none => rfl
  | some key => exact lookup_erase _ _

@[simp] theorem owner_delPeerNode :
    (engine.delPeerNode sock).owner = Function.update engine.owner sock none := by
  rw [← owner_erase]
  unfold delPeerNode
  cases engine.sockIdPair[sock]? <;> rfl

theorem peers_peerConnected :
    (engine.peerConnected memory sock).peers =
      Function.update engine.peers ((engine.owner sock).getD .zero)
        (some { (engine.peers ((engine.owner sock).getD .zero)).getD (.new memory) with
          state := .CONNECTED }) := by
  unfold peerConnected
  simp only [Std.ExtTreeMap.getD_eq_getD_getElem?]
  exact lookup_insert _ _ _

theorem owner_peerConnected :
    (engine.peerConnected memory sock).owner =
      Function.update engine.owner sock ((engine.owner sock).or (some .zero)) :=
  lookup_insertIfNew _ _ _

end Calls

theorem mem_clientList {engine : NetEngine} {node : Node} :
    node ∈ engine.clientList ↔ ∃ id, engine.clients id = some node := by
  simp [clientList, clients, Std.ExtTreeMap.mem_toList_iff_getElem?_eq_some]

/-- The peers, in the order of their ids. -/
def peerList (engine : NetEngine) : List Node := engine.peerNode.toList.map Prod.snd

theorem mem_peerList {engine : NetEngine} {node : Node} :
    node ∈ engine.peerList ↔ ∃ id, engine.peers id = some node := by
  simp [peerList, peers, Std.ExtTreeMap.mem_toList_iff_getElem?_eq_some]

/-- A new engine knows nobody. -/
@[simp] theorem clients_initial (self : Node) (isServer : Bool) (id : NodeId) :
    NetEngine.clients { self, isServer } id = none := by
  simp [clients]

@[simp] theorem peers_initial (self : Node) (isServer : Bool) (id : NodeId) :
    NetEngine.peers { self, isServer } id = none := by
  simp [peers]

@[simp] theorem owner_initial (self : Node) (isServer : Bool) (sock : UDTSOCKET) :
    NetEngine.owner { self, isServer } sock = none := by
  simp [owner]

/-! ### Entries stand under their own ids -/

def Keyed (engine : NetEngine) : Prop :=
  (∀ id node, engine.clients id = some node → node.id = id) ∧
    ∀ id node, engine.peers id = some node → node.id = id

private theorem keyed_insert {table : NodeId → Option Node} {id : NodeId} {entry : Node}
    (keyed : ∀ id node, table id = some node → node.id = id) (own : entry.id = id) (key : NodeId)
    (node : Node) (present : Function.update table id ((table id).or (some entry)) key = some node) :
    node.id = key := by
  rcases InverseIndex.store_eq_some.mp present with old | ⟨rfl, _, rfl⟩
  · exact keyed key node old
  · exact own

theorem Keyed.call {engine : NetEngine} (keyed : engine.Keyed) (made : Call) :
    (engine.call made).Keyed := by
  obtain ⟨client, peer⟩ := keyed
  cases made with
  | addClient memory id addr nat sock =>
    simp only [Keyed, NetEngine.call, clients_addClientNode, peers_addClientNode]
    exact ⟨keyed_insert client rfl, peer⟩
  | addPeer memory id ip portNat sock =>
    simp only [Keyed, NetEngine.call, clients_addPeerNode, peers_addPeerNode]
    exact ⟨client, keyed_insert peer rfl⟩
  | delClient sock =>
    simp only [Keyed, NetEngine.call, clients_delClientNode, peers_delClientNode]
    exact ⟨fun id node present => client id node (InverseIndex.eraseVia_eq_some.mp present).2, peer⟩
  | delPeer sock =>
    simp only [Keyed, NetEngine.call, clients_delPeerNode, peers_delPeerNode]
    exact ⟨client, fun id node present => peer id node (InverseIndex.eraseVia_eq_some.mp present).2⟩

theorem run_keyed {runtime : Runtime} {self : Node} {isServer : Bool}
    {trace : List (Event × Effect)} {state : NetEngine}
    (run : Machine.Run (step runtime) { self, isServer } trace state) : state.Keyed := by
  refine run_preserves Keyed.call ?_ run
  simp [Keyed]

/-! ### Where clients come from -/

/-- A client is one of before, or the entry of a call. -/
theorem clients_call {engine : NetEngine} {made : Call} {id : NodeId} {node : Node}
    (present : (engine.call made).clients id = some node) :
    engine.clients id = some node ∨ ∃ memory str addr nat sock,
      made = .addClient memory str addr nat sock ∧ string2NodeId memory str = id ∧
        node = clientEntry memory id addr nat sock := by
  cases made with
  | addClient memory str addr nat sock =>
    rw [call, clients_addClientNode, InverseIndex.store_eq_some] at present
    rcases present with old | ⟨rfl, _, rfl⟩
    · exact Or.inl old
    · exact Or.inr ⟨memory, str, addr, nat, sock, rfl, rfl, rfl⟩
  | addPeer memory str ip portNat sock => exact Or.inl present
  | delClient sock =>
    rw [call, clients_delClientNode, InverseIndex.eraseVia_eq_some] at present
    exact Or.inl present.2
  | delPeer sock =>
    rw [call, clients_delPeerNode] at present
    exact Or.inl present

theorem clients_calls {engine : NetEngine} {calls : List Call} {id : NodeId} {node : Node}
    (present : (calls.foldl call engine).clients id = some node) :
    engine.clients id = some node ∨ ∃ memory str addr nat sock,
      .addClient memory str addr nat sock ∈ calls ∧ string2NodeId memory str = id ∧
        node = clientEntry memory id addr nat sock := by
  induction calls generalizing engine with
  | nil => exact Or.inl present
  | cons made calls ih =>
    rcases ih present with before | ⟨memory, str, addr, nat, sock, member, entry⟩
    · rcases clients_call before with before | ⟨memory, str, addr, nat, sock, rfl, entry⟩
      · exact Or.inl before
      · exact Or.inr ⟨memory, str, addr, nat, sock, List.mem_cons_self, entry⟩
    · exact Or.inr ⟨memory, str, addr, nat, sock, List.mem_cons_of_mem _ member, entry⟩

/-! ### Where peers come from -/

/-- A peer is one of before, or the entry of a call. -/
theorem peers_call {engine : NetEngine} {made : Call} {id : NodeId} {node : Node}
    (present : (engine.call made).peers id = some node) :
    engine.peers id = some node ∨ ∃ memory str ip portNat sock,
      made = .addPeer memory str ip portNat sock ∧ string2NodeId memory str = id ∧
        node = peerEntry memory id ip portNat sock := by
  cases made with
  | addClient memory str addr nat sock => exact Or.inl present
  | addPeer memory str ip portNat sock =>
    rw [call, peers_addPeerNode, InverseIndex.store_eq_some] at present
    rcases present with old | ⟨rfl, _, rfl⟩
    · exact Or.inl old
    · exact Or.inr ⟨memory, str, ip, portNat, sock, rfl, rfl, rfl⟩
  | delClient sock =>
    rw [call, peers_delClientNode] at present
    exact Or.inl present
  | delPeer sock =>
    rw [call, peers_delPeerNode, InverseIndex.eraseVia_eq_some] at present
    exact Or.inl present.2

theorem peers_calls {engine : NetEngine} {calls : List Call} {id : NodeId} {node : Node}
    (present : (calls.foldl call engine).peers id = some node) :
    engine.peers id = some node ∨ ∃ memory str ip portNat sock,
      .addPeer memory str ip portNat sock ∈ calls ∧ string2NodeId memory str = id ∧
        node = peerEntry memory id ip portNat sock := by
  induction calls generalizing engine with
  | nil => exact Or.inl present
  | cons made calls ih =>
    rcases ih present with before | ⟨memory, str, ip, portNat, sock, member, entry⟩
    · rcases peers_call before with before | ⟨memory, str, ip, portNat, sock, rfl, entry⟩
      · exact Or.inl before
      · exact Or.inr ⟨memory, str, ip, portNat, sock, List.mem_cons_self, entry⟩
    · exact Or.inr ⟨memory, str, ip, portNat, sock, List.mem_cons_of_mem _ member, entry⟩

/-! ### The sockets that calls record -/

theorem owner_call {engine : NetEngine} {made : Call} {sock : UDTSOCKET} {id : NodeId}
    (adds : made.recorded = some (sock, id)) :
    (engine.call made).owner = Function.update engine.owner sock (some id) := by
  cases made with
  | addClient memory str addr nat home =>
    cases adds
    exact owner_addClientNode ..
  | addPeer memory str ip portNat home =>
    cases adds
    exact owner_addPeerNode ..
  | delClient home => cases adds
  | delPeer home => cases adds

/-- A socket that is recorded was so before, or is by a call. -/
theorem owner_origin {engine : NetEngine} {made : Call} {sock : UDTSOCKET} {id : NodeId}
    (named : (engine.call made).owner sock = some id) :
    engine.owner sock = some id ∨ made.recorded = some (sock, id) := by
  cases adds : made.recorded with
  | some pair =>
    obtain ⟨place, key⟩ := pair
    rw [owner_call adds, InverseIndex.update_eq_some] at named
    rcases named with ⟨rfl, same⟩ | ⟨_, old⟩
    · cases same
      exact Or.inr rfl
    · exact Or.inl old
  | none =>
    left
    cases made with
    | addClient => cases adds
    | addPeer => cases adds
    | delClient home =>
      rw [call, owner_delClientNode, InverseIndex.update_eq_some] at named
      exact (named.resolve_left fun gone => by cases gone.2).2
    | delPeer home =>
      rw [call, owner_delPeerNode, InverseIndex.update_eq_some] at named
      exact (named.resolve_left fun gone => by cases gone.2).2

/-- After calls that only add, a socket is recorded for the id of one of them, or as it was. -/
theorem owner_calls {engine : NetEngine} {calls : List Call} {sock : UDTSOCKET}
    (adds : ∀ made ∈ calls, made.recorded.isSome) :
    (∃ made ∈ calls, ∃ id, made.recorded = some (sock, id) ∧
        (calls.foldl call engine).owner sock = some id) ∨
      (∀ made ∈ calls, ∀ id, made.recorded ≠ some (sock, id)) ∧
        (calls.foldl call engine).owner sock = engine.owner sock := by
  induction calls generalizing engine with
  | nil => exact Or.inr ⟨by simp, rfl⟩
  | cons made calls ih =>
    obtain ⟨⟨place, id⟩, recorded⟩ := Option.isSome_iff_exists.mp (adds made List.mem_cons_self)
    rw [List.foldl_cons]
    have rest := @ih (engine.call made) fun other member => adds other (List.mem_cons_of_mem _ member)
    rcases rest with ⟨other, member, later⟩ | ⟨none, kept⟩
    · exact Or.inl ⟨other, List.mem_cons_of_mem _ member, later⟩
    · rw [owner_call recorded] at kept
      by_cases here : sock = place
      · subst here
        rw [Function.update_self] at kept
        exact Or.inl ⟨made, List.mem_cons_self, id, recorded, kept⟩
      · rw [Function.update_of_ne here] at kept
        refine Or.inr ⟨?_, kept⟩
        intro other member key same
        rcases List.mem_cons.mp member with rfl | later
        · rw [recorded] at same
          cases same
          exact here rfl
        · exact none other later key same

/-- Calls that record other sockets leave what is recorded for a socket. -/
theorem owner_calls_other {engine : NetEngine} {calls : List Call} {sock : UDTSOCKET}
    (others : ∀ made ∈ calls, ∃ other id, made.recorded = some (other, id) ∧ other ≠ sock) :
    (calls.foldl call engine).owner sock = engine.owner sock := by
  have adds : ∀ made ∈ calls, made.recorded.isSome := by
    intro made member
    obtain ⟨other, id, recorded, _⟩ := others made member
    rw [recorded]
    rfl
  rcases @owner_calls engine _ sock adds with ⟨made, member, id, recorded, _⟩ | ⟨_, kept⟩
  · obtain ⟨other, key, again, elsewhere⟩ := others made member
    rw [recorded] at again
    cases again
    exact absurd rfl elsewhere
  · exact kept

/-- Introductions record the sockets that `startPunch` returns. -/
theorem introductions_recorded {env : Env} {turn : Nat} {nodes : List Wire.EbcNode} {made : Call}
    {sock : UDTSOCKET} (foreign : ∀ turn, env.punch turn ≠ .connects sock)
    (member : made ∈ introductions env turn nodes) :
    ∃ other id, made.recorded = some (other, id) ∧ other ≠ sock := by
  obtain ⟨place, node, other, _, connects, _, rfl⟩ := mem_introductions_iff.mp member
  refine ⟨other, _, rfl, fun same => foreign (turn + place) ?_⟩
  rw [connects, same]

/-! ### Exact deletion -/

/-- A disconnect of any socket takes out just the entries that live there. -/
def Exact (engine : NetEngine) : Prop :=
  ∀ sock,
    (engine.delClientNode sock).clientNode =
        engine.clientNode.filter (fun _ node => node.sock ≠ sock) ∧
      (engine.delPeerNode sock).peerNode = engine.peerNode.filter fun _ node => node.sock ≠ sock

private theorem filter_iff {map erased : Std.ExtTreeMap NodeId Node} {sock : UDTSOCKET} :
    erased = map.filter (fun _ node => node.sock ≠ sock) ↔
      (fun id : NodeId => erased[id]?) = dropAt Node.sock (fun id : NodeId => map[id]?) sock := by
  have lookup : (fun id : NodeId => (map.filter fun _ node => node.sock ≠ sock)[id]?) =
      dropAt Node.sock (fun id : NodeId => map[id]?) sock := by
    funext id
    rw [Std.ExtTreeMap.getElem?_filter]
    simp [dropAt]
  rw [← lookup]
  constructor
  · intro same
    rw [same]
  · intro same
    exact Std.ExtTreeMap.ext_getElem? (congrFun same)

/-- Deletion is exact when `sockIdPair` is the inverse of both registries. -/
theorem exact_iff {engine : NetEngine} :
    engine.Exact ↔
      Indexes Node.sock engine.clients engine.owner ∧ Indexes Node.sock engine.peers engine.owner := by
  rw [← InverseIndex.eraseVia_exact_iff, ← InverseIndex.eraseVia_exact_iff]
  unfold Exact
  simp only [filter_iff, forall_and]
  constructor
  · intro ⟨client, peer⟩
    exact ⟨fun sock => (engine.clients_delClientNode sock).symm.trans (client sock),
      fun sock => (engine.peers_delPeerNode sock).symm.trans (peer sock)⟩
  · intro ⟨client, peer⟩
    exact ⟨fun sock => (engine.clients_delClientNode sock).trans (client sock),
      fun sock => (engine.peers_delPeerNode sock).trans (peer sock)⟩

/-- No other socket is recorded for the id, and the socket is recorded for no other
id that has an entry. -/
structure Free (engine : NetEngine) (id : NodeId) (sock : UDTSOCKET) : Prop where
  alone : ∀ other, other ≠ sock → engine.owner other ≠ some id
  unused : ∀ other, other ≠ id → engine.owner sock = some other →
    engine.clients other = none ∧ engine.peers other = none

/-- When a call keeps deletion exact: a registration of a free id and socket, and a
disconnect in one registry of an id that the other does not hold. -/
def KeepsExact (engine : NetEngine) : Call → Prop
  | .addClient memory id _ _ sock => engine.Free (string2NodeId memory id) sock
  | .addPeer memory id _ _ sock => engine.Free (string2NodeId memory id) sock
  | .delClient sock => ∀ id, engine.owner sock = some id → engine.peers id = none
  | .delPeer sock => ∀ id, engine.owner sock = some id → engine.clients id = none

private theorem name_of_alone {table : NodeId → Option Node} {engine : NetEngine} {id : NodeId}
    {sock : UDTSOCKET} (indexed : Indexes Node.sock table engine.owner)
    (alone : ∀ other, other ≠ sock → engine.owner other ≠ some id) :
    ∀ row, table id = some row → row.sock = sock := by
  intro row present
  by_contra elsewhere
  exact alone row.sock elsewhere ((indexed id row present row.sock).mpr rfl)

/-- One step: from an exact state, a call reaches an exact one just when it meets
its condition. -/
theorem Exact.call_iff {engine : NetEngine} (exact : engine.Exact) (call : Call) :
    (engine.call call).Exact ↔ engine.KeepsExact call := by
  obtain ⟨client, peer⟩ := exact_iff.mp exact
  rw [exact_iff]
  cases call with
  | addClient memory id addr nat sock =>
    simp only [NetEngine.call, clients_addClientNode, peers_addClientNode, owner_addClientNode,
      KeepsExact]
    have inserted := client.insert_iff (string2NodeId memory id)
      (clientEntry memory (string2NodeId memory id) addr nat sock)
    have named := peer.name_iff sock (string2NodeId memory id)
    change Indexes _ _ (Function.update _ sock _) ↔ _ at inserted
    rw [inserted, named]
    constructor
    · rintro ⟨⟨alone, clientUnused⟩, _, peerUnused⟩
      exact ⟨alone, fun other different recorded =>
        ⟨clientUnused other different recorded, peerUnused other different recorded⟩⟩
    · rintro ⟨alone, unused⟩
      exact ⟨⟨alone, fun other different recorded => (unused other different recorded).1⟩,
        name_of_alone peer alone, fun other different recorded => (unused other different recorded).2⟩
  | addPeer memory id ip portNat sock =>
    simp only [NetEngine.call, clients_addPeerNode, peers_addPeerNode, owner_addPeerNode,
      KeepsExact]
    have inserted := peer.insert_iff (string2NodeId memory id)
      (peerEntry memory (string2NodeId memory id) ip portNat sock)
    have named := client.name_iff sock (string2NodeId memory id)
    change Indexes _ _ (Function.update _ sock _) ↔ _ at inserted
    rw [inserted, named]
    constructor
    · rintro ⟨⟨_, clientUnused⟩, alone, peerUnused⟩
      exact ⟨alone, fun other different recorded =>
        ⟨clientUnused other different recorded, peerUnused other different recorded⟩⟩
    · rintro ⟨alone, unused⟩
      exact ⟨⟨name_of_alone client alone, fun other different recorded =>
        (unused other different recorded).1⟩, alone,
        fun other different recorded => (unused other different recorded).2⟩
  | delClient sock =>
    simp only [NetEngine.call, clients_delClientNode, peers_delClientNode, owner_delClientNode,
      KeepsExact]
    rw [peer.forget_iff sock]
    exact and_iff_right (client.erase sock)
  | delPeer sock =>
    simp only [NetEngine.call, clients_delPeerNode, peers_delPeerNode, owner_delPeerNode,
      KeepsExact]
    rw [client.forget_iff sock]
    exact and_iff_left (peer.erase sock)

theorem exact_initial (self : Node) (isServer : Bool) : Exact { self, isServer } := by
  rw [exact_iff]
  simp [Indexes]

/-- Over a whole run, every disconnect would take out just what its socket registered
if and only if every registry call meets its condition. -/
theorem exact_iff_stepsMeet {runtime : Runtime} {self : Node} {isServer : Bool}
    {trace : List (Event × Effect)} {state : NetEngine}
    (run : Machine.Run (step runtime) { self, isServer } trace state) :
    (∀ visited, Visits runtime { self, isServer } trace visited → visited.Exact) ↔
      Machine.StepsMeet (step runtime) (CallsMeet runtime KeepsExact) { self, isServer } trace :=
  visits_iff_stepsMeet (exact_initial self isServer) Exact.call_iff run

open Sample

/-- Two clients register, each at a connection of its own. -/
theorem registered_both :
    ∃ first second firstEffect secondEffect,
      step Wire.Reference.runtime server (arrival (nodeId 7) ⟨1, 2⟩ 1) =
        some (first, firstEffect) ∧
      step Wire.Reference.runtime first (arrival (nodeId 8) ⟨1, 3⟩ 2) =
        some (second, secondEffect) := by
  have check : ((step Wire.Reference.runtime server (arrival (nodeId 7) ⟨1, 2⟩ 1)).bind
      fun (first, _) => step Wire.Reference.runtime first (arrival (nodeId 8) ⟨1, 3⟩ 2)).isSome =
        true := by
    decide +kernel
  obtain ⟨⟨second, secondEffect⟩, both⟩ := Option.isSome_iff_exists.mp check
  obtain ⟨⟨first, firstEffect⟩, firstStep, secondStep⟩ := Option.bind_eq_some_iff.mp both
  exact ⟨first, second, firstEffect, secondEffect, firstStep, secondStep⟩

/-- Two clients register, and the first one leaves. -/
theorem exact_iff_stepsMeet_arrivals :
    ∃ trace state, Machine.Run (step Wire.Reference.runtime) server trace state ∧
      trace.map Prod.fst =
        [arrival (nodeId 7) ⟨1, 2⟩ 1, arrival (nodeId 8) ⟨1, 3⟩ 2, .clientLost 1] ∧
      ((∀ visited, Visits Wire.Reference.runtime server trace visited → visited.Exact) ↔
        Machine.StepsMeet (step Wire.Reference.runtime) (CallsMeet Wire.Reference.runtime KeepsExact)
          server trace) := by
  obtain ⟨first, second, _, _, firstStep, secondStep⟩ := registered_both
  have lost : step Wire.Reference.runtime second (.clientLost 1) =
    some (second.delClientNode 1, _) := rfl
  have run := ((Machine.Run.start.step firstStep).step secondStep).step lost
  exact ⟨_, _, run, rfl, exact_iff_stepsMeet run⟩

/-- A client that reconnects keeps its entry at the first socket, and the disconnect of
the second takes that entry out. -/
theorem reconnected :
    ∃ first second firstEffect secondEffect,
      step Wire.Reference.runtime server (arrival (nodeId 7) ⟨1, 2⟩ 1) =
        some (first, firstEffect) ∧
      step Wire.Reference.runtime first (arrival (nodeId 7) ⟨1, 3⟩ 2) =
        some (second, secondEffect) ∧
      (first.clients (nodeId 7)).isSome = true ∧
      (second.clients (nodeId 7)).map Node.sock = some 1 ∧
      (second.delClientNode 2).clients (nodeId 7) = none := by
  have check : ((step Wire.Reference.runtime server (arrival (nodeId 7) ⟨1, 2⟩ 1)).bind
      fun (first, _) => (step Wire.Reference.runtime first (arrival (nodeId 7) ⟨1, 3⟩ 2)).map
        fun (second, _) => ((first.clients (nodeId 7)).isSome,
          (second.clients (nodeId 7)).map Node.sock,
          (second.delClientNode 2).clients (nodeId 7))) = some (true, some 1, none) := by
    decide +kernel
  obtain ⟨⟨first, firstEffect⟩, firstStep, rest⟩ := Option.bind_eq_some_iff.mp check
  obtain ⟨⟨second, secondEffect⟩, secondStep, lookups⟩ := Option.map_eq_some_iff.mp rest
  obtain ⟨registered, lookups⟩ := Prod.mk.inj lookups
  obtain ⟨kept, erased⟩ := Prod.mk.inj lookups
  exact ⟨first, second, firstEffect, secondEffect, firstStep, secondStep, registered, kept, erased⟩

/-- The index names the second socket of a client that reconnects, and its entry the first. -/
theorem exact_counterexample :
    ∃ trace state, Machine.Run (step Wire.Reference.runtime) server trace state ∧ ¬ state.Exact := by
  obtain ⟨first, second, firstEffect, secondEffect, firstStep, secondStep, _, kept, erased⟩ :=
    reconnected
  refine ⟨_, second, .step (.step .start firstStep) secondStep, ?_⟩
  intro exact
  obtain ⟨entry, present, home⟩ := Option.map_eq_some_iff.mp kept
  rw [clients_delClientNode, InverseIndex.eraseVia_eq_none] at erased
  have named : second.owner 2 = some (nodeId 7) := by
    rcases erased with named | absent
    · exact named
    · rw [present] at absent
      cases absent
  have lives := ((exact_iff.mp exact).1 _ entry present 2).mp named
  rw [home] at lives
  cases lives

end NetEngine

end EbcNet
