import EbcNet.Base.Simulation
import EbcNet.Coalesced
import EbcNet.Provenance
import EbcNet.Rendezvous.Mutual
import EbcNet.ServerLoop

/-! A server and its clients, with the messages that are on their way between them. A
connection is a stream: a client takes what the server sent on it in that order, one message
or several at a time. -/

namespace EbcNet

open Wire (Runtime EbcNode)
open NetEngine (Effect BootEvent Rendezvous bufSize repSize)

/-- A client, with its socket to the server. -/
structure Client where
  engine : NetEngine
  bootSock : UDTSOCKET

/-- The server, and by its sockets the clients, the `GET_NODE`s that it has not received
and the messages that it sent and the clients have not received. -/
structure Network where
  server : NetEngine
  client : UDTSOCKET → Option Client := fun _ => none
  up : UDTSOCKET → List Packed := fun _ => []
  down : UDTSOCKET → List Packed := fun _ => []

/-- What happens in a network: a client connects to the server and sends its `GET_NODE`,
the server receives that, or finds a connection broken, a client receives some messages
together, or finds that a `connect` to a peer succeeded or failed. -/
inductive NetworkEvent where
  | connects (self : Node) (bootSock sock : UDTSOCKET)
  | arrives (sock : UDTSOCKET) (env : Env)
  | breaks (sock : UDTSOCKET)
  | delivers (sock : UDTSOCKET) (count : Nat) (env : Env)
  | reaches (sock : UDTSOCKET) (memory : Memory) (made : UDTSOCKET)
  | misses (sock made : UDTSOCKET)

namespace Network

def start (self : Node) : Network where
  server := { self, isServer := true }

section Step
variable (runtime : Runtime) (epollFd : Int)

/-- A turn of the boot loop of one client. -/
def turn (net : Network) (sock : UDTSOCKET) (event : UDTSOCKET → BootEvent) :
    Option (Network × Effect) :=
  (net.client sock).bind fun client =>
    (NetEngine.bootStep runtime epollFd client.engine (event client.bootSock)).map fun taken =>
      ({ net with
          client := Function.update net.client sock (some { client with engine := taken.1 }) },
        taken.2)

/-- A client sends to the server only once on a connection, and the server receives
nothing from a broken one. What a `recv` on `boot_sock` returns ends between messages. -/
def step : Machine.Step Network NetworkEvent Effect
  | net, .connects self bootSock sock =>
    match net.client sock with
    | some _ => none
    | none =>
      (announce runtime self).map fun packed =>
        ({ net with
            client := Function.update net.client sock
              (some { engine := { self, isServer := false }, bootSock })
            up := Function.update net.up sock [packed] },
          { actions := [.send bootSock packed], calls := [] })
  | net, .arrives sock env =>
    match net.up sock with
    | [] => none
    | packed :: rest =>
      (NetEngine.step runtime net.server
        (.message { env with recv := some packed.sent } sock ServerLoop.defaultEpollFd)).map
          fun taken =>
            ({ net with
                server := taken.1
                up := Function.update net.up sock rest
                down := fun place => net.down place ++ sentTo place taken.2.actions },
              taken.2)
  | net, .breaks sock =>
    (NetEngine.step runtime net.server (.clientLost sock)).map fun taken =>
      ({ net with server := taken.1, up := Function.update net.up sock [] }, taken.2)
  | net, .delivers sock count env =>
    let sent := (net.down sock).take count
    let bytes := (sent.map Packed.sent).flatten
    if sent.isEmpty || bufSize < bytes.length then none
    else
      (net.turn runtime epollFd sock (.message { env with recv := some bytes })).map fun taken =>
        ({ taken.1 with down := Function.update net.down sock ((net.down sock).drop count) },
          taken.2)
  | net, .reaches sock memory made => net.turn runtime epollFd sock fun _ => .connected memory made
  | net, .misses sock made => net.turn runtime epollFd sock fun _ => .lost made

end Step

/-- Every client has an id of its own, the server does not get more clients than a `REP`
can list, and a `connect` that succeeds is that of a recorded socket. -/
def Admits (net : Network) : NetworkEvent → Prop
  | .connects self _ _ => ∀ place client, net.client place = some client →
      client.engine.self.id ≠ self.id
  | .arrives _ _ => net.server.clientNode.size ≤ 150
  | .breaks sock => (net.client sock).isSome = true
  | .reaches sock _ made => ∀ client, net.client sock = some client →
      (client.engine.owner made).isSome = true
  | _ => True

/-- Each `startPunch` returns a socket, no connect to a peer fails, and of messages that
come together one at most names anybody. -/
def Calm (net : Network) : NetworkEvent → Prop
  | .delivers sock count env => (naming ((net.down sock).take count)).length ≤ 1 ∧
      ∀ turn, ∃ made, env.punch turn = .connects made ∧ made ≠ INVALID_SOCK
  | .misses _ _ => False
  | _ => True

def Quiet (net : Network) (event : NetworkEvent) : Prop := net.Admits event ∧ net.Calm event

end Network

/-! ### The history of the server -/

/-- The connection that something is about, and whether it is an arrival. -/
def Happening.spot : Happening → UDTSOCKET × Bool
  | .joined _ sock => (sock, true)
  | .left sock => (sock, false)

/-- What of it the server sees. -/
def NetworkEvent.spot : NetworkEvent → Option (UDTSOCKET × Bool)
  | .arrives sock _ => some (sock, true)
  | .breaks sock => some (sock, false)
  | _ => none

/-- The `GET_NODE` of a connection has arrived from an address. -/
def Seen (events : List NetworkEvent) (sock : UDTSOCKET) (addr : SockAddrIn) : Prop :=
  ∃ env, .arrives sock env ∈ events ∧ env.peerName = addr

theorem Seen.later {events : List NetworkEvent} {place : UDTSOCKET} {addr : SockAddrIn}
    (seen : Seen events place addr) (event : NetworkEvent) :
    Seen (events ++ [event]) place addr := by
  obtain ⟨env, member, observed⟩ := seen
  exact ⟨env, List.mem_append_left _ member, observed⟩

namespace Network

/-- The nodes of the clients. -/
def selves (net : Network) (sock : UDTSOCKET) : Option Node :=
  (net.client sock).map fun client => client.engine.self

/-- The clients of a network, in the terms of what happened at its server. -/
structure Linked (runtime : Runtime) (home : Node) (events : List NetworkEvent)
    (history : History) (net : Network) : Prop where
  run : Rendezvous runtime home history net.server
  spots : history.map (fun item => item.1.spot) = events.filterMap NetworkEvent.spot
  waiting : ∀ sock packed rest, net.up sock = packed :: rest → rest = [] ∧
    (∀ id, ¬ history.Joined id sock) ∧ ¬ history.Left sock ∧
      ∃ node, net.selves sock = some node ∧
        packed.sent = (announcement runtime node).serializeWithCachedSizes runtime
  joined : ∀ id sock, history.Joined id sock →
    ∃ node, net.selves sock = some node ∧ node.id = id
  left : ∀ sock, history.Left sock → (net.selves sock).isSome = true
  distinct : ∀ sock place first second, net.selves sock = some first →
    net.selves place = some second → first.id = second.id → sock = place
  stations : ∀ id node, net.server.clients id = some node →
    Seen events node.sock node.addr.getIPv4
  lists : ∀ sock packed, packed ∈ history.inbox sock → Lists runtime packed
  addressed : ∀ sock packed, packed ∈ history.inbox sock → ∀ node ∈ packed.listing,
    ∃ id place addr, node.id = id.bytes ∧ history.Joined id place ∧ Seen events place addr ∧
      NetEngine.Carries node addr

/-! ### One step -/

section Reply
variable {runtime : Runtime}

theorem numberSize_le (value : UInt32) : NetEngine.numberSize value ≤ 6 := by
  have varint := Wire.varintSize32_le value
  unfold NetEngine.numberSize
  split <;> omega

theorem entrySize_le (addr : SockAddrIn) (nat : NatType) :
    NetEngine.entrySize idLength addr nat ≤ 40 := by
  have id : (if idLength > 0 then 1 + Wire.lengthDelimitedSize idLength else 0) = 22 := by decide
  have ip := numberSize_le addr.sinAddr
  have port := numberSize_le (comPortNat addr.sinPort nat)
  have counted := Wire.lengthDelimitedSize_le
    (22 + NetEngine.numberSize addr.sinAddr + NetEngine.numberSize (comPortNat addr.sinPort nat))
  rw [NetEngine.entrySize, id]
  omega

/-- A `REP` can list 150 clients. -/
theorem rep_fits (self : Node) {clients : List Node} (few : clients.length ≤ 150) :
    repSize runtime (announcement runtime self) clients ≤ bufSize := by
  have bounded := List.sum_le_card_nsmul (clients.map fun client =>
    NetEngine.entrySize idLength client.addr.getIPv4 client.nat) 40 (by
      intro size member
      obtain ⟨client, _, rfl⟩ := List.mem_map.mp member
      exact entrySize_le _ _)
  have known : runtime.unknownFields (announcement runtime self).unknown = [] :=
    unknownFields_nil runtime
  have none : NetEngine.numberSize (announcement runtime self).ttl = 0 ∧
      NetEngine.numberSize (announcement runtime self).id = 0 := by
    constructor <;> rfl
  rw [List.length_map] at bounded
  change _ ≤ clients.length * 40 at bounded
  unfold NetEngine.repSize
  rw [known, none.1, none.2, List.length_nil]
  dsimp only
  generalize (clients.map fun client =>
    NetEngine.entrySize idLength client.addr.getIPv4 client.nat).sum = list at bounded ⊢
  have counted := Wire.lengthDelimitedSize_le list
  have number := numberSize_le (UInt32.ofNat list)
  unfold NetEngine.bufSize
  omega

end Reply

section Steps
variable {runtime : Runtime} {epollFd : Int} {home : Node} {events : List NetworkEvent}
variable {history : History} {net next : Network} {event : NetworkEvent} {effect : Effect}
variable {sock : UDTSOCKET}

theorem turn_eq_some {turn : UDTSOCKET → BootEvent}
    (taken : net.turn runtime epollFd sock turn = some (next, effect)) :
    ∃ client engine, net.client sock = some client ∧
      NetEngine.bootStep runtime epollFd client.engine (turn client.bootSock) =
        some (engine, effect) ∧
      next = { net with client := Function.update net.client sock (some { client with engine }) } := by
  obtain ⟨client, present, taken⟩ := Option.bind_eq_some_iff.mp taken
  obtain ⟨⟨engine, other⟩, stepped, same⟩ := Option.map_eq_some_iff.mp taken
  cases same
  exact ⟨client, engine, present, stepped, rfl⟩

theorem turn_selves {turn : UDTSOCKET → BootEvent}
    (taken : net.turn runtime epollFd sock turn = some (next, effect)) :
    next.selves = net.selves ∧ next.server = net.server ∧ next.up = net.up ∧
      next.down = net.down := by
  obtain ⟨client, engine, present, stepped, rfl⟩ := turn_eq_some taken
  refine ⟨?_, rfl, rfl, rfl⟩
  funext place
  unfold selves
  by_cases here : place = sock
  · subst here
    simp [present, NetEngine.bootStep_self stepped]
  · simp [here]

theorem connects_eq_some {node : Node} {bootSock : UDTSOCKET}
    (taken : step runtime epollFd net (.connects node bootSock sock) = some (next, effect)) :
    net.client sock = none ∧ ∃ packed, announce runtime node = some packed ∧
      next = { net with
        client := Function.update net.client sock
          (some { engine := { self := node, isServer := false }, bootSock })
        up := Function.update net.up sock [packed] } := by
  dsimp only [step] at taken
  split at taken
  · cases taken
  · rename_i absent
    obtain ⟨packed, announced, same⟩ := Option.map_eq_some_iff.mp taken
    cases same
    exact ⟨absent, packed, announced, rfl⟩

theorem arrives_eq_some {env : Env}
    (taken : step runtime epollFd net (.arrives sock env) = some (next, effect)) :
    ∃ packed rest server, net.up sock = packed :: rest ∧
      NetEngine.step runtime net.server
          (.message { env with recv := some packed.sent } sock ServerLoop.defaultEpollFd) =
        some (server, effect) ∧
      next = { net with
        server
        up := Function.update net.up sock rest
        down := fun place => net.down place ++ sentTo place effect.actions } := by
  dsimp only [step] at taken
  split at taken
  · cases taken
  · rename_i packed rest waits
    obtain ⟨⟨server, other⟩, stepped, same⟩ := Option.map_eq_some_iff.mp taken
    cases same
    exact ⟨packed, rest, server, waits, stepped, rfl⟩

/-- Messages are delivered in a turn of the client. -/
theorem delivers_eq_some {count : Nat} {env : Env}
    (taken : step runtime epollFd net (.delivers sock count env) = some (next, effect)) :
    (net.down sock).take count ≠ [] ∧
      ∃ reached, net.turn runtime epollFd sock (.message { env with
          recv := some (((net.down sock).take count).map Packed.sent).flatten }) =
        some (reached, effect) ∧
      next = { reached with down := Function.update net.down sock ((net.down sock).drop count) } := by
  dsimp only [step] at taken
  split at taken
  · cases taken
  · rename_i refused
    rw [Bool.or_eq_true, not_or, List.isEmpty_iff] at refused
    obtain ⟨⟨reached, other⟩, turned, same⟩ := Option.map_eq_some_iff.mp taken
    cases same
    exact ⟨refused.1, reached, turned, rfl⟩

theorem linked_start (home : Node) : Linked runtime home [] [] (start home) := by
  refine ⟨.start, rfl, ?_, ?_, ?_, ?_, ?_, ?_, ?_⟩
  · intro sock packed rest waits
    cases waits
  · intro id sock joined
    simp [History.Joined] at joined
  · intro sock left
    simp [History.Left] at left
  · intro sock place first second present
    cases present
  · intro id node present
    simp [start] at present
  · intro sock packed member
    cases member
  · intro sock packed member
    cases member

/-- What the clients do between themselves is nothing to the server. -/
theorem Linked.apart (linked : Linked runtime home events history net)
    (unseen : event.spot = none) (selves : next.selves = net.selves)
    (server : next.server = net.server) (up : next.up = net.up) :
    Linked runtime home (events ++ [event]) history next := by
  refine ⟨server ▸ linked.run, ?_, ?_, ?_, ?_, ?_, ?_, linked.lists, ?_⟩
  · rw [linked.spots, List.filterMap_append, List.filterMap_cons_none unseen, List.filterMap_nil,
      List.append_nil]
  · rw [up, selves]
    exact linked.waiting
  · rw [selves]
    exact linked.joined
  · rw [selves]
    exact linked.left
  · rw [selves]
    exact linked.distinct
  · rw [server]
    exact fun id node present => (linked.stations id node present).later event
  · intro sock packed member node listed
    obtain ⟨id, place, addr, named, joined, seen, carries⟩ :=
      linked.addressed sock packed member node listed
    exact ⟨id, place, addr, named, joined, seen.later event, carries⟩

theorem Linked.connects {node : Node} {bootSock : UDTSOCKET}
    (linked : Linked runtime home events history net)
    (admits : net.Admits (.connects node bootSock sock))
    (taken : step runtime epollFd net (.connects node bootSock sock) = some (next, effect)) :
    Linked runtime home (events ++ [.connects node bootSock sock]) history next := by
  obtain ⟨absent, packed, announced, made⟩ := connects_eq_some taken
  obtain ⟨again, same, _, sent⟩ := announce_eq runtime node
  obtain rfl : packed = again := Option.some.inj (announced.symm.trans same)
  have unknown : net.selves sock = none := by
    unfold selves
    rw [absent]
    rfl
  have selves : next.selves = Function.update net.selves sock (some node) := by
    rw [made]
    funext place
    unfold Network.selves
    by_cases here : place = sock
    · subst here
      simp
    · simp [here]
  have kept : ∀ {place other}, net.selves place = some other → next.selves place = some other := by
    intro place other present
    rw [selves, Function.update_of_ne, present]
    rintro rfl
    rw [unknown] at present
    cases present
  have up : next.up = Function.update net.up sock [packed] := by rw [made]
  have server : next.server = net.server := by rw [made]
  refine ⟨server ▸ linked.run, ?_, ?_, ?_, ?_, ?_, ?_, linked.lists, ?_⟩
  · simp [linked.spots, NetworkEvent.spot]
  · intro place other rest waits
    rw [up] at waits
    by_cases here : place = sock
    · subst here
      rw [Function.update_self] at waits
      cases waits
      refine ⟨rfl, ?_, ?_, node, by rw [selves, Function.update_self], sent⟩
      · intro id joined
        obtain ⟨other, present, _⟩ := linked.joined id place joined
        rw [unknown] at present
        cases present
      · intro left
        have present := linked.left place left
        rw [unknown] at present
        cases present
    · rw [Function.update_of_ne here] at waits
      obtain ⟨single, fresh, stays, other, present, sent⟩ := linked.waiting place _ _ waits
      exact ⟨single, fresh, stays, other, kept present, sent⟩
  · intro id place joined
    obtain ⟨other, present, own⟩ := linked.joined id place joined
    exact ⟨other, kept present, own⟩
  · intro place left
    obtain ⟨other, present⟩ := Option.isSome_iff_exists.mp (linked.left place left)
    rw [kept present]
    rfl
  · have others : ∀ place other, net.selves place = some other → other.id ≠ node.id := by
      intro place other present
      obtain ⟨client, known, rfl⟩ := Option.map_eq_some_iff.mp present
      exact admits place client known
    intro first second one two firstKnown secondKnown same
    rw [selves, InverseIndex.update_eq_some] at firstKnown secondKnown
    rcases firstKnown with ⟨firstHere, now⟩ | ⟨_, firstKnown⟩ <;>
      rcases secondKnown with ⟨secondHere, nowAgain⟩ | ⟨_, secondKnown⟩
    · rw [firstHere, secondHere]
    · cases now
      exact absurd same.symm (others second two secondKnown)
    · cases nowAgain
      exact absurd same (others first one firstKnown)
    · exact linked.distinct first second one two firstKnown secondKnown same
  · rw [server]
    exact fun id entry present => (linked.stations id entry present).later _
  · intro place other member entry listed
    obtain ⟨id, spot, addr, named, joined, seen, carries⟩ :=
      linked.addressed place other member entry listed
    exact ⟨id, spot, addr, named, joined, seen.later _, carries⟩

theorem Linked.breaks (linked : Linked runtime home events history net)
    (admits : net.Admits (.breaks sock))
    (taken : step runtime epollFd net (.breaks sock) = some (next, effect)) :
    Linked runtime home (events ++ [.breaks sock]) (history ++ [(.left sock, effect.actions)]) next ∧
      ∀ place, History.inbox [(.left sock, effect.actions)] place = [] := by
  have stepped : NetEngine.step runtime net.server (.clientLost sock) =
      some (net.server.delClientNode sock, effect) := by
    cases taken
    rfl
  have run := linked.run.leave stepped
  cases taken
  have silent : ∀ place, History.inbox [(.left sock, [.close sock])] place = [] := fun _ => rfl
  refine ⟨⟨run, ?_, ?_, ?_, ?_, linked.distinct, ?_, ?_, ?_⟩, silent⟩
  · rw [List.map_append, linked.spots, List.filterMap_append]
    rfl
  · intro place packed rest waits
    dsimp only at waits
    by_cases here : place = sock
    · subst here
      simp at waits
    · rw [Function.update_of_ne here] at waits
      obtain ⟨single, fresh, stays, node, present, sent⟩ := linked.waiting place packed rest waits
      refine ⟨single, ?_, ?_, node, present, sent⟩
      · intro id joined
        exact fresh id ((History.joined_snoc.mp joined).resolve_right (by simp))
      · rw [History.left_snoc]
        rintro (left | now)
        · exact stays left
        · cases now
          exact here rfl
  · intro id place joined
    exact linked.joined id place ((History.joined_snoc.mp joined).resolve_right (by simp))
  · intro place left
    rcases History.left_snoc.mp left with left | now
    · exact linked.left place left
    · cases now
      obtain ⟨client, present⟩ := Option.isSome_iff_exists.mp admits
      simp [selves, present]
  · intro id node present
    rw [NetEngine.clients_delClientNode, InverseIndex.eraseVia_eq_some] at present
    exact (linked.stations id node present.2).later _
  · intro place packed member
    rw [History.inbox_append, silent, List.append_nil] at member
    exact linked.lists place packed member
  · intro place packed member node listed
    rw [History.inbox_append, silent, List.append_nil] at member
    obtain ⟨id, spot, addr, named, joined, seen, carries⟩ :=
      linked.addressed place packed member node listed
    exact ⟨id, spot, addr, named, History.joined_snoc.mpr (Or.inl joined), seen.later _, carries⟩

private theorem mem_sentTo {place : UDTSOCKET} {packed : Packed} {actions : List Action}
    (sent : packed ∈ sentTo place actions) : ∃ target, .send target packed ∈ actions := by
  obtain ⟨action, member, same⟩ := List.mem_filterMap.mp sent
  cases action with
  | send target letter =>
    dsimp only at same
    split at same
    · cases same
      exact ⟨target, member⟩
    · cases same
  | _ => cases same

/-- What a server sends when a client arrives carries addresses that it has seen. -/
private theorem sent_addressed {engine reached : NetEngine} {env : Env} {packed : Packed}
    {id : NodeId} {object : MsgPack} {fd : Int} {place : UDTSOCKET}
    (online : NetEngine.Online history engine)
    (stations : ∀ id node, engine.clients id = some node →
      Seen events node.sock node.addr.getIPv4)
    (accepted : engine.received runtime env = some object) (own : object.ebcMsg.srcId = id.bytes)
    (taken : NetEngine.step runtime engine (.message env sock fd) = some (reached, effect))
    (sent : packed ∈ sentTo place effect.actions) {node : EbcNode} (listed : node ∈ packed.listing)
    {known : Env} (observed : known.peerName = env.peerName) :
    ∃ other spot addr, node.id = other.bytes ∧
      History.Joined (history ++ [(.joined id sock, effect.actions)]) other spot ∧
        Seen (events ++ [.arrives sock known]) spot addr ∧ NetEngine.Carries node addr := by
  obtain ⟨target, member⟩ := mem_sentTo sent
  obtain ⟨_, env, sock, fd, object, first, arrived, acceptedAgain, _, _, list⟩ :=
    (NetEngine.step_sends_packs online.server taken member).introduces
  cases arrived
  obtain rfl := Option.some.inj (accepted.symm.trans acceptedAgain)
  rcases list with single | list
  · rw [single] at listed
    rw [List.mem_singleton.mp listed]
    refine ⟨id, sock, env.peerName, own, History.joined_snoc.mpr (Or.inr rfl), ?_, rfl,
      parPort_comPortNat _ _⟩
    exact ⟨known, by simp, observed⟩
  · rw [list] at listed
    obtain ⟨client, registered, rfl⟩ := List.mem_map.mp listed
    have present := online.mem_clientList.mp registered
    exact ⟨client.id, client.sock, client.addr.getIPv4, rfl,
      History.joined_snoc.mpr (Or.inl (online.entry _ _ present).1),
      (stations _ _ present).later _, rfl, parPort_comPortNat _ _⟩

theorem Linked.arrives {env : Env} (linked : Linked runtime home events history net)
    (admits : net.Admits (.arrives sock env))
    (taken : step runtime epollFd net (.arrives sock env) = some (next, effect)) :
    ∃ id, Linked runtime home (events ++ [.arrives sock env])
        (history ++ [(.joined id sock, effect.actions)]) next ∧
      next.selves = net.selves ∧ next.client = net.client ∧
      ∀ place, next.down place = net.down place ++ sentTo place effect.actions := by
  obtain ⟨packed, rest, server, waits, stepped, rfl⟩ := arrives_eq_some taken
  obtain ⟨single, fresh, stays, node, present, sent⟩ := linked.waiting sock packed rest waits
  have accepted : net.server.received runtime { env with recv := some packed.sent } =
      some { selfId := net.server.self.id, ebcMsg := announcement runtime node } := by
    simp only [NetEngine.received, Option.bind_some, sent, unpack_announcement]
  have new : history.New node.id sock := by
    refine ⟨?_, stays⟩
    intro other place joined
    obtain ⟨known, knownPlace, own⟩ := linked.joined other place joined
    have elsewhere : place ≠ sock := by
      rintro rfl
      exact fresh other joined
    refine ⟨?_, elsewhere⟩
    rintro rfl
    exact elsewhere (linked.distinct place sock known node knownPlace present own)
  have online := linked.run.online
  have few : net.server.clientList.length ≤ 150 := by
    have size : net.server.clientList.length = net.server.clientNode.size := by
      simp [NetEngine.clientList]
    rw [size]
    exact admits
  have run := linked.run.join accepted rfl rfl new (rep_fits node few) stepped
  refine ⟨node.id, ⟨run, ?_, ?_, ?_, ?_, linked.distinct, ?_, ?_, ?_⟩, rfl, rfl, fun place => rfl⟩
  · rw [List.map_append, linked.spots, List.filterMap_append]
    rfl
  · intro place other rest waits
    dsimp only at waits
    by_cases here : place = sock
    · subst here
      rw [Function.update_self, single] at waits
      cases waits
    · rw [Function.update_of_ne here] at waits
      obtain ⟨single, fresh, stays, node, present, sent⟩ := linked.waiting place other _ waits
      refine ⟨single, ?_, ?_, node, present, sent⟩
      · intro id joined
        rcases History.joined_snoc.mp joined with joined | now
        · exact fresh id joined
        · cases now
          exact here rfl
      · intro left
        exact stays ((History.left_snoc.mp left).resolve_right (by simp))
  · intro id place joined
    rcases History.joined_snoc.mp joined with joined | now
    · exact linked.joined id place joined
    · cases now
      exact ⟨node, present, rfl⟩
  · intro place left
    exact linked.left place ((History.left_snoc.mp left).resolve_right (by simp))
  · intro id entry stored
    rw [NetEngine.step_calls stepped] at stored
    rcases NetEngine.clients_calls stored with old | ⟨memory, str, addr, nat, spot, member, _, made⟩
    · exact (linked.stations id entry old).later _
    · obtain ⟨again, _, _, _, arrived, _, _, _, _, _, rfl, _⟩ :=
        NetEngine.step_addClient stepped member
      cases arrived
      rw [made]
      exact ⟨env, List.mem_append_right _ (List.mem_singleton.mpr rfl), rfl⟩
  · intro place letter member
    have fits := (run.inbox_proper member).1.letter.fits
    rw [History.inbox_append, List.mem_append] at member
    rcases member with old | now
    · exact linked.lists place letter old
    · rw [History.inbox, List.flatMap_singleton] at now
      obtain ⟨target, sent⟩ := mem_sentTo now
      exact (NetEngine.step_sends_packs online.server stepped sent).lists fits
  · intro place other member entry listed
    rw [History.inbox_append, List.mem_append] at member
    rcases member with old | now
    · obtain ⟨id, spot, addr, named, joined, seen, carries⟩ :=
        linked.addressed place other old entry listed
      exact ⟨id, spot, addr, named, History.joined_snoc.mpr (Or.inl joined), seen.later _, carries⟩
    · rw [History.inbox, List.flatMap_singleton] at now
      exact sent_addressed online linked.stations accepted rfl stepped now listed rfl

end Steps

end Network

end EbcNet
