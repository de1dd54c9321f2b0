import Mathlib.Data.Set.Card
import EbcNet.Provenance

/-! The clients of a server whose connections keep to one id each: all of them are at
connections that are still open. -/

namespace EbcNet

open Wire (Runtime MsgType)

namespace NetEngine

/-- A connection has registered an id, and has not been disconnected since. -/
def OpenUnder (runtime : Runtime) (server : NetEngine) (events : List Event) (sock : UDTSOCKET)
    (id : NodeId) : Prop :=
  ∃ past env epollFd object future, events = past ++ .message env sock epollFd :: future ∧
    server.received runtime env = some object ∧
    object.ebcMsg.type = MsgType.GET_NODE.toInt32 ∧ object.ebcMsg.srcId = id.bytes ∧
    .clientLost sock ∉ future

/-- What clients of this program do to a server: they send it `GET_NODE`s, and all
those of one connection with one id. -/
structure Orderly (runtime : Runtime) (server : NetEngine) (events : List Event) : Prop where
  loop : ∀ sock, .peerLost sock ∉ events
  getNode : ∀ env sock epollFd object, .message env sock epollFd ∈ events →
    server.received runtime env = some object → object.ebcMsg.type = MsgType.GET_NODE.toInt32
  steady : ∀ past env sock epollFd object future, events = past ++ .message env sock epollFd :: future →
    server.received runtime env = some object →
    ∃ id, object.ebcMsg.srcId = id.bytes ∧
      ∀ other, OpenUnder runtime server past sock other → other = id

/-- The `GET_NODE`s of one connection are with one id. -/
def Steady (runtime : Runtime) (server : NetEngine) (events : List Event) : Prop :=
  ∀ past env sock epollFd object future, events = past ++ .message env sock epollFd :: future →
    server.received runtime env = some object →
    object.ebcMsg.type = MsgType.GET_NODE.toInt32 →
    ∃ id, object.ebcMsg.srcId = id.bytes ∧
      ∀ other, OpenUnder runtime server past sock other → other = id

/-- What keeps the clients of a server in order, whatever other messages it gets: these
punch with no connection that has registered. -/
structure Settled (runtime : Runtime) (server : NetEngine) (events : List Event) : Prop where
  loop : ∀ sock, .peerLost sock ∉ events
  steady : Steady runtime server events
  foreign : ∀ past env sock epollFd object future, events = past ++ .message env sock epollFd :: future →
    server.received runtime env = some object →
    object.ebcMsg.type ≠ MsgType.GET_NODE.toInt32 →
    ∀ turn made, env.punch turn = .connects made → ∀ id, ¬ OpenUnder runtime server past made id

/-- Every client stands under its own id, at an open connection that registered it and is
recorded for it. -/
def AllOpen (runtime : Runtime) (server : NetEngine) (events : List Event) (engine : NetEngine) :
    Prop :=
  ∀ id node, engine.clients id = some node →
    node.id = id ∧ OpenUnder runtime server events node.sock id ∧ engine.owner node.sock = some id

section Step
variable {runtime : Runtime} {start engine next : NetEngine} {events : List Event}
variable {sock : UDTSOCKET} {id : NodeId} {event : Event} {effect : Effect}

theorem OpenUnder.later (opened : OpenUnder runtime start events sock id)
    (kept : event ≠ .clientLost sock) : OpenUnder runtime start (events ++ [event]) sock id := by
  obtain ⟨past, env, epollFd, object, future, rfl, accepted, type, named, open_⟩ := opened
  refine ⟨past, env, epollFd, object, future ++ [event], by simp, accepted, type, named, ?_⟩
  simp [open_, Ne.symm kept]

theorem Orderly.settled (orderly : Orderly runtime start events) : Settled runtime start events where
  loop := orderly.loop
  steady := by
    intro past env sock epollFd object future split accepted _
    exact orderly.steady past env sock epollFd object future split accepted
  foreign := by
    rintro past env sock epollFd object future rfl accepted other
    exact absurd (orderly.getNode env sock epollFd object (by simp) accepted) other

/-- Connections keep to one id where there is just one. -/
theorem steady_of_one
    (one : ∀ env sock epollFd object, .message env sock epollFd ∈ events →
      start.received runtime env = some object →
      object.ebcMsg.type = MsgType.GET_NODE.toInt32 → object.ebcMsg.srcId = id.bytes) :
    Steady runtime start events := by
  rintro past env sock epollFd object future rfl accepted type
  refine ⟨id, one env sock epollFd object (by simp) accepted type, ?_⟩
  rintro other ⟨before, another, place, earlier, later, rfl, acceptedEarlier, typeEarlier, own, _⟩
  have same := one another sock place earlier (by simp) acceptedEarlier typeEarlier
  rw [own] at same
  exact NodeId.ext same

theorem Settled.past {later : List Event} (settled : Settled runtime start (events ++ later)) :
    Settled runtime start events where
  loop sock member := settled.loop sock (List.mem_append_left _ member)
  steady := by
    intro past env sock epollFd object future split
    exact settled.steady past env sock epollFd object (future ++ later) (by simp [split])
  foreign := by
    intro past env sock epollFd object future split
    exact settled.foreign past env sock epollFd object (future ++ later) (by simp [split])

/-- Introductions leave the clients as they are, and the sockets that are recorded for them. -/
private theorem AllOpen.introduced {env : Env} {nodes : List Wire.EbcNode}
    (open_ : AllOpen runtime start events engine)
    (foreign : ∀ turn made, env.punch turn = .connects made →
      ∀ id node, engine.clients id = some node → node.sock ≠ made) :
    AllOpen runtime start events ((introductions env 0 nodes).foldl call engine) := by
  intro id node present
  have before : engine.clients id = some node := by
    rcases clients_calls present with old | ⟨_, _, _, _, _, member, _⟩
    · exact old
    · obtain ⟨_, _, _, same⟩ := mem_introductions member
      cases same
  obtain ⟨own, opened, recorded⟩ := open_ id node before
  refine ⟨own, opened, ?_⟩
  rw [owner_calls_other fun made member => introductions_recorded ?_ member]
  · exact recorded
  · intro turn connects
    exact foreign turn node.sock connects id node before rfl

private theorem AllOpen.message {env : Env} {epollFd : Int} (open_ : AllOpen runtime start events engine)
    (settled : Settled runtime start (events ++ [.message env sock epollFd]))
    (server : engine.isServer = true)
    (same : engine.received runtime env = start.received runtime env)
    (taken : step runtime engine (.message env sock epollFd) = some (next, effect)) :
    AllOpen runtime start (events ++ [.message env sock epollFd]) next := by
  have later : AllOpen runtime start (events ++ [.message env sock epollFd]) engine := by
    intro id node present
    obtain ⟨own, opened, recorded⟩ := open_ id node present
    exact ⟨own, opened.later (by simp), recorded⟩
  have foreign : ∀ {object : MsgPack}, engine.received runtime env = some object →
      object.ebcMsg.type ≠ MsgType.GET_NODE.toInt32 → ∀ turn made, env.punch turn = .connects made →
      ∀ id node, engine.clients id = some node → node.sock ≠ made := by
    rintro object accepted other turn made connects id node present rfl
    rw [same] at accepted
    exact settled.foreign events env sock epollFd object [] rfl accepted other turn node.sock connects
      id (open_ id node present).2.1
  obtain ⟨actions, done, rfl⟩ := step_message taken
  have calls := handleMsg_calls done
  cases handleMsg_handled done with
  | ignored => exact later
  | answered _ _ client => simp [client] at server
  | introduced accepted rep _ told =>
    rw [calls, told]
    exact later.introduced (foreign accepted (by simp [rep]))
  | punched accepted punch _ told =>
    rw [calls, told]
    exact later.introduced (foreign accepted (by simp [punch]))
  | @registered object first punch answer accepted type _ _ _ _ _ _ =>
    rw [same] at accepted
    obtain ⟨own, named, steady⟩ := settled.steady events env sock epollFd object [] rfl accepted type
    have copied : string2NodeId env.memory object.ebcMsg.srcId = own := by
      rw [named, string2NodeId_id]
    intro id node present
    rw [clients_addClientNode, InverseIndex.store_eq_some, copied] at present
    rw [owner_addClientNode, copied]
    rcases present with old | ⟨rfl, _, rfl⟩
    · obtain ⟨keyed, opened, recorded⟩ := later id node old
      refine ⟨keyed, opened, ?_⟩
      by_cases here : node.sock = sock
      · -- The connection registers again, under the same id.
        rw [here, Function.update_self]
        exact congrArg some (steady id (here ▸ (open_ id node old).2.1)).symm
      · rw [Function.update_of_ne here]
        exact recorded
    · exact ⟨rfl, ⟨events, env, epollFd, object, [], rfl, accepted, type, named, by simp⟩,
        Function.update_self ..⟩

private theorem AllOpen.clientLost (open_ : AllOpen runtime start events engine) :
    AllOpen runtime start (events ++ [.clientLost sock]) (engine.delClientNode sock) := by
  intro id node present
  rw [clients_delClientNode, InverseIndex.eraseVia_eq_some] at present
  obtain ⟨unnamed, stored⟩ := present
  obtain ⟨own, opened, recorded⟩ := open_ id node stored
  have elsewhere : node.sock ≠ sock := by
    intro same
    rw [same] at recorded
    exact unnamed recorded
  refine ⟨own, opened.later fun same => elsewhere (Event.clientLost.inj same).symm, ?_⟩
  rw [owner_delClientNode, Function.update_of_ne elsewhere]
  exact recorded

end Step

section Runs
variable {runtime : Runtime} {self : Node} {trace : List (Event × Effect)} {engine : NetEngine}

theorem allOpen_of_run (run : Machine.Run (step runtime) { self, isServer := true } trace engine)
    (settled : Settled runtime { self, isServer := true } (trace.map Prod.fst)) :
    AllOpen runtime { self, isServer := true } (trace.map Prod.fst) engine := by
  induction run with
  | start =>
    intro id node present
    simp at present
  | @step trace state next event effect before taken ih =>
    rw [List.map_append] at settled ⊢
    have open_ := ih settled.past
    cases event with
    | message env sock epollFd =>
      exact open_.message settled (run_role before).2 (received_of_run before env) taken
    | clientLost sock =>
      cases taken
      exact open_.clientLost
    | peerLost sock => exact absurd (by simp) (settled.loop sock)

/-- No two clients are at one connection. -/
theorem clientList_nodup
    (recorded : ∀ id node, engine.clients id = some node → engine.owner node.sock = some id) :
    (engine.clientList.map Node.sock).Nodup := by
  have distinct := engine.clientNode.distinct_keys_toList
  unfold clientList List.Nodup
  rw [List.map_map, List.pairwise_map]
  refine distinct.imp_of_mem ?_
  intro left right leftStored rightStored different same
  rw [Std.ExtTreeMap.mem_toList_iff_getElem?_eq_some] at leftStored rightStored
  have leftOwner := recorded left.1 left.2 leftStored
  have rightOwner := recorded right.1 right.2 rightStored
  rw [show left.2.sock = right.2.sock from same, rightOwner] at leftOwner
  exact different (by rw [Option.some.inj leftOwner]; exact Std.ReflOrd.compare_self)

/-- The open connections that have registered an id. -/
def openConnections (runtime : Runtime) (server : NetEngine) (events : List Event) : Set UDTSOCKET :=
  {sock | ∃ id, OpenUnder runtime server events sock id}

theorem openConnections_finite (server : NetEngine) (events : List Event) :
    (openConnections runtime server events).Finite := by
  refine (List.finite_toSet (events.filterMap fun
    | .message _ sock _ => some sock
    | _ => none)).subset ?_
  rintro sock ⟨id, past, env, epollFd, object, future, rfl, _⟩
  simp

/-- A server whose connections keep to one id each tells only open connections of a
newcomer, and has no more clients than these. -/
structure RefersToOpen (runtime : Runtime) (server : NetEngine) (events : List Event)
    (engine : NetEngine) : Prop where
  clients : AllOpen runtime server events engine
  told : ∀ event next effect, step runtime engine event = some (next, effect) →
    ∀ target packed, .send target packed ∈ effect.actions →
      packed.object.ebcMsg.type = MsgType.PUNCH.toInt32 →
      target ∈ openConnections runtime server events
  count : engine.clientNode.size ≤ (openConnections runtime server events).ncard

theorem refersToOpen_of_run
    (run : Machine.Run (step runtime) { self, isServer := true } trace engine)
    (orderly : Orderly runtime { self, isServer := true } (trace.map Prod.fst)) :
    RefersToOpen runtime { self, isServer := true } (trace.map Prod.fst) engine := by
  have open_ := allOpen_of_run run orderly.settled
  have within : ∀ node ∈ engine.clientList,
      node.sock ∈ openConnections runtime { self, isServer := true } (trace.map Prod.fst) := by
    intro node member
    obtain ⟨id, present⟩ := mem_clientList.mp member
    exact ⟨id, (open_ id node present).2.1⟩
  refine ⟨open_, ?_, ?_⟩
  · intro event next effect taken target packed sent punch
    obtain ⟨_, _, _, _, _, _, _, _, _, _, sent⟩ := step_sends (run_role run).2 taken sent
    cases sent with
    | punch client _ => exact within _ client
    | rep replied =>
      rw [pack_rep_eq replied] at punch
      simp [repMsg] at punch
  · have distinct := clientList_nodup fun id node present => (open_ id node present).2.2
    have part : ((engine.clientList.map Node.sock).toFinset : Set UDTSOCKET) ⊆
        openConnections runtime { self, isServer := true } (trace.map Prod.fst) := by
      intro sock member
      simp only [Finset.mem_coe, List.mem_toFinset] at member
      obtain ⟨node, client, rfl⟩ := List.mem_map.mp member
      exact within node client
    calc engine.clientNode.size
        = (engine.clientList.map Node.sock).toFinset.card := by
          rw [List.toFinset_card_of_nodup distinct]
          simp [clientList]
      _ = ((engine.clientList.map Node.sock).toFinset : Set UDTSOCKET).ncard :=
          (Set.ncard_coe_finset _).symm
      _ ≤ _ := Set.ncard_le_ncard part (openConnections_finite _ _)

end Runs

open Sample

theorem orderly_arrivals {id : NodeId} {events : List Event}
    (arrivals : ∀ event ∈ events, (∃ addr sock, event = arrival id addr sock) ∨
      ∃ sock, event = .clientLost sock) : Orderly Wire.Reference.runtime server events := by
  have named : ∀ env sock epollFd object, .message env sock epollFd ∈ events →
      server.received Wire.Reference.runtime env = some object →
      object.ebcMsg.type = MsgType.GET_NODE.toInt32 ∧ object.ebcMsg.srcId = id.bytes := by
    intro other sock epollFd object member accepted
    rcases arrivals _ member with ⟨addr, place, same⟩ | ⟨place, same⟩
    · cases same
      rw [received_env] at accepted
      cases accepted
      exact ⟨rfl, rfl⟩
    · cases same
  have getNode : ∀ env sock epollFd object, .message env sock epollFd ∈ events →
      server.received Wire.Reference.runtime env = some object →
      object.ebcMsg.type = MsgType.GET_NODE.toInt32 := by
    intro env sock epollFd object member accepted
    exact (named env sock epollFd object member accepted).1
  have steady := steady_of_one fun env sock epollFd object member accepted _ =>
    (named env sock epollFd object member accepted).2
  refine ⟨?_, getNode, ?_⟩
  · intro sock member
    rcases arrivals _ member with ⟨addr, place, same⟩ | ⟨place, same⟩ <;> cases same
  · intro past env sock epollFd object future split accepted
    exact steady past env sock epollFd object future split accepted
      (getNode env sock epollFd object (by simp [split]) accepted)

/-- A client that reconnects keeps its entry at the old connection, which is open. -/
theorem refersToOpen_of_run_reconnected :
    ∃ trace engine, Machine.Run (step Wire.Reference.runtime) server trace engine ∧
      trace.map Prod.fst = [arrival (nodeId 7) ⟨1, 2⟩ 1, arrival (nodeId 7) ⟨1, 3⟩ 2] ∧
      (engine.clients (nodeId 7)).map Node.sock = some 1 ∧
      RefersToOpen Wire.Reference.runtime server (trace.map Prod.fst) engine := by
  obtain ⟨first, second, firstEffect, secondEffect, firstStep, secondStep, _, home, _⟩ :=
    reconnected
  have run := (Machine.Run.start.step firstStep).step secondStep
  refine ⟨_, second, run, rfl, home, refersToOpen_of_run run ?_⟩
  apply @orderly_arrivals (nodeId 7)
  intro event member
  left
  rcases List.mem_cons.mp member with rfl | member
  · exact ⟨_, _, rfl⟩
  · exact ⟨_, _, List.mem_singleton.mp member⟩

end NetEngine

end EbcNet
