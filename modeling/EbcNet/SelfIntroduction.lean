import EbcNet.Engine.Delivery
import EbcNet.Wire.Accepted

/-! Whether a server introduces a node to itself. -/

namespace EbcNet

open Wire
open Machine (StepsDo StepsMeet)

/-- The first bytes of a string are an id, so that whoever copies it gets that id. -/
def Denotes (str : Bytes) (id : NodeId) : Prop := str.take idLength = id.bytes

theorem NodeId.denotes {id other : NodeId} : Denotes id.bytes other ↔ id = other := by
  unfold Denotes
  rw [List.take_of_length_le id.length_eq.le]
  exact ⟨NodeId.ext, congrArg NodeId.bytes⟩

/-- A message tells a node of others only: none of the nodes it lists has the node's
own id, and the node, when it gets the message, punches towards these only and stores
no peer under that id. -/
structure TellsOthers (runtime : Runtime) (packed : Packed) (id : NodeId) : Prop where
  listed : ∀ node ∈ packed.listing, ¬ Denotes node.id id
  punched : ∀ (client : NetEngine) env sock epollFd reached actions, client.self.id = id →
    client.Gets runtime env packed →
    client.handleMsg runtime env sock epollFd = some (reached, actions) →
    ∀ addr ∈ actions.filterMap Action.punched, ∃ node ∈ packed.listing,
      ¬ Denotes node.id id ∧ addr = ⟨node.ip, (parPort node.portNat).toUInt16⟩
  stored : ∀ (client : NetEngine) env sock, client.self.id = id →
    client.Gets runtime env packed → ∀ made ∈ client.calls runtime env sock,
    ∃ memory str ip portNat place, made = .addPeer memory str ip portNat place ∧ ¬ Denotes str id

theorem NetEngine.Introduces.tellsOthers {runtime : Runtime} {packed : Packed} {id : NodeId}
    (introduces : Introduces runtime packed) (others : ∀ node ∈ packed.listing, ¬ Denotes node.id id) :
    TellsOthers runtime packed id where
  listed := others
  punched := by
    intro client env sock epollFd reached actions _ gets done addr punched
    rw [introduces.handled gets] at done
    obtain rfl := (Prod.mk.inj (Option.some.inj done)).2
    rw [introduceAll_punched] at punched
    obtain ⟨node, member, rfl⟩ := List.mem_map.mp punched
    exact ⟨node, member, others node member, rfl⟩
  stored := by
    intro client env sock _ gets made member
    rw [introduces.calls gets] at member
    obtain ⟨node, listed, place, rfl⟩ := mem_introductions member
    exact ⟨_, _, _, _, place, rfl, others node listed⟩

namespace NetEngine

/-- Nothing that a server sends on an event introduces a node to itself: neither the answer
to the sender of a `GET_NODE`, nor a `PUNCH` to a client. -/
structure IntroducesOthers (runtime : Runtime) (engine : NetEngine) (event : Event)
    (effect : Effect) : Prop where
  answer : ∀ env sock epollFd object id target packed, event = .message env sock epollFd →
    engine.received runtime env = some object →
    object.ebcMsg.type = MsgType.GET_NODE.toInt32 → Denotes object.ebcMsg.srcId id →
    .send target packed ∈ effect.actions →
    packed.object.ebcMsg.type = MsgType.REP.toInt32 → TellsOthers runtime packed id
  told : ∀ id entry packed, engine.clients id = some entry →
    .send entry.sock packed ∈ effect.actions →
    packed.object.ebcMsg.type = MsgType.PUNCH.toInt32 → TellsOthers runtime packed id

/-- Who sends a `GET_NODE` is not registered yet. -/
def Newcomer (runtime : Runtime) (engine : NetEngine) : Event → Prop
  | .message env _ _ => ∀ object id, engine.received runtime env = some object →
      object.ebcMsg.type = MsgType.GET_NODE.toInt32 → Denotes object.ebcMsg.srcId id →
      engine.clients id = none
  | _ => True

/-- `UDT::recv` returns no more bytes than the buffer holds. -/
def Event.Bounded : Event → Prop
  | .message env _ _ => ∀ bytes, env.recv = some bytes → bytes.length ≤ bufSize
  | _ => True

section Step
variable {runtime : Runtime} {engine next : NetEngine} {event : Event} {effect : Effect}
variable {env : Env} {object : MsgPack}

private theorem srcId_length_le (accepted : engine.received runtime env = some object)
    (bounded : ∀ bytes, env.recv = some bytes → bytes.length ≤ bufSize) :
    object.ebcMsg.srcId.length ≤ bufSize := by
  obtain ⟨bytes, returned, unpacked⟩ := Option.bind_eq_some_iff.mp accepted
  have inside := bounded bytes returned
  have parsed := (MsgPack.unpack_eq_some.mp unpacked).1
  have read := EbcMsg.parse_length (Nat.le_trans inside (by decide)) parsed
  have part : object.ebcMsg.srcId.length ≤ object.ebcMsg.shortestLength runtime := by
    have counted : object.ebcMsg.srcId.length ≤
        if object.ebcMsg.srcId.length > 0 then
          1 + lengthDelimitedSize object.ebcMsg.srcId.length else 0 := by
      unfold lengthDelimitedSize
      split <;> omega
    simp only [EbcMsg.shortestLength, EbcMsg.byteSizeLong]
    omega
  omega

/-- A newcomer is in no list yet, and nobody is told of itself. -/
theorem Newcomer.introducesOthers (newcomer : engine.Newcomer runtime event)
    (keyed : engine.Keyed) (server : engine.isServer = true)
    (taken : step runtime engine event = some (next, effect)) :
    engine.IntroducesOthers runtime event effect where
  answer := by
    intro env sock epollFd object id target packed arrived accepted type denotes sent rep
    subst arrived
    obtain ⟨_, _, _, again, first, same, acceptedAgain, _, _, _, sent⟩ := step_sends server taken sent
    cases same
    obtain rfl := Option.some.inj (accepted.symm.trans acceptedAgain)
    cases sent with
    | punch _ punched =>
      rw [pack_punch_eq punched] at rep
      simp [punchMsg] at rep
    | rep replied =>
      obtain ⟨introduces, list⟩ := rep_introduces accepted replied
      refine introduces.tellsOthers fun node member own => ?_
      rw [list] at member
      obtain ⟨client, registered, rfl⟩ := List.mem_map.mp member
      obtain ⟨key, present⟩ := mem_clientList.mp registered
      have absent := newcomer object id accepted type denotes
      rw [← NodeId.denotes.mp own, keyed.1 key client present, present] at absent
      cases absent
  told := by
    intro id entry packed present sent punch
    obtain ⟨env, sock, epollFd, object, first, arrived, accepted, type, _, _, sent⟩ :=
      step_sends server taken sent
    generalize entry.sock = target at sent
    cases sent with
    | punch _ punched =>
      obtain ⟨introduces, list⟩ := punch_introduces punched
      refine introduces.tellsOthers fun node member own => ?_
      rw [list] at member
      rw [List.mem_singleton.mp member] at own
      subst arrived
      rw [newcomer object id accepted type own] at present
      cases present
    | rep replied =>
      rw [pack_rep_eq replied] at punch
      simp [repMsg] at punch

/-- Who is registered already is told of itself. -/
theorem IntroducesOthers.newcomer (others : engine.IntroducesOthers runtime event effect)
    (bounded : event.Bounded) (server : engine.isServer = true)
    (taken : step runtime engine event = some (next, effect)) : engine.Newcomer runtime event := by
  cases event with
  | clientLost lost => trivial
  | peerLost lost => trivial
  | message env sock epollFd =>
    intro object id accepted type denotes
    by_contra registered
    obtain ⟨entry, present⟩ := Option.ne_none_iff_exists'.mp registered
    obtain ⟨actions, done, rfl⟩ := step_message taken
    obtain ⟨first, punch, rep, registration⟩ :=
      handleMsg_getNode done server accepted type (srcId_length_le accepted bounded)
    obtain ⟨introduces, list⟩ := punch_introduces registration.punched
    have sent : .send entry.sock punch ∈ actions := by
      rw [registration.actions]
      exact List.mem_append_left _
        (List.mem_map.mpr ⟨entry, mem_clientList.mpr ⟨id, present⟩, rfl⟩)
    have kind : punch.object.ebcMsg.type = MsgType.PUNCH.toInt32 := by
      rw [pack_punch_eq registration.punched]
      rfl
    refine (others.told id entry punch present sent kind).listed
      (punchNode env object.ebcMsg first) ?_ denotes
    rw [list]
    exact List.mem_singleton_self _

end Step

/-- Over a whole run, nobody is introduced to itself if and only if every `GET_NODE`
comes from a node that is not registered yet. -/
theorem introducesOthers_iff_newcomer {runtime : Runtime} {self : Node}
    {trace : List (Event × Effect)} {state : NetEngine}
    (run : Machine.Run (step runtime) { self, isServer := true } trace state)
    (bounded : ∀ event effect, (event, effect) ∈ trace → event.Bounded) :
    StepsDo (step runtime) (IntroducesOthers runtime) { self, isServer := true } trace ↔
      StepsMeet (step runtime) (Newcomer runtime) { self, isServer := true } trace := by
  apply run.stepsDo_iff
  intro past engine event effect next reached member taken
  have server : engine.isServer = true := (run_role reached).2
  constructor
  · intro others
    exact others.newcomer (bounded event effect member) server taken
  · intro newcomer
    exact newcomer.introducesOthers (run_keyed reached) server taken

open Sample

private theorem arrival_bounded (id : NodeId) (addr : SockAddrIn) (sock : UDTSOCKET) :
    (arrival id addr sock).Bounded := by
  intro bytes returned
  cases returned
  rw [getNode, EbcMsg.serialize_length]
  exact Nat.le_trans (announcement_fits _ _) (by decide)

/-- Two clients register. -/
theorem introducesOthers_iff_newcomer_arrivals :
    ∃ trace state, Machine.Run (step Wire.Reference.runtime) server trace state ∧
      trace.map Prod.fst = [arrival (nodeId 7) ⟨1, 2⟩ 1, arrival (nodeId 8) ⟨1, 3⟩ 2] ∧
      (StepsDo (step Wire.Reference.runtime) (IntroducesOthers Wire.Reference.runtime) server
          trace ↔
        StepsMeet (step Wire.Reference.runtime) (Newcomer Wire.Reference.runtime) server trace) := by
  obtain ⟨first, second, firstEffect, secondEffect, firstStep, secondStep⟩ := registered_both
  have run := (Machine.Run.start.step firstStep).step secondStep
  refine ⟨_, second, run, rfl, introducesOthers_iff_newcomer run ?_⟩
  intro event other member
  rcases List.mem_pair.mp member with same | same
  · cases same
    exact arrival_bounded (nodeId 7) ⟨1, 2⟩ 1
  · cases same
    exact arrival_bounded (nodeId 8) ⟨1, 3⟩ 2

/-- A client that reconnects is told of itself at its old socket. -/
theorem introducesOthers_counterexample :
    ∃ trace state, Machine.Run (step Wire.Reference.runtime) server trace state ∧
      trace.map Prod.fst = [arrival (nodeId 7) ⟨1, 2⟩ 1, arrival (nodeId 7) ⟨1, 3⟩ 2] ∧
      ¬ StepsDo (step Wire.Reference.runtime) (IntroducesOthers Wire.Reference.runtime) server
        trace := by
  obtain ⟨first, second, firstEffect, secondEffect, firstStep, secondStep, registered, _, _⟩ :=
    reconnected
  refine ⟨_, second, .step (.step .start firstStep) secondStep, rfl, ?_⟩
  intro others
  have told := others [_] _ _ [] rfl first (.step .start firstStep)
  have newcomer := told.newcomer (arrival_bounded _ _ _)
    (run_role (Machine.Run.start.step firstStep)).2 secondStep
  have absent := newcomer _ (nodeId 7) (received_env first (nodeId 7) ⟨1, 3⟩) rfl rfl
  rw [absent] at registered
  cases registered

end NetEngine

end EbcNet
