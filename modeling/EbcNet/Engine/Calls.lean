import EbcNet.Engine
import EbcNet.Base.Machine

/-! A message changes an engine through calls of its registry functions only, so a
run of an engine is a sequence of such calls. -/

namespace EbcNet

open Wire
open Machine (StepsMeet)

/-- A call of one of the functions that write the registries. -/
inductive Call where
  | addClient (memory : Memory) (id : Bytes) (addr : SockAddrIn) (nat : NatType) (sock : UDTSOCKET)
  | addPeer (memory : Memory) (id : Bytes) (ip portNat : UInt32) (sock : UDTSOCKET)
  | delClient (sock : UDTSOCKET)
  | delPeer (sock : UDTSOCKET)

namespace NetEngine

def call (engine : NetEngine) : Call → NetEngine
  | .addClient memory id addr nat sock => engine.addClientNode memory id addr nat sock
  | .addPeer memory id ip portNat sock => engine.addPeerNode memory id ip portNat sock
  | .delClient sock => engine.delClientNode sock
  | .delPeer sock => engine.delPeerNode sock

/-- The calls for the nodes of a message, of which those that fail to punch are left out. -/
def introductions (env : Env) : Nat → List EbcNode → List Call
  | _, [] => []
  | turn, node :: nodes =>
    let sock := (startPunch (env.punch turn) 0 node.ip 0).1
    (if sock = INVALID_SOCK then []
      else [.addPeer env.memory node.id node.ip node.portNat sock]) ++
    introductions env (turn + 1) nodes

section Calls
variable (runtime : Runtime)

/-- The registry calls of one `handleMsg`. -/
def calls (engine : NetEngine) (env : Env) (sock : UDTSOCKET) : List Call :=
  match engine.received runtime env with
  | none => []
  | some object =>
    if object.ebcMsg.type = MsgType.GET_NODE.toInt32 then
      match object.ebcMsg.nodes.ebcNodes[0]?, engine.isServer,
        engine.tellClients runtime env sock object.ebcMsg with
      | some first, true, some (some _) =>
        [.addClient env.memory object.ebcMsg.srcId env.peerName (parNat first.portNat) sock]
      | _, _, _ => []
    else if object.ebcMsg.type = MsgType.REP.toInt32 then
      if object.ebcMsg.subType = MsgSubType.NODE.toInt32 then
        introductions env 0 object.ebcMsg.nodes.ebcNodes
      else []
    else if object.ebcMsg.type = MsgType.PUNCH.toInt32 then
      introductions env 0 (object.ebcMsg.nodes.ebcNodes.take 1)
    else []

end Calls

/-! ### What a message can do -/

section Cases
variable {runtime : Runtime} {engine next : NetEngine} {env : Env} {sock : UDTSOCKET}
variable {epollFd : Int} {actions : List Action} {object : MsgPack} {msg : EbcMsg}

/-- A server that has told its clients goes on with the sender registered. -/
theorem tellClients_eq_some {nodes : EbcNodes} {sends : List Action}
    (told : engine.tellClients runtime env sock msg = some (some (next, nodes, sends))) :
    ∃ first punch, msg.nodes.ebcNodes[0]? = some first ∧
      MsgPack.pack runtime { selfId := engine.self.id } .PUNCH (.node (punchNode env msg first))
        (some zeroBuf) (Int32.ofNat bufSize) .EMPTY_SUB .zero = some punch ∧ ¬ punch.ret < 0 ∧
      next = engine.addClientNode env.memory msg.srcId env.peerName (parNat first.portNat) sock ∧
      nodes = { ebcNodes := (engine.clientNode.toList.map Prod.snd).map listed } ∧
      sends = (engine.clientNode.toList.map Prod.snd).map fun node => .send node.sock punch := by
  obtain ⟨first, indexed, packing⟩ := Option.bind_eq_some_iff.mp told
  obtain ⟨punch, packed, sending⟩ := Option.map_eq_some_iff.mp packing
  by_cases refused : punch.ret < 0
  · simp [refused] at sending
  · simp only [refused, if_false, Option.some.injEq, Prod.mk.injEq] at sending
    obtain ⟨rfl, rfl, rfl⟩ := sending
    exact ⟨first, punch, indexed, packed, refused, rfl, rfl, rfl⟩

/-- Everything that a received message can do to an engine. -/
inductive Handled (runtime : Runtime) (engine : NetEngine) (env : Env) (sock : UDTSOCKET)
    (epollFd : Int) : NetEngine → List Action → Prop where
  | ignored (nothing : engine.calls runtime env sock = []) :
      Handled runtime engine env sock epollFd engine []
  | registered {object : MsgPack} {first : EbcNode} {punch : Packed} {answer : List Action}
      (accepted : engine.received runtime env = some object)
      (type : object.ebcMsg.type = MsgType.GET_NODE.toInt32) (server : engine.isServer = true)
      (indexed : object.ebcMsg.nodes.ebcNodes[0]? = some first)
      (packed : MsgPack.pack runtime { selfId := engine.self.id } .PUNCH
        (.node (punchNode env object.ebcMsg first)) (some zeroBuf) (Int32.ofNat bufSize) .EMPTY_SUB
        .zero = some punch)
      (sendable : ¬ punch.ret < 0)
      (told : engine.calls runtime env sock =
        [.addClient env.memory object.ebcMsg.srcId env.peerName (parNat first.portNat) sock])
      (answered : reply runtime object sock
        { ebcNodes := (engine.clientNode.toList.map Prod.snd).map listed } = some answer) :
      Handled runtime engine env sock epollFd
        (engine.addClientNode env.memory object.ebcMsg.srcId env.peerName (parNat first.portNat) sock)
        ((engine.clientNode.toList.map Prod.snd).map (fun node => .send node.sock punch) ++ answer)
  | answered {object : MsgPack} {answer : List Action}
      (accepted : engine.received runtime env = some object)
      (type : object.ebcMsg.type = MsgType.GET_NODE.toInt32) (client : engine.isServer = false)
      (told : engine.calls runtime env sock = [])
      (answered : reply runtime object sock {} = some answer) :
      Handled runtime engine env sock epollFd engine answer
  | introduced {object : MsgPack} (accepted : engine.received runtime env = some object)
      (type : object.ebcMsg.type = MsgType.REP.toInt32)
      (subType : object.ebcMsg.subType = MsgSubType.NODE.toInt32)
      (told : engine.calls runtime env sock = introductions env 0 object.ebcMsg.nodes.ebcNodes) :
      Handled runtime engine env sock epollFd
        (introduceAll env epollFd engine 0 object.ebcMsg.nodes.ebcNodes).1
        (introduceAll env epollFd engine 0 object.ebcMsg.nodes.ebcNodes).2
  | punched {object : MsgPack} {first : EbcNode}
      (accepted : engine.received runtime env = some object)
      (type : object.ebcMsg.type = MsgType.PUNCH.toInt32)
      (indexed : object.ebcMsg.nodes.ebcNodes[0]? = some first)
      (told : engine.calls runtime env sock = introductions env 0 [first]) :
      Handled runtime engine env sock epollFd (introduce env epollFd engine 0 first).1
        (introduce env epollFd engine 0 first).2

theorem handleMsg_handled
    (done : engine.handleMsg runtime env sock epollFd = some (next, actions)) :
    Handled runtime engine env sock epollFd next actions := by
  unfold handleMsg at done
  cases accepted : engine.received runtime env with
  | none =>
    rw [accepted] at done
    cases done
    exact .ignored (by simp [calls, accepted])
  | some object =>
    rw [accepted] at done
    dsimp only at done
    by_cases getNode : object.ebcMsg.type = MsgType.GET_NODE.toInt32
    · rw [if_pos getNode, handleGetNode] at done
      by_cases server : engine.isServer = true
      · rw [if_pos server] at done
        obtain ⟨outcome, told, done⟩ := Option.bind_eq_some_iff.mp done
        cases outcome with
        | none =>
          cases done
          exact .ignored (by simp [calls, accepted, getNode, server, told])
        | some step =>
          obtain ⟨told, nodes, sends⟩ := step
          obtain ⟨answer, answered, same⟩ := Option.map_eq_some_iff.mp done
          cases same
          obtain ⟨first, punch, indexed, packed, sendable, rfl, rfl, rfl⟩ :=
            tellClients_eq_some ‹_›
          exact .registered accepted getNode server indexed packed sendable
            (by simp [calls, accepted, getNode, server, ‹tellClients _ _ _ _ _ = _›, indexed]) answered
      · rw [if_neg server] at done
        obtain ⟨answer, answered, same⟩ := Option.map_eq_some_iff.mp done
        cases same
        have client : engine.isServer = false := by simpa using server
        exact .answered accepted getNode client (by simp [calls, accepted, getNode, client]) answered
    · rw [if_neg getNode] at done
      by_cases rep : object.ebcMsg.type = MsgType.REP.toInt32
      · rw [if_pos rep, handleRep] at done
        by_cases node : object.ebcMsg.subType = MsgSubType.NODE.toInt32
        · rw [if_pos node] at done
          have same := Option.some.inj done
          obtain rfl : _ = next := congrArg Prod.fst same
          obtain rfl : _ = actions := congrArg Prod.snd same
          exact .introduced accepted rep node (by simp [calls, accepted, rep, node])
        · rw [if_neg node] at done
          cases done
          exact .ignored (by simp [calls, accepted, rep, node])
      · rw [if_neg rep] at done
        by_cases punch : object.ebcMsg.type = MsgType.PUNCH.toInt32
        · rw [if_pos punch] at done
          obtain ⟨first, indexed, same⟩ := Option.map_eq_some_iff.mp done
          obtain rfl : _ = next := congrArg Prod.fst same
          obtain rfl : _ = actions := congrArg Prod.snd same
          have one : object.ebcMsg.nodes.ebcNodes.take 1 = [first] := by
            cases nodes : object.ebcMsg.nodes.ebcNodes with
            | nil => simp [nodes] at indexed
            | cons head tail => simpa [nodes] using indexed
          exact .punched accepted punch indexed (by simp [calls, accepted, punch, one])
        · rw [if_neg punch] at done
          cases done
          exact .ignored (by simp [calls, accepted, getNode, rep, punch])

end Cases

/-! ### A message as its registry calls -/

section Effects
variable {runtime : Runtime} {engine next : NetEngine} {env : Env} {sock : UDTSOCKET}
variable {epollFd : Int} {actions : List Action}

theorem startPunch_sock (outcome : PunchOutcome) (epollFd other : Int) (ip otherIp : UInt32)
    (port otherPort : UInt16) :
    (startPunch outcome epollFd ip port).1 = (startPunch outcome other otherIp otherPort).1 := by
  cases outcome <;> rfl

/-- What an introduction does to the outside does not depend on its outcome. -/
theorem introduce_actions (env : Env) (epollFd : Int) (engine : NetEngine) (turn : Nat)
    (node : EbcNode) :
    (introduce env epollFd engine turn node).2 =
      (startPunch (env.punch turn) epollFd node.ip (parPort node.portNat).toUInt16).2 := by
  unfold introduce
  dsimp only
  split <;> rfl

theorem introduce_calls (env : Env) (epollFd : Int) (engine : NetEngine) (turn : Nat)
    (node : EbcNode) :
    (introduce env epollFd engine turn node).1 = (introductions env turn [node]).foldl call engine := by
  have sock := startPunch_sock (env.punch turn) epollFd 0 node.ip node.ip
    (parPort node.portNat).toUInt16 0
  unfold introduce introductions
  dsimp only
  rw [sock]
  split <;> rfl

theorem introduceAll_calls (env : Env) (epollFd : Int) (engine : NetEngine) (turn : Nat)
    (nodes : List EbcNode) :
    (introduceAll env epollFd engine turn nodes).1 = (introductions env turn nodes).foldl call engine := by
  induction nodes generalizing engine turn with
  | nil => rfl
  | cons node nodes ih =>
    have first := introduce_calls env epollFd engine turn node
    have split : introductions env turn (node :: nodes) =
        introductions env turn [node] ++ introductions env (turn + 1) nodes := by
      simp [introductions]
    rw [split, List.foldl_append, ← first, ← ih]
    rfl

theorem startPunch_valid {outcome : PunchOutcome} {epollFd : Int} {ip : UInt32} {port : UInt16}
    {sock : UDTSOCKET} (valid : sock ≠ INVALID_SOCK) :
    (startPunch outcome epollFd ip port).1 = sock ↔ outcome = .connects sock := by
  cases outcome with
  | connects made => simp [startPunch]
  | _ => simp [startPunch, Ne.symm valid]

/-- A call for a node whose `startPunch` returned a socket. -/
theorem mem_introductions_iff {env : Env} {turn : Nat} {nodes : List EbcNode} {made : Call} :
    made ∈ introductions env turn nodes ↔
      ∃ place node sock, nodes[place]? = some node ∧ env.punch (turn + place) = .connects sock ∧
        sock ≠ INVALID_SOCK ∧ made = .addPeer env.memory node.id node.ip node.portNat sock := by
  induction nodes generalizing turn with
  | nil => simp [introductions]
  | cons node nodes ih =>
    have now : made ∈ (if (startPunch (env.punch turn) 0 node.ip 0).1 = INVALID_SOCK then []
        else [.addPeer env.memory node.id node.ip node.portNat
          (startPunch (env.punch turn) 0 node.ip 0).1]) ↔
        ∃ sock, env.punch turn = .connects sock ∧ sock ≠ INVALID_SOCK ∧
          made = .addPeer env.memory node.id node.ip node.portNat sock := by
      constructor
      · intro member
        split at member
        · simp at member
        · exact ⟨_, (startPunch_valid ‹_›).mp rfl, ‹_›, List.mem_singleton.mp member⟩
      · rintro ⟨sock, connects, valid, rfl⟩
        rw [(startPunch_valid valid).mpr connects, if_neg valid]
        exact List.mem_singleton_self _
    rw [introductions, List.mem_append, now, ih]
    constructor
    · rintro (⟨sock, first⟩ | ⟨place, other, sock, listed, connects, later⟩)
      · exact ⟨0, node, sock, rfl, first⟩
      · exact ⟨place + 1, other, sock, listed, by rw [← connects]; congr 1; omega, later⟩
    · rintro ⟨place, other, sock, listed, connects, later⟩
      cases place with
      | zero =>
        cases listed
        exact Or.inl ⟨sock, connects, later⟩
      | succ place =>
        exact Or.inr ⟨place, other, sock, listed, by rw [← connects]; congr 1; omega, later⟩

theorem mem_introductions {env : Env} {turn : Nat} {nodes : List EbcNode} {made : Call}
    (member : made ∈ introductions env turn nodes) :
    ∃ node ∈ nodes, ∃ sock, made = .addPeer env.memory node.id node.ip node.portNat sock := by
  obtain ⟨place, node, sock, listed, _, _, same⟩ := mem_introductions_iff.mp member
  exact ⟨node, List.mem_of_getElem? listed, sock, same⟩

/-- A call registers the sender of an accepted `GET_NODE` at a server, or stores a node of
an accepted introduction. -/
theorem mem_calls {made : Call} (member : made ∈ engine.calls runtime env sock) :
    ∃ object, engine.received runtime env = some object ∧
      ((object.ebcMsg.type = MsgType.GET_NODE.toInt32 ∧
          ∃ first, object.ebcMsg.nodes.ebcNodes[0]? = some first ∧
            made = .addClient env.memory object.ebcMsg.srcId env.peerName (parNat first.portNat)
              sock) ∨
        (object.ebcMsg.type ≠ MsgType.GET_NODE.toInt32 ∧
          ∃ node ∈ object.ebcMsg.nodes.ebcNodes, ∃ place,
            made = .addPeer env.memory node.id node.ip node.portNat place)) := by
  unfold calls at member
  cases accepted : engine.received runtime env with
  | none => simp [accepted] at member
  | some object =>
    refine ⟨object, rfl, ?_⟩
    rw [accepted] at member
    dsimp only at member
    split at member
    · split at member
      · exact Or.inl ⟨‹_›, _, ‹_›, List.mem_singleton.mp member⟩
      · simp at member
    · refine Or.inr ⟨‹_›, ?_⟩
      split at member
      · split at member
        · exact mem_introductions member
        · simp at member
      · split at member
        · obtain ⟨node, listed, introduced⟩ := mem_introductions member
          exact ⟨node, List.mem_of_mem_take listed, introduced⟩
        · simp at member

/-- Only the sender of an accepted `GET_NODE` is registered as a client. -/
theorem calls_addClient {memory : Memory} {str : Bytes} {addr : SockAddrIn} {nat : NatType}
    {place : UDTSOCKET}
    (member : .addClient memory str addr nat place ∈ engine.calls runtime env sock) :
    ∃ object first, engine.received runtime env = some object ∧
      object.ebcMsg.type = MsgType.GET_NODE.toInt32 ∧
      object.ebcMsg.nodes.ebcNodes[0]? = some first ∧ memory = env.memory ∧
      str = object.ebcMsg.srcId ∧ addr = env.peerName ∧ nat = parNat first.portNat ∧ place = sock := by
  obtain ⟨object, accepted, ⟨type, first, indexed, same⟩ | ⟨_, _, _, _, same⟩⟩ := mem_calls member
  · cases same
    exact ⟨object, first, accepted, type, indexed, rfl, rfl, rfl, rfl, rfl⟩
  · cases same

/-- A message changes the engine by its registry calls. -/
theorem handleMsg_calls
    (done : engine.handleMsg runtime env sock epollFd = some (next, actions)) :
    next = (engine.calls runtime env sock).foldl call engine := by
  cases handleMsg_handled done with
  | ignored nothing => rw [nothing]; rfl
  | registered _ _ _ _ _ _ told _ => rw [told]; rfl
  | answered _ _ _ told _ => rw [told]; rfl
  | introduced _ _ _ told => rw [told, introduceAll_calls]
  | punched _ _ _ told => rw [told, introduce_calls]

end Effects

/-! ### Runs -/

/-- What happens to an engine: a message arrives, or a loop finds a socket broken. -/
inductive Event where
  | message (env : Env) (sock : UDTSOCKET) (epollFd : Int)
  | clientLost (sock : UDTSOCKET)
  | peerLost (sock : UDTSOCKET)

/-- What a step does to the outside, and the registry calls it makes. -/
structure Effect where
  actions : List Action
  calls : List Call

def step (runtime : Runtime) : Machine.Step NetEngine Event Effect
  | engine, .message env sock epollFd =>
    (engine.handleMsg runtime env sock epollFd).map fun (next, actions) =>
      (next, { actions, calls := engine.calls runtime env sock })
  | engine, .clientLost sock =>
    some (engine.delClientNode sock, { actions := [.close sock], calls := [.delClient sock] })
  | engine, .peerLost sock =>
    some (engine.delPeerNode sock, { actions := [.close sock], calls := [.delPeer sock] })

/-- A message that is handled, with the registry calls that it makes. -/
theorem step_message {runtime : Runtime} {engine next : NetEngine} {env : Env} {sock : UDTSOCKET}
    {epollFd : Int} {effect : Effect}
    (taken : step runtime engine (.message env sock epollFd) = some (next, effect)) :
    ∃ actions, engine.handleMsg runtime env sock epollFd = some (next, actions) ∧
      effect = { actions, calls := engine.calls runtime env sock } := by
  obtain ⟨⟨reached, actions⟩, done, same⟩ := Option.map_eq_some_iff.mp taken
  cases same
  exact ⟨actions, done, rfl⟩

theorem step_calls {runtime : Runtime} {engine next : NetEngine} {event : Event} {effect : Effect}
    (taken : step runtime engine event = some (next, effect)) :
    next = effect.calls.foldl call engine := by
  cases event with
  | message env sock epollFd =>
    obtain ⟨actions, done, rfl⟩ := step_message taken
    exact handleMsg_calls done
  | clientLost sock =>
    cases taken
    rfl
  | peerLost sock =>
    cases taken
    rfl

/-- Only the arrival of a `GET_NODE` registers a client. -/
theorem step_addClient {runtime : Runtime} {engine next : NetEngine} {event : Event}
    {effect : Effect} {memory : Memory} {str : Bytes} {addr : SockAddrIn} {nat : NatType}
    {sock : UDTSOCKET} (taken : step runtime engine event = some (next, effect))
    (member : .addClient memory str addr nat sock ∈ effect.calls) :
    ∃ env epollFd object first, event = .message env sock epollFd ∧
      engine.received runtime env = some object ∧
      object.ebcMsg.type = MsgType.GET_NODE.toInt32 ∧
      object.ebcMsg.nodes.ebcNodes[0]? = some first ∧ memory = env.memory ∧
      str = object.ebcMsg.srcId ∧ addr = env.peerName ∧ nat = parNat first.portNat := by
  cases event with
  | message env place epollFd =>
    obtain ⟨actions, done, rfl⟩ := step_message taken
    obtain ⟨object, first, accepted, type, indexed, rfl, rfl, rfl, rfl, rfl⟩ :=
      calls_addClient member
    exact ⟨env, epollFd, object, first, rfl, accepted, type, indexed, rfl, rfl, rfl, rfl⟩
  | clientLost lost =>
    cases taken
    simp at member
  | peerLost lost =>
    cases taken
    simp at member

/-- What every registry call preserves, a step preserves. -/
theorem step_preserves {runtime : Runtime} {Holds : NetEngine → Prop}
    (keeps : ∀ {state}, Holds state → ∀ made, Holds (state.call made)) {engine next : NetEngine}
    {event : Event} {effect : Effect} (holds : Holds engine)
    (taken : step runtime engine event = some (next, effect)) : Holds next := by
  rw [step_calls taken]
  clear taken
  induction effect.calls generalizing engine with
  | nil => exact holds
  | cons made calls ih => exact ih (keeps holds made)

/-- What every registry call preserves holds in every state of a run. -/
theorem run_preserves {runtime : Runtime} {Holds : NetEngine → Prop}
    (keeps : ∀ {state}, Holds state → ∀ made, Holds (state.call made)) {start state : NetEngine}
    {trace : List (Event × Effect)} (holds : Holds start)
    (run : Machine.Run (step runtime) start trace state) : Holds state := by
  induction run with
  | start => exact holds
  | step _ taken ih => exact step_preserves keeps ih taken

/-- The states of a run, those between the calls of one step included. -/
def Visits (runtime : Runtime) (start : NetEngine) (trace : List (Event × Effect))
    (visited : NetEngine) : Prop :=
  ∃ past event effect future state made, trace = past ++ (event, effect) :: future ∧
    Machine.Run (step runtime) start past state ∧ made <+: effect.calls ∧
    visited = made.foldl call state

/-- Every call of a step meets the condition in the state it is made in. -/
def CallsMeet (runtime : Runtime) (condition : NetEngine → Call → Prop) (state : NetEngine)
    (event : Event) : Prop :=
  ∀ next effect made call, step runtime state event = some (next, effect) →
    made ++ [call] <+: effect.calls → condition (made.foldl NetEngine.call state) call

private theorem holds_of_calls {Holds : NetEngine → Prop} {condition : NetEngine → Call → Prop}
    (keeps : ∀ {state}, Holds state → ∀ made, condition state made → Holds (state.call made))
    {state : NetEngine} {calls : List Call} (holds : Holds state)
    (meets : ∀ made next, made ++ [next] <+: calls → condition (made.foldl call state) next)
    (made : List Call) (part : made <+: calls) : Holds (made.foldl call state) := by
  induction made using List.reverseRecOn with
  | nil => exact holds
  | append_singleton made next ih =>
    rw [List.foldl_append]
    exact keeps (ih ((List.prefix_append made [next]).trans part)) next (meets made next part)

/-- Where a condition on a call says just when it preserves a property, the property
holds in all states of a run just when all calls meet the condition. -/
theorem visits_iff_stepsMeet {runtime : Runtime} {start state : NetEngine}
    {trace : List (Event × Effect)} {Holds : NetEngine → Prop}
    {condition : NetEngine → Call → Prop} (initial : Holds start)
    (exact : ∀ {state}, Holds state → ∀ made, Holds (state.call made) ↔ condition state made)
    (run : Machine.Run (step runtime) start trace state) :
    (∀ visited, Visits runtime start trace visited → Holds visited) ↔
      Machine.StepsMeet (step runtime) (CallsMeet runtime condition) start trace := by
  constructor
  · intro holds past event effect future split before reached next taken made extra done part
    subst split
    obtain ⟨again, after, reachedAgain, doneAgain, _⟩ := run.at
    rw [reachedAgain.unique reached, done] at doneAgain
    obtain rfl : taken = effect := (Prod.mk.inj (Option.some.inj doneAgain)).2
    have earlier := (List.prefix_append made [extra]).trans part
    have whole := holds _ ⟨past, event, _, future, before, made ++ [extra], rfl, reached, part, rfl⟩
    rw [List.foldl_append] at whole
    exact (exact (holds _ ⟨past, event, _, future, before, made, rfl, reached, earlier, rfl⟩) _).mp whole
  · intro meets visited ⟨past, event, effect, future, before, made, split, reached, part, same⟩
    have keeps : ∀ {state}, Holds state → ∀ made, condition state made → Holds (state.call made) :=
      fun holds made => (exact holds made).mpr
    subst split same
    have holds : Holds before := by
      refine Machine.Run.guarded initial ?_ (StepsMeet.past meets) reached
      intro state event next effect holds guard taken
      rw [step_calls taken]
      exact holds_of_calls keeps holds (fun made next part => guard _ _ made next taken part) _
        (List.prefix_refl _)
    obtain ⟨again, after, reachedAgain, taken, _⟩ := run.at
    rw [reachedAgain.unique reached] at taken
    have guard := meets past event effect future rfl before reached
    exact holds_of_calls keeps holds (fun made next part => guard _ _ made next taken part) made part

end NetEngine

end EbcNet
