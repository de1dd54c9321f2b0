import EbcNet.Engine.Sends

/-! The nodes that a message makes the handler punch towards, and the sockets that come
of it. -/

namespace EbcNet

open Wire

/-- The socket that `UDT::socket` made, if it made one. -/
def PunchOutcome.made : PunchOutcome → Option UDTSOCKET
  | .socketFails => none
  | .bindFails sock => some sock
  | .connectFails sock => some sock
  | .connects sock => some sock

/-- The socket of an action that `startPunch` does with it. -/
def Action.handled : Action → Option UDTSOCKET
  | .send _ _ => none
  | .startPunch _ _ => none
  | .connect sock _ => some sock
  | .close sock => some sock
  | .epollAdd _ sock => some sock

namespace NetEngine

/-- The nodes of an accepted message that `startPunch` is called for, one turn each. -/
def punchTargets (runtime : Runtime) (engine : NetEngine) (env : Env) : List EbcNode :=
  match engine.received runtime env with
  | none => []
  | some object =>
    if object.ebcMsg.type = MsgType.REP.toInt32 then
      if object.ebcMsg.subType = MsgSubType.NODE.toInt32 then object.ebcMsg.nodes.ebcNodes else []
    else if object.ebcMsg.type = MsgType.PUNCH.toInt32 then object.ebcMsg.nodes.ebcNodes.take 1
    else []

section Message
variable {runtime : Runtime} {engine next : NetEngine} {env : Env} {sock : UDTSOCKET}
variable {epollFd : Int} {actions : List Action} {object : MsgPack}

theorem introduceAll_single (turn : Nat) (node : EbcNode) :
    introduceAll env epollFd engine turn [node] = introduce env epollFd engine turn node := by
  simp [introduceAll]

theorem punchTargets_getNode (accepted : engine.received runtime env = some object)
    (type : object.ebcMsg.type = MsgType.GET_NODE.toInt32) :
    engine.punchTargets runtime env = [] := by
  simp [punchTargets, accepted, type]

/-- Any message but a `GET_NODE` only introduces its nodes. -/
theorem handleMsg_targets (done : engine.handleMsg runtime env sock epollFd = some (next, actions))
    (other : ∀ object, engine.received runtime env = some object →
      object.ebcMsg.type ≠ MsgType.GET_NODE.toInt32) :
    (next, actions) = introduceAll env epollFd engine 0 (engine.punchTargets runtime env) := by
  unfold handleMsg at done
  unfold punchTargets
  cases accepted : engine.received runtime env with
  | none =>
    rw [accepted] at done
    exact (Option.some.inj done).symm
  | some object =>
    rw [accepted] at done
    dsimp only at done ⊢
    rw [if_neg (other object accepted)] at done
    by_cases rep : object.ebcMsg.type = MsgType.REP.toInt32
    · rw [if_pos rep, handleRep] at done
      rw [if_pos rep]
      by_cases node : object.ebcMsg.subType = MsgSubType.NODE.toInt32
      · rw [if_pos node] at done ⊢
        exact (Option.some.inj done).symm
      · rw [if_neg node] at done ⊢
        exact (Option.some.inj done).symm
    · rw [if_neg rep] at done ⊢
      by_cases punch : object.ebcMsg.type = MsgType.PUNCH.toInt32
      · rw [if_pos punch] at done ⊢
        obtain ⟨first, indexed, same⟩ := Option.map_eq_some_iff.mp done
        have one : object.ebcMsg.nodes.ebcNodes.take 1 = [first] := by
          cases nodes : object.ebcMsg.nodes.ebcNodes with
          | nil => simp [nodes] at indexed
          | cons head tail => simpa [nodes] using indexed
        rw [one, introduceAll_single]
        exact same.symm
      · rw [if_neg punch] at done ⊢
        exact (Option.some.inj done).symm

private theorem startPunch_epollAdd {outcome : PunchOutcome} {ip : UInt32} {port : UInt16}
    {other : Int} :
    .epollAdd other sock ∈ (startPunch outcome epollFd ip port).2 ↔
      other = epollFd ∧ outcome = .connects sock := by
  cases outcome <;> simp [startPunch, eq_comm]

private theorem introduce_epollAdd {turn : Nat} {node : EbcNode} {other : Int} :
    .epollAdd other sock ∈ (introduce env epollFd engine turn node).2 ↔
      other = epollFd ∧ env.punch turn = .connects sock := by
  rw [introduce_actions]
  exact startPunch_epollAdd

/-- Every socket whose connect was started is watched in the epoll that the handler was given. -/
theorem introduceAll_epollAdd {turn : Nat} {nodes : List EbcNode} {other : Int} :
    .epollAdd other sock ∈ (introduceAll env epollFd engine turn nodes).2 ↔
      other = epollFd ∧ ∃ place < nodes.length, env.punch (turn + place) = .connects sock := by
  induction nodes generalizing engine turn with
  | nil => simp [introduceAll]
  | cons node nodes ih =>
    rw [introduceAll, List.mem_append, introduce_epollAdd, ih, List.length_cons]
    constructor
    · rintro (⟨same, connects⟩ | ⟨same, place, below, connects⟩)
      · exact ⟨same, 0, by omega, connects⟩
      · exact ⟨same, place + 1, by omega, by rw [← connects]; congr 1; omega⟩
    · rintro ⟨same, place, below, connects⟩
      cases place with
      | zero => exact Or.inl ⟨same, connects⟩
      | succ place =>
        exact Or.inr ⟨same, place, by omega, by rw [← connects]; congr 1; omega⟩

private theorem startPunch_made {outcome : PunchOutcome} {ip : UInt32} {port : UInt16}
    {action : Action} (member : action ∈ (startPunch outcome epollFd ip port).2)
    (about : action.handled = some sock) : outcome.made = some sock := by
  cases outcome <;> simp only [startPunch, List.mem_cons, List.not_mem_nil, or_false] at member
  case socketFails =>
    subst member
    cases about
  case bindFails made =>
    rcases member with rfl | rfl <;> cases about
    rfl
  case connectFails made =>
    rcases member with rfl | rfl | rfl <;> cases about <;> rfl
  case connects made =>
    rcases member with rfl | rfl | rfl <;> cases about <;> rfl

private theorem introduceAll_made {turn : Nat} {nodes : List EbcNode} {action : Action}
    (member : action ∈ (introduceAll env epollFd engine turn nodes).2)
    (about : action.handled = some sock) : ∃ turn, (env.punch turn).made = some sock := by
  induction nodes generalizing engine turn with
  | nil => simp [introduceAll] at member
  | cons node nodes ih =>
    rcases List.mem_append.mp member with now | later
    · have punched := introduce_actions env epollFd engine turn node ▸ now
      exact ⟨turn, startPunch_made punched about⟩
    · exact ih later

theorem reply_handled {nodes : EbcNodes} {answer : List Action} {action : Action}
    (answered : reply runtime object sock nodes = some answer) (member : action ∈ answer) :
    action.handled = none := by
  obtain ⟨packed, _, rfl⟩ := Option.map_eq_some_iff.mp answered
  split at member
  · simp at member
  · rw [List.mem_singleton.mp member]
    rfl

/-- A message touches no socket but those that it makes. -/
theorem handleMsg_made {place : UDTSOCKET} {action : Action}
    (done : engine.handleMsg runtime env place epollFd = some (next, actions))
    (member : action ∈ actions) (about : action.handled = some sock) :
    ∃ turn, (env.punch turn).made = some sock := by
  cases handleMsg_handled done with
  | ignored => simp at member
  | registered _ _ _ _ _ _ _ answered =>
    rcases List.mem_append.mp member with toClient | toSender
    · obtain ⟨node, _, rfl⟩ := List.mem_map.mp toClient
      cases about
    · rw [reply_handled answered toSender] at about
      cases about
  | answered _ _ _ _ answered =>
    rw [reply_handled answered member] at about
    cases about
  | introduced => exact introduceAll_made member about
  | punched =>
    rw [← introduceAll_single] at member
    exact introduceAll_made member about

private theorem introduceAll_added {turn : Nat} {nodes : List EbcNode} {other : Int}
    (added : .epollAdd other sock ∈ (introduceAll env epollFd engine turn nodes).2)
    (valid : sock ≠ INVALID_SOCK) :
    ∃ memory str ip portNat, .addPeer memory str ip portNat sock ∈ introductions env turn nodes := by
  obtain ⟨_, place, below, connects⟩ := introduceAll_epollAdd.mp added
  exact ⟨_, _, _, _, mem_introductions_iff.mpr
    ⟨place, nodes[place], sock, List.getElem?_eq_getElem below, connects, valid, rfl⟩⟩

/-- A socket that a message gets watched is one that it stores a peer for. -/
theorem handleMsg_added {place : UDTSOCKET} {other : Int}
    (done : engine.handleMsg runtime env place epollFd = some (next, actions))
    (added : .epollAdd other sock ∈ actions) (valid : sock ≠ INVALID_SOCK) :
    ∃ memory str ip portNat,
      .addPeer memory str ip portNat sock ∈ engine.calls runtime env place := by
  cases handleMsg_handled done with
  | ignored => simp at added
  | registered _ _ _ _ _ _ _ answered =>
    rcases List.mem_append.mp added with toClient | toSender
    · simp at toClient
    · cases reply_handled answered toSender
  | answered _ _ _ _ answered => cases reply_handled answered added
  | introduced _ _ _ told =>
    rw [told]
    exact introduceAll_added added valid
  | punched _ _ _ told =>
    rw [told]
    rw [← introduceAll_single] at added
    exact introduceAll_added added valid

end Message

end NetEngine

namespace Sample

/-- A `PUNCH` about a peer at an address, whose `startPunch` returns a socket. -/
def punchEnv (id : NodeId) (addr peerName : SockAddrIn) (made : UDTSOCKET) : Env where
  recv := some ((NetEngine.punchMsg Reference.runtime .zero
    { id := id.bytes, ip := addr.sinAddr, portNat := comPortNat addr.sinPort 0
      }).serializeWithCachedSizes Reference.runtime)
  peerName
  punch turn := if turn = 0 then .connects made else .socketFails
  memory := memory

theorem punchEnv_made {id : NodeId} {addr peerName : SockAddrIn} {made other : UDTSOCKET}
    {turn : Nat} (isMade : ((punchEnv id addr peerName made).punch turn).made = some other) :
    other = made ∧ turn = 0 := by
  dsimp only [punchEnv] at isMade
  split at isMade
  · cases isMade
    exact ⟨rfl, ‹_›⟩
  · cases isMade

end Sample

end EbcNet
