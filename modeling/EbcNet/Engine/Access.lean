import EbcNet.Engine
import EbcNet.Wire.Reference

/-! Where the handler of a message indexes a list that is empty. -/

namespace EbcNet

open Wire

namespace NetEngine
variable (runtime : Runtime)

/-- The handlers that take the first node of a list without looking whether there
is one, on a message that has none. -/
def IndexesEmptyList (engine : NetEngine) (msg : EbcMsg) : Prop :=
  (msg.type = MsgType.GET_NODE.toInt32 ∧ engine.isServer ∨ msg.type = MsgType.PUNCH.toInt32) ∧
    msg.nodes.ebcNodes = []

variable {runtime} {engine : NetEngine} {env : Env} {sock : UDTSOCKET} {object : MsgPack}

theorem reply_isSome (nodes : EbcNodes) : (reply runtime object sock nodes).isSome = true := rfl

theorem tellClients_isSome {msg : EbcMsg} :
    (engine.tellClients runtime env sock msg).isSome = true ↔ msg.nodes.ebcNodes ≠ [] := by
  unfold tellClients
  cases msg.nodes.ebcNodes with
  | nil => simp
  | cons first others => simp [MsgPack.pack, MsgPack.assemble]

theorem handleGetNode_isSome :
    (engine.handleGetNode runtime env sock object).isSome = true ↔
      (engine.isServer → object.ebcMsg.nodes.ebcNodes ≠ []) := by
  unfold handleGetNode
  by_cases server : engine.isServer = true
  · rw [if_pos server, ← tellClients_isSome]
    cases told : engine.tellClients runtime env sock object.ebcMsg with
    | none => simp [server]
    | some outcome =>
      cases outcome with
      | none => simp
      | some step =>
        obtain ⟨next, nodes, sends⟩ := step
        simp [reply_isSome]
  · rw [if_neg server]
    simp [server, reply_isSome]

theorem handleMsg_eq_handleGetNode (accepted : engine.received runtime env = some object)
    (type : object.ebcMsg.type = MsgType.GET_NODE.toInt32) (epollFd : Int) :
    engine.handleMsg runtime env sock epollFd = engine.handleGetNode runtime env sock object := by
  unfold handleMsg
  rw [accepted]
  dsimp only
  rw [if_pos type]

/-- The handler indexes within bounds just when no accepted message makes it take
the first node of an empty list. -/
theorem handleMsg_isSome_iff (runtime : Runtime) (engine : NetEngine) (env : Env)
    (sock : UDTSOCKET) (epollFd : Int) :
    (engine.handleMsg runtime env sock epollFd).isSome = true ↔
      ∀ object, engine.received runtime env = some object →
        ¬ engine.IndexesEmptyList object.ebcMsg := by
  unfold handleMsg
  cases accepted : engine.received runtime env with
  | none => simp
  | some object =>
    simp only [Option.some.injEq, forall_eq', IndexesEmptyList]
    by_cases getNode : object.ebcMsg.type = MsgType.GET_NODE.toInt32
    · rw [if_pos getNode, handleGetNode_isSome, getNode]
      simp
    · rw [if_neg getNode]
      by_cases rep : object.ebcMsg.type = MsgType.REP.toInt32
      · rw [if_pos rep, rep]
        simp
      · rw [if_neg rep]
        by_cases punch : object.ebcMsg.type = MsgType.PUNCH.toInt32
        · rw [if_pos punch]
          cases nodes : object.ebcMsg.nodes.ebcNodes with
          | nil => simp [handlePunch, nodes, punch]
          | cons first others => simp [handlePunch, nodes]
        · rw [if_neg punch]
          simp [getNode, punch]

/-- Six bytes, a head and a type, make a server index an empty list. -/
theorem handleMsg_isSome_counterexample :
    ¬ ∀ (engine : NetEngine) (env : Env) (sock : UDTSOCKET) (epollFd : Int) (object : MsgPack),
      engine.received Reference.runtime env = some object →
        (engine.handleMsg Reference.runtime env sock epollFd).isSome = true := by
  intro holds
  have reached := holds
    { self := Node.new ⟨fun _ => .zero, ⟨0, 0⟩, 0⟩, isServer := true }
    { recv := some [0x08, 0xFA, 0xEB, 0x03, 0x38, 0x01], peerName := ⟨0, 0⟩,
      punch := fun _ => .socketFails, memory := ⟨fun _ => .zero, ⟨0, 0⟩, 0⟩ } 1 0
    { selfId := .zero, ebcMsg := { head := msgHead, type := 1 } } (by decide)
  revert reached
  decide

end NetEngine

end EbcNet
