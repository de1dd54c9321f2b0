import EbcNet.MsgPack
import EbcNet.Wire.Reference

/-! An object that is packed and unpacked again and again: its length field keeps
agreeing with its body, so whatever it packs next is accepted by the receiver. -/

namespace EbcNet

open Wire

/-! ### The declared fields of a message -/

def Wire.EbcNode.declared (node : EbcNode) : EbcNode := { node with unknown := [] }

def Wire.EbcNodes.declared (nodes : EbcNodes) : EbcNodes where
  ebcNodes := nodes.ebcNodes.map EbcNode.declared

def Wire.Body.declared : Body → Body
  | .notSet => .notSet
  | .msg content => .msg content
  | .nodes content => .nodes content.declared

def Wire.EbcMsg.declared (msg : EbcMsg) : EbcMsg :=
  { msg with body := msg.body.declared, unknown := [] }

theorem Wire.EbcMsg.declared_observable (runtime : Runtime) (msg : EbcMsg) :
    (msg.observable runtime).declared = msg.declared := by
  unfold declared observable
  cases msg.body with
  | notSet => rfl
  | msg content => rfl
  | nodes content =>
    simp [Body.observable, Body.declared, EbcNodes.observable, EbcNodes.declared,
      EbcNode.observable, EbcNode.declared]

namespace MsgPack
variable (runtime : Runtime)

/-- The objects that a program can hold: new ones, and those left by `pack` and by
an `unpack` that returned 0. -/
inductive Reachable : MsgPack → Prop where
  | new (selfId : NodeId) : Reachable { selfId }
  | pack {object : MsgPack} {type : MsgType} {payload : Payload} {buf : Option Bytes} {size : Int32}
      {subType : MsgSubType} {dstId : NodeId} {packed : Packed} (before : Reachable object)
      (valid : payload.Valid runtime)
      (done : object.pack runtime type payload buf size subType dstId = some packed) :
      Reachable packed.object
  | unpack {object next : MsgPack} {buf : Bytes} (before : Reachable object)
      (done : object.unpack runtime buf = some next) : Reachable next

variable {runtime} {object receiver : MsgPack} {type : MsgType} {payload : Payload} {buf : Bytes}
variable {size : Int32} {subType : MsgSubType} {dstId : NodeId} {packed : Packed}

theorem Reachable.sound (reached : Reachable runtime object) : object.ebcMsg.Sound runtime := by
  induction reached with
  | new selfId => exact ⟨rfl, .empty⟩
  | pack before valid done ih => exact (assemble_spec (pack_eq done).1).2 valid ih
  | unpack before done ih =>
    obtain ⟨parsed, _, _, _, length⟩ := unpack_eq_some.mp done
    exact ⟨by rw [← length, UInt32.ofNat_toNat], EbcMsg.parse_valid parsed⟩

/-- Whatever such an object packs, any other accepts with all its declared fields. -/
theorem unpack_pack_of_reachable (reached : Reachable runtime object) (valid : payload.Valid runtime)
    (typed : type ≠ .EMPTY)
    (done : object.pack runtime type payload (some buf) size subType dstId = some packed)
    (fits : packed.object.ebcMsg.byteSizeLong runtime ≤ size.toInt) :
    ∃ received, receiver.unpack runtime packed.sent = some received ∧
      received.ebcMsg.declared = packed.object.ebcMsg.declared := by
  obtain ⟨headed, keeps⟩ := assemble_spec (pack_eq done).1
  have sound := keeps valid reached.sound
  have small : packed.object.ebcMsg.byteSizeLong runtime ≤ intMax := by
    have bounded := size.toInt_lt
    unfold intMax
    omega
  have named : packed.object.ebcMsg.type ≠ MsgType.EMPTY.toInt32 := by
    simpa [headed.type] using typed
  rw [sent_eq done fits, unpack_serialize sound headed.head named small]
  exact ⟨_, rfl, EbcMsg.declared_observable runtime _⟩

/-- An object that announced a node before, and now answers with an empty list. -/
theorem unpack_pack_of_reachable_reply :
    ∃ first packed, pack Reference.runtime { selfId := .zero } .GET_NODE (.node { portNat := 7 })
        (some []) 64 .EMPTY_SUB .zero = some first ∧
      first.object.pack Reference.runtime .REP (.nodes {}) (some []) 64 .NODE .zero = some packed ∧
      ∃ received, unpack Reference.runtime { selfId := .zero } packed.sent = some received ∧
        received.ebcMsg.declared = packed.object.ebcMsg.declared := by
  have node : (Payload.node { portNat := 7 }).Valid Reference.runtime := Loop.Replays.nil
  have nodes : (Payload.nodes {}).Valid Reference.runtime := EbcNodes.Valid.empty
  refine ⟨_, _, rfl, rfl, ?_⟩
  exact @unpack_pack_of_reachable Reference.runtime _ _ .REP (.nodes {}) [] 64 .NODE .zero _
    (@Reachable.pack Reference.runtime _ .GET_NODE (.node { portNat := 7 }) (some []) 64 .EMPTY_SUB
      .zero _ (.new .zero) node rfl) nodes (by decide) rfl (by decide)

end MsgPack

end EbcNet
