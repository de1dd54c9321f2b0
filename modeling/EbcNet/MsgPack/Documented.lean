import EbcNet.MsgPack.Truncated
import EbcNet.Wire.Recognized

/-! What `msg.proto` asks of a message, and what `unpack` asks: all but the version. -/

namespace EbcNet

open Wire

/-- The length of a body: of a text its bytes, and of nodes those that they are written as. -/
def Wire.Body.length (runtime : Runtime) : Body → Nat
  | .notSet => 0
  | .msg content => content.length
  | .nodes content => (content.serializeWithCachedSizes runtime).length

theorem Wire.EbcMsg.body_length (runtime : Runtime) (msg : EbcMsg) :
    msg.body.length runtime = msg.bodyLength runtime := by
  unfold bodyLength hasNodes nodes EbcMsg.msg
  cases msg.body with
  | notSet => rfl
  | msg content => rfl
  | nodes content => exact content.serialize_length runtime

namespace MsgPack
variable (runtime : Runtime)

/-- A message as it is documented. Its head and its version have to be checked, and its
type has to be given. -/
structure Documented (msg : EbcMsg) : Prop where
  head : msg.head = msgHead
  version : msg.version = NET_VERSION
  type : msg.type ≠ MsgType.EMPTY.toInt32
  length : msg.length.toNat = msg.body.length runtime

/-- Bytes of a message with another version, or without one, that is right in the rest. -/
def OtherVersion (bytes : Bytes) : Prop :=
  ∃ fields, EbcMsg.Spells runtime bytes fields ∧
    (EbcMsg.ofFields fields).head = msgHead ∧
    (EbcMsg.ofFields fields).type ≠ MsgType.EMPTY.toInt32 ∧
    (EbcMsg.ofFields fields).length.toNat = (EbcMsg.ofFields fields).body.length runtime ∧
    (EbcMsg.ofFields fields).version ≠ NET_VERSION

variable {runtime} {receiver : MsgPack} {bytes : Bytes}

/-- A message is documented when it is checked and has the version, which nothing compares. -/
theorem documented_iff {msg : EbcMsg} :
    Documented runtime msg ↔ Checked runtime msg ∧ msg.version = NET_VERSION := by
  have length := msg.body_length runtime
  constructor
  · intro documented
    exact ⟨⟨documented.head, documented.type, documented.length.trans length⟩, documented.version⟩
  · rintro ⟨checked, version⟩
    exact ⟨checked.head, version, checked.type, checked.length.trans length.symm⟩

/-- A message of another version is checked like any other. -/
theorem otherVersion_iff :
    OtherVersion runtime bytes ↔
      ∃ fields, EbcMsg.Spells runtime bytes fields ∧ Checked runtime (.ofFields fields) ∧
        (EbcMsg.ofFields fields).version ≠ NET_VERSION := by
  constructor
  · rintro ⟨fields, spelled, head, type, length, version⟩
    exact ⟨fields, spelled, ⟨head, type, length.trans (EbcMsg.body_length runtime _)⟩, version⟩
  · rintro ⟨fields, spelled, checked, version⟩
    have length := checked.length.trans (EbcMsg.body_length runtime _).symm
    exact ⟨fields, spelled, checked.head, checked.type, length, version⟩

/-- `unpack` takes the bytes that spell a message it has checked. -/
theorem unpack_isSome_iff :
    (receiver.unpack runtime bytes).isSome = true ↔
      ∃ fields, EbcMsg.Spells runtime bytes fields ∧ Checked runtime (.ofFields fields) := by
  rw [Option.isSome_iff_exists]
  constructor
  · rintro ⟨next, accepted⟩
    obtain ⟨parsed, _, head, type, length⟩ := unpack_eq_some.mp accepted
    obtain ⟨fields, spelled, same⟩ := (EbcMsg.parse_iff runtime).mp parsed
    rw [same] at head type length
    exact ⟨fields, spelled, head, type, length⟩
  · rintro ⟨fields, spelled, checked⟩
    have parsed := (EbcMsg.parse_iff runtime).mpr ⟨fields, spelled, rfl⟩
    exact ⟨{ receiver with ebcMsg := .ofFields fields }, unpack_eq_some.mpr
      ⟨parsed, rfl, checked.head, checked.type, checked.length⟩⟩

/-- Bytes spell one message. -/
theorem ofFields_unique {fields others : List EbcMsg.Field}
    (spelled : EbcMsg.Spells runtime bytes fields) (again : EbcMsg.Spells runtime bytes others) :
    EbcMsg.ofFields fields = .ofFields others := by
  have first := (EbcMsg.parse_iff runtime).mpr ⟨fields, spelled, rfl⟩
  have second := (EbcMsg.parse_iff runtime).mpr ⟨others, again, rfl⟩
  exact Option.some.inj (first.symm.trans second)

/-- What `pack` writes is documented, so bytes of another version come from elsewhere. -/
theorem pack_documented {object : MsgPack} {type : MsgType} {payload : Payload} {buf : Option Bytes}
    {size : Int32} {subType : MsgSubType} {dstId : NodeId} {packed : Packed}
    (done : object.pack runtime type payload buf size subType dstId = some packed)
    (sound : object.ebcMsg.Sound runtime) (valid : payload.Valid runtime) (typed : type ≠ .EMPTY)
    (fits : packed.object.ebcMsg.byteSizeLong runtime ≤ intMax) :
    ∃ fields, EbcMsg.Spells runtime (packed.object.ebcMsg.serializeWithCachedSizes runtime) fields ∧
      Documented runtime (.ofFields fields) := by
  obtain ⟨headed, keeps⟩ := assemble_spec (pack_eq done).1
  have named : packed.object.ebcMsg.type ≠ MsgType.EMPTY.toInt32 := by
    rw [headed.type]
    exact fun empty => typed (MsgType.toInt32_inj.mp empty)
  have accepted : object.unpack runtime (packed.object.ebcMsg.serializeWithCachedSizes runtime) =
      some { object with ebcMsg := packed.object.ebcMsg.observable runtime } :=
    unpack_serialize (keeps valid sound) headed.head named fits
  obtain ⟨parsed, _, head, type, length⟩ := unpack_eq_some.mp accepted
  obtain ⟨fields, spelled, same⟩ := (EbcMsg.parse_iff runtime).mp parsed
  refine ⟨fields, spelled, ?_⟩
  rw [← same]
  exact documented_iff.mpr ⟨⟨head, type, length⟩, headed.version⟩

/-- `unpack` accepts just the documented messages, unless it is given one of another
version. -/
theorem accepts_documented_iff (runtime : Runtime) (receiver : MsgPack) (bytes : Bytes) :
    ((receiver.unpack runtime bytes).isSome = true ↔
      ∃ fields, EbcMsg.Spells runtime bytes fields ∧ Documented runtime (.ofFields fields)) ↔
        ¬ OtherVersion runtime bytes := by
  rw [otherVersion_iff]
  constructor
  · rintro documentedOnly ⟨fields, spelled, checked, version⟩
    have accepted : (receiver.unpack runtime bytes).isSome = true :=
      unpack_isSome_iff.mpr ⟨fields, spelled, checked⟩
    obtain ⟨others, again, documented⟩ := documentedOnly.mp accepted
    rw [ofFields_unique spelled again] at version
    exact version documented.version
  · intro same
    constructor
    · intro accepted
      obtain ⟨fields, spelled, checked⟩ := unpack_isSome_iff.mp accepted
      refine ⟨fields, spelled, documented_iff.mpr ⟨checked, ?_⟩⟩
      by_contra other
      exact same ⟨fields, spelled, checked, other⟩
    · rintro ⟨fields, spelled, documented⟩
      exact unpack_isSome_iff.mpr ⟨fields, spelled, (documented_iff.mp documented).1⟩

/-- A question for nodes from a peer of the version after `NET_VERSION`. -/
theorem accepts_documented_counterexample :
    ∃ bytes, (MsgPack.unpack Reference.runtime { selfId := .zero } bytes).isSome = true ∧
      ¬ ∃ fields, EbcMsg.Spells Reference.runtime bytes fields ∧
        Documented Reference.runtime (.ofFields fields) := by
  refine ⟨[8, 0xFA, 0xEB, 3, 18, 6, 86, 48, 46, 48, 46, 49, 56, 1], by decide, ?_⟩
  rintro ⟨fields, spelled, documented⟩
  have parsed := (EbcMsg.parse_iff Reference.runtime).mpr ⟨fields, spelled, rfl⟩
  have version : (EbcMsg.parseFromArray Reference.runtime
      [8, 0xFA, 0xEB, 3, 18, 6, 86, 48, 46, 48, 46, 49, 56, 1]).map EbcMsg.version ≠
        some NET_VERSION := by decide
  rw [parsed] at version
  exact version (congrArg some documented.version)

end MsgPack

end EbcNet
