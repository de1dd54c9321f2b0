import EbcNet.MsgPack.Leftovers
import Mathlib.Data.List.Infix
import Mathlib.Tactic.IntervalCases

/-! Parts of a message, as a stream socket may deliver them. -/

namespace EbcNet

open Wire

/-- The fields of a message up to its type. -/
def Wire.EbcMsg.upToType (msg : EbcMsg) : EbcMsg :=
  { msg with subType := 0, length := 0, body := .notSet, unknown := [] }

/-- The fields of a message up to its sub-type. -/
def Wire.EbcMsg.upToSubType (msg : EbcMsg) : EbcMsg :=
  { msg with length := 0, body := .notSet, unknown := [] }

section Parts
variable (runtime : Runtime)

theorem Wire.EbcMsg.serialize_upToType (msg : EbcMsg) :
    msg.upToType.serializeWithCachedSizes runtime =
      ((msg.header.take 7).map Prod.fst).flatten := by
  have fields : msg.upToType.header.map Prod.fst =
      (msg.header.take 7).map Prod.fst ++ [[], []] := rfl
  rw [EbcMsg.serialize_header, fields]
  simp [upToType, Runtime.unknownFields, Body.serializeWithCachedSizes]

theorem Wire.EbcMsg.serialize_upToSubType (msg : EbcMsg) :
    msg.upToSubType.serializeWithCachedSizes runtime =
      ((msg.header.take 8).map Prod.fst).flatten := by
  have fields : msg.upToSubType.header.map Prod.fst =
      (msg.header.take 8).map Prod.fst ++ [[]] := rfl
  rw [EbcMsg.serialize_header, fields]
  simp [upToSubType, Runtime.unknownFields, Body.serializeWithCachedSizes]

end Parts

namespace MsgPack

/-- The call of `pack` is given a body that is not empty. -/
def Bodied (type : MsgType) (payload : Payload) (subType : MsgSubType) : Prop :=
  match payload.body type subType with
  | .notSet => False
  | .msg content => content ≠ []
  | .nodes content => content.ebcNodes ≠ []

/-- What `unpack` checks of a message that it has parsed. -/
structure Checked (runtime : Runtime) (msg : EbcMsg) : Prop where
  head : msg.head = msgHead
  type : msg.type ≠ MsgType.EMPTY.toInt32
  length : msg.length.toNat = msg.bodyLength runtime

variable {runtime : Runtime} {receiver : MsgPack} {msg final : EbcMsg} {part : Bytes}

theorem unpack_eq_none :
    receiver.unpack runtime part = none ↔
      ∀ msg, EbcMsg.parseFromArray runtime part = some msg → ¬ Checked runtime msg := by
  rw [Option.eq_none_iff_forall_ne_some]
  constructor
  · intro refused msg parsed checked
    exact refused { receiver with ebcMsg := msg }
      (unpack_eq_some.mpr ⟨parsed, rfl, checked.head, checked.type, checked.length⟩)
  · intro unchecked next accepted
    obtain ⟨parsed, _, head, type, length⟩ := unpack_eq_some.mp accepted
    exact unchecked next.ebcMsg parsed ⟨head, type, length⟩

/-- A part of the body alone does not come to the length that the header has. -/
private theorem part_of_body (fits : msg.byteSizeLong runtime ≤ intMax)
    (counted : msg.length.toNat = msg.bodyLength runtime) (bodied : 0 < msg.bodyLength runtime)
    (within : part <+: msg.body.serializeWithCachedSizes runtime)
    (proper : part ≠ msg.body.serializeWithCachedSizes runtime)
    (filled : FieldStream.fill (msgField runtime) { msg with body := .notSet, unknown := [] } part =
      some final) : final.length.toNat ≠ final.bodyLength runtime := by
  have bodyFits : msg.body.byteSizeLong runtime ≤ intMax := by
    unfold EbcMsg.byteSizeLong at fits
    omega
  have progress := EbcMsg.loop_progress runtime defaultRecursionLimit
  by_cases empty : part = []
  · rw [empty, FieldStream.fill_nil] at filled
    cases filled
    have none : ({ msg with body := .notSet, unknown := [] } : EbcMsg).bodyLength runtime = 0 := rfl
    rw [none]
    dsimp only
    omega
  cases kind : msg.body with
  | notSet =>
    rw [kind] at within
    exact absurd (List.prefix_nil.mp within) empty
  | msg content =>
    rw [kind] at within proper bodyFits
    have contentFits : content.length ≤ intMax := by
      simp only [Body.byteSizeLong, lengthDelimitedSize] at bodyFits
      omega
    have holds : FieldStream.Holds (msgField runtime) { msg with body := .notSet, unknown := [] }
        (writeBytes 10 content) { msg with body := .msg content, unknown := [] } :=
      Loop.holds_bytes 10 EbcMsg.setMsg contentFits rfl (by decide) (by decide)
    rw [← List.append_nil (Body.serializeWithCachedSizes _ _)] at within
    rcases holds.fill_part progress within filled with ⟨gone, _⟩ | ⟨later, rfl, inner, _⟩
    · exact absurd gone empty
    · rw [List.prefix_nil.mp inner, List.append_nil] at proper
      exact absurd rfl proper
  | nodes content =>
    rw [kind] at within proper bodyFits
    have size := content.serialize_length runtime
    have contentFits : content.byteSizeLong runtime ≤ intMax := by
      simp only [Body.byteSizeLong, lengthDelimitedSize] at bodyFits
      omega
    simp only [Body.serializeWithCachedSizes, ← size] at within proper
    obtain ⟨next, rest, read⟩ := FieldStream.fill_some empty filled
    obtain ⟨cut, shorter, merged, rfl⟩ := Loop.message_part 11 (by omega) rfl (by decide) (by decide)
      within empty proper read
    rw [FieldStream.fill_step progress read, FieldStream.fill_nil] at filled
    cases filled
    obtain ⟨nodes, parsed, rfl⟩ := Option.map_eq_some_iff.mp merged
    have none : EbcNodes.byteSizeLong runtime {} = 0 := EbcNodes.byteSizeLong_empty
    have light : nodes.byteSizeLong runtime ≤ EbcNodes.byteSizeLong runtime {} + cut.length :=
      EbcNodes.merge_length (by omega) parsed
    have whole : msg.bodyLength runtime = content.byteSizeLong runtime := by
      simp [EbcMsg.bodyLength, EbcMsg.hasNodes, EbcMsg.nodes, kind]
    change msg.length.toNat ≠ nodes.byteSizeLong runtime
    omega

/-- A part of a message with a body that is checked all the same ends with the type or
with the sub-type. -/
private theorem part_checked (version : runtime.verifyUtf8String msg.version = true)
    (known : msg.unknown = []) (fits : msg.byteSizeLong runtime ≤ intMax)
    (counted : msg.length.toNat = msg.bodyLength runtime) (bodied : 0 < msg.bodyLength runtime)
    (within : part <+: msg.serializeWithCachedSizes runtime)
    (proper : part ≠ msg.serializeWithCachedSizes runtime)
    (parsed : EbcMsg.parseFromArray runtime part = some final) (checked : Checked runtime final) :
    part = msg.upToType.serializeWithCachedSizes runtime ∨
      part = msg.upToSubType.serializeWithCachedSizes runtime := by
  have silent : runtime.unknownFields [] = [] := by
    simp [Runtime.unknownFields]
  rw [msg.serialize_header, known, silent, List.append_nil] at within proper
  have progress := EbcMsg.loop_progress runtime defaultRecursionLimit
  rcases (EbcMsg.chain_header version fits).fill_part progress within parsed with
    ⟨count, bounded, cut, same⟩ | ⟨later, rfl, inner, filled⟩
  · change count < 9 at bounded
    have late : ¬ count < 7 := by
      intro early
      apply checked.type
      rw [same]
      interval_cases count <;> rfl
    obtain rfl | rfl : count = 7 ∨ count = 8 := by omega
    · exact Or.inl (cut.trans (msg.serialize_upToType runtime).symm)
    · exact Or.inr (cut.trans (msg.serialize_upToSubType runtime).symm)
  · have short : later ≠ msg.body.serializeWithCachedSizes runtime := fun same => proper (by rw [same])
    exact absurd checked.length (part_of_body fits counted bodied inner short filled)

/-- The first fields of a message are no larger than all of it. -/
private theorem header_size (runtime : Runtime) (msg : EbcMsg) (count : Nat) :
    ((msg.header.take count).map Prod.fst).flatten.length ≤ msg.byteSizeLong runtime := by
  rw [← msg.serialize_length runtime, msg.serialize_header, List.length_append]
  have within := ((List.take_prefix count msg.header).map Prod.fst).flatten.length_le
  omega

/-- A header without a body and without a length agrees with itself. -/
private theorem header_accepted (version : runtime.verifyUtf8String msg.version = true)
    (head : msg.head = msgHead) (type : msg.type ≠ MsgType.EMPTY.toInt32)
    (length : msg.length = 0) (body : msg.body = .notSet) (known : msg.unknown = [])
    (fits : msg.byteSizeLong runtime ≤ intMax) :
    receiver.unpack runtime (msg.serializeWithCachedSizes runtime) ≠ none := by
  have sound : msg.Sound runtime := by
    refine ⟨?_, version, ?_, ?_⟩
    · rw [length, EbcMsg.bodyLength, EbcMsg.hasNodes, EbcMsg.msg, body]
      rfl
    · rw [body]
      trivial
    · rw [known]
      exact .nil
  rw [unpack_serialize sound head type fits]
  exact Option.some_ne_none _

theorem bodyLength_pos {type : MsgType} {payload : Payload} {subType : MsgSubType}
    (bodied : Bodied type payload subType) :
    0 < EbcMsg.bodyLength runtime { body := payload.body type subType } := by
  unfold Bodied at bodied
  cases kind : payload.body type subType with
  | notSet => simp [kind] at bodied
  | msg content =>
    rw [kind] at bodied
    exact List.length_pos_iff.mpr bodied
  | nodes content =>
    rw [kind] at bodied
    obtain ⟨node, nodes, list⟩ := List.exists_cons_of_ne_nil bodied
    simp only [EbcMsg.bodyLength, EbcMsg.hasNodes, EbcMsg.nodes, EbcNodes.byteSizeLong, list,
      if_true, List.map_cons, List.sum_cons]
    omega

variable {selfId dstId : NodeId} {type : MsgType} {payload : Payload} {buf : Option Bytes}
variable {size : Int32} {subType : MsgSubType} {packed : Packed}

/-- `unpack` refuses every proper part of a message with a body, but for the two that end
with the type and with the sub-type. -/
theorem truncated_iff
    (done : pack runtime { selfId } type payload buf size subType dstId = some packed)
    (bodied : Bodied type payload subType)
    (fits : packed.object.ebcMsg.byteSizeLong runtime ≤ intMax)
    (within : part <+: packed.object.ebcMsg.serializeWithCachedSizes runtime)
    (proper : part ≠ packed.object.ebcMsg.serializeWithCachedSizes runtime) :
    receiver.unpack runtime part = none ↔
      part ≠ packed.object.ebcMsg.upToType.serializeWithCachedSizes runtime ∧
        part ≠ packed.object.ebcMsg.upToSubType.serializeWithCachedSizes runtime := by
  rw [pack_new done] at fits within proper ⊢
  have whole : (newMsg runtime selfId type payload subType dstId).bodyLength runtime =
      EbcMsg.bodyLength runtime { body := payload.body type subType } := rfl
  have typed : type.toInt32 ≠ MsgType.EMPTY.toInt32 := by
    intro empty
    rw [MsgType.toInt32_inj.mp empty] at bodied
    exact bodied
  have small := EbcMsg.bodyLength_le runtime (newMsg runtime selfId type payload subType dstId)
  have counted : (newMsg runtime selfId type payload subType dstId).length.toNat =
      (newMsg runtime selfId type payload subType dstId).bodyLength runtime := by
    have length : (newMsg runtime selfId type payload subType dstId).length =
        UInt32.ofNat ((newMsg runtime selfId type payload subType dstId).bodyLength runtime) := rfl
    rw [length, UInt32.toNat_ofNat', Nat.mod_eq_of_lt]
    unfold intMax at fits
    omega
  have typeFits := header_size runtime (newMsg runtime selfId type payload subType dstId) 7
  rw [← EbcMsg.serialize_upToType runtime, EbcMsg.serialize_length] at typeFits
  have subTypeFits := header_size runtime (newMsg runtime selfId type payload subType dstId) 8
  rw [← EbcMsg.serialize_upToSubType runtime, EbcMsg.serialize_length] at subTypeFits
  constructor
  · intro refused
    constructor
    · rintro rfl
      exact header_accepted version_valid rfl typed rfl rfl rfl (typeFits.trans fits) refused
    · rintro rfl
      exact header_accepted version_valid rfl typed rfl rfl rfl (subTypeFits.trans fits) refused
  · rintro ⟨notType, notSubType⟩
    refine unpack_eq_none.mpr fun final parsed checked => ?_
    rcases part_checked version_valid rfl fits counted (by rw [whole]; exact bodyLength_pos bodied)
      within proper parsed checked with ends | ends
    · exact notType ends
    · exact notSubType ends

/-- The first byte of a message that introduces a node. -/
theorem truncated_iff_first :
    ∃ packed, pack Reference.runtime { selfId := .zero } .PUNCH (.node { ip := 1 }) none 0 .EMPTY_SUB
        .zero = some packed ∧
      (unpack Reference.runtime { selfId := .zero } [8] = none ↔
        [8] ≠ packed.object.ebcMsg.upToType.serializeWithCachedSizes Reference.runtime ∧
          [8] ≠ packed.object.ebcMsg.upToSubType.serializeWithCachedSizes Reference.runtime) := by
  obtain ⟨packed, done⟩ : ∃ packed, pack Reference.runtime { selfId := .zero } .PUNCH
      (.node { ip := 1 }) none 0 .EMPTY_SUB .zero = some packed := ⟨_, rfl⟩
  have bodied : Bodied .PUNCH (.node { ip := 1 }) .EMPTY_SUB := List.cons_ne_nil _ _
  have message := pack_new done
  refine ⟨packed, done, truncated_iff done bodied ?_ ?_ ?_⟩
  · rw [message]
    decide
  · rw [message]
    exact ⟨_, rfl⟩
  · rw [message]
    decide

/-- The first 36 bytes of a message that introduces a node are a message of no node. -/
theorem truncated_counterexample :
    ∃ packed part, pack Reference.runtime { selfId := .zero } .PUNCH (.node { ip := 1 }) none 0
        .EMPTY_SUB .zero = some packed ∧
      Bodied .PUNCH (.node { ip := 1 }) .EMPTY_SUB ∧
      part <+: packed.object.ebcMsg.serializeWithCachedSizes Reference.runtime ∧
      part ≠ packed.object.ebcMsg.serializeWithCachedSizes Reference.runtime ∧
      unpack Reference.runtime { selfId := .zero } part ≠ none := by
  refine ⟨_, (EbcMsg.serializeWithCachedSizes Reference.runtime _).take 36, rfl,
    List.cons_ne_nil _ _, List.take_prefix _ _, ?_, ?_⟩
  · decide
  · decide

end MsgPack

end EbcNet
