import EbcNet.MsgPack
import EbcNet.Wire.Reference

/-! Cached sizes. `ByteSizeLong` leaves in each message the size that it finds, and where a
message is written, the lengths of the messages in it are read from there. -/

namespace EbcNet.Wire

/-- `ToCachedSize` -/
def toCachedSize (size : Nat) : Int32 := Int32.ofNat size

/-- `WriteMessage`, with what `GetCachedSize` returns. -/
def writeCached (fieldNumber : UInt32) (cachedSize : Int32) (content : Bytes) : Bytes :=
  writeTag fieldNumber wireTypeLengthDelimited ++ writeVarint32 cachedSize.toUInt32 ++ content

/-- An `EbcNode` with its `_cached_size_`. -/
structure CachedNode where
  node : EbcNode
  cachedSize : Int32

structure CachedNodes where
  ebcNodes : List CachedNode
  unknown : Bytes
  cachedSize : Int32

inductive CachedBody where
  | notSet
  | msg (content : Bytes)
  | nodes (content : CachedNodes)

/-- An `EbcMsg`, whose body is kept apart. -/
structure CachedMsg where
  outer : EbcMsg
  apart : outer.body = .notSet
  body : CachedBody
  cachedSize : Int32

/-! ### Messages without their sizes -/

def CachedNodes.plain (nodes : CachedNodes) : EbcNodes where
  ebcNodes := nodes.ebcNodes.map CachedNode.node
  unknown := nodes.unknown

def CachedBody.plain : CachedBody → Body
  | .notSet => .notSet
  | .msg content => .msg content
  | .nodes content => .nodes content.plain

def CachedMsg.plain (msg : CachedMsg) : EbcMsg := { msg.outer with body := msg.body.plain }

/-! ### What the generated code does -/

section Code
variable (runtime : Runtime)

def CachedNode.byteSizeLong (cached : CachedNode) : Nat × CachedNode :=
  let totalSize := cached.node.byteSizeLong runtime
  (totalSize, { cached with cachedSize := toCachedSize totalSize })

def CachedNodes.byteSizeLong (cached : CachedNodes) : Nat × CachedNodes :=
  let sized := cached.ebcNodes.map (CachedNode.byteSizeLong runtime)
  let totalSize := (runtime.unknownFields cached.unknown).length +
    (sized.map fun child => 1 + lengthDelimitedSize child.1).sum
  (totalSize, { cached with
    ebcNodes := sized.map Prod.snd
    cachedSize := toCachedSize totalSize })

def CachedBody.byteSizeLong : CachedBody → Nat × CachedBody
  | .notSet => (0, .notSet)
  | .msg content => (1 + lengthDelimitedSize content.length, .msg content)
  | .nodes content =>
    let sized := content.byteSizeLong runtime
    (1 + lengthDelimitedSize sized.1, .nodes sized.2)

def CachedMsg.byteSizeLong (cached : CachedMsg) : Nat × CachedMsg :=
  let sized := cached.body.byteSizeLong runtime
  let totalSize := cached.outer.byteSizeLong runtime + sized.1
  (totalSize, { cached with
    body := sized.2
    cachedSize := toCachedSize totalSize })

def CachedNodes.serializeWithCachedSizes (cached : CachedNodes) : Bytes :=
  (cached.ebcNodes.flatMap fun child =>
    writeCached 1 child.cachedSize (child.node.serializeWithCachedSizes runtime)) ++
  runtime.unknownFields cached.unknown

def CachedBody.serializeWithCachedSizes : CachedBody → Bytes
  | .notSet => []
  | .msg content => writeBytes 10 content
  | .nodes content => writeCached 11 content.cachedSize (content.serializeWithCachedSizes runtime)

def CachedMsg.serializeWithCachedSizes (cached : CachedMsg) : Bytes :=
  let msg := cached.outer
  (if msg.head ≠ 0 then writeUInt32 1 msg.head else []) ++
  (if msg.version.length > 0 then writeBytes 2 msg.version else []) ++
  (if msg.srcId.length > 0 then writeBytes 3 msg.srcId else []) ++
  (if msg.dstId.length > 0 then writeBytes 4 msg.dstId else []) ++
  (if msg.ttl ≠ 0 then writeUInt32 5 msg.ttl else []) ++
  (if msg.id ≠ 0 then writeUInt32 6 msg.id else []) ++
  (if msg.type ≠ 0 then writeEnum 7 msg.type else []) ++
  (if msg.subType ≠ 0 then writeEnum 8 msg.subType else []) ++
  (if msg.length ≠ 0 then writeUInt32 9 msg.length else []) ++
  cached.body.serializeWithCachedSizes runtime ++
  runtime.unknownFields msg.unknown

/-- `SerializeToArray`, which asks for the size first. -/
def CachedMsg.serializeToArray (cached : CachedMsg) (buf : Bytes) (size : Int32) :
    CachedMsg × Bytes :=
  let sized := cached.byteSizeLong runtime
  (sized.2,
    if sized.1 ≤ size.toInt then
      sized.2.serializeWithCachedSizes runtime ++ buf.drop sized.1
    else runtime.abandonedArray buf)

end Code

/-! ### Fresh sizes -/

section Fresh
variable (runtime : Runtime)

def CachedNode.Fresh (cached : CachedNode) : Prop :=
  cached.cachedSize = toCachedSize (cached.node.byteSizeLong runtime)

structure CachedNodes.Fresh (cached : CachedNodes) : Prop where
  nodes : ∀ child ∈ cached.ebcNodes, child.Fresh runtime
  list : cached.cachedSize = toCachedSize (cached.plain.byteSizeLong runtime)

/-- All sizes are right that are read where the body is written. -/
def CachedBody.Fresh : CachedBody → Prop
  | .nodes content => content.Fresh runtime
  | _ => True

end Fresh

section Sizes
variable {runtime : Runtime}

theorem CachedNodes.byteSizeLong_spec (cached : CachedNodes) :
    (cached.byteSizeLong runtime).1 = cached.plain.byteSizeLong runtime ∧
      (cached.byteSizeLong runtime).2.plain = cached.plain ∧
      (cached.byteSizeLong runtime).2.Fresh runtime := by
  have total : (cached.byteSizeLong runtime).1 = cached.plain.byteSizeLong runtime := by
    simp [byteSizeLong, CachedNode.byteSizeLong, EbcNodes.byteSizeLong, plain, Function.comp_def]
  have same : (cached.byteSizeLong runtime).2.plain = cached.plain := by
    simp [byteSizeLong, CachedNode.byteSizeLong, plain, Function.comp_def]
  refine ⟨total, same, ?_, ?_⟩
  · intro child member
    obtain ⟨sized, sizedMember, rfl⟩ := List.mem_map.mp member
    obtain ⟨old, _, rfl⟩ := List.mem_map.mp sizedMember
    rfl
  · rw [same, ← total]
    rfl

/-- Asking for the size changes nothing but the cached sizes, which are right afterwards. -/
theorem CachedMsg.byteSizeLong_spec (cached : CachedMsg) :
    (cached.byteSizeLong runtime).1 = cached.plain.byteSizeLong runtime ∧
      (cached.byteSizeLong runtime).2.plain = cached.plain ∧
      (cached.byteSizeLong runtime).2.body.Fresh runtime := by
  obtain ⟨outer, apart, body, cachedSize⟩ := cached
  have sum : ∀ inner : Body, ({ outer with body := inner } : EbcMsg).byteSizeLong runtime =
      outer.byteSizeLong runtime + inner.byteSizeLong runtime := by
    intro inner
    simp [EbcMsg.byteSizeLong, apart, Body.byteSizeLong]
  cases body with
  | notSet => exact ⟨(sum .notSet).symm, rfl, trivial⟩
  | msg content => exact ⟨(sum (.msg content)).symm, rfl, trivial⟩
  | nodes content =>
    obtain ⟨total, same, fresh⟩ := @CachedNodes.byteSizeLong_spec runtime content
    refine ⟨?_, ?_, fresh⟩
    · refine Eq.trans ?_ (sum (.nodes content.plain)).symm
      exact congrArg (fun size => outer.byteSizeLong runtime + (1 + lengthDelimitedSize size)) total
    · simp [byteSizeLong, CachedBody.byteSizeLong, plain, CachedBody.plain, same]

end Sizes

/-! ### What is written -/

section Writing
variable {runtime : Runtime}

private theorem writeCached_append {fieldNumber : UInt32} {cachedSize : Int32} {size : Nat}
    {content other rest later : Bytes} :
    writeCached fieldNumber cachedSize content ++ rest =
        writeMessage fieldNumber size other ++ later ↔
      cachedSize = toCachedSize size ∧ content ++ rest = other ++ later := by
  simp only [writeCached, writeMessage, List.append_assoc, List.append_cancel_left_eq,
    writeVarint32, Varint.encode_append, UInt32.toNat_inj]
  refine and_congr_left fun _ => ⟨fun same => ?_, fun same => ?_⟩
  · rw [← Int32.toInt32_toUInt32 cachedSize, same]
    rfl
  · rw [same]
    rfl

/-- A list is written as it is, with what follows it, when the sizes of its nodes are right. -/
private theorem nodes_written {nodes : List CachedNode} {rest later : Bytes} :
    (nodes.flatMap fun child =>
        writeCached 1 child.cachedSize (child.node.serializeWithCachedSizes runtime)) ++ rest =
      ((nodes.map CachedNode.node).flatMap fun node =>
        writeMessage 1 (node.byteSizeLong runtime) (node.serializeWithCachedSizes runtime)) ++
          later ↔
      (∀ child ∈ nodes, child.Fresh runtime) ∧ rest = later := by
  induction nodes with
  | nil => simp
  | cons child nodes ih =>
    rw [List.map_cons, List.flatMap_cons, List.flatMap_cons, List.append_assoc, List.append_assoc,
      writeCached_append, List.append_cancel_left_eq, ih, List.forall_mem_cons, and_assoc]
    rfl

private theorem body_written (body : CachedBody) :
    body.serializeWithCachedSizes runtime = body.plain.serializeWithCachedSizes runtime ↔
      body.Fresh runtime := by
  cases body with
  | notSet => exact iff_of_true rfl trivial
  | msg content => exact iff_of_true rfl trivial
  | nodes content =>
    have framed := @writeCached_append 11 content.cachedSize (content.plain.byteSizeLong runtime)
      (content.serializeWithCachedSizes runtime) (content.plain.serializeWithCachedSizes runtime)
      [] []
    rw [List.append_nil, List.append_nil, List.append_nil, List.append_nil] at framed
    refine framed.trans ⟨?_, ?_⟩
    · rintro ⟨list, inner⟩
      exact ⟨(nodes_written.mp inner).1, list⟩
    · rintro ⟨nodes, list⟩
      exact ⟨list, nodes_written.mpr ⟨nodes, rfl⟩⟩

private theorem outer_written (cached : CachedMsg) :
    cached.serializeWithCachedSizes runtime = cached.plain.serializeWithCachedSizes runtime ↔
      cached.body.serializeWithCachedSizes runtime =
        cached.body.plain.serializeWithCachedSizes runtime := by
  simp only [CachedMsg.serializeWithCachedSizes, EbcMsg.serializeWithCachedSizes, CachedMsg.plain,
    List.append_cancel_right_eq]
  exact List.append_right_inj _

/-- What is written with the cached sizes is what the message is, when all that are read are
right, and only then. -/
theorem CachedMsg.serialize_iff_fresh (cached : CachedMsg) :
    cached.serializeWithCachedSizes runtime = cached.plain.serializeWithCachedSizes runtime ↔
      cached.body.Fresh runtime :=
  (outer_written cached).trans (body_written cached.body)

/-- Whatever sizes earlier calls left in a message, `pack` writes and returns what the
message is. Then its list can be written again as it stands, under any other fields. -/
theorem CachedMsg.packs {object : MsgPack} {type : MsgType} {payload : Payload}
    {buf : Option Bytes} {size : Int32} {subType : MsgSubType} {dstId : NodeId} {packed : Packed}
    (done : object.pack runtime type payload buf size subType dstId = some packed)
    {cached : CachedMsg} (same : cached.plain = packed.object.ebcMsg) (scratch : Bytes) :
    packed.buf = buf.map (fun bytes => (cached.serializeToArray runtime bytes size).2) ∧
      packed.ret =
        Int32.ofNat ((cached.serializeToArray runtime scratch size).1.byteSizeLong runtime).1 ∧
      ∀ outer apart, CachedMsg.serializeWithCachedSizes runtime
          { (cached.serializeToArray runtime scratch size).1 with outer, apart } =
        EbcMsg.serializeWithCachedSizes runtime { outer with body := packed.object.ebcMsg.body } := by
  obtain ⟨total, kept, fresh⟩ := @CachedMsg.byteSizeLong_spec runtime cached
  obtain ⟨_, written, counted⟩ := MsgPack.pack_eq done
  have right := (outer_written _).mpr ((body_written _).mpr fresh)
  rw [kept, same] at right
  rw [same] at total kept
  refine ⟨?_, ?_, ?_⟩
  · rw [written]
    refine congrArg (fun write => buf.map write) (funext fun bytes => ?_)
    rw [EbcMsg.serializeToArray, serializeToArray, ← total, ← right]
  · rw [counted, serializeToArray, (byteSizeLong_spec (byteSizeLong runtime cached).2).1, kept]
  · intro outer apart
    have again := (outer_written ⟨outer, apart, (cached.byteSizeLong runtime).2.body,
      (cached.byteSizeLong runtime).2.cachedSize⟩).mpr ((body_written _).mpr fresh)
    rw [← kept]
    exact again

/-- A list is packed whose sizes were left by a shorter one. -/
theorem CachedMsg.packs_stale :
    ∃ packed, MsgPack.pack Reference.runtime { selfId := NodeId.zero } .REP
        (.nodes { ebcNodes := [{ ip := 1, portNat := 300 }] }) (some [0, 0]) 1024 .NODE .zero =
          some packed ∧
      packed.buf = (some [0, 0]).map fun bytes =>
        (CachedMsg.serializeToArray Reference.runtime
          { outer := { packed.object.ebcMsg with body := .notSet }, apart := rfl
            body := .nodes { ebcNodes := [⟨{ ip := 1, portNat := 300 }, 2⟩], unknown := []
                             cachedSize := 4 }
            cachedSize := 0 } bytes 1024).2 := by
  obtain ⟨packed, done⟩ : ∃ packed, MsgPack.pack Reference.runtime { selfId := NodeId.zero } .REP
    (.nodes { ebcNodes := [{ ip := 1, portNat := 300 }] }) (some [0, 0]) 1024 .NODE .zero =
      some packed := ⟨_, rfl⟩
  refine ⟨packed, done, (packs done ?_ []).1⟩
  rw [← Option.some.inj done]
  rfl

end Writing

end EbcNet.Wire
