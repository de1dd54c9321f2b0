import EbcNet.Base.Framing
import EbcNet.Engine.Delivery

/-! Messages on a stream. A receiver takes whatever one `UDT::recv` returns for one
message. -/

namespace EbcNet

open Wire

/-- A message that `pack` made of some object, and that its buffer held. -/
def Produced (runtime : Runtime) (packed : Packed) : Prop :=
  ∃ object type payload buf size subType dstId,
    MsgPack.Reachable runtime object ∧ payload.Valid runtime ∧
    object.pack runtime type payload (some buf) size subType dstId = some packed ∧
    (packed.object.ebcMsg.byteSizeLong runtime : Int) ≤ size.toInt

/-- A message as it is written. -/
def Packed.message (runtime : Runtime) (packed : Packed) : EbcMsg :=
  packed.object.ebcMsg.observable runtime

/-- Successive `UDT::recv` calls cut the stream of what was sent. -/
structure Cut (sent : List Packed) (chunks : List Bytes) : Prop where
  stream : chunks.flatten = (sent.map Packed.sent).flatten
  nonempty : ∀ chunk ∈ chunks, 0 < chunk.length
  bounded : ∀ chunk ∈ chunks, chunk.length ≤ NetEngine.bufSize

/-- Every `UDT::recv` returns one whole message, and no message is of the type that
`unpack` refuses. -/
structure Framed (sent : List Packed) (chunks : List Bytes) : Prop where
  whole : chunks = sent.map Packed.sent
  typed : ∀ packed ∈ sent, packed.object.ebcMsg.type ≠ MsgType.EMPTY.toInt32

/-- What `handleMsg` makes of the bytes of one `UDT::recv`: the message that it goes on
with, or nothing. -/
def accept (runtime : Runtime) (selfId : NodeId) (chunk : Bytes) : Option EbcMsg :=
  (MsgPack.unpack runtime { selfId } chunk).map MsgPack.ebcMsg

/-- The messages that successive calls of `handleMsg` dispatch. -/
def dispatched (runtime : Runtime) (selfId : NodeId) (chunks : List Bytes) : List EbcMsg :=
  Framing.received (accept runtime selfId) chunks

theorem NetEngine.received_eq_accept (runtime : Runtime) (engine : NetEngine) (env : Env) :
    (engine.received runtime env).map MsgPack.ebcMsg =
      env.recv.bind (accept runtime engine.self.id) := by
  unfold received accept
  cases env.recv <;> rfl

section Messages
variable {runtime : Runtime} {packed : Packed} {selfId : NodeId} {chunk : Bytes}

private theorem Wire.MsgSubType.not_neg (subType : MsgSubType) : ¬ subType.toInt32 < 0 := by
  cases subType <;> decide

theorem Produced.small (produced : Produced runtime packed) :
    packed.object.ebcMsg.byteSizeLong runtime ≤ intMax := by
  obtain ⟨_, _, _, _, size, _, _, _, _, _, fits⟩ := produced
  have bounded := size.toInt_lt
  unfold intMax
  omega

theorem Produced.sent_eq (produced : Produced runtime packed) :
    packed.sent = packed.object.ebcMsg.serializeWithCachedSizes runtime := by
  obtain ⟨_, _, _, _, _, _, _, _, _, done, fits⟩ := produced
  exact MsgPack.sent_eq done fits

theorem Produced.sent_length (produced : Produced runtime packed) :
    packed.sent.length = packed.object.ebcMsg.byteSizeLong runtime := by
  rw [produced.sent_eq, EbcMsg.serialize_length]

theorem Produced.type_not_neg (produced : Produced runtime packed) :
    ¬ packed.object.ebcMsg.type < 0 := by
  obtain ⟨_, type, _, _, _, _, _, _, _, done, _⟩ := produced
  rw [(MsgPack.assemble_spec (MsgPack.pack_eq done).1).1.type]
  cases type <;> decide

/-- A whole message is accepted as it was written, unless it is of type `EMPTY`. -/
theorem Produced.accepted (produced : Produced runtime packed)
    (typed : packed.object.ebcMsg.type ≠ MsgType.EMPTY.toInt32) :
    accept runtime selfId packed.sent = some (packed.message runtime) := by
  have small := produced.small
  rw [accept, produced.sent_eq]
  obtain ⟨_, _, _, _, _, _, _, reached, valid, done, _⟩ := produced
  obtain ⟨headed, keeps⟩ := MsgPack.assemble_spec (MsgPack.pack_eq done).1
  rw [MsgPack.unpack_serialize (keeps valid reached.sound) headed.head typed small]
  rfl

/-- No message is accepted from fewer bytes than it has. -/
theorem Produced.tight (produced : Produced runtime packed)
    (subType : ¬ packed.object.ebcMsg.subType < 0) (bounded : chunk.length ≤ NetEngine.bufSize)
    (accepted : accept runtime selfId chunk = some (packed.message runtime)) :
    packed.sent.length ≤ chunk.length := by
  obtain ⟨object, unpacked, same⟩ := Option.map_eq_some_iff.mp accepted
  have parsed := (MsgPack.unpack_eq_some.mp unpacked).1
  rw [same] at parsed
  have length := EbcMsg.parse_length (Nat.le_trans bounded (by decide)) parsed
  have typeKept : (packed.message runtime).type = packed.object.ebcMsg.type := rfl
  have subTypeKept : (packed.message runtime).subType = packed.object.ebcMsg.subType := rfl
  rw [EbcMsg.shortestLength_eq (by rw [typeKept]; exact produced.type_not_neg)
    (by rw [subTypeKept]; exact subType), Packed.message, EbcMsg.byteSizeLong_observable] at length
  rw [produced.sent_length]
  exact length

end Messages

section Streams
variable {runtime : Runtime} {selfId : NodeId} {sent : List Packed} {chunks : List Bytes}

/-- The messages with their bytes, as frames. -/
private def frames (runtime : Runtime) (sent : List Packed) : List (Bytes × EbcMsg) :=
  sent.map fun packed => (packed.sent, packed.message runtime)

private theorem frames_bytes (runtime : Runtime) (sent : List Packed) :
    (frames runtime sent).map Prod.fst = sent.map Packed.sent := by
  simp [frames]

private theorem frames_messages (runtime : Runtime) (sent : List Packed) :
    (frames runtime sent).map Prod.snd = sent.map (Packed.message runtime) := by
  simp [frames]

/-- If every `UDT::recv` returns one message, each is dispatched. -/
theorem Framed.dispatched (framed : Framed sent chunks)
    (produced : ∀ packed ∈ sent, Produced runtime packed) :
    dispatched runtime selfId chunks = sent.map (Packed.message runtime) := by
  rw [framed.whole, ← frames_messages, ← frames_bytes runtime]
  apply Framing.received_frames
  intro frame member
  obtain ⟨packed, listed, rfl⟩ := List.mem_map.mp member
  exact (produced packed listed).accepted (framed.typed packed listed)

/-- Nothing else makes up for bytes that a cut message lacks. -/
theorem framed_of_dispatched (produced : ∀ packed ∈ sent, Produced runtime packed)
    (cut : Cut sent chunks) (subTypes : ∀ packed ∈ sent, ¬ packed.object.ebcMsg.subType < 0)
    (same : dispatched runtime selfId chunks = sent.map (Packed.message runtime)) :
    Framed sent chunks := by
  have tight : Framing.Tight (accept runtime selfId) chunks (frames runtime sent) := by
    intro chunk part frame member accepted
    obtain ⟨packed, listed, rfl⟩ := List.mem_map.mp member
    exact (produced packed listed).tight (subTypes packed listed) (cut.bounded chunk part) accepted
  obtain ⟨whole, decodes⟩ := Framing.framed_of_received tight cut.nonempty
    (by rw [frames_bytes]; exact cut.stream) (by rw [frames_messages]; exact same)
  refine ⟨whole.trans (frames_bytes runtime sent), ?_⟩
  intro packed listed
  have accepted := decodes _ (List.mem_map_of_mem listed)
  obtain ⟨object, unpacked, message⟩ := Option.map_eq_some_iff.mp accepted
  have typed := (MsgPack.unpack_eq_some.mp unpacked).2.2.2.1
  rw [message] at typed
  exact typed

/-- The messages that were sent are dispatched, and no others, if every `UDT::recv`
returns one of them; and only then, as long as no sub-type is negative, which could be
written in fewer bytes. -/
theorem dispatched_iff_framed (produced : ∀ packed ∈ sent, Produced runtime packed)
    (cut : Cut sent chunks) :
    (Framed sent chunks →
      dispatched runtime selfId chunks = sent.map (Packed.message runtime)) ∧
    ((∀ packed ∈ sent, ¬ packed.object.ebcMsg.subType < 0) →
      dispatched runtime selfId chunks = sent.map (Packed.message runtime) →
      Framed sent chunks) :=
  ⟨fun framed => framed.dispatched produced, framed_of_dispatched produced cut⟩

/-- What a server packs into its buffer is such a message, and its sub-type is not
negative. -/
theorem NetEngine.Packs.produced {engine : NetEngine} {event : NetEngine.Event} {packed : Packed}
    (packs : engine.Packs runtime event packed)
    (fits : packed.object.ebcMsg.byteSizeLong runtime ≤ NetEngine.bufSize) :
    Produced runtime packed ∧ ¬ packed.object.ebcMsg.subType < 0 := by
  have within : (packed.object.ebcMsg.byteSizeLong runtime : Int) ≤
      (Int32.ofNat NetEngine.bufSize).toInt := by
    rw [NetEngine.bufSize_toInt]
    exact Int.ofNat_le.mpr fits
  obtain ⟨env, sock, epollFd, object, first, _, accepted, _, _, punched | replied⟩ := packs
  · have valid : (Payload.node (NetEngine.punchNode env object.ebcMsg first)).Valid runtime :=
      Loop.Replays.nil
    refine ⟨⟨_, _, _, _, _, _, _, .new engine.self.id, valid, punched, within⟩, ?_⟩
    rw [NetEngine.pack_punch_eq punched]
    exact MsgSubType.not_neg .EMPTY_SUB
  · obtain ⟨buf, _, unpacked⟩ := Option.bind_eq_some_iff.mp accepted
    have valid : (Payload.nodes { ebcNodes := engine.clientList.map NetEngine.listed }).Valid
        runtime := by
      refine ⟨?_, .nil⟩
      intro node member
      obtain ⟨client, _, rfl⟩ := List.mem_map.mp member
      exact Loop.Replays.nil
    refine ⟨⟨_, _, _, _, _, _, _, .unpack (.new engine.self.id) unpacked, valid, replied, within⟩, ?_⟩
    rw [NetEngine.pack_rep_eq replied]
    exact MsgSubType.not_neg .NODE

/-- The messages of servers are dispatched just when they come one at a time. -/
theorem dispatched_iff_of_packs
    (packs : ∀ packed ∈ sent, ∃ (engine : NetEngine) (event : NetEngine.Event),
      engine.Packs runtime event packed ∧
        packed.object.ebcMsg.byteSizeLong runtime ≤ NetEngine.bufSize) (cut : Cut sent chunks) :
    dispatched runtime selfId chunks = sent.map (Packed.message runtime) ↔ Framed sent chunks := by
  have each : ∀ packed ∈ sent,
      Produced runtime packed ∧ ¬ packed.object.ebcMsg.subType < 0 := by
    intro packed member
    obtain ⟨engine, event, packs, fits⟩ := packs packed member
    exact packs.produced fits
  have produced := fun packed member => (each packed member).1
  exact ⟨framed_of_dispatched produced cut fun packed member => (each packed member).2,
    fun framed => framed.dispatched produced⟩

end Streams

/-! ### Two messages at once -/

namespace Stream

/-- A `PUNCH` about a node. -/
def punch (node : EbcNode) : Option Packed :=
  MsgPack.pack Reference.runtime { selfId := .zero } .PUNCH (.node node) (some []) 128 .EMPTY_SUB .zero

theorem punch_produced {node : EbcNode} {packed : Packed} (known : node.unknown = [])
    (done : punch node = some packed)
    (fits : packed.object.ebcMsg.byteSizeLong Reference.runtime ≤ 128) :
    Produced Reference.runtime packed := by
  refine ⟨_, _, _, _, _, _, _, .new .zero, ?_, done, Int.ofNat_le.mpr fits⟩
  change node.Valid Reference.runtime
  unfold EbcNode.Valid
  rw [known]
  exact .nil

/-- Two of them, and what they look like. -/
private theorem punches : ∃ first second, punch { ip := 1 } = some first ∧
    punch { ip := 2 } = some second ∧
    (∀ packed ∈ [first, second], Produced Reference.runtime packed) ∧
    (∀ packed ∈ [first, second], packed.sent.length = 44) ∧
    ∀ packed ∈ [first, second], packed.object.ebcMsg.type ≠ MsgType.EMPTY.toInt32 := by
  have one : (punch { ip := 1 }).map (fun packed => (packed.sent.length,
      packed.object.ebcMsg.byteSizeLong Reference.runtime, packed.object.ebcMsg.type)) =
        some (44, 44, MsgType.PUNCH.toInt32) := by decide +kernel
  have two : (punch { ip := 2 }).map (fun packed => (packed.sent.length,
      packed.object.ebcMsg.byteSizeLong Reference.runtime, packed.object.ebcMsg.type)) =
        some (44, 44, MsgType.PUNCH.toInt32) := by decide +kernel
  obtain ⟨first, firstDone, look⟩ := Option.map_eq_some_iff.mp one
  obtain ⟨second, secondDone, other⟩ := Option.map_eq_some_iff.mp two
  simp only [Prod.mk.injEq] at look other
  refine ⟨first, second, firstDone, secondDone, ?_, ?_, ?_⟩
  · intro packed member
    rcases List.mem_pair.mp member with rfl | rfl
    · exact punch_produced rfl firstDone (by omega)
    · exact punch_produced rfl secondDone (by omega)
  · intro packed member
    rcases List.mem_pair.mp member with rfl | rfl
    · exact look.1
    · exact other.1
  · intro packed member
    rcases List.mem_pair.mp member with rfl | rfl
    · simp [look.2.2]
    · simp [other.2.2]

/-- Two messages that come one after the other. -/
theorem dispatched_iff_framed_punch :
    ∃ first second, punch { ip := 1 } = some first ∧ punch { ip := 2 } = some second ∧
      dispatched Reference.runtime .zero [first.sent, second.sent] =
        [first, second].map (Packed.message Reference.runtime) := by
  obtain ⟨first, second, firstDone, secondDone, produced, length, typed⟩ := punches
  have size : ∀ chunk ∈ [first, second].map Packed.sent, chunk.length = 44 := by
    intro chunk member
    obtain ⟨packed, sent, rfl⟩ := List.mem_map.mp member
    exact length packed sent
  have cut : Cut [first, second] [first.sent, second.sent] := by
    refine ⟨rfl, ?_, ?_⟩
    · intro chunk member
      rw [size chunk member]
      decide
    · intro chunk member
      rw [size chunk member]
      decide
  exact ⟨first, second, firstDone, secondDone,
    (dispatched_iff_framed produced cut).1 ⟨rfl, typed⟩⟩

/-- Two messages that one `UDT::recv` returns together are not dispatched as two. -/
theorem dispatched_counterexample :
    ∃ sent chunks, (∀ packed ∈ sent, Produced Reference.runtime packed) ∧ Cut sent chunks ∧
      dispatched Reference.runtime .zero chunks ≠ sent.map (Packed.message Reference.runtime) := by
  obtain ⟨first, second, _, _, produced, length, _⟩ := punches
  have size : (first.sent ++ second.sent).length = 88 := by
    rw [List.length_append, length first (by simp), length second (by simp)]
  refine ⟨[first, second], [first.sent ++ second.sent], produced, ⟨by simp, ?_, ?_⟩, ?_⟩
  · intro chunk member
    rw [List.mem_singleton.mp member, size]
    decide
  · intro chunk member
    rw [List.mem_singleton.mp member, size]
    decide
  · intro same
    have count := congrArg List.length same
    have most := List.length_filterMap_le (accept Reference.runtime .zero) [first.sent ++ second.sent]
    rw [dispatched, Framing.received, List.length_map] at count
    simp only [List.length_cons, List.length_nil] at count most
    omega

end Stream

end EbcNet
