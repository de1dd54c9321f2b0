import EbcNet.Wire.Fields
import Mathlib.Algebra.Order.BigOperators.Group.List
import Mathlib.Algebra.Order.Group.Nat

/-! What is written is read back: the known fields in full, and the unknown ones
as far as the runtime preserves them. -/

namespace EbcNet.Wire

open FieldStream (Chain Complete)

/-- An unknown field as it is set aside: skipping it sets the same bytes aside. -/
def Loop.Unknown {Message : Type} (loop : Loop Message) (runtime : Runtime) (budget : Nat)
    (record : Bytes) : Prop :=
  ∃ tag value, record = writeVarint32 tag ++ value ∧ tag ≠ 0 ∧
    (∀ option ∈ loop.cases budget, option.tag ≠ tag) ∧
    ∀ other, runtime.skipField budget tag (value ++ other) = some (record, other)

/-- Bytes that are unknown fields one after another. -/
def Loop.Replays {Message : Type} (loop : Loop Message) (runtime : Runtime) (budget : Nat)
    (unknown : Bytes) : Prop :=
  ∃ records : List Bytes, unknown = records.flatten ∧
    ∀ record ∈ records, loop.Unknown runtime budget record

section Fields
variable {runtime : Runtime} {Message : Type} {loop : Loop Message} {budget : Nat}
variable {message next : Message} {tag : UInt32} {unknown later : Bytes}

theorem Loop.Replays.nil : loop.Replays runtime budget [] :=
  ⟨[], rfl, by simp⟩

theorem Loop.Replays.append (first : loop.Replays runtime budget unknown)
    (second : loop.Replays runtime budget later) :
    loop.Replays runtime budget (unknown ++ later) := by
  obtain ⟨records, rfl, each⟩ := first
  obtain ⟨others, rfl, eachOther⟩ := second
  refine ⟨records ++ others, by simp, ?_⟩
  intro record member
  rcases List.mem_append.mp member with member | member
  · exact each record member
  · exact eachOther record member

theorem Loop.Replays.skipped {body rest record : Bytes}
    (unknownTag : ∀ option ∈ loop.cases budget, option.tag ≠ tag) (nonzero : tag ≠ 0)
    (skipped : runtime.skipField budget tag body = some (record, rest)) :
    loop.Replays runtime budget record := by
  obtain ⟨_, value, _, recorded, _, _, replay⟩ := runtime.skipped skipped
  refine ⟨[record], by simp, ?_⟩
  intro same member
  rw [List.mem_singleton.mp member]
  exact ⟨tag, value, recorded, nonzero, unknownTag, replay⟩

/-- Bytes set aside are set aside again. -/
theorem Loop.Replays.complete (replays : loop.Replays runtime budget unknown)
    (keepsNothing : ∀ message, loop.setAside message [] = message)
    (keepsBoth : ∀ message first second,
      loop.setAside (loop.setAside message first) second = loop.setAside message (first ++ second)) :
    Complete (loop.mergeField runtime budget) message unknown (loop.setAside message unknown) := by
  obtain ⟨records, rfl, each⟩ := replays
  induction records generalizing message with
  | nil =>
    rw [List.flatten_nil, keepsNothing]
    exact .done
  | cons record records ih =>
    obtain ⟨tag, value, recorded, nonzero, unknownTag, replay⟩ := each record (by simp)
    have read : ∀ rest, loop.mergeField runtime budget message (record ++ rest) =
        some (loop.setAside message record, rest) := by
      intro rest
      have missing : (loop.cases budget).find? (fun option => option.tag = tag) = none := by
        simpa [List.find?_eq_none] using unknownTag
      rw [Loop.mergeField, recorded, List.append_assoc, readTag_write nonzero, Option.bind_some]
      dsimp only
      rw [missing, replay, ← recorded]
      rfl
    rw [List.flatten_cons, ← keepsBoth]
    exact .step read (ih fun other member => each other (List.mem_cons_of_mem _ member))

end Fields

/-! ### Messages -/

section Observable
variable (runtime : Runtime)

/-- What of a message is written. -/
def EbcNode.observable (node : EbcNode) : EbcNode :=
  { node with unknown := runtime.unknownFields node.unknown }

def EbcNodes.observable (nodes : EbcNodes) : EbcNodes where
  ebcNodes := nodes.ebcNodes.map (EbcNode.observable runtime)
  unknown := runtime.unknownFields nodes.unknown

def Body.observable : Body → Body
  | .notSet => .notSet
  | .msg content => .msg content
  | .nodes content => .nodes (content.observable runtime)

def EbcMsg.observable (msg : EbcMsg) : EbcMsg :=
  { msg with body := msg.body.observable runtime, unknown := runtime.unknownFields msg.unknown }

/-- The unknown fields of a node are such, at the depth it has in a message. -/
def EbcNode.Valid (node : EbcNode) : Prop :=
  (EbcNode.loop runtime).Replays runtime (defaultRecursionLimit - 2) node.unknown

structure EbcNodes.Valid (nodes : EbcNodes) : Prop where
  each : ∀ node ∈ nodes.ebcNodes, node.Valid runtime
  unknown : (EbcNodes.loop runtime).Replays runtime (defaultRecursionLimit - 1) nodes.unknown

def Body.Valid : Body → Prop
  | .nodes content => content.Valid runtime
  | _ => True

structure EbcMsg.Valid (msg : EbcMsg) : Prop where
  version : runtime.verifyUtf8String msg.version = true
  body : msg.body.Valid runtime
  unknown : (EbcMsg.loop runtime).Replays runtime defaultRecursionLimit msg.unknown

end Observable

section Messages
variable {runtime : Runtime}

theorem replays_observable {Message : Type} {loop : Loop Message} {budget : Nat}
    {unknown : Bytes} (replays : loop.Replays runtime budget unknown) :
    loop.Replays runtime budget (runtime.unknownFields unknown) := by
  unfold Runtime.unknownFields
  split
  · exact replays
  · exact .nil

private abbrev nodeField (runtime : Runtime) : FieldStream.Reader UInt8 EbcNode :=
  (EbcNode.loop runtime).mergeField runtime (defaultRecursionLimit - 2)

private abbrev nodesField (runtime : Runtime) : FieldStream.Reader UInt8 EbcNodes :=
  (EbcNodes.loop runtime).mergeField runtime (defaultRecursionLimit - 1)

abbrev msgField (runtime : Runtime) : FieldStream.Reader UInt8 EbcMsg :=
  (EbcMsg.loop runtime).mergeField runtime defaultRecursionLimit

theorem content_fits {content : Bytes} {total : Nat} (fits : total ≤ intMax)
    (counted : content.length > 0 → 1 + lengthDelimitedSize content.length ≤ total) :
    content.length ≤ intMax := by
  by_cases present : content.length > 0
  · have within := counted present
    unfold lengthDelimitedSize at within
    omega
  · omega

theorem EbcNode.merge_serialize {node : EbcNode} (valid : node.Valid runtime)
    (fits : node.byteSizeLong runtime ≤ intMax) :
    (EbcNode.loop runtime).merge runtime (defaultRecursionLimit - 2) {}
      (node.serializeWithCachedSizes runtime) = some (node.observable runtime) := by
  apply Complete.fill (EbcNode.loop_progress runtime _)
  have idFits : node.id.length ≤ intMax := by
    apply content_fits fits
    intro present
    simp only [byteSizeLong, present, if_true]
    omega
  have known : Chain (nodeField runtime) {}
      [(if node.id.length > 0 then writeBytes 1 node.id else [], { id := node.id }),
       (if node.ip ≠ 0 then writeUInt32 2 node.ip else [], { id := node.id, ip := node.ip }),
       (if node.portNat ≠ 0 then writeUInt32 3 node.portNat else [],
         { id := node.id, ip := node.ip, portNat := node.portNat })]
      { id := node.id, ip := node.ip, portNat := node.portNat } := by
    refine .field ?_ (.field ?_ (.field ?_ .done))
    · exact Loop.optional_bytes 1 (fun (node : EbcNode) id => { node with id }) idFits
        rfl (by decide) (by decide) rfl
    · exact Loop.optional_uint32 2 (fun (node : EbcNode) ip => { node with ip }) node.ip
        rfl (by decide) (by decide) rfl
    · exact Loop.optional_uint32 3 (fun (node : EbcNode) portNat => { node with portNat })
        node.portNat rfl (by decide) (by decide) rfl
  have unknown : Complete (nodeField runtime)
      { id := node.id, ip := node.ip, portNat := node.portNat }
      (runtime.unknownFields node.unknown) (node.observable runtime) :=
    (replays_observable valid).complete (by simp [loop]) (by simp [loop])
  simpa [serializeWithCachedSizes] using known.complete.append unknown

/-- Written nodes are appended one by one to the nodes read before them. -/
private theorem complete_nodes (nodes : List EbcNode) (before : List EbcNode)
    (valid : ∀ node ∈ nodes, node.Valid runtime)
    (fits : ∀ node ∈ nodes, node.byteSizeLong runtime ≤ intMax) :
    Complete (nodesField runtime) { ebcNodes := before }
      (nodes.flatMap fun node =>
        writeMessage 1 (node.byteSizeLong runtime) (node.serializeWithCachedSizes runtime))
      { ebcNodes := before ++ nodes.map (EbcNode.observable runtime) } := by
  induction nodes generalizing before with
  | nil =>
    rw [List.map_nil, List.append_nil]
    exact .done
  | cons node nodes ih =>
    have merged : EbcNodes.mergeNode runtime (defaultRecursionLimit - 2) { ebcNodes := before }
        (node.serializeWithCachedSizes runtime) =
        some { ebcNodes := before ++ [node.observable runtime] } := by
      rw [EbcNodes.mergeNode, EbcNode.merge_serialize (valid node (by simp)) (fits node (by simp))]
      rfl
    have first : Complete (nodesField runtime) { ebcNodes := before }
        (writeMessage 1 (node.byteSizeLong runtime) (node.serializeWithCachedSizes runtime))
        { ebcNodes := before ++ [node.observable runtime] } :=
      Loop.complete_message 1 (node.serialize_length runtime) (fits node (by simp)) merged
        rfl (by decide)
    have tail := ih (before ++ [node.observable runtime])
      (fun other member => valid other (List.mem_cons_of_mem _ member))
      (fun other member => fits other (List.mem_cons_of_mem _ member))
    rw [List.append_assoc] at tail
    exact first.append tail

theorem EbcNodes.node_fits {nodes : EbcNodes} {node : EbcNode} (member : node ∈ nodes.ebcNodes)
    (fits : nodes.byteSizeLong runtime ≤ intMax) : node.byteSizeLong runtime ≤ intMax := by
  have counted : 1 + lengthDelimitedSize (node.byteSizeLong runtime) ≤
      (nodes.ebcNodes.map fun node => 1 + lengthDelimitedSize (node.byteSizeLong runtime)).sum :=
    List.single_le_sum (fun _ _ => Nat.zero_le _) _ (List.mem_map.mpr ⟨node, member, rfl⟩)
  unfold EbcNodes.byteSizeLong at fits
  unfold lengthDelimitedSize at counted fits
  omega

theorem EbcNodes.merge_serialize {nodes : EbcNodes} (valid : nodes.Valid runtime)
    (fits : nodes.byteSizeLong runtime ≤ intMax) :
    (EbcNodes.loop runtime).merge runtime (defaultRecursionLimit - 1) {}
      (nodes.serializeWithCachedSizes runtime) = some (nodes.observable runtime) := by
  apply Complete.fill (EbcNodes.loop_progress runtime _)
  have known : Complete (nodesField runtime) {}
      (nodes.ebcNodes.flatMap fun node =>
        writeMessage 1 (node.byteSizeLong runtime) (node.serializeWithCachedSizes runtime))
      { ebcNodes := nodes.ebcNodes.map (EbcNode.observable runtime) } :=
    complete_nodes nodes.ebcNodes [] valid.each fun node member => node_fits member fits
  have unknown : Complete (nodesField runtime)
      { ebcNodes := nodes.ebcNodes.map (EbcNode.observable runtime) }
      (runtime.unknownFields nodes.unknown) (nodes.observable runtime) :=
    (replays_observable valid.unknown).complete (by simp [loop]) (by simp [loop])
  exact known.append unknown

private theorem complete_body {msg : EbcMsg} (empty : msg.body = .notSet) (body : Body)
    (valid : body.Valid runtime) (fits : body.byteSizeLong runtime ≤ intMax) :
    Complete (msgField runtime) msg (body.serializeWithCachedSizes runtime)
      { msg with body := body.observable runtime } := by
  cases body with
  | notSet =>
    have same : { msg with body := Body.observable runtime .notSet } = msg := by
      rw [Body.observable, ← empty]
    rw [same]
    exact .done
  | msg content =>
    have contentFits : content.length ≤ intMax := by
      simp only [Body.byteSizeLong, lengthDelimitedSize] at fits
      omega
    exact (Loop.holds_bytes 10 EbcMsg.setMsg contentFits rfl (by decide) (by decide)).complete
  | nodes content =>
    have contentFits : content.byteSizeLong runtime ≤ intMax := by
      simp only [Body.byteSizeLong, lengthDelimitedSize] at fits
      omega
    have absent : msg.nodes = {} := by
      rw [EbcMsg.nodes, empty]
    have merged : EbcMsg.mergeNodes runtime (defaultRecursionLimit - 1) msg
        (content.serializeWithCachedSizes runtime) =
        some { msg with body := .nodes (content.observable runtime) } := by
      rw [EbcMsg.mergeNodes, absent, EbcNodes.merge_serialize valid contentFits]
      rfl
    exact Loop.complete_message 11 (content.serialize_length runtime) contentFits merged
      rfl (by decide)

/-- The fields of a message before its body, with the message as it is read after each. -/
def EbcMsg.header (msg : EbcMsg) : List (Bytes × EbcMsg) := [
  (if msg.head ≠ 0 then writeUInt32 1 msg.head else [], { head := msg.head }),
  (if msg.version.length > 0 then writeBytes 2 msg.version else [],
    { head := msg.head, version := msg.version }),
  (if msg.srcId.length > 0 then writeBytes 3 msg.srcId else [],
    { head := msg.head, version := msg.version, srcId := msg.srcId }),
  (if msg.dstId.length > 0 then writeBytes 4 msg.dstId else [],
    { head := msg.head, version := msg.version, srcId := msg.srcId, dstId := msg.dstId }),
  (if msg.ttl ≠ 0 then writeUInt32 5 msg.ttl else [],
    { head := msg.head, version := msg.version, srcId := msg.srcId, dstId := msg.dstId,
      ttl := msg.ttl }),
  (if msg.id ≠ 0 then writeUInt32 6 msg.id else [],
    { head := msg.head, version := msg.version, srcId := msg.srcId, dstId := msg.dstId,
      ttl := msg.ttl, id := msg.id }),
  (if msg.type ≠ 0 then writeEnum 7 msg.type else [],
    { head := msg.head, version := msg.version, srcId := msg.srcId, dstId := msg.dstId,
      ttl := msg.ttl, id := msg.id, type := msg.type }),
  (if msg.subType ≠ 0 then writeEnum 8 msg.subType else [],
    { head := msg.head, version := msg.version, srcId := msg.srcId, dstId := msg.dstId,
      ttl := msg.ttl, id := msg.id, type := msg.type, subType := msg.subType }),
  (if msg.length ≠ 0 then writeUInt32 9 msg.length else [],
    { msg with body := .notSet, unknown := [] })]

theorem EbcMsg.serialize_header (runtime : Runtime) (msg : EbcMsg) :
    msg.serializeWithCachedSizes runtime = (msg.header.map Prod.fst).flatten ++
      (msg.body.serializeWithCachedSizes runtime ++ runtime.unknownFields msg.unknown) := by
  simp [serializeWithCachedSizes, header]

theorem EbcMsg.chain_header {msg : EbcMsg} (version : runtime.verifyUtf8String msg.version = true)
    (fits : msg.byteSizeLong runtime ≤ intMax) :
    Chain (msgField runtime) {} msg.header { msg with body := .notSet, unknown := [] } := by
  have versionFits : msg.version.length ≤ intMax := by
    apply content_fits fits
    intro present
    simp only [byteSizeLong, present, if_true]
    omega
  have srcIdFits : msg.srcId.length ≤ intMax := by
    apply content_fits fits
    intro present
    simp only [byteSizeLong, present, if_true]
    omega
  have dstIdFits : msg.dstId.length ≤ intMax := by
    apply content_fits fits
    intro present
    simp only [byteSizeLong, present, if_true]
    omega
  refine .field ?head <| .field ?version <| .field ?srcId <| .field ?dstId <| .field ?ttl <|
    .field ?id <| .field ?type <| .field ?subType <| .field ?length .done
  case head =>
    exact Loop.optional_uint32 1 (fun (msg : EbcMsg) head => { msg with head }) msg.head
      rfl (by decide) (by decide) rfl
  case version =>
    exact Loop.holds_unless
      (fun _ => Loop.holds_string 2 (fun (msg : EbcMsg) version => { msg with version })
        versionFits version rfl (by decide) (by decide))
      fun absent => by simp [List.length_eq_zero_iff.mp (Nat.eq_zero_of_not_pos absent)]
  case srcId =>
    exact Loop.optional_bytes 3 (fun (msg : EbcMsg) srcId => { msg with srcId }) srcIdFits
      rfl (by decide) (by decide) rfl
  case dstId =>
    exact Loop.optional_bytes 4 (fun (msg : EbcMsg) dstId => { msg with dstId }) dstIdFits
      rfl (by decide) (by decide) rfl
  case ttl =>
    exact Loop.optional_uint32 5 (fun (msg : EbcMsg) ttl => { msg with ttl }) msg.ttl
      rfl (by decide) (by decide) rfl
  case id =>
    exact Loop.optional_uint32 6 (fun (msg : EbcMsg) id => { msg with id }) msg.id
      rfl (by decide) (by decide) rfl
  case type =>
    exact Loop.optional_enum 7 (fun (msg : EbcMsg) type => { msg with type }) msg.type
      rfl (by decide) (by decide) rfl
  case subType =>
    exact Loop.optional_enum 8 (fun (msg : EbcMsg) subType => { msg with subType }) msg.subType
      rfl (by decide) (by decide) rfl
  case length =>
    exact Loop.optional_uint32 9 (fun (msg : EbcMsg) length => { msg with length }) msg.length
      rfl (by decide) (by decide) rfl

/-- A message that fits an array is read back from the bytes it was written as. -/
theorem EbcMsg.parse_serialize {msg : EbcMsg} (valid : msg.Valid runtime)
    (fits : msg.byteSizeLong runtime ≤ intMax) :
    EbcMsg.parseFromArray runtime (msg.serializeWithCachedSizes runtime) =
      some (msg.observable runtime) := by
  have bodyFits : msg.body.byteSizeLong runtime ≤ intMax := by
    unfold byteSizeLong at fits
    omega
  have body : Complete (msgField runtime) { msg with body := .notSet, unknown := [] }
      (msg.body.serializeWithCachedSizes runtime)
      { msg with body := msg.body.observable runtime, unknown := [] } :=
    complete_body rfl msg.body valid.body bodyFits
  have unknown : Complete (msgField runtime)
      { msg with body := msg.body.observable runtime, unknown := [] }
      (runtime.unknownFields msg.unknown) (msg.observable runtime) :=
    (replays_observable valid.unknown).complete (by simp [loop]) (by simp [loop])
  rw [msg.serialize_header]
  exact ((chain_header valid.version fits).complete.append (body.append unknown)).fill
    (EbcMsg.loop_progress runtime _)

end Messages

end EbcNet.Wire
