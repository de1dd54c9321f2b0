import EbcNet.Wire.Accepted
import EbcNet.Wire.Recognized
import EbcNet.Wire.Reference

/-! Messages merged into messages, and the bytes of several messages read as one. What is
read from them is what `MergeFrom` makes of the messages, one after another. -/

namespace EbcNet.Wire

open FieldStream (Chain Complete Holds)

namespace EbcMsg

def clear (_ : EbcMsg) : EbcMsg := {}

/-- The `switch` at the end of `MergeFrom`. -/
def mergeBody (msg : EbcMsg) : Body → EbcMsg
  | .msg content => msg.setMsg content
  | .nodes content => msg.mutableNodes fun nodes => nodes.mergeFrom content
  | .notSet => msg

def mergeFrom (msg source : EbcMsg) : EbcMsg :=
  mergeBody
    { head := if source.head ≠ 0 then source.head else msg.head
      version := if source.version.length > 0 then source.version else msg.version
      srcId := if source.srcId.length > 0 then source.srcId else msg.srcId
      dstId := if source.dstId.length > 0 then source.dstId else msg.dstId
      ttl := if source.ttl ≠ 0 then source.ttl else msg.ttl
      id := if source.id ≠ 0 then source.id else msg.id
      type := if source.type ≠ 0 then source.type else msg.type
      subType := if source.subType ≠ 0 then source.subType else msg.subType
      length := if source.length ≠ 0 then source.length else msg.length
      body := msg.body
      unknown := msg.unknown ++ source.unknown }
    source.body

def copyFrom (msg source : EbcMsg) : EbcMsg := msg.clear.mergeFrom source

end EbcMsg

/-- A copy leaves nothing of the old message behind. -/
@[simp] theorem EbcMsg.copyFrom_eq (msg source : EbcMsg) : msg.copyFrom source = source := by
  obtain ⟨head, version, srcId, dstId, ttl, id, type, subType, length, body, unknown⟩ := source
  have text : ∀ bytes : Bytes, (if bytes.length > 0 then bytes else []) = bytes := by
    intro bytes
    cases bytes <;> rfl
  have number : ∀ value : UInt32, (if value ≠ 0 then value else 0) = value := by
    intro value
    by_cases zero : value = 0 <;> simp [zero]
  have enum : ∀ value : Int32, (if value ≠ 0 then value else 0) = value := by
    intro value
    by_cases zero : value = 0 <;> simp [zero]
  simp only [copyFrom, clear, mergeFrom, text, number, enum, List.nil_append]
  cases body <;> rfl

/-! ### Written messages are merged -/

section Fields
variable {runtime : Runtime} {Message : Type} {loop : Loop Message} {budget : Nat}
variable {message : Message} {tag : UInt32}

/-- A field that is left out keeps the value that the message has. -/
theorem Loop.merges_uint32 (number : UInt32) (set : Message → UInt32 → Message)
    (value kept : UInt32) (keeps : set message kept = message)
    (found : (loop.cases budget).find? (fun option => option.tag = makeTag number wireTypeVarint) =
      some (uint32Case runtime tag set)) (nonzero : makeTag number wireTypeVarint ≠ 0)
    (small : (makeTag number wireTypeVarint).toNat < 128) :
    Holds (loop.mergeField runtime budget) message
      (if value ≠ 0 then writeUInt32 number value else [])
      (set message (if value ≠ 0 then value else kept)) := by
  refine Loop.holds_unless (fun present => ?_) fun absent => ?_
  · rw [if_pos present]
    exact Loop.holds_uint32 number set value found nonzero small
  · rw [if_neg absent, keeps]

theorem Loop.merges_enum (number : UInt32) (set : Message → Int32 → Message)
    (value kept : Int32) (keeps : set message kept = message)
    (found : (loop.cases budget).find? (fun option => option.tag = makeTag number wireTypeVarint) =
      some (enumCase runtime tag set)) (nonzero : makeTag number wireTypeVarint ≠ 0)
    (small : (makeTag number wireTypeVarint).toNat < 128) :
    Holds (loop.mergeField runtime budget) message
      (if value ≠ 0 then writeEnum number value else [])
      (set message (if value ≠ 0 then value else kept)) := by
  refine Loop.holds_unless (fun present => ?_) fun absent => ?_
  · rw [if_pos present]
    exact Loop.holds_enum number set value found nonzero small
  · rw [if_neg absent, keeps]

theorem Loop.merges_bytes (number : UInt32) (set : Message → Bytes → Message) {value : Bytes}
    (kept : Bytes) (keeps : set message kept = message) (fits : value.length ≤ intMax)
    (found : (loop.cases budget).find?
      (fun option => option.tag = makeTag number wireTypeLengthDelimited) =
        some (bytesCase runtime tag set)) (nonzero : makeTag number wireTypeLengthDelimited ≠ 0)
    (small : (makeTag number wireTypeLengthDelimited).toNat < 128) :
    Holds (loop.mergeField runtime budget) message
      (if value.length > 0 then writeBytes number value else [])
      (set message (if value.length > 0 then value else kept)) := by
  refine Loop.holds_unless (fun present => ?_) fun absent => ?_
  · rw [if_pos present]
    exact Loop.holds_bytes number set fits found nonzero small
  · rw [if_neg absent, keeps]

theorem Loop.merges_string (number : UInt32) (set : Message → Bytes → Message) {value : Bytes}
    (kept : Bytes) (keeps : set message kept = message) (fits : value.length ≤ intMax)
    (valid : runtime.verifyUtf8String value = true)
    (found : (loop.cases budget).find?
      (fun option => option.tag = makeTag number wireTypeLengthDelimited) =
        some (stringCase runtime tag set)) (nonzero : makeTag number wireTypeLengthDelimited ≠ 0)
    (small : (makeTag number wireTypeLengthDelimited).toNat < 128) :
    Holds (loop.mergeField runtime budget) message
      (if value.length > 0 then writeBytes number value else [])
      (set message (if value.length > 0 then value else kept)) := by
  refine Loop.holds_unless (fun present => ?_) fun absent => ?_
  · rw [if_pos present]
    exact Loop.holds_string number set fits valid found nonzero small
  · rw [if_neg absent, keeps]

end Fields

section Messages
variable {runtime : Runtime} {source : EbcMsg}

/-- The list that is there goes on with the nodes of the bytes. -/
theorem EbcNodes.merge_serialize_into {nodes : EbcNodes} (valid : nodes.Valid runtime)
    (fits : nodes.byteSizeLong runtime ≤ intMax) (start : EbcNodes) :
    (EbcNodes.loop runtime).merge runtime (defaultRecursionLimit - 1) start
      (nodes.serializeWithCachedSizes runtime) = some (start.mergeFrom (nodes.observable runtime)) := by
  have written := EbcNodes.merge_serialize valid fits
  obtain ⟨fields, spelled, same⟩ := (EbcNodes.merge_iff runtime _).mp written
  refine (EbcNodes.merge_iff runtime _).mpr ⟨fields, spelled, ?_⟩
  rw [same]
  simp [mergeFrom]

@[simp] theorem EbcMsg.mergeFrom_empty (msg : EbcMsg) : msg.mergeFrom {} = msg := by
  simp [mergeFrom, mergeBody]

/-- The fields before the body, each with the message that was there, merged with what was
read of the other up to it. -/
private theorem chain_merges (version : runtime.verifyUtf8String source.version = true)
    (fits : source.byteSizeLong runtime ≤ intMax) (msg : EbcMsg) :
    Chain (msgField runtime) (msg.mergeFrom {})
      (source.header.map fun field => (field.1, msg.mergeFrom field.2))
      (msg.mergeFrom { source with body := .notSet, unknown := [] }) := by
  have versionFits : source.version.length ≤ intMax := by
    apply content_fits fits
    intro present
    simp only [EbcMsg.byteSizeLong, present, if_true]
    omega
  have srcIdFits : source.srcId.length ≤ intMax := by
    apply content_fits fits
    intro present
    simp only [EbcMsg.byteSizeLong, present, if_true]
    omega
  have dstIdFits : source.dstId.length ≤ intMax := by
    apply content_fits fits
    intro present
    simp only [EbcMsg.byteSizeLong, present, if_true]
    omega
  refine .field ?head <| .field ?version <| .field ?srcId <| .field ?dstId <| .field ?ttl <|
    .field ?id <| .field ?type <| .field ?subType <| .field ?length .done
  case head =>
    exact Loop.merges_uint32 1 (fun (msg : EbcMsg) head => { msg with head }) source.head msg.head
      rfl rfl (by decide) (by decide)
  case version =>
    exact Loop.merges_string 2 (fun (msg : EbcMsg) version => { msg with version }) msg.version
      rfl versionFits version rfl (by decide) (by decide)
  case srcId =>
    exact Loop.merges_bytes 3 (fun (msg : EbcMsg) srcId => { msg with srcId }) msg.srcId
      rfl srcIdFits rfl (by decide) (by decide)
  case dstId =>
    exact Loop.merges_bytes 4 (fun (msg : EbcMsg) dstId => { msg with dstId }) msg.dstId
      rfl dstIdFits rfl (by decide) (by decide)
  case ttl =>
    exact Loop.merges_uint32 5 (fun (msg : EbcMsg) ttl => { msg with ttl }) source.ttl msg.ttl
      rfl rfl (by decide) (by decide)
  case id =>
    exact Loop.merges_uint32 6 (fun (msg : EbcMsg) id => { msg with id }) source.id msg.id
      rfl rfl (by decide) (by decide)
  case type =>
    exact Loop.merges_enum 7 (fun (msg : EbcMsg) type => { msg with type }) source.type msg.type
      rfl rfl (by decide) (by decide)
  case subType =>
    exact Loop.merges_enum 8 (fun (msg : EbcMsg) subType => { msg with subType }) source.subType
      msg.subType rfl rfl (by decide) (by decide)
  case length =>
    exact Loop.merges_uint32 9 (fun (msg : EbcMsg) length => { msg with length }) source.length
      msg.length rfl rfl (by decide) (by decide)

private theorem complete_mergeBody {body : Body} (valid : body.Valid runtime)
    (fits : body.byteSizeLong runtime ≤ intMax) (msg : EbcMsg) :
    Complete (msgField runtime) msg (body.serializeWithCachedSizes runtime)
      (msg.mergeBody (body.observable runtime)) := by
  cases body with
  | notSet => exact .done
  | msg content =>
    have contentFits : content.length ≤ intMax := by
      simp only [Body.byteSizeLong, lengthDelimitedSize] at fits
      omega
    exact (Loop.holds_bytes 10 EbcMsg.setMsg contentFits rfl (by decide) (by decide)).complete
  | nodes content =>
    have contentFits : content.byteSizeLong runtime ≤ intMax := by
      simp only [Body.byteSizeLong, lengthDelimitedSize] at fits
      omega
    have merged : EbcMsg.mergeNodes runtime (defaultRecursionLimit - 1) msg
        (content.serializeWithCachedSizes runtime) =
        some (msg.mutableNodes fun nodes => nodes.mergeFrom (content.observable runtime)) := by
      rw [EbcMsg.mergeNodes, EbcNodes.merge_serialize_into valid contentFits]
      rfl
    exact Loop.complete_message 11 (content.serialize_length runtime) contentFits merged
      rfl (by decide)

private theorem mergeFrom_split (msg other : EbcMsg) :
    msg.mergeFrom other =
      let read := (msg.mergeFrom { other with body := .notSet, unknown := [] }).mergeBody other.body
      { read with unknown := read.unknown ++ other.unknown } := by
  obtain ⟨_, _, _, _, _, _, _, _, _, body, _⟩ := other
  cases body <;>
    simp [EbcMsg.mergeFrom, EbcMsg.mergeBody, EbcMsg.setMsg, EbcMsg.mutableNodes, EbcMsg.nodes]

/-- The bytes of a message, read into another one, are merged with it. -/
theorem EbcMsg.complete_mergeFrom (valid : source.Valid runtime)
    (fits : source.byteSizeLong runtime ≤ intMax) (msg : EbcMsg) :
    Complete (msgField runtime) msg (source.serializeWithCachedSizes runtime)
      (msg.mergeFrom (source.observable runtime)) := by
  have bodyFits : source.body.byteSizeLong runtime ≤ intMax := by
    unfold byteSizeLong at fits
    omega
  have header := (chain_merges valid.version fits msg).complete
  rw [mergeFrom_empty, List.map_map] at header
  have body := complete_mergeBody valid.body bodyFits
    (msg.mergeFrom { source with body := .notSet, unknown := [] })
  have unknown : ∀ read : EbcMsg, Complete (msgField runtime) read
      (runtime.unknownFields source.unknown)
      { read with unknown := read.unknown ++ runtime.unknownFields source.unknown } :=
    fun _ => (replays_observable valid.unknown).complete (by simp [loop]) (by simp [loop])
  rw [source.serialize_header, mergeFrom_split]
  exact header.append (body.append (unknown _))

theorem EbcNodes.Valid.mergeFrom {nodes other : EbcNodes} (valid : nodes.Valid runtime)
    (more : other.Valid runtime) : (nodes.mergeFrom other).Valid runtime := by
  refine ⟨?_, valid.unknown.append more.unknown⟩
  intro node member
  rcases List.mem_append.mp member with member | member
  · exact valid.each node member
  · exact more.each node member

theorem EbcMsg.Valid.mergeFrom {msg : EbcMsg} (valid : msg.Valid runtime)
    (other : source.Valid runtime) : (msg.mergeFrom source).Valid runtime := by
  have version : runtime.verifyUtf8String
      (if source.version.length > 0 then source.version else msg.version) = true := by
    split
    · exact other.version
    · exact valid.version
  have unknown := valid.unknown.append other.unknown
  have body := other.body
  unfold EbcMsg.mergeFrom
  cases kind : source.body with
  | notSet => exact ⟨version, valid.body, unknown⟩
  | msg content => exact ⟨version, trivial, unknown⟩
  | nodes content =>
    rw [kind] at body
    exact ⟨version, valid.nodes.mergeFrom body, unknown⟩

theorem Runtime.unknownFields_append (runtime : Runtime) (first second : Bytes) :
    runtime.unknownFields (first ++ second) =
      runtime.unknownFields first ++ runtime.unknownFields second := by
  unfold unknownFields
  split <;> simp

theorem EbcNodes.observable_mergeFrom (runtime : Runtime) (nodes other : EbcNodes) :
    (nodes.mergeFrom other).observable runtime =
      (nodes.observable runtime).mergeFrom (other.observable runtime) := by
  simp [mergeFrom, observable, runtime.unknownFields_append]

theorem EbcMsg.nodes_observable (runtime : Runtime) (msg : EbcMsg) :
    (msg.observable runtime).nodes = msg.nodes.observable runtime := by
  have empty : EbcNodes.observable runtime {} = {} := by
    simp [EbcNodes.observable, Runtime.unknownFields]
  unfold EbcMsg.nodes EbcMsg.observable
  cases msg.body with
  | nodes content => rfl
  | _ => exact empty.symm

/-- What is written of a merged message is merged from what is written of the two. -/
theorem EbcMsg.observable_mergeFrom (runtime : Runtime) (msg source : EbcMsg) :
    (msg.mergeFrom source).observable runtime =
      (msg.observable runtime).mergeFrom (source.observable runtime) := by
  have nodes := msg.nodes_observable runtime
  obtain ⟨_, _, _, _, _, _, _, _, _, body, _⟩ := source
  cases body with
  | nodes content =>
    simp only [mergeFrom, mergeBody, mutableNodes, observable, Body.observable,
      runtime.unknownFields_append]
    congr 2
    have merged := EbcNodes.observable_mergeFrom runtime msg.nodes content
    rw [← nodes] at merged
    exact merged
  | _ =>
    simp only [mergeFrom, mergeBody, setMsg, observable, runtime.unknownFields_append]
    rfl

variable {messages : List EbcMsg}

private theorem complete_flatMap (valid : ∀ message ∈ messages, message.Valid runtime)
    (fits : ∀ message ∈ messages, message.byteSizeLong runtime ≤ intMax) (read : EbcMsg) :
    Complete (msgField runtime) (read.observable runtime)
      (messages.flatMap (EbcMsg.serializeWithCachedSizes runtime))
      ((messages.foldl EbcMsg.mergeFrom read).observable runtime) := by
  induction messages generalizing read with
  | nil => exact .done
  | cons message messages ih =>
    have first := EbcMsg.complete_mergeFrom (valid message (by simp)) (fits message (by simp))
      (read.observable runtime)
    rw [← EbcMsg.observable_mergeFrom] at first
    exact first.append <| ih (fun other member => valid other (List.mem_cons_of_mem _ member))
      (fun other member => fits other (List.mem_cons_of_mem _ member)) _

/-- The bytes of messages one after another are read as what the messages merge into. -/
theorem EbcMsg.parse_flatMap (valid : ∀ message ∈ messages, message.Valid runtime)
    (fits : ∀ message ∈ messages, message.byteSizeLong runtime ≤ intMax) :
    parseFromArray runtime (messages.flatMap (EbcMsg.serializeWithCachedSizes runtime)) =
      some ((messages.foldl EbcMsg.mergeFrom {}).observable runtime) := by
  have whole := complete_flatMap valid fits {}
  have empty : EbcMsg.observable runtime {} = {} := by
    simp [observable, Body.observable, Runtime.unknownFields]
  rw [empty] at whole
  exact whole.fill (EbcMsg.loop_progress runtime _)

private theorem foldl_valid (valid : ∀ message ∈ messages, message.Valid runtime) {msg : EbcMsg}
    (start : msg.Valid runtime) : (messages.foldl EbcMsg.mergeFrom msg).Valid runtime := by
  induction messages generalizing msg with
  | nil => exact start
  | cons message messages ih =>
    exact ih (fun other member => valid other (List.mem_cons_of_mem _ member))
      (start.mergeFrom (valid message (by simp)))

/-- Merging messages and writing the outcome comes to the same for a reader as writing
them one after another. -/
theorem EbcMsg.parse_merged (valid : ∀ message ∈ messages, message.Valid runtime)
    (fits : ∀ message ∈ messages, message.byteSizeLong runtime ≤ intMax)
    (together : (messages.foldl EbcMsg.mergeFrom {}).byteSizeLong runtime ≤ intMax) :
    parseFromArray runtime
        ((messages.foldl EbcMsg.mergeFrom {}).serializeWithCachedSizes runtime) =
      parseFromArray runtime (messages.flatMap (EbcMsg.serializeWithCachedSizes runtime)) := by
  rw [EbcMsg.parse_flatMap valid fits]
  exact EbcMsg.parse_serialize (foldl_valid valid .empty) together

/-- Two lists of one node each are read as a list of two. -/
theorem EbcMsg.parse_merged_lists :
    parseFromArray Reference.runtime
        (([{ ttl := 3, body := .nodes { ebcNodes := [{ ip := 1 }] } },
          { body := .nodes { ebcNodes := [{ ip := 2 }] } }].foldl
            EbcMsg.mergeFrom {}).serializeWithCachedSizes Reference.runtime) =
      parseFromArray Reference.runtime
        ([{ ttl := 3, body := .nodes { ebcNodes := [{ ip := 1 }] } },
          { body := .nodes { ebcNodes := [{ ip := 2 }] } }].flatMap
            (EbcMsg.serializeWithCachedSizes Reference.runtime)) := by
  refine EbcMsg.parse_merged ?_ (by decide) (by decide)
  have list : ∀ ip, EbcNodes.Valid Reference.runtime { ebcNodes := [{ ip }] } := by
    intro ip
    refine ⟨?_, .nil⟩
    intro node member
    rw [List.mem_singleton.mp member]
    exact .nil
  intro message member
  rcases List.mem_pair.mp member with rfl | rfl
  · exact ⟨Reference.runtime.ascii (by simp), list 1, .nil⟩
  · exact ⟨Reference.runtime.ascii (by simp), list 2, .nil⟩

end Messages

/-! ### Merging in another order -/

namespace EbcMsg

/-- The second message has a text, which cuts off the nodes of the first from those of
the third. -/
def CutsOff (first second third : EbcMsg) : Prop :=
  first.nodes ≠ {} ∧ (∃ content, second.body = .msg content) ∧ third.hasNodes = true

private theorem latest_assoc {Value : Type} {given : Value → Prop} [DecidablePred given]
    (first second third : Value) :
    (if given third then third else if given second then second else first) =
      if given (if given third then third else second) then
        if given third then third else second
      else first := by
  by_cases last : given third
  · simp [last]
  · simp [last]

/-- A merge field by field. -/
theorem mergeFrom_fields (msg source : EbcMsg) :
    msg.mergeFrom source =
      { head := if source.head ≠ 0 then source.head else msg.head
        version := if source.version.length > 0 then source.version else msg.version
        srcId := if source.srcId.length > 0 then source.srcId else msg.srcId
        dstId := if source.dstId.length > 0 then source.dstId else msg.dstId
        ttl := if source.ttl ≠ 0 then source.ttl else msg.ttl
        id := if source.id ≠ 0 then source.id else msg.id
        type := if source.type ≠ 0 then source.type else msg.type
        subType := if source.subType ≠ 0 then source.subType else msg.subType
        length := if source.length ≠ 0 then source.length else msg.length
        body := (msg.mergeBody source.body).body
        unknown := msg.unknown ++ source.unknown } := by
  unfold mergeFrom
  cases source.body <;> rfl

/-- A list goes on from the list that is there. -/
theorem body_mergeFrom {msg source : EbcMsg} {content : EbcNodes}
    (list : source.body = .nodes content) :
    (msg.mergeFrom source).body = .nodes (msg.nodes.mergeFrom content) := by
  rw [mergeFrom_fields, list]
  rfl

/-- Only the bodies tell the two orders apart. -/
private theorem mergeFrom_assoc_body (first second third : EbcMsg) :
    (first.mergeFrom second).mergeFrom third = first.mergeFrom (second.mergeFrom third) ↔
      ((first.mergeFrom second).mergeBody third.body).body =
        (first.mergeBody (second.mergeBody third.body).body).body := by
  rw [mergeFrom_fields (first.mergeFrom second), mergeFrom_fields first (second.mergeFrom third)]
  generalize ((first.mergeFrom second).mergeBody third.body).body = left
  have body : (second.mergeFrom third).body = (second.mergeBody third.body).body := by
    rw [mergeFrom_fields]
  rw [body]
  generalize (first.mergeBody (second.mergeBody third.body).body).body = right
  have numbers := @latest_assoc UInt32 (· ≠ 0) _
  have enums := @latest_assoc Int32 (· ≠ 0) _
  have texts := @latest_assoc Bytes (·.length > 0) _
  simp only [mergeFrom_fields, mk.injEq, numbers, enums, texts, List.append_assoc, true_and,
    and_true]

private theorem mergeFrom_right_iff (list more : EbcNodes) :
    list.mergeFrom more = more ↔ list = {} := by
  obtain ⟨nodes, unknown⟩ := list
  obtain ⟨others, record⟩ := more
  simp [EbcNodes.mergeFrom]

/-- Three messages merge alike from the left and from the right, unless a text comes
between two lists. -/
theorem mergeFrom_assoc_iff (first second third : EbcMsg) :
    (first.mergeFrom second).mergeFrom third = first.mergeFrom (second.mergeFrom third) ↔
      ¬ CutsOff first second third := by
  rw [mergeFrom_assoc_body]
  have merged : (first.mergeFrom second).body = (first.mergeBody second.body).body := by
    rw [mergeFrom_fields]
  unfold CutsOff hasNodes
  cases last : third.body with
  | notSet => simp [mergeBody, merged]
  | msg content => simp [mergeBody, setMsg]
  | nodes content =>
    cases middle : second.body with
    | notSet => simp [mergeBody, mutableNodes, nodes, merged, middle, EbcNodes.mergeFrom]
    | msg text =>
      have left : (first.mergeFrom second).nodes = {} := by
        rw [nodes, merged, middle]
        rfl
      have right : second.nodes = {} := by
        rw [nodes, middle]
      simp only [mergeBody, mutableNodes, left, right, Body.nodes.injEq]
      rw [eq_comm]
      have empty : EbcNodes.mergeFrom {} content = content := rfl
      rw [empty, mergeFrom_right_iff]
      simp
    | nodes list => simp [mergeBody, mutableNodes, nodes, merged, middle, EbcNodes.mergeFrom]

end EbcMsg

end EbcNet.Wire
