import EbcNet.Wire.RoundTrip

/-! What a parse accepts: the message can be written and read again, and it is
not larger than the bytes it was read from. -/

namespace EbcNet.Wire

section Rules
variable {runtime : Runtime} {Message : Type} {loop : Loop Message} {budget : Nat}
variable {message final : Message} {input : Bytes}

/-- What every `case` and every unknown field preserves, a merge preserves. -/
theorem Loop.merge_preserves (Holds : Message → Prop)
    (known : ∀ option ∈ loop.cases budget, ∀ {message next input rest}, Holds message →
      option.read message input = some (next, rest) → Holds next)
    (aside : ∀ {message record}, Holds message → loop.Replays runtime budget record →
      Holds (loop.setAside message record))
    (start : Holds message) (merged : loop.merge runtime budget message input = some final) :
    Holds final := by
  apply FieldStream.fill_preserves Holds _ start merged
  intro message next input rest holds read
  obtain ⟨tag, body, tagged, taken⟩ := loop.mergeField_cases read
  rcases taken with ⟨option, member, _, read⟩ | ⟨unknownTag, record, skipped, rfl⟩
  · exact known option member holds read
  · exact aside holds (.skipped unknownTag (readTag_length tagged).1 skipped)

/-- What no `case` and no unknown field makes heavier than the bytes it takes
weighs no more than the input after a merge. A tag takes at least one byte. -/
theorem Loop.merge_weight (weight : Message → Nat)
    (known : ∀ option ∈ loop.cases budget, ∀ {message next input rest},
      weight message + input.length ≤ intMax → option.read message input = some (next, rest) →
        weight next + rest.length ≤ weight message + 1 + input.length)
    (aside : ∀ message record, weight (loop.setAside message record) ≤
      weight message + record.length)
    (light : weight message + input.length ≤ intMax)
    (merged : loop.merge runtime budget message input = some final) :
    weight final ≤ weight message + input.length := by
  apply FieldStream.fill_weight weight _ light merged
  intro message next input rest light read
  obtain ⟨tag, body, tagged, taken⟩ := loop.mergeField_cases read
  have tagLength := (readTag_length tagged).2
  have tagPositive := varintSize32_pos tag
  rcases taken with ⟨option, member, _, read⟩ | ⟨_, record, skipped, rfl⟩
  · have heavier := known option member (by omega) read
    omega
  · obtain ⟨used, value, split, recorded, shorter, _, _⟩ := runtime.skipped skipped
    have heavier := aside message record
    rw [recorded] at heavier ⊢
    rw [List.length_append, writeVarint32_length] at heavier
    rw [split, List.length_append] at tagLength
    omega

end Rules

section Valid
variable {runtime : Runtime}

theorem EbcNode.Valid.empty : EbcNode.Valid runtime {} :=
  Loop.Replays.nil

theorem EbcNode.merge_valid {node : EbcNode} {input : Bytes}
    (merged : (EbcNode.loop runtime).merge runtime (defaultRecursionLimit - 2) {} input =
      some node) : node.Valid runtime := by
  apply Loop.merge_preserves (EbcNode.Valid runtime) _ _ EbcNode.Valid.empty merged
  · intro option member node next input rest valid read
    simp only [loop, List.mem_cons, List.not_mem_nil, or_false] at member
    rcases member with rfl | rfl | rfl
    · obtain ⟨_, rfl, _⟩ := bytesCase_read read
      exact valid
    · obtain ⟨_, rfl, _⟩ := uint32Case_read read
      exact valid
    · obtain ⟨_, rfl, _⟩ := uint32Case_read read
      exact valid
  · intro node record valid replays
    exact Loop.Replays.append valid replays

theorem EbcNodes.merge_valid {nodes final : EbcNodes} {input : Bytes} (start : nodes.Valid runtime)
    (merged : (EbcNodes.loop runtime).merge runtime (defaultRecursionLimit - 1) nodes input =
      some final) : final.Valid runtime := by
  apply Loop.merge_preserves (EbcNodes.Valid runtime) _ _ start merged
  · intro option member nodes next input rest valid read
    simp only [loop, List.mem_cons, List.not_mem_nil, or_false] at member
    subst member
    obtain ⟨inner, content, depth, mergedNode, _⟩ := messageCase_read read
    obtain rfl : inner = defaultRecursionLimit - 2 := by
      unfold defaultRecursionLimit at depth ⊢
      omega
    obtain ⟨node, parsed, rfl⟩ := Option.map_eq_some_iff.mp mergedNode
    refine ⟨?_, valid.unknown⟩
    intro other member
    rcases List.mem_append.mp member with member | member
    · exact valid.each other member
    · rw [List.mem_singleton.mp member]
      exact EbcNode.merge_valid parsed
  · intro nodes record valid replays
    exact ⟨valid.each, valid.unknown.append replays⟩

theorem EbcNodes.Valid.empty : EbcNodes.Valid runtime {} :=
  ⟨by simp, .nil⟩

theorem EbcMsg.Valid.nodes {msg : EbcMsg} (valid : msg.Valid runtime) :
    msg.nodes.Valid runtime := by
  have body := valid.body
  unfold EbcMsg.nodes
  cases kind : msg.body with
  | notSet => exact .empty
  | msg => exact .empty
  | nodes content =>
    rw [kind] at body
    exact body

theorem EbcMsg.Valid.empty : EbcMsg.Valid runtime {} :=
  ⟨runtime.ascii (by simp), trivial, .nil⟩

/-- Every message that is parsed can be written and read again. -/
theorem EbcMsg.parse_valid {msg : EbcMsg} {input : Bytes}
    (parsed : EbcMsg.parseFromArray runtime input = some msg) : msg.Valid runtime := by
  apply Loop.merge_preserves (EbcMsg.Valid runtime) _ _ EbcMsg.Valid.empty parsed
  · intro option member msg next input rest valid read
    have keep : ∀ {other : EbcMsg}, other.version = msg.version → other.body = msg.body →
        other.unknown = msg.unknown → other.Valid runtime := by
      intro other version body unknown
      exact ⟨by rw [version]; exact valid.version, by rw [body]; exact valid.body,
        by rw [unknown]; exact valid.unknown⟩
    simp only [loop, List.mem_cons, List.not_mem_nil, or_false] at member
    rcases member with rfl | rfl | rfl | rfl | rfl | rfl | rfl | rfl | rfl | rfl | rfl
    · obtain ⟨_, rfl, _⟩ := uint32Case_read read
      exact keep rfl rfl rfl
    · obtain ⟨_, rfl, checked, _⟩ := stringCase_read read
      exact ⟨checked, valid.body, valid.unknown⟩
    · obtain ⟨_, rfl, _⟩ := bytesCase_read read
      exact keep rfl rfl rfl
    · obtain ⟨_, rfl, _⟩ := bytesCase_read read
      exact keep rfl rfl rfl
    · obtain ⟨_, rfl, _⟩ := uint32Case_read read
      exact keep rfl rfl rfl
    · obtain ⟨_, rfl, _⟩ := uint32Case_read read
      exact keep rfl rfl rfl
    · obtain ⟨_, rfl, _⟩ := enumCase_read read
      exact keep rfl rfl rfl
    · obtain ⟨_, rfl, _⟩ := enumCase_read read
      exact keep rfl rfl rfl
    · obtain ⟨_, rfl, _⟩ := uint32Case_read read
      exact keep rfl rfl rfl
    · obtain ⟨_, rfl, _⟩ := bytesCase_read read
      exact ⟨valid.version, trivial, valid.unknown⟩
    · obtain ⟨inner, content, depth, mergedNodes, _⟩ := messageCase_read read
      obtain rfl : inner = defaultRecursionLimit - 1 := by
        omega
      obtain ⟨nodes, parsed, rfl⟩ := Option.map_eq_some_iff.mp mergedNodes
      exact ⟨valid.version, EbcNodes.merge_valid valid.nodes parsed, valid.unknown⟩
  · intro msg record valid replays
    exact ⟨valid.version, valid.body, valid.unknown.append replays⟩

end Valid

/-! ### Weight -/

section Weight
variable {runtime : Runtime}

private theorem unknownFields_append (runtime : Runtime) (unknown record : Bytes) :
    (runtime.unknownFields (unknown ++ record)).length ≤
      (runtime.unknownFields unknown).length + record.length := by
  unfold Runtime.unknownFields
  split <;> simp

private theorem ite_le (condition : Prop) [Decidable condition] (size : Nat) :
    (if condition then size else 0) ≤ size := by
  split <;> omega

theorem lengthDelimitedSize_mono {small large : Nat} (le : small ≤ large) (fits : large ≤ intMax) :
    lengthDelimitedSize small ≤ lengthDelimitedSize large := by
  have counted : varintSize32 (UInt32.ofNat small) ≤ varintSize32 (UInt32.ofNat large) := by
    rw [varintSize32_eq, varintSize32_eq, UInt32.toNat_ofNat', UInt32.toNat_ofNat']
    unfold intMax at fits
    rw [Nat.mod_eq_of_lt (by omega), Nat.mod_eq_of_lt (by omega)]
    exact Varint.size_mono le
  unfold lengthDelimitedSize
  omega

theorem EbcNode.merge_length {node : EbcNode} {input : Bytes} {budget : Nat}
    (short : input.length ≤ intMax)
    (merged : (EbcNode.loop runtime).merge runtime budget {} input = some node) :
    node.byteSizeLong runtime ≤ input.length := by
  have empty : EbcNode.byteSizeLong runtime {} = 0 := by
    simp [byteSizeLong, Runtime.unknownFields]
  have weight := Loop.merge_weight (EbcNode.byteSizeLong runtime) ?_ ?_ (by omega) merged
  · omega
  · intro option member node next input rest _ read
    simp only [loop, List.mem_cons, List.not_mem_nil, or_false] at member
    rcases member with rfl | rfl | rfl
    · obtain ⟨id, rfl, length⟩ := bytesCase_read read
      have added := ite_le (id.length > 0) (1 + lengthDelimitedSize id.length)
      simp only [byteSizeLong]
      omega
    · obtain ⟨ip, rfl, length⟩ := uint32Case_read read
      have added := ite_le (ip ≠ 0) (1 + varintSize32 ip)
      simp only [byteSizeLong]
      omega
    · obtain ⟨portNat, rfl, length⟩ := uint32Case_read read
      have added := ite_le (portNat ≠ 0) (1 + varintSize32 portNat)
      simp only [byteSizeLong]
      omega
  · intro node record
    have added := unknownFields_append runtime node.unknown record
    dsimp only [byteSizeLong, loop]
    omega

theorem EbcNodes.merge_length {nodes final : EbcNodes} {input : Bytes} {budget : Nat}
    (short : nodes.byteSizeLong runtime + input.length ≤ intMax)
    (merged : (EbcNodes.loop runtime).merge runtime budget nodes input = some final) :
    final.byteSizeLong runtime ≤ nodes.byteSizeLong runtime + input.length := by
  apply Loop.merge_weight (EbcNodes.byteSizeLong runtime) _ _ short merged
  · intro option member nodes next input rest short read
    simp only [loop, List.mem_cons, List.not_mem_nil, or_false] at member
    subst member
    obtain ⟨inner, content, depth, mergedNode, length⟩ := messageCase_read read
    obtain ⟨node, parsed, rfl⟩ := Option.map_eq_some_iff.mp mergedNode
    have contentShort : content.length ≤ intMax := by
      unfold lengthDelimitedSize at length
      omega
    have nested := lengthDelimitedSize_mono (EbcNode.merge_length contentShort parsed) contentShort
    simp only [byteSizeLong, addEbcnodes, List.map_append, List.sum_append, List.map_cons,
      List.map_nil, List.sum_singleton]
    omega
  · intro nodes record
    have added := unknownFields_append runtime nodes.unknown record
    dsimp only [byteSizeLong, loop]
    omega

theorem lengthDelimitedSize_add {left right : Nat} (fits : left + right ≤ intMax) :
    lengthDelimitedSize (left + right) ≤ lengthDelimitedSize left + lengthDelimitedSize right := by
  have counted := Varint.size_add_le left right
  unfold lengthDelimitedSize
  simp only [varintSize32_eq, UInt32.toNat_ofNat']
  unfold intMax at fits
  rw [Nat.mod_eq_of_lt (by omega), Nat.mod_eq_of_lt (by omega), Nat.mod_eq_of_lt (by omega)]
  omega

variable (runtime) in
/-- The fewest bytes a message can be read from. It is the size as written, save
that a negative enumerator is also read from the five bytes of its bits. -/
def EbcMsg.shortestLength (msg : EbcMsg) : Nat :=
  ({ msg with type := 0, subType := 0 } : EbcMsg).byteSizeLong runtime +
  (if msg.type ≠ 0 then 1 + varintSize32 msg.type.toUInt32 else 0) +
  (if msg.subType ≠ 0 then 1 + varintSize32 msg.subType.toUInt32 else 0)

theorem EbcMsg.shortestLength_eq {msg : EbcMsg} (type : ¬ msg.type < 0)
    (subType : ¬ msg.subType < 0) : msg.shortestLength runtime = msg.byteSizeLong runtime := by
  have absent : ∀ size, (if (0 : Int32) ≠ 0 then size else 0) = 0 := fun _ => rfl
  simp only [shortestLength, byteSizeLong, varintSize32SignExtended, type, subType, if_false, absent]
  omega

private theorem EbcMsg.shortestLength_body (runtime : Runtime) (msg : EbcMsg) (body : Body) :
    ({ msg with body } : EbcMsg).shortestLength runtime + msg.body.byteSizeLong runtime =
      msg.shortestLength runtime + body.byteSizeLong runtime := by
  dsimp only [shortestLength, byteSizeLong]
  omega

theorem EbcNodes.byteSizeLong_empty : EbcNodes.byteSizeLong runtime {} = 0 := by
  simp [byteSizeLong, Runtime.unknownFields]

/-- Merging into the list of a body costs no more than the content and its length. -/
private theorem nodes_weight {msg : EbcMsg} {nodes : EbcNodes} {content : Bytes}
    (short : msg.body.byteSizeLong runtime + content.length ≤ intMax)
    (light : nodes.byteSizeLong runtime ≤ msg.nodes.byteSizeLong runtime + content.length) :
    (Body.nodes nodes).byteSizeLong runtime ≤
      msg.body.byteSizeLong runtime + 1 + lengthDelimitedSize content.length := by
  have fresh : msg.nodes = {} → (Body.nodes nodes).byteSizeLong runtime ≤
      msg.body.byteSizeLong runtime + 1 + lengthDelimitedSize content.length := by
    intro empty
    rw [empty, EbcNodes.byteSizeLong_empty, Nat.zero_add] at light
    have grown := lengthDelimitedSize_mono light (by omega)
    simp only [Body.byteSizeLong]
    omega
  cases kind : msg.body with
  | notSet => simpa [kind] using fresh (by simp [EbcMsg.nodes, kind])
  | msg old => simpa [kind] using fresh (by simp [EbcMsg.nodes, kind])
  | nodes old =>
    simp only [kind, Body.byteSizeLong, EbcMsg.nodes] at short light ⊢
    have total : old.byteSizeLong runtime + content.length ≤ intMax := by
      unfold lengthDelimitedSize at short
      omega
    have grown := lengthDelimitedSize_mono light total
    have split := lengthDelimitedSize_add total
    omega

private theorem nodes_le_body (msg : EbcMsg) :
    msg.nodes.byteSizeLong runtime ≤ msg.body.byteSizeLong runtime := by
  unfold EbcMsg.nodes
  cases msg.body with
  | notSet => simp [EbcNodes.byteSizeLong_empty]
  | msg old => simp [EbcNodes.byteSizeLong_empty]
  | nodes old =>
    simp only [Body.byteSizeLong, lengthDelimitedSize]
    omega

/-- A message that is parsed is not larger than the bytes it was read from. -/
theorem EbcMsg.parse_length {msg : EbcMsg} {input : Bytes} (short : input.length ≤ intMax)
    (parsed : EbcMsg.parseFromArray runtime input = some msg) :
    msg.shortestLength runtime ≤ input.length := by
  have empty : EbcMsg.shortestLength runtime {} = 0 := by
    simp [shortestLength, byteSizeLong, Body.byteSizeLong, Runtime.unknownFields]
  have weight := Loop.merge_weight (EbcMsg.shortestLength runtime) ?_ ?_ (by omega) parsed
  · omega
  · intro option member msg next input rest light read
    simp only [loop, List.mem_cons, List.not_mem_nil, or_false] at member
    rcases member with rfl | rfl | rfl | rfl | rfl | rfl | rfl | rfl | rfl | rfl | rfl
    · obtain ⟨head, rfl, bytes⟩ := uint32Case_read read
      have added := ite_le (head ≠ 0) (1 + varintSize32 head)
      simp only [shortestLength, byteSizeLong]
      omega
    · obtain ⟨version, rfl, _, bytes⟩ := stringCase_read read
      have added := ite_le (version.length > 0) (1 + lengthDelimitedSize version.length)
      simp only [shortestLength, byteSizeLong]
      omega
    · obtain ⟨srcId, rfl, bytes⟩ := bytesCase_read read
      have added := ite_le (srcId.length > 0) (1 + lengthDelimitedSize srcId.length)
      simp only [shortestLength, byteSizeLong]
      omega
    · obtain ⟨dstId, rfl, bytes⟩ := bytesCase_read read
      have added := ite_le (dstId.length > 0) (1 + lengthDelimitedSize dstId.length)
      simp only [shortestLength, byteSizeLong]
      omega
    · obtain ⟨ttl, rfl, bytes⟩ := uint32Case_read read
      have added := ite_le (ttl ≠ 0) (1 + varintSize32 ttl)
      simp only [shortestLength, byteSizeLong]
      omega
    · obtain ⟨id, rfl, bytes⟩ := uint32Case_read read
      have added := ite_le (id ≠ 0) (1 + varintSize32 id)
      simp only [shortestLength, byteSizeLong]
      omega
    · obtain ⟨type, rfl, bytes⟩ := enumCase_read read
      have added := ite_le (type ≠ 0) (1 + varintSize32 type.toUInt32)
      simp only [shortestLength, byteSizeLong]
      omega
    · obtain ⟨subType, rfl, bytes⟩ := enumCase_read read
      have added := ite_le (subType ≠ 0) (1 + varintSize32 subType.toUInt32)
      simp only [shortestLength, byteSizeLong]
      omega
    · obtain ⟨count, rfl, bytes⟩ := uint32Case_read read
      have added := ite_le (count ≠ 0) (1 + varintSize32 count)
      simp only [shortestLength, byteSizeLong]
      omega
    · obtain ⟨content, rfl, bytes⟩ := bytesCase_read read
      have replaced := msg.shortestLength_body runtime (.msg content)
      have size : (Body.msg content).byteSizeLong runtime =
        1 + lengthDelimitedSize content.length := rfl
      unfold setMsg
      omega
    · obtain ⟨inner, content, depth, mergedNodes, bytes⟩ := messageCase_read read
      obtain ⟨nodes, merged, rfl⟩ := Option.map_eq_some_iff.mp mergedNodes
      have replaced := msg.shortestLength_body runtime (.nodes nodes)
      have bodyLight : msg.body.byteSizeLong runtime ≤ msg.shortestLength runtime := by
        dsimp only [shortestLength, byteSizeLong]
        omega
      have contentLight : content.length ≤ input.length := by
        unfold lengthDelimitedSize at bytes
        omega
      have mergedLength := EbcNodes.merge_length
        (Nat.le_trans (Nat.add_le_add (nodes_le_body msg) contentLight) (by omega)) merged
      have nested := nodes_weight (by omega) mergedLength
      dsimp only [mutableNodes]
      omega
  · intro msg record
    have added := unknownFields_append runtime msg.unknown record
    dsimp only [shortestLength, byteSizeLong, loop]
    omega

end Weight

end EbcNet.Wire
