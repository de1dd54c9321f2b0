import EbcNet.Wire.Message

/-! The generated merge loops. Each reads a tag, takes the `case` of that tag,
and sets aside the fields that no `case` knows. -/

namespace EbcNet.Wire

/-- One `case` of a merge loop. Its field number and the low byte of the tag that
it compares come to a whole tag. -/
structure Case (Message : Type) where
  tag : UInt32
  read : FieldStream.Reader UInt8 Message

/-- A merge loop: its cases under a recursion budget, and where it sets aside an
unknown field. -/
structure Loop (Message : Type) where
  cases : Nat → List (Case Message)
  setAside : Message → Bytes → Message

section Readers
variable (runtime : Runtime) {Message : Type} (tag : UInt32)

def uint32Case (set : Message → UInt32 → Message) : Case Message where
  tag := tag
  read message input :=
    (runtime.readVarint32 input).map fun (value, rest) => (set message value, rest)

def enumCase (set : Message → Int32 → Message) : Case Message where
  tag := tag
  read message input :=
    (runtime.readEnum input).map fun (value, rest) => (set message value, rest)

def bytesCase (set : Message → Bytes → Message) : Case Message where
  tag := tag
  read message input :=
    (runtime.readBytes input).map fun (value, rest) => (set message value, rest)

def stringCase (set : Message → Bytes → Message) : Case Message where
  tag := tag
  read message input :=
    (runtime.readBytes input).bind fun (value, rest) =>
      if runtime.verifyUtf8String value then some (set message value, rest) else none

def messageCase (merge : Nat → Message → Bytes → Option Message) (budget : Nat) : Case Message where
  tag := tag
  read := runtime.readMessage merge budget

/-- One turn of a merge loop. -/
def Loop.mergeField (loop : Loop Message) (budget : Nat) : FieldStream.Reader UInt8 Message :=
  fun message input =>
    (runtime.readTag input).bind fun (tag, rest) =>
      match (loop.cases budget).find? fun option => option.tag = tag with
      | some option => option.read message rest
      | none =>
        (runtime.skipField budget tag rest).map fun (record, rest) =>
          (loop.setAside message record, rest)

/-- `MergePartialFromCodedStream`, up to the end of the message. -/
def Loop.merge (loop : Loop Message) (budget : Nat) (message : Message) (input : Bytes) :
    Option Message :=
  FieldStream.fill (loop.mergeField runtime budget) message input

end Readers

section Messages
variable (runtime : Runtime)

def EbcNode.loop : Loop EbcNode where
  cases _ := [
    bytesCase runtime 10 fun node id => { node with id },
    uint32Case runtime 16 fun node ip => { node with ip },
    uint32Case runtime 24 fun node portNat => { node with portNat }]
  setAside node record := { node with unknown := node.unknown ++ record }

/-- The list grows by one node, which is then filled from the content. -/
def EbcNodes.mergeNode (budget : Nat) (nodes : EbcNodes) (content : Bytes) : Option EbcNodes :=
  ((EbcNode.loop runtime).merge runtime budget {} content).map fun node =>
    nodes.addEbcnodes fun _ => node

def EbcNodes.loop : Loop EbcNodes where
  cases budget := [messageCase runtime 10 (mergeNode runtime) budget]
  setAside nodes record := { nodes with unknown := nodes.unknown ++ record }

/-- The list that is there, or else a new one, is merged with the content. -/
def EbcMsg.mergeNodes (budget : Nat) (msg : EbcMsg) (content : Bytes) : Option EbcMsg :=
  ((EbcNodes.loop runtime).merge runtime budget msg.nodes content).map fun nodes =>
    msg.mutableNodes fun _ => nodes

def EbcMsg.loop : Loop EbcMsg where
  cases budget := [
    uint32Case runtime 8 fun msg head => { msg with head },
    stringCase runtime 18 fun msg version => { msg with version },
    bytesCase runtime 26 fun msg srcId => { msg with srcId },
    bytesCase runtime 34 fun msg dstId => { msg with dstId },
    uint32Case runtime 40 fun msg ttl => { msg with ttl },
    uint32Case runtime 48 fun msg id => { msg with id },
    enumCase runtime 56 fun msg type => { msg with type },
    enumCase runtime 64 fun msg subType => { msg with subType },
    uint32Case runtime 72 fun msg length => { msg with length },
    bytesCase runtime 82 EbcMsg.setMsg,
    messageCase runtime 90 (mergeNodes runtime) budget]
  setAside msg record := { msg with unknown := msg.unknown ++ record }

/-- `CodedInputStream::GetDefaultRecursionLimit` -/
def defaultRecursionLimit : Nat := 100

/-- `EbcMsg::ParseFromArray`: the message is cleared first and has to take all of
the array. -/
def EbcMsg.parseFromArray (input : Bytes) : Option EbcMsg :=
  (EbcMsg.loop runtime).merge runtime defaultRecursionLimit {} input

end Messages

/-! ### What a read can do -/

section Inversion
variable {runtime : Runtime} {Message : Type} {tag : UInt32} {message next : Message}
variable {input rest : Bytes}

private theorem readVarint32_length {value : UInt32}
    (read : runtime.readVarint32 input = some (value, rest)) :
    varintSize32 value + rest.length ≤ input.length := by
  obtain ⟨⟨wide, tail⟩, varint, same⟩ := Option.map_eq_some_iff.mp read
  cases same
  have shrinks := runtime.varint64.length_le varint
  have narrow : varintSize32 wide.toUInt32 ≤ (writeVarint64 wide).length := by
    rw [varintSize32_eq, writeVarint64, Varint.encode_length, UInt64.toNat_toUInt32]
    exact Varint.size_mono (Nat.mod_le _ _)
  omega

theorem uint32Case_read {set : Message → UInt32 → Message}
    (read : (uint32Case runtime tag set).read message input = some (next, rest)) :
    ∃ value, next = set message value ∧ varintSize32 value + rest.length ≤ input.length := by
  obtain ⟨⟨value, tail⟩, varint, same⟩ := Option.map_eq_some_iff.mp read
  cases same
  exact ⟨value, rfl, readVarint32_length varint⟩

theorem enumCase_read {set : Message → Int32 → Message}
    (read : (enumCase runtime tag set).read message input = some (next, rest)) :
    ∃ value, next = set message value ∧
      varintSize32 value.toUInt32 + rest.length ≤ input.length := by
  obtain ⟨⟨value, tail⟩, enum, same⟩ := Option.map_eq_some_iff.mp read
  cases same
  obtain ⟨⟨bits, tail⟩, varint, same⟩ := Option.map_eq_some_iff.mp enum
  cases same
  exact ⟨bits.toInt32, rfl, by simpa using readVarint32_length varint⟩

theorem bytesCase_read {set : Message → Bytes → Message}
    (read : (bytesCase runtime tag set).read message input = some (next, rest)) :
    ∃ value, next = set message value ∧
      lengthDelimitedSize value.length + rest.length ≤ input.length := by
  obtain ⟨⟨value, tail⟩, bytes, same⟩ := Option.map_eq_some_iff.mp read
  cases same
  have shrinks := runtime.bytes.length_le bytes
  rw [writeLengthDelimited_length] at shrinks
  exact ⟨value, rfl, shrinks⟩

theorem stringCase_read {set : Message → Bytes → Message}
    (read : (stringCase runtime tag set).read message input = some (next, rest)) :
    ∃ value, next = set message value ∧ runtime.verifyUtf8String value = true ∧
      lengthDelimitedSize value.length + rest.length ≤ input.length := by
  obtain ⟨⟨value, tail⟩, bytes, checked⟩ := Option.bind_eq_some_iff.mp read
  have shrinks := runtime.bytes.length_le bytes
  rw [writeLengthDelimited_length] at shrinks
  by_cases valid : runtime.verifyUtf8String value = true
  · simp only [valid, if_true, Option.some.injEq, Prod.mk.injEq] at checked
    obtain ⟨rfl, rfl⟩ := checked
    exact ⟨value, rfl, valid, shrinks⟩
  · simp [valid] at checked

theorem messageCase_read {merge : Nat → Message → Bytes → Option Message} {budget : Nat}
    (read : (messageCase runtime tag merge budget).read message input = some (next, rest)) :
    ∃ inner content, budget = inner + 1 ∧ merge inner message content = some next ∧
      lengthDelimitedSize content.length + rest.length ≤ input.length := by
  obtain ⟨⟨length, tail⟩, size, nested⟩ := Option.bind_eq_some_iff.mp read
  obtain ⟨⟨wide, start⟩, varint, bounded⟩ := Option.bind_eq_some_iff.mp size
  cases budget with
  | zero => simp at nested
  | succ inner =>
    obtain ⟨merged, done, same⟩ := Option.map_eq_some_iff.mp nested
    cases same
    by_cases small : wide.toNat ≤ intMax
    · simp only [small, if_true, Option.some.injEq, Prod.mk.injEq] at bounded
      obtain ⟨rfl, rfl⟩ := bounded
      refine ⟨inner, start.take wide.toNat, rfl, done, ?_⟩
      have shrinks := runtime.varint64.length_le varint
      have counted : varintSize32 (UInt32.ofNat (start.take wide.toNat).length) ≤
          (writeVarint64 wide).length := by
        rw [varintSize32_eq, writeVarint64, Varint.encode_length]
        apply Varint.size_mono
        rw [UInt32.toNat_ofNat', List.length_take]
        exact Nat.le_trans (Nat.mod_le _ _) (Nat.min_le_left _ _)
      rw [lengthDelimitedSize]
      simp only [List.length_take, List.length_drop] at counted ⊢
      omega
    · simp [small] at bounded

theorem readTag_length (read : runtime.readTag input = some (tag, rest)) :
    tag ≠ 0 ∧ varintSize32 tag + rest.length ≤ input.length := by
  obtain ⟨⟨value, tail⟩, varint, nonzero⟩ := Option.bind_eq_some_iff.mp read
  by_cases zero : value = 0
  · simp [zero] at nonzero
  · simp only [zero, if_false, Option.some.injEq, Prod.mk.injEq] at nonzero
    obtain ⟨rfl, rfl⟩ := nonzero
    exact ⟨zero, readVarint32_length varint⟩

/-- A turn of a loop takes the `case` of the tag or sets aside an unknown field. -/
theorem Loop.mergeField_cases {loop : Loop Message} {budget : Nat}
    (read : loop.mergeField runtime budget message input = some (next, rest)) :
    ∃ tag body, runtime.readTag input = some (tag, body) ∧
      ((∃ option ∈ loop.cases budget, option.tag = tag ∧
          option.read message body = some (next, rest)) ∨
        (∀ option ∈ loop.cases budget, option.tag ≠ tag) ∧
          ∃ record, runtime.skipField budget tag body = some (record, rest) ∧
            next = loop.setAside message record) := by
  obtain ⟨⟨tag, body⟩, tagged, turn⟩ := Option.bind_eq_some_iff.mp read
  refine ⟨tag, body, tagged, ?_⟩
  dsimp only at turn
  cases found : (loop.cases budget).find? fun option => option.tag = tag with
  | some option =>
    rw [found] at turn
    refine Or.inl ⟨option, List.mem_of_find?_eq_some found, ?_, turn⟩
    simpa using List.find?_some found
  | none =>
    rw [found] at turn
    obtain ⟨⟨record, tail⟩, skipped, same⟩ := Option.map_eq_some_iff.mp turn
    cases same
    refine Or.inr ⟨?_, record, skipped, rfl⟩
    simpa using List.find?_eq_none.mp found

/-- A `case` that never lengthens the input. -/
def Case.Shrinks (option : Case Message) : Prop :=
  ∀ {message next input rest}, option.read message input = some (next, rest) →
    rest.length ≤ input.length

@[simp] theorem uint32Case_shrinks {set : Message → UInt32 → Message} :
    (uint32Case runtime tag set).Shrinks := by
  intro message next input rest read
  obtain ⟨_, _, length⟩ := uint32Case_read read
  omega

@[simp] theorem enumCase_shrinks {set : Message → Int32 → Message} :
    (enumCase runtime tag set).Shrinks := by
  intro message next input rest read
  obtain ⟨_, _, length⟩ := enumCase_read read
  omega

@[simp] theorem bytesCase_shrinks {set : Message → Bytes → Message} :
    (bytesCase runtime tag set).Shrinks := by
  intro message next input rest read
  obtain ⟨_, _, length⟩ := bytesCase_read read
  omega

@[simp] theorem stringCase_shrinks {set : Message → Bytes → Message} :
    (stringCase runtime tag set).Shrinks := by
  intro message next input rest read
  obtain ⟨_, _, _, length⟩ := stringCase_read read
  omega

@[simp] theorem messageCase_shrinks {merge : Nat → Message → Bytes → Option Message}
    {budget : Nat} : (messageCase runtime tag merge budget).Shrinks := by
  intro message next input rest read
  obtain ⟨_, _, _, _, length⟩ := messageCase_read read
  omega

/-- A loop whose cases never lengthen the input gets through it. -/
theorem Loop.progress {loop : Loop Message} {budget : Nat}
    (shrinks : ∀ option ∈ loop.cases budget, option.Shrinks) :
    FieldStream.Progress (loop.mergeField runtime budget) := by
  intro message input next rest read
  obtain ⟨tag, body, tagged, taken⟩ := loop.mergeField_cases read
  have tagLength := (readTag_length tagged).2
  have tagPositive := varintSize32_pos tag
  have bodyLength : rest.length ≤ body.length := by
    rcases taken with ⟨option, member, _, read⟩ | ⟨_, record, skipped, _⟩
    · exact shrinks option member read
    · obtain ⟨used, _, split, _⟩ := runtime.skipped skipped
      rw [split, List.length_append]
      omega
  omega

end Inversion

theorem EbcNode.loop_progress (runtime : Runtime) (budget : Nat) :
    FieldStream.Progress ((EbcNode.loop runtime).mergeField runtime budget) := by
  apply Loop.progress
  simp [loop]

theorem EbcNodes.loop_progress (runtime : Runtime) (budget : Nat) :
    FieldStream.Progress ((EbcNodes.loop runtime).mergeField runtime budget) := by
  apply Loop.progress
  simp [loop]

theorem EbcMsg.loop_progress (runtime : Runtime) (budget : Nat) :
    FieldStream.Progress ((EbcMsg.loop runtime).mergeField runtime budget) := by
  apply Loop.progress
  simp [loop]

end EbcNet.Wire
