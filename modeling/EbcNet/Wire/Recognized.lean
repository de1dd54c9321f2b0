import EbcNet.Wire.Declared
import Mathlib.Data.List.Nodup

/-! The merge loops read what the declarations spell: a message is parsed from bytes when
they spell its fields, and from no others. -/

namespace EbcNet.Wire

open List (Forall₂)

section Loops
variable {runtime : Runtime} {Message Field Content : Type} {budget : Nat}
variable {loop : Loop Message} {declaration : Declaration Field}

/-- A `case` is that of a declared field: it compares the field's tag, and stores just
the values of its kind. -/
structure Case.Reads (option : Case Message) (field : Declared Field)
    (store : Message → Field → Message) : Prop where
  tag : option.tag = field.tag
  read : ∀ message input next rest, option.read message input = some (next, rest) ↔
    ∃ first, field.Value input first rest ∧ next = store message first

variable {store : Message → Field → Message} {tag number : UInt32}

/-- A `case` that reads a value in one piece and stores it. -/
private theorem valueField_reads {Value : Type} {read : Bytes → Option (Value × Bytes)}
    {set : Message → Value → Message} {field : Value → Field} {wireType : UInt32}
    (same : tag = makeTag number wireType)
    (stores : ∀ message value, set message value = store message (field value)) :
    Case.Reads
      ⟨tag, fun message input =>
        (read input).map fun (value, rest) => (set message value, rest)⟩
      (valueField number wireType read field) store := by
  refine ⟨same, fun message input next rest => ?_⟩
  constructor
  · intro done
    obtain ⟨⟨value, tail⟩, found, same⟩ := Option.map_eq_some_iff.mp done
    cases same
    exact ⟨field value, ⟨value, found, rfl⟩, stores message value⟩
  · rintro ⟨_, ⟨value, found, rfl⟩, rfl⟩
    simp only [found, ← stores, Option.map_some]

theorem uint32Case_reads {set : Message → UInt32 → Message} {field : UInt32 → Field}
    (same : tag = makeTag number wireTypeVarint)
    (stores : ∀ message value, set message value = store message (field value)) :
    (uint32Case runtime tag set).Reads (uint32Field runtime number field) store :=
  valueField_reads same stores

theorem enumCase_reads {set : Message → Int32 → Message} {field : Int32 → Field}
    (same : tag = makeTag number wireTypeVarint)
    (stores : ∀ message value, set message value = store message (field value)) :
    (enumCase runtime tag set).Reads (enumField runtime number field) store :=
  valueField_reads same stores

theorem bytesCase_reads {set : Message → Bytes → Message} {field : Bytes → Field}
    (same : tag = makeTag number wireTypeLengthDelimited)
    (stores : ∀ message value, set message value = store message (field value)) :
    (bytesCase runtime tag set).Reads (bytesField runtime number field) store :=
  valueField_reads same stores

theorem stringCase_reads {set : Message → Bytes → Message} {field : Bytes → Field}
    (same : tag = makeTag number wireTypeLengthDelimited)
    (stores : ∀ message value, set message value = store message (field value)) :
    (stringCase runtime tag set).Reads (stringField runtime number field) store := by
  refine ⟨same, fun message input next rest => ?_⟩
  constructor
  · intro done
    obtain ⟨⟨value, tail⟩, found, checked⟩ := Option.bind_eq_some_iff.mp done
    dsimp only at checked
    split at checked
    · cases checked
      exact ⟨field value, ⟨value, found, ‹_›, rfl⟩, stores message value⟩
    · cases checked
  · rintro ⟨_, ⟨value, found, valid, rfl⟩, rfl⟩
    simp [stringCase, found, valid, stores]

theorem messageCase_reads {merge : Nat → Message → Bytes → Option Message}
    {spells : Nat → Bytes → Content → Prop} {field : Content → Field}
    (same : tag = makeTag number wireTypeLengthDelimited)
    (merges : ∀ inner message content next, merge inner message content = some next ↔
      ∃ value, spells inner content value ∧ next = store message (field value)) :
    (messageCase runtime tag merge budget).Reads
      (messageField runtime number spells budget field) store := by
  refine ⟨same, fun message input next rest => ?_⟩
  constructor
  · intro done
    obtain ⟨⟨length, start⟩, size, nested⟩ := Option.bind_eq_some_iff.mp done
    cases budget with
    | zero => simp at nested
    | succ inner =>
      obtain ⟨merged, filled, same⟩ := Option.map_eq_some_iff.mp nested
      cases same
      obtain ⟨content, spelled, rfl⟩ := (merges _ _ _ _).mp filled
      exact ⟨_, ⟨inner, length, start, content, rfl, size, spelled, rfl, rfl⟩, rfl⟩
  · rintro ⟨_, ⟨inner, length, start, content, rfl, size, spelled, rfl, rfl⟩, rfl⟩
    have merged := (merges inner message _ _).mpr ⟨content, spelled, rfl⟩
    simp [messageCase, Runtime.readMessage, size, merged]

/-- A merge loop has one `case` for every declared field, and keeps all other fields. -/
structure Loop.Reads (loop : Loop Message) (declaration : Declaration Field) (budget : Nat)
    (store : Message → Field → Message) : Prop where
  cases : Forall₂ (fun option field => option.Reads field store) (loop.cases budget)
    (declaration.fields budget)
  distinct : ((loop.cases budget).map Case.tag).Nodup
  unknown : ∀ message record,
    loop.setAside message record = store message (declaration.unknown record)

private theorem related_left {Left Right : Type} {Related : Left → Right → Prop}
    {left : List Left} {right : List Right} (related : Forall₂ Related left right) :
    ∀ one ∈ left, ∃ other ∈ right, Related one other := by
  induction related with
  | nil => simp
  | cons here _ ih =>
    intro one member
    rcases List.mem_cons.mp member with rfl | member
    · exact ⟨_, List.mem_cons_self, here⟩
    · obtain ⟨other, later, found⟩ := ih one member
      exact ⟨other, List.mem_cons_of_mem _ later, found⟩

/-- No other `case` has the tag. -/
private theorem Loop.Reads.find (reads : loop.Reads declaration budget store)
    {option : Case Message} (member : option ∈ loop.cases budget) :
    (loop.cases budget).find? (fun other => other.tag = option.tag) = some option := by
  have found : ((loop.cases budget).find? fun other => other.tag = option.tag).isSome = true := by
    rw [List.find?_isSome]
    exact ⟨option, member, by simp⟩
  obtain ⟨other, first⟩ := Option.isSome_iff_exists.mp found
  have same : other.tag = option.tag := by simpa using List.find?_some first
  rw [first, List.inj_on_of_nodup_map reads.distinct (List.mem_of_find?_eq_some first) member same]

/-- A turn of the loop takes just the declared fields, and those that are skipped. -/
theorem Loop.Reads.follows (reads : loop.Reads declaration budget store) :
    FieldStream.Follows (loop.mergeField runtime budget) (declaration.Starts runtime budget)
      store := by
  intro message input next rest
  constructor
  · intro read
    obtain ⟨tag, body, tagged, turn⟩ := loop.mergeField_cases read
    rcases turn with ⟨option, member, rfl, read⟩ | ⟨others, record, skipped, rfl⟩
    · obtain ⟨field, declared, takes⟩ := related_left reads.cases option member
      obtain ⟨first, value, rfl⟩ := (takes.read _ _ _ _).mp read
      exact ⟨first, ⟨_, body, tagged, Or.inl ⟨field, declared, takes.tag.symm, value⟩⟩, rfl⟩
    · refine ⟨declaration.unknown record, ⟨tag, body, tagged, Or.inr ⟨?_, record, skipped, rfl⟩⟩,
        reads.unknown message record⟩
      intro field declared same
      obtain ⟨option, member, takes⟩ := related_left reads.cases.flip field declared
      exact others option member (takes.tag.trans same)
  · rintro ⟨first, ⟨tag, body, tagged, starts⟩, rfl⟩
    rw [Loop.mergeField, tagged, Option.bind_some]
    dsimp only
    rcases starts with ⟨field, declared, rfl, value⟩ | ⟨others, record, skipped, rfl⟩
    · obtain ⟨option, member, takes⟩ := related_left reads.cases.flip field declared
      rw [← takes.tag, reads.find member]
      exact (takes.read _ _ _ _).mpr ⟨first, value, rfl⟩
    · have none : (loop.cases budget).find? (fun option => option.tag = tag) = none := by
        rw [List.find?_eq_none]
        intro option member
        obtain ⟨field, declared, takes⟩ := related_left reads.cases option member
        simpa [takes.tag] using others field declared
      rw [none]
      dsimp only
      rw [skipped, Option.map_some, reads.unknown]

theorem Loop.Reads.merge_iff (reads : loop.Reads declaration budget store)
    (progress : FieldStream.Progress (loop.mergeField runtime budget)) {message next : Message}
    {input : Bytes} :
    loop.merge runtime budget message input = some next ↔
      ∃ fields, declaration.Spells runtime budget input fields ∧
        next = fields.foldl store message :=
  reads.follows.fill_iff progress

end Loops

/-! ### The three messages -/

section Messages
variable (runtime : Runtime) (budget : Nat)

/-- A nested message: what the enclosing one makes of the content that is spelled. -/
private theorem map_spelled_iff {Inner Outer Content : Type} {merged : Option Inner}
    {spelled : Content → Prop} {meaning : Content → Inner} {next : Outer}
    (merge : ∀ inner, merged = some inner ↔ ∃ content, spelled content ∧ inner = meaning content)
    (change : Inner → Outer) :
    merged.map change = some next ↔
      ∃ content, spelled content ∧ next = change (meaning content) := by
  rw [Option.map_eq_some_iff]
  simp only [merge]
  constructor
  · rintro ⟨_, ⟨content, spelled, rfl⟩, rfl⟩
    exact ⟨content, spelled, rfl⟩
  · rintro ⟨content, spelled, rfl⟩
    exact ⟨_, ⟨content, spelled, rfl⟩, rfl⟩

theorem EbcNode.loop_reads :
    (EbcNode.loop runtime).Reads (EbcNode.declaration runtime) budget store where
  cases :=
    .cons (bytesCase_reads rfl fun _ _ => rfl) <|
    .cons (uint32Case_reads rfl fun _ _ => rfl) <|
    .cons (uint32Case_reads rfl fun _ _ => rfl) .nil
  distinct := show [10, 16, 24].Nodup by decide
  unknown _ _ := rfl

/-- The bytes of a node, as its list reads them. -/
theorem EbcNode.merge_iff {input : Bytes} {node : EbcNode} :
    (EbcNode.loop runtime).merge runtime budget {} input = some node ↔
      ∃ fields, (EbcNode.declaration runtime).Spells runtime budget input fields ∧
        node = ofFields fields := by
  rw [(EbcNode.loop_reads runtime budget).merge_iff (EbcNode.loop_progress runtime budget)]
  simp only [EbcNode.foldl_store]

theorem EbcNodes.mergeNode_iff {nodes next : EbcNodes} {content : Bytes} :
    mergeNode runtime budget nodes content = some next ↔
      ∃ fields, (EbcNode.declaration runtime).Spells runtime budget content fields ∧
        next = nodes.store (.ebcNodes fields) :=
  map_spelled_iff (fun _ => EbcNode.merge_iff runtime budget) _

theorem EbcNodes.loop_reads :
    (EbcNodes.loop runtime).Reads (EbcNodes.declaration runtime) budget store where
  cases := .cons (messageCase_reads rfl fun _ _ _ _ => mergeNode_iff runtime _) .nil
  distinct := List.nodup_singleton _
  unknown _ _ := rfl

/-- The bytes of a list of nodes, which goes on from the nodes that are there. -/
theorem EbcNodes.merge_iff {input : Bytes} {nodes next : EbcNodes} :
    (EbcNodes.loop runtime).merge runtime budget nodes input = some next ↔
      ∃ fields, (EbcNodes.declaration runtime).Spells runtime budget input fields ∧
        next = nodes.mergeFrom (ofFields fields) := by
  rw [(EbcNodes.loop_reads runtime budget).merge_iff (EbcNodes.loop_progress runtime budget)]
  simp only [EbcNodes.foldl_store]

theorem EbcMsg.mergeNodes_iff {msg next : EbcMsg} {content : Bytes} :
    mergeNodes runtime budget msg content = some next ↔
      ∃ fields, (EbcNodes.declaration runtime).Spells runtime budget content fields ∧
        next = msg.store (.body (.nodes fields)) :=
  map_spelled_iff (fun _ => EbcNodes.merge_iff runtime budget) _

theorem EbcMsg.loop_reads :
    (EbcMsg.loop runtime).Reads (EbcMsg.declaration runtime) budget store where
  cases :=
    .cons (uint32Case_reads rfl fun _ _ => rfl) <|
    .cons (stringCase_reads rfl fun _ _ => rfl) <|
    .cons (bytesCase_reads rfl fun _ _ => rfl) <|
    .cons (bytesCase_reads rfl fun _ _ => rfl) <|
    .cons (uint32Case_reads rfl fun _ _ => rfl) <|
    .cons (uint32Case_reads rfl fun _ _ => rfl) <|
    .cons (enumCase_reads rfl fun _ _ => rfl) <|
    .cons (enumCase_reads rfl fun _ _ => rfl) <|
    .cons (uint32Case_reads rfl fun _ _ => rfl) <|
    .cons (bytesCase_reads rfl fun _ _ => rfl) <|
    .cons (messageCase_reads rfl fun _ _ _ _ => mergeNodes_iff runtime _) .nil
  distinct := show [8, 18, 26, 34, 40, 48, 56, 64, 72, 82, 90].Nodup by decide
  unknown _ _ := rfl

/-- An array is parsed when it spells fields, and the message is the one with those. -/
theorem EbcMsg.parse_iff {input : Bytes} {msg : EbcMsg} :
    parseFromArray runtime input = some msg ↔
      ∃ fields, Spells runtime input fields ∧ msg = ofFields fields := by
  have progress := EbcMsg.loop_progress runtime defaultRecursionLimit
  rw [parseFromArray, (EbcMsg.loop_reads runtime defaultRecursionLimit).merge_iff progress]
  simp only [EbcMsg.foldl_store, Spells]

end Messages

end EbcNet.Wire
