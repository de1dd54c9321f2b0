import EbcNet.Base.Grammar
import EbcNet.Wire.Parse
import Mathlib.Data.List.DropRight

/-! The messages as `msg.proto` declares them: which bytes spell which fields, and
what a message with those fields holds. The merge loops read just that. -/

namespace EbcNet.Wire

open FieldStream (lastGiven)

/-- A field of a declaration: its tag, and when an input has a value of its kind in front,
given the field that the value makes and what follows it. -/
structure Declared (Field : Type) where
  tag : UInt32
  Value : Bytes → Field → Bytes → Prop

/-- A declared message: its fields under a recursion budget, and what becomes of the record
of a field that is not declared. -/
structure Declaration (Field : Type) where
  fields : Nat → List (Declared Field)
  unknown : Bytes → Field

section Kinds
variable (runtime : Runtime) {Field Content Value : Type} (number : UInt32)

/-- A field of a kind that is read in one piece. -/
def valueField (wireType : UInt32) (read : Bytes → Option (Value × Bytes))
    (field : Value → Field) : Declared Field where
  tag := makeTag number wireType
  Value input first rest := ∃ value, read input = some (value, rest) ∧ first = field value

def uint32Field (field : UInt32 → Field) : Declared Field :=
  valueField number wireTypeVarint runtime.readVarint32 field

def enumField (field : Int32 → Field) : Declared Field :=
  valueField number wireTypeVarint runtime.readEnum field

def bytesField (field : Bytes → Field) : Declared Field :=
  valueField number wireTypeLengthDelimited runtime.readBytes field

/-- A string is bytes that are text. -/
def stringField (field : Bytes → Field) : Declared Field where
  tag := makeTag number wireTypeLengthDelimited
  Value input first rest :=
    ∃ value, runtime.readBytes input = some (value, rest) ∧
      runtime.verifyUtf8String value = true ∧ first = field value

/-- The content of a nested message ends after its length, or with the input. -/
def messageField (spells : Nat → Bytes → Content → Prop) (budget : Nat) (field : Content → Field) :
    Declared Field where
  tag := makeTag number wireTypeLengthDelimited
  Value input first rest :=
    ∃ inner length start content, budget = inner + 1 ∧
      runtime.readVarintSizeAsInt input = some (length, start) ∧
      spells inner (start.take length) content ∧ first = field content ∧ rest = start.drop length

/-- The field that an input starts with: a declared one after its tag, or another that
is skipped. -/
def Declaration.Starts (declaration : Declaration Field) (budget : Nat) (input : Bytes)
    (first : Field) (rest : Bytes) : Prop :=
  ∃ tag body, runtime.readTag input = some (tag, body) ∧
    ((∃ field ∈ declaration.fields budget, field.tag = tag ∧ field.Value body first rest) ∨
      (∀ field ∈ declaration.fields budget, field.tag ≠ tag) ∧
        ∃ record, runtime.skipField budget tag body = some (record, rest) ∧
          first = declaration.unknown record)

def Declaration.Spells (declaration : Declaration Field) (budget : Nat) :
    Bytes → List Field → Prop :=
  FieldStream.Spells (declaration.Starts runtime budget)

end Kinds

/-! ### The declared messages -/

section Messages
variable (runtime : Runtime)

/-- The fields of an `EbcNode`. -/
inductive EbcNode.Field where
  | id (value : Bytes)
  | ip (value : UInt32)
  | portNat (value : UInt32)
  | unknown (record : Bytes)

def EbcNode.declaration : Declaration Field where
  fields _ := [
    bytesField runtime 1 .id,
    uint32Field runtime 2 .ip,
    uint32Field runtime 3 .portNat]
  unknown := .unknown

/-- A field that is given again replaces the earlier one. -/
def EbcNode.ofFields (fields : List Field) : EbcNode where
  id := lastGiven (fun | .id value => some value | _ => none) [] fields
  ip := lastGiven (fun | .ip value => some value | _ => none) 0 fields
  portNat := lastGiven (fun | .portNat value => some value | _ => none) 0 fields
  unknown := (fields.filterMap fun | .unknown record => some record | _ => none).flatten

/-- The fields of an `EbcNodes`: its nodes, each with the fields of its own. -/
inductive EbcNodes.Field where
  | ebcNodes (fields : List EbcNode.Field)
  | unknown (record : Bytes)

def EbcNodes.declaration : Declaration Field where
  fields budget := [
    messageField runtime 1 ((EbcNode.declaration runtime).Spells runtime) budget .ebcNodes]
  unknown := .unknown

/-- A repeated field keeps all that was given. -/
def EbcNodes.ofFields (fields : List Field) : EbcNodes where
  ebcNodes := fields.filterMap fun | .ebcNodes fields => some (.ofFields fields) | _ => none
  unknown := (fields.filterMap fun | .unknown record => some record | _ => none).flatten

/-- A member of the `body` of an `EbcMsg`. -/
inductive EbcMsg.Member where
  | msg (content : Bytes)
  | nodes (fields : List EbcNodes.Field)

/-- The fields of an `EbcMsg`. -/
inductive EbcMsg.Field where
  | head (value : UInt32)
  | version (value : Bytes)
  | srcId (value : Bytes)
  | dstId (value : Bytes)
  | ttl (value : UInt32)
  | id (value : UInt32)
  | type (value : Int32)
  | subType (value : Int32)
  | length (value : UInt32)
  | body (member : Member)
  | unknown (record : Bytes)

def EbcMsg.declaration : Declaration Field where
  fields budget := [
    uint32Field runtime 1 .head,
    stringField runtime 2 .version,
    bytesField runtime 3 .srcId,
    bytesField runtime 4 .dstId,
    uint32Field runtime 5 .ttl,
    uint32Field runtime 6 .id,
    enumField runtime 7 .type,
    enumField runtime 8 .subType,
    uint32Field runtime 9 .length,
    bytesField runtime 10 fun content => .body (.msg content),
    messageField runtime 11 ((EbcNodes.declaration runtime).Spells runtime) budget
      fun fields => .body (.nodes fields)]
  unknown := .unknown

def EbcMsg.Member.isNodes : Member → Bool
  | .nodes _ => true
  | .msg _ => false

def EbcMsg.Member.fields : Member → List EbcNodes.Field
  | .nodes fields => fields
  | .msg _ => []

/-- The fields of the lists that were given since the last text. -/
def EbcMsg.latestNodes (members : List Member) : List EbcNodes.Field :=
  (members.rtakeWhile Member.isNodes).flatMap Member.fields

/-- The last member is the one that counts. A text replaces what was there, and a list
goes on from the list before it. -/
def Body.ofMembers (members : List EbcMsg.Member) : Body :=
  match members.getLast? with
  | none => .notSet
  | some (.msg content) => .msg content
  | some (.nodes _) => .nodes (.ofFields (EbcMsg.latestNodes members))

def EbcMsg.ofFields (fields : List Field) : EbcMsg where
  head := lastGiven (fun | .head value => some value | _ => none) 0 fields
  version := lastGiven (fun | .version value => some value | _ => none) [] fields
  srcId := lastGiven (fun | .srcId value => some value | _ => none) [] fields
  dstId := lastGiven (fun | .dstId value => some value | _ => none) [] fields
  ttl := lastGiven (fun | .ttl value => some value | _ => none) 0 fields
  id := lastGiven (fun | .id value => some value | _ => none) 0 fields
  type := lastGiven (fun | .type value => some value | _ => none) 0 fields
  subType := lastGiven (fun | .subType value => some value | _ => none) 0 fields
  length := lastGiven (fun | .length value => some value | _ => none) 0 fields
  body := .ofMembers (fields.filterMap fun | .body member => some member | _ => none)
  unknown := (fields.filterMap fun | .unknown record => some record | _ => none).flatten

/-- The bytes of an `EbcMsg`, as they are given to `ParseFromArray`. -/
def EbcMsg.Spells (bytes : Bytes) (fields : List Field) : Prop :=
  (EbcMsg.declaration runtime).Spells runtime defaultRecursionLimit bytes fields

end Messages

/-! ### One field after another -/

/-- What one more field makes of a node. -/
def EbcNode.store (node : EbcNode) : Field → EbcNode
  | .id id => { node with id }
  | .ip ip => { node with ip }
  | .portNat portNat => { node with portNat }
  | .unknown record => { node with unknown := node.unknown ++ record }

theorem EbcNode.ofFields_append (fields : List Field) (field : Field) :
    ofFields (fields ++ [field]) = (ofFields fields).store field := by
  cases field <;> simp [ofFields, store, List.filterMap_append]

theorem EbcNode.foldl_store (fields : List Field) : fields.foldl store {} = ofFields fields :=
  FieldStream.foldl_store ofFields_append fields

/-- What one more field makes of a list of nodes. -/
def EbcNodes.store (nodes : EbcNodes) : Field → EbcNodes
  | .ebcNodes fields => nodes.addEbcnodes fun _ => .ofFields fields
  | .unknown record => { nodes with unknown := nodes.unknown ++ record }

theorem EbcNodes.ofFields_append (fields later : List Field) :
    ofFields (fields ++ later) = (ofFields fields).mergeFrom (ofFields later) := by
  simp [ofFields, mergeFrom, List.filterMap_append]

theorem EbcNodes.foldl_store (fields : List Field) (nodes : EbcNodes) :
    fields.foldl store nodes = nodes.mergeFrom (ofFields fields) := by
  induction fields generalizing nodes with
  | nil => simp [ofFields, mergeFrom]
  | cons field fields ih =>
    rw [List.foldl_cons, ih]
    cases field <;> simp [store, addEbcnodes, ofFields, mergeFrom]

/-- What one more field makes of a message. -/
def EbcMsg.store (msg : EbcMsg) : Field → EbcMsg
  | .head head => { msg with head }
  | .version version => { msg with version }
  | .srcId srcId => { msg with srcId }
  | .dstId dstId => { msg with dstId }
  | .ttl ttl => { msg with ttl }
  | .id id => { msg with id }
  | .type type => { msg with type }
  | .subType subType => { msg with subType }
  | .length length => { msg with length }
  | .body (.msg content) => msg.setMsg content
  | .body (.nodes fields) => msg.mutableNodes fun nodes => nodes.mergeFrom (.ofFields fields)
  | .unknown record => { msg with unknown := msg.unknown ++ record }

/-- A body that is a list is the lists since the last text, and another body has none. -/
private theorem nodes_ofMembers (msg : EbcMsg) (members : List EbcMsg.Member)
    (body : msg.body = .ofMembers members) :
    msg.nodes = .ofFields (EbcMsg.latestNodes members) := by
  unfold EbcMsg.nodes
  rw [body]
  rcases members.eq_nil_or_concat with rfl | ⟨earlier, last, rfl⟩
  · rfl
  · cases last with
    | msg content =>
      simp [Body.ofMembers, EbcMsg.latestNodes, EbcMsg.Member.isNodes, EbcNodes.ofFields]
    | nodes fields => simp [Body.ofMembers]

theorem EbcMsg.ofFields_append (fields : List Field) (field : Field) :
    ofFields (fields ++ [field]) = (ofFields fields).store field := by
  have nodes := nodes_ofMembers (ofFields fields) _ rfl
  cases field with
  | body member =>
    cases member with
    | msg content => simp [ofFields, store, setMsg, Body.ofMembers, List.filterMap_append]
    | nodes more =>
      simp only [store, mutableNodes, nodes, ← EbcNodes.ofFields_append]
      simp [ofFields, Body.ofMembers, latestNodes, Member.isNodes, Member.fields,
        List.filterMap_append, List.rtakeWhile_concat]
  | _ => simp [ofFields, store, List.filterMap_append]

/-- A text cuts off the list before it, and the lists after it are one. -/
example :
    Body.ofMembers [.nodes [.ebcNodes [.ip 1]], .msg [7], .nodes [.ebcNodes [.ip 2]],
        .nodes [.ebcNodes [.ip 3, .ip 4]]] =
      .nodes { ebcNodes := [{ ip := 2 }, { ip := 4 }] } := rfl

theorem EbcMsg.foldl_store (fields : List Field) : fields.foldl store {} = ofFields fields :=
  FieldStream.foldl_store ofFields_append fields

end EbcNet.Wire
