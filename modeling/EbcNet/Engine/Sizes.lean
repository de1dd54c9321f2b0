import EbcNet.Engine.Access
import EbcNet.Engine.Delivery

/-! The sizes of the messages that a handler packs, and whether they fit its buffer.
`pack` returns the size of the message even where `SerializeToArray` refused it. -/

namespace EbcNet

open Wire

/-- A size that is negative as the `int` that `pack` returns. -/
def Negative (size : Nat) : Prop := 2 ^ 31 ≤ size % 2 ^ 32

/-- A `pack` that failed, or filled no more than the buffer and all that it returned. -/
def Packed.Whole (runtime : Runtime) (packed : Packed) (size : Int32) : Prop :=
  packed.ret < 0 ∨
    packed.ret ≤ size ∧ packed.sent = packed.object.ebcMsg.serializeWithCachedSizes runtime

private theorem ofNat_neg_iff (size : Nat) : Int32.ofNat size < 0 ↔ Negative size := by
  have zero : (0 : Int32).toInt = 0 := rfl
  have range : Int32.size = 2 ^ 32 := rfl
  rw [Int32.lt_iff_toInt_lt, Int32.toInt_ofNat', Int.bmod_eq_emod, zero, range]
  unfold Negative
  split <;> omega

namespace MsgPack
variable {runtime : Runtime} {object next : MsgPack} {type : MsgType} {payload : Payload}
variable {buf : Bytes} {size : Int32} {subType : MsgSubType} {dstId : NodeId} {packed : Packed}

/-- What `pack` returns is right just when the message fits, or is so long that the
result is negative. -/
theorem whole_iff
    (done : object.pack runtime type payload (some buf) size subType dstId = some packed) :
    packed.Whole runtime size ↔ (packed.object.ebcMsg.byteSizeLong runtime : Int) ≤ size.toInt ∨
      Negative (packed.object.ebcMsg.byteSizeLong runtime) := by
  have returned := (pack_eq done).2.2
  unfold Packed.Whole
  rw [returned, ofNat_neg_iff]
  constructor
  · rintro (negative | ⟨within, complete⟩)
    · exact Or.inr negative
    · left
      have length := congrArg List.length complete
      rw [EbcMsg.serialize_length, Packed.sent, List.length_take, returned] at length
      rw [Int32.le_iff_toInt_le] at within
      by_cases empty : packed.object.ebcMsg.byteSizeLong runtime = 0
      · rw [empty] at within ⊢
        exact within
      · omega
  · rintro (fits | negative)
    · right
      have small : packed.object.ebcMsg.byteSizeLong runtime ≤ intMax := by
        have bounded := size.toInt_lt
        unfold intMax
        omega
      refine ⟨?_, sent_eq done fits⟩
      rw [Int32.le_iff_toInt_le, toInt_ofNat small]
      exact fits
    · exact Or.inl negative

end MsgPack

namespace NetEngine

/-! ### Sizes of the messages -/

/-- A number field, which is left out when it is zero. -/
def numberSize (value : UInt32) : Nat := if value ≠ 0 then 1 + varintSize32 value else 0

/-- One node of a list. -/
def entrySize (idLength : Nat) (addr : SockAddrIn) (nat : NatType) : Nat :=
  1 + lengthDelimitedSize ((if idLength > 0 then 1 + lengthDelimitedSize idLength else 0) +
    numberSize addr.sinAddr + numberSize (comPortNat addr.sinPort nat))

/-- The `PUNCH` about a sender. -/
def punchSize (srcId : Bytes) (addr : SockAddrIn) (nat : NatType) : Nat :=
  let list := entrySize srcId.length addr nat
  36 + numberSize (UInt32.ofNat list) + (1 + lengthDelimitedSize list)

/-- The `REP` to a request. -/
def repSize (runtime : Runtime) (request : EbcMsg) (clients : List Node) : Nat :=
  let list := (clients.map fun client =>
    entrySize idLength client.addr.getIPv4 client.nat).sum
  60 + numberSize request.ttl + numberSize request.id +
    (runtime.unknownFields request.unknown).length + numberSize (UInt32.ofNat list) +
    (1 + lengthDelimitedSize list)

/-- What a message may take: what the buffer holds, or so much that `pack` fails. -/
def Allowed (size : Nat) : Prop := size ≤ bufSize ∨ Negative size

/-- Each message of an accepted `GET_NODE` that is sent is of an allowed size. The
`PUNCH` goes out only to clients, and the `REP` only if packing the `PUNCH` did not fail. -/
def Room (runtime : Runtime) (engine : NetEngine) (env : Env) : Prop :=
  ∀ object, engine.received runtime env = some object →
    object.ebcMsg.type = MsgType.GET_NODE.toInt32 →
    if engine.isServer then
      ∀ first, object.ebcMsg.nodes.ebcNodes[0]? = some first →
        (engine.clientList ≠ [] →
          Allowed (punchSize object.ebcMsg.srcId env.peerName (parNat first.portNat))) ∧
        (¬ Negative (punchSize object.ebcMsg.srcId env.peerName (parNat first.portNat)) →
          Allowed (repSize runtime object.ebcMsg engine.clientList))
    else Allowed (repSize runtime object.ebcMsg [])

/-- What is sent is a whole message, which every receiver accepts with all its nodes. -/
structure Complete (runtime : Runtime) (packed : Packed) : Prop where
  bounded : 0 ≤ packed.ret.toInt ∧ packed.ret.toInt ≤ bufSize
  written : packed.sent = packed.object.ebcMsg.serializeWithCachedSizes runtime
  accepted : ∀ receiver : MsgPack, ∃ got, receiver.unpack runtime packed.sent = some got ∧
    got.ebcMsg.nodes.ebcNodes = packed.listing

section Sizes
variable {runtime : Runtime} {engine next : NetEngine} {env : Env} {sock : UDTSOCKET}
variable {epollFd : Int} {object : MsgPack} {first : EbcNode} {packed : Packed}
variable {actions : List Action}

private theorem entry_eq (runtime : Runtime) (id : Bytes) (addr : SockAddrIn) (nat : NatType) :
    1 + lengthDelimitedSize (EbcNode.byteSizeLong runtime
      { id, ip := addr.sinAddr, portNat := comPortNat addr.sinPort nat }) =
      entrySize id.length addr nat := by
  simp only [EbcNode.byteSizeLong, unknownFields_nil, List.length_nil, Nat.zero_add, entrySize,
    numberSize]

private theorem list_eq (runtime : Runtime) (clients : List Node) :
    EbcNodes.byteSizeLong runtime { ebcNodes := clients.map listed } =
      (clients.map fun client => entrySize idLength client.addr.getIPv4 client.nat).sum := by
  have entry : ∀ client : Node, 1 + lengthDelimitedSize ((listed client).byteSizeLong runtime) =
      entrySize idLength client.addr.getIPv4 client.nat := by
    intro client
    have size := entry_eq runtime client.id.bytes client.addr.getIPv4 client.nat
    rwa [client.id.length_eq] at size
  simp [EbcNodes.byteSizeLong, unknownFields_nil, Function.comp_def, entry]

/-- The header that `pack` writes. -/
private theorem header_size :
    (if msgHead ≠ 0 then 1 + varintSize32 msgHead else 0) = 4 ∧
      (if NET_VERSION.length > 0 then 1 + lengthDelimitedSize NET_VERSION.length else 0) = 8 ∧
      (if idLength > 0 then 1 + lengthDelimitedSize idLength else 0) = 22 := by
  decide

theorem punchMsg_size (selfId : NodeId) :
    (punchMsg runtime selfId (punchNode env object.ebcMsg first)).byteSizeLong runtime =
      punchSize object.ebcMsg.srcId env.peerName (parNat first.portNat) := by
  have list : EbcNodes.byteSizeLong runtime { ebcNodes := [punchNode env object.ebcMsg first] } =
      entrySize object.ebcMsg.srcId.length env.peerName (parNat first.portNat) := by
    rw [← entry_eq runtime]
    simp [EbcNodes.byteSizeLong, unknownFields_nil, punchNode]
  have type : (if MsgType.PUNCH.toInt32 ≠ 0 then
      1 + varintSize32SignExtended MsgType.PUNCH.toInt32 else 0) = 2 := by decide
  obtain ⟨head, version, srcId⟩ := header_size
  simp only [EbcMsg.byteSizeLong, punchMsg, Body.byteSizeLong, list, selfId.length_eq, head, version,
    srcId, type, unknownFields_nil, List.length_nil, punchSize, numberSize]
  simp only [gt_iff_lt, Nat.lt_irrefl, if_false, ne_eq, not_true_eq_false]

theorem repMsg_size (clients : List Node) :
    (repMsg runtime object { ebcNodes := clients.map listed }).byteSizeLong runtime =
      repSize runtime object.ebcMsg clients := by
  have list := list_eq runtime clients
  have zero := NodeId.zero.length_eq
  have type : (if MsgType.REP.toInt32 ≠ 0 then
      1 + varintSize32SignExtended MsgType.REP.toInt32 else 0) = 2 := by decide
  have subType : (if MsgSubType.NODE.toInt32 ≠ 0 then
      1 + varintSize32SignExtended MsgSubType.NODE.toInt32 else 0) = 2 := by decide
  obtain ⟨head, version, srcId⟩ := header_size
  simp only [EbcMsg.byteSizeLong, repMsg, Body.byteSizeLong, list, object.selfId.length_eq, zero, head,
    version, srcId, type, subType, repSize, numberSize]
  omega

/-! ### What is sent -/

theorem Introduces.complete_iff (introduces : Introduces runtime packed)
    (packable : ¬ packed.ret < 0) :
    Complete runtime packed ↔ Allowed (packed.object.ebcMsg.byteSizeLong runtime) := by
  have notNegative : ¬ Negative (packed.object.ebcMsg.byteSizeLong runtime) := by
    rw [← ofNat_neg_iff, ← introduces.returned]
    exact packable
  constructor
  · intro ⟨⟨_, bounded⟩, complete, _⟩
    left
    have length := congrArg List.length complete
    rw [EbcMsg.serialize_length, Packed.sent, List.length_take] at length
    omega
  · rintro (fits | negative)
    · have small : packed.object.ebcMsg.byteSizeLong runtime ≤ intMax :=
        Nat.le_trans fits (by decide)
      refine ⟨?_, introduces.sent_eq fits, ?_⟩
      · rw [introduces.returned, MsgPack.toInt_ofNat small]
        exact ⟨Int.natCast_nonneg _, Int.ofNat_le.mpr fits⟩
      · intro receiver
        have unpacked := introduces.unpacked fits receiver
        exact ⟨_, unpacked, listing_observable introduces.known⟩
    · exact absurd negative notNegative

private theorem reply_complete {clients : List Node} {answer : List Action}
    (accepted : engine.received runtime env = some object)
    (answered : reply runtime object sock { ebcNodes := clients.map listed } = some answer) :
    (∀ target packed, .send target packed ∈ answer → Complete runtime packed) ↔
      Allowed (repSize runtime object.ebcMsg clients) := by
  obtain ⟨rep, replied, rfl⟩ := Option.map_eq_some_iff.mp answered
  obtain ⟨introduces, _⟩ := rep_introduces accepted replied
  have size : rep.object.ebcMsg.byteSizeLong runtime = repSize runtime object.ebcMsg clients := by
    rw [pack_rep_eq replied, repMsg_size]
  by_cases failed : rep.ret < 0
  · have negative := failed
    rw [introduces.returned, ofNat_neg_iff, size] at negative
    simp [failed, Allowed, negative]
  · rw [← size, ← introduces.complete_iff failed]
    simp [failed]

private theorem sends_punch {clients : List Node} {punch : Packed}
    (introduces : Introduces runtime punch) (packable : ¬ punch.ret < 0) :
    (∀ target packed, .send target packed ∈ clients.map (fun node => Action.send node.sock punch) →
      Complete runtime packed) ↔
      (clients ≠ [] → Allowed (punch.object.ebcMsg.byteSizeLong runtime)) := by
  rw [← introduces.complete_iff packable]
  cases clients with
  | nil => simp
  | cons first others =>
    constructor
    · intro complete _
      exact complete first.sock punch List.mem_cons_self
    · intro complete target packed sent
      obtain ⟨node, _, same⟩ := List.mem_map.mp sent
      cases same
      exact complete (by simp)

private theorem punch_size {punch : Packed}
    (punched : MsgPack.pack runtime { selfId := engine.self.id } .PUNCH
      (.node (punchNode env object.ebcMsg first)) (some zeroBuf) (Int32.ofNat bufSize) .EMPTY_SUB
      .zero = some punch) :
    punch.object.ebcMsg.byteSizeLong runtime =
      punchSize object.ebcMsg.srcId env.peerName (parNat first.portNat) := by
  rw [pack_punch_eq punched, punchMsg_size]

/-- The part of a server, in which the messages to the clients come first. -/
private theorem server_complete (server : engine.isServer = true)
    (accepted : engine.received runtime env = some object)
    (done : engine.handleGetNode runtime env sock object = some (next, actions)) :
    (∀ target packed, .send target packed ∈ actions → Complete runtime packed) ↔
      ∀ first, object.ebcMsg.nodes.ebcNodes[0]? = some first →
        (engine.clientList ≠ [] →
          Allowed (punchSize object.ebcMsg.srcId env.peerName (parNat first.portNat))) ∧
        (¬ Negative (punchSize object.ebcMsg.srcId env.peerName (parNat first.portNat)) →
          Allowed (repSize runtime object.ebcMsg engine.clientList)) := by
  rw [handleGetNode, if_pos server] at done
  obtain ⟨outcome, told, done⟩ := Option.bind_eq_some_iff.mp done
  cases outcome with
  | none =>
    -- Packing the `PUNCH` failed, and nothing is sent.
    cases done
    obtain ⟨first, indexed, packing⟩ := Option.bind_eq_some_iff.mp told
    obtain ⟨punch, punched, refused⟩ := Option.map_eq_some_iff.mp packing
    have failed : punch.ret < 0 := by
      by_contra sendable
      simp [sendable] at refused
    have negative := failed
    rw [(punch_introduces punched).1.returned, ofNat_neg_iff, punch_size punched] at negative
    simp [indexed, Allowed, negative]
  | some step =>
    obtain ⟨reached, nodes, sends⟩ := step
    obtain ⟨answer, answered, same⟩ := Option.map_eq_some_iff.mp done
    cases same
    obtain ⟨first, punch, indexed, punched, sendable, rfl, rfl, rfl⟩ := tellClients_eq_some told
    have introduces := (punch_introduces punched).1
    have notNegative := sendable
    rw [introduces.returned, ofNat_neg_iff, punch_size punched] at notNegative
    have toClients := @sends_punch runtime (engine.clientNode.toList.map Prod.snd) _ introduces
      sendable
    have toSender := reply_complete accepted answered
    rw [punch_size punched] at toClients
    simp only [List.mem_append, or_imp, forall_and, indexed, Option.some.injEq, forall_eq']
    rw [toClients, toSender]
    exact and_congr_right fun _ => ⟨fun allowed _ => allowed, fun allowed => allowed notNegative⟩

/-- Only a `GET_NODE` makes the handler send. -/
private theorem handleMsg_silent
    (done : engine.handleMsg runtime env sock epollFd = some (next, actions))
    (accepted : engine.received runtime env = some object)
    (other : object.ebcMsg.type ≠ MsgType.GET_NODE.toInt32) (target : UDTSOCKET) (packed : Packed) :
    .send target packed ∉ actions := by
  cases handleMsg_handled done with
  | ignored => simp
  | registered again type =>
    obtain rfl := Option.some.inj (accepted.symm.trans again)
    exact absurd type other
  | answered again type =>
    obtain rfl := Option.some.inj (accepted.symm.trans again)
    exact absurd type other
  | introduced => exact introduceAll_send 0 _ target
  | punched => exact introduce_send 0 _ target

/-- Every message that the handler sends is whole if and only if there is room for it. -/
theorem sends_complete_iff
    (done : engine.handleMsg runtime env sock epollFd = some (next, actions)) :
    (∀ target packed, .send target packed ∈ actions → Complete runtime packed) ↔
      engine.Room runtime env := by
  have silent := fun object => @handleMsg_silent runtime engine next env sock epollFd object _ done
  unfold handleMsg at done
  unfold Room
  cases accepted : engine.received runtime env with
  | none =>
    rw [accepted] at done
    cases done
    simp
  | some object =>
    rw [accepted] at done
    dsimp only at done
    simp only [Option.some.injEq, forall_eq']
    by_cases getNode : object.ebcMsg.type = MsgType.GET_NODE.toInt32
    · rw [if_pos getNode] at done
      simp only [getNode, forall_const]
      by_cases server : engine.isServer = true
      · rw [if_pos server]
        exact server_complete server accepted done
      · rw [if_neg server]
        rw [handleGetNode, if_neg server] at done
        obtain ⟨answer, answered, same⟩ := Option.map_eq_some_iff.mp done
        cases same
        exact @reply_complete _ _ _ _ _ [] _ accepted answered
    · simp [getNode, silent object accepted getNode]

end Sizes

/-- `pack` is right about every message that fits its buffer or makes its result
negative, and about no other; and the handler sends whole messages just when there is
room for them. -/
theorem complete_iff_room (runtime : Runtime) :
    (∀ (object next : MsgPack) type payload buf (size : Int32) subType dstId packed,
      object.assemble runtime type payload subType dstId = some next →
      object.pack runtime type payload (some buf) size subType dstId = some packed →
      (packed.Whole runtime size ↔ (next.ebcMsg.byteSizeLong runtime : Int) ≤ size.toInt ∨
        Negative (next.ebcMsg.byteSizeLong runtime))) ∧
    ∀ (engine next : NetEngine) env sock epollFd actions,
      engine.handleMsg runtime env sock epollFd = some (next, actions) →
      ((∀ target packed, .send target packed ∈ actions → Complete runtime packed) ↔
        engine.Room runtime env) := by
  refine ⟨?_, fun engine next env sock epollFd actions => sends_complete_iff⟩
  intro object next type payload buf size subType dstId packed assembled done
  obtain rfl := Option.some.inj (assembled.symm.trans (MsgPack.pack_eq done).1)
  exact MsgPack.whole_iff done

open Sample in
/-- A server that has one client is asked by another, and tells both of them whole. -/
theorem complete_iff_room_arrivals :
    ∃ trace engine next actions, Machine.Run (step Wire.Reference.runtime) server trace engine ∧
      trace.map Prod.fst = [arrival (nodeId 7) ⟨1, 2⟩ 1] ∧
      engine.handleMsg Wire.Reference.runtime (env (nodeId 8) ⟨1, 3⟩) 2 0 = some (next, actions) ∧
      (sentTo 1 actions).length = 1 ∧ (sentTo 2 actions).length = 1 ∧
      engine.Room Wire.Reference.runtime (env (nodeId 8) ⟨1, 3⟩) ∧
      ∀ target packed, .send target packed ∈ actions → Complete Wire.Reference.runtime packed := by
  have check : ((step Wire.Reference.runtime server (arrival (nodeId 7) ⟨1, 2⟩ 1)).bind fun one =>
      (one.1.handleMsg Wire.Reference.runtime (env (nodeId 8) ⟨1, 3⟩) 2 0).map fun two =>
        (repSize Wire.Reference.runtime
          (announcement Wire.Reference.runtime (Node.ofId memory (nodeId 8))) one.1.clientList,
          (sentTo 1 two.2).length, (sentTo 2 two.2).length)) = some (94, 1, 1) := by
    decide +kernel
  obtain ⟨⟨first, effect⟩, taken, rest⟩ := Option.bind_eq_some_iff.mp check
  obtain ⟨⟨next, actions⟩, done, facts⟩ := Option.map_eq_some_iff.mp rest
  simp only [Prod.mk.injEq] at facts
  obtain ⟨size, toFirst, toSecond⟩ := facts
  have room : first.Room Wire.Reference.runtime (env (nodeId 8) ⟨1, 3⟩) := by
    intro object accepted _
    rw [received_env] at accepted
    cases accepted
    rw [if_pos (show first.isServer = true from (step_role taken).2)]
    intro asked indexed
    cases indexed
    dsimp only
    refine ⟨fun _ => Or.inl ?_, fun _ => Or.inl ?_⟩
    · decide +kernel
    · rw [size]
      decide
  exact ⟨_, first, next, actions, .step .start taken, rfl, done, toFirst, toSecond, room,
    ((complete_iff_room _).2 _ _ _ _ _ _ done).mpr room⟩

/-! ### A long id -/

end NetEngine

namespace Sample
open NetEngine

/-- A `GET_NODE` whose `src_id` is as long as a buffer allows. -/
def longRequest : EbcMsg :=
  { announcement Wire.Reference.runtime (Node.new memory) with srcId := List.replicate 6100 7 }

def longArrival (addr : SockAddrIn) : Env where
  recv := some (longRequest.serializeWithCachedSizes Wire.Reference.runtime)
  peerName := addr
  punch _ := .socketFails
  memory := memory

theorem longRequest_size : longRequest.byteSizeLong Wire.Reference.runtime ≤ bufSize := by
  have size : longRequest.byteSizeLong Wire.Reference.runtime = 6123 := by
    rw [EbcMsg.byteSizeLong, longRequest, List.length_replicate]
    decide
  rw [size]
  decide

theorem received_longArrival (engine : NetEngine) (addr : SockAddrIn) :
    engine.received Wire.Reference.runtime (longArrival addr) =
      some { selfId := engine.self.id, ebcMsg := longRequest } := by
  have sound : longRequest.Sound Wire.Reference.runtime := by
    refine ⟨rfl, MsgPack.version_valid, ⟨?_, .nil⟩, .nil⟩
    intro node member
    rw [List.mem_singleton.mp member]
    exact EbcNode.Valid.empty
  have observable : longRequest.observable Wire.Reference.runtime = longRequest := rfl
  have fits : longRequest.byteSizeLong Wire.Reference.runtime ≤ intMax :=
    Nat.le_trans longRequest_size (by decide)
  rw [received, longArrival, Option.bind_some,
    MsgPack.unpack_serialize sound rfl (by decide) fits, observable]

theorem longRequest_first :
    longRequest.nodes.ebcNodes[0]? = some { portNat := comPortNat 0 SYMMTRIC } := rfl

theorem longRequest_punchSize :
    punchSize longRequest.srcId ⟨1, 3⟩ (parNat (comPortNat 0 SYMMTRIC)) = 6154 := by
  rw [punchSize, longRequest, List.length_replicate]
  decide

theorem longRequest_room {engine : NetEngine} (server : engine.isServer = true)
    (clients : engine.clientList ≠ []) :
    ¬ engine.Room Wire.Reference.runtime (longArrival ⟨1, 3⟩) := by
  intro room
  have allowed := room _ (received_longArrival engine ⟨1, 3⟩) rfl
  rw [if_pos server] at allowed
  have small := (allowed _ longRequest_first).1 clients
  rw [longArrival, longRequest_punchSize] at small
  revert small
  unfold Allowed Negative bufSize
  decide

theorem handled_longArrival (engine : NetEngine) :
    ∃ result, engine.handleMsg Wire.Reference.runtime (longArrival ⟨1, 3⟩) 2 0 = some result := by
  apply Option.isSome_iff_exists.mp
  rw [handleMsg_eq_handleGetNode (received_longArrival engine ⟨1, 3⟩) rfl, handleGetNode_isSome]
  intro _ empty
  have first := longRequest_first
  rw [empty] at first
  cases first

/-- A server that has one client is asked by a sender with a long id. The `PUNCH` about
it does not fit the buffer, and as many bytes are sent as it would have taken. -/
theorem complete_counterexample :
    ∃ trace engine next actions target packed,
      Machine.Run (step Wire.Reference.runtime) server trace engine ∧
      (longRequest.serializeWithCachedSizes Wire.Reference.runtime).length ≤ bufSize ∧
      engine.handleMsg Wire.Reference.runtime (longArrival ⟨1, 3⟩) 2 0 = some (next, actions) ∧
      .send target packed ∈ actions ∧ ¬ Complete Wire.Reference.runtime packed := by
  have check : ((step Wire.Reference.runtime server (arrival (nodeId 7) ⟨1, 2⟩ 1)).map
      fun (first, _) => (first.isServer, first.clientList.length)) = some (true, 1) := by
    decide +kernel
  obtain ⟨⟨engine, effect⟩, taken, looks⟩ := Option.map_eq_some_iff.mp check
  obtain ⟨isServer, one⟩ := Prod.mk.inj looks
  obtain ⟨⟨next, actions⟩, done⟩ := handled_longArrival engine
  have listed : engine.clientList ≠ [] := by
    intro empty
    simp [empty] at one
  have noRoom := longRequest_room isServer listed
  rw [← sends_complete_iff done] at noRoom
  push Not at noRoom
  obtain ⟨target, packed, sent, incomplete⟩ := noRoom
  refine ⟨_, engine, next, actions, target, packed, .step .start taken, ?_, done, sent, incomplete⟩
  rw [EbcMsg.serialize_length]
  exact longRequest_size

end Sample

end EbcNet
