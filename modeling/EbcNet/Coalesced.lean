import EbcNet.Stream
import EbcNet.Wire.Merge

/-! Messages that arrive together. A `handleMsg` takes all that one `UDT::recv` returns for
one message, and what it reads from several is the message they merge into. -/

namespace EbcNet

open Wire

/-- The messages that are read as one. -/
def glued (sent : List Packed) : EbcMsg :=
  (sent.map fun packed => packed.object.ebcMsg).foldl EbcMsg.mergeFrom {}

/-- The messages that name anybody. -/
def naming (sent : List Packed) : List Packed :=
  sent.filter fun packed => packed.listing ≠ []

/-- The size of a list of nodes, as the length field counts it. -/
def listSize (runtime : Runtime) (nodes : List EbcNode) : Nat :=
  EbcNodes.byteSizeLong runtime { ebcNodes := nodes }

/-- A message whose body is a list of nodes, and that its buffer holds. -/
structure Lists (runtime : Runtime) (packed : Packed) : Prop where
  introduces : NetEngine.Introduces runtime packed
  body : packed.object.ebcMsg.body = .nodes { ebcNodes := packed.listing }
  fits : packed.object.ebcMsg.byteSizeLong runtime ≤ NetEngine.bufSize

theorem NetEngine.Packs.lists {runtime : Runtime} {engine : NetEngine} {event : NetEngine.Event}
    {packed : Packed} (packs : engine.Packs runtime event packed)
    (fits : packed.object.ebcMsg.byteSizeLong runtime ≤ NetEngine.bufSize) :
    Lists runtime packed := by
  refine ⟨packs.introduces.1, ?_, fits⟩
  obtain ⟨_, _, _, _, _, _, _, _, _, punched | replied⟩ := packs
  · rw [Packed.listing, pack_punch_eq punched]
    rfl
  · rw [Packed.listing, pack_rep_eq replied]
    rfl

/-! ### Sizes of lists -/

section Sizes
variable {runtime : Runtime} {sent : List Packed} {packed : Packed}

@[simp] theorem listSize_nil : listSize runtime [] = 0 := EbcNodes.byteSizeLong_empty

theorem listSize_append (nodes more : List EbcNode) :
    listSize runtime (nodes ++ more) = listSize runtime nodes + listSize runtime more := by
  simp [listSize, EbcNodes.byteSizeLong, unknownFields_nil]

theorem listSize_pos {nodes : List EbcNode} (nonempty : nodes ≠ []) : 0 < listSize runtime nodes := by
  obtain ⟨node, nodes, rfl⟩ := List.exists_cons_of_ne_nil nonempty
  simp only [listSize, EbcNodes.byteSizeLong, List.map_cons, List.sum_cons]
  omega

/-- Only messages that name somebody count. -/
theorem listSize_flatMap (sent : List Packed) :
    listSize runtime (sent.flatMap Packed.listing) =
      ((naming sent).map fun packed => listSize runtime packed.listing).sum := by
  induction sent with
  | nil => simp [naming]
  | cons packed sent ih =>
    rw [List.flatMap_cons, listSize_append, ih]
    by_cases empty : packed.listing = []
    · simp [naming, empty]
    · simp [naming, empty]

theorem Lists.length (lists : Lists runtime packed) :
    packed.object.ebcMsg.length.toNat = listSize runtime packed.listing := by
  have counted : packed.object.ebcMsg.bodyLength runtime = listSize runtime packed.listing := by
    rw [EbcMsg.bodyLength, EbcMsg.hasNodes, EbcMsg.nodes, lists.body]
    rfl
  have bounded := packed.object.ebcMsg.bodyLength_le runtime
  have fits := lists.fits
  unfold NetEngine.bufSize at fits
  rw [lists.introduces.sound.length, counted, UInt32.toNat_ofNat', Nat.mod_eq_of_lt (by omega)]

/-- Positive numbers, of which the last is the sum. -/
private theorem getLastD_eq_sum_iff {sizes : List Nat} (positive : ∀ size ∈ sizes, 0 < size) :
    sizes.getLastD 0 = sizes.sum ↔ sizes.length ≤ 1 := by
  rcases sizes.eq_nil_or_concat with rfl | ⟨earlier, last, rfl⟩
  · simp
  · have empty : earlier.sum = 0 ↔ earlier = [] := by
      constructor
      · intro zero
        by_contra some
        obtain ⟨first, later, rfl⟩ := List.exists_cons_of_ne_nil some
        have counted := positive first (by simp)
        rw [List.sum_cons] at zero
        omega
      · rintro rfl
        rfl
    rw [List.concat_eq_append, List.getLastD_eq_getLast?, List.getLast?_concat, Option.getD_some, List.sum_append,
      List.sum_singleton, List.length_append, List.length_singleton, Nat.add_le_add_iff_right,
      Nat.le_zero, List.length_eq_zero_iff, ← empty]
    omega

end Sizes

/-! ### What they are read as -/

section Glued
variable {runtime : Runtime} {sent : List Packed} {packed : Packed} {receiver : MsgPack}

theorem glued_append (sent : List Packed) (packed : Packed) :
    glued (sent ++ [packed]) = (glued sent).mergeFrom packed.object.ebcMsg := by
  simp [glued]

/-- Lists are joined, and the last length that counts any nodes stays. -/
theorem glued_lists (lists : ∀ packed ∈ sent, Lists runtime packed) :
    (glued sent).nodes = { ebcNodes := sent.flatMap Packed.listing } ∧
      (glued sent).length.toNat =
        ((naming sent).map fun packed => listSize runtime packed.listing).getLastD 0 := by
  induction sent using List.reverseRecOn with
  | nil => exact ⟨rfl, rfl⟩
  | append_singleton sent packed ih =>
    obtain ⟨nodes, length⟩ := ih fun other member => lists other (List.mem_append_left _ member)
    have last := lists packed (by simp)
    have counted := last.length
    rw [glued_append]
    constructor
    · rw [EbcMsg.nodes, EbcMsg.body_mergeFrom last.body, nodes]
      simp [EbcNodes.mergeFrom]
    · rw [EbcMsg.mergeFrom_fields]
      dsimp only
      by_cases empty : packed.listing = []
      · have zero : packed.object.ebcMsg.length = 0 := by
          apply UInt32.toNat_inj.mp
          rw [counted, empty, listSize_nil]
          rfl
        rw [if_neg (not_not.mpr zero), length]
        simp [naming, empty]
      · have some : packed.object.ebcMsg.length ≠ 0 := by
          intro zero
          have positive : 0 < listSize runtime packed.listing := listSize_pos empty
          rw [zero] at counted
          exact absurd counted (Nat.ne_of_lt positive)
        rw [if_pos some, counted]
        simp [naming, empty, List.getLastD_eq_getLast?]

/-- What is not a list is that of the last message. -/
theorem glued_last {earlier : List Packed} (last : Lists runtime packed) :
    (glued (earlier ++ [packed])).head = msgHead ∧
      (glued (earlier ++ [packed])).type = packed.object.ebcMsg.type ∧
      (packed.object.ebcMsg.subType = MsgSubType.NODE.toInt32 →
        (glued (earlier ++ [packed])).subType = MsgSubType.NODE.toInt32) := by
  have typed : packed.object.ebcMsg.type ≠ 0 := by
    rcases last.introduces.kind with ⟨punch, _⟩ | ⟨rep, _⟩
    · rw [punch]
      decide
    · rw [rep]
      decide
  have headed : msgHead ≠ 0 := by decide
  have listing : MsgSubType.NODE.toInt32 ≠ 0 := by decide
  rw [glued_append, EbcMsg.mergeFrom_fields]
  refine ⟨?_, if_pos typed, fun node => ?_⟩
  · simp [last.introduces.head, headed]
  · simp [node, listing]

theorem parse_glued (lists : ∀ packed ∈ sent, Lists runtime packed) :
    EbcMsg.parseFromArray runtime (sent.map Packed.sent).flatten =
      some ((glued sent).observable runtime) := by
  have written : (sent.map Packed.sent).flatten =
      (sent.map fun packed => packed.object.ebcMsg).flatMap
        (EbcMsg.serializeWithCachedSizes runtime) := by
    rw [List.flatMap_map, List.flatMap_def]
    refine congrArg List.flatten (List.map_congr_left fun packed member => ?_)
    exact (lists packed member).introduces.sent_eq (lists packed member).fits
  rw [written, EbcMsg.parse_flatMap]
  · rfl
  · intro msg member
    obtain ⟨packed, listed, rfl⟩ := List.mem_map.mp member
    exact (lists packed listed).introduces.sound.valid
  · intro msg member
    obtain ⟨packed, listed, rfl⟩ := List.mem_map.mp member
    exact Nat.le_trans (lists packed listed).fits (by decide)

/-- Messages that come together are accepted when no more than one of them names anybody. -/
theorem unpack_glued (lists : ∀ packed ∈ sent, Lists runtime packed) (nonempty : sent ≠ []) :
    receiver.unpack runtime (sent.map Packed.sent).flatten =
      if (naming sent).length ≤ 1 then
        some { receiver with ebcMsg := (glued sent).observable runtime } else none := by
  obtain ⟨earlier, last, rfl⟩ := (List.eq_nil_or_concat sent).resolve_left nonempty
  rw [List.concat_eq_append] at *
  have ending := lists last (by simp)
  obtain ⟨head, type, _⟩ := @glued_last runtime last earlier ending
  obtain ⟨nodes, length⟩ := glued_lists lists
  have typed : (glued (earlier ++ [last])).type ≠ MsgType.EMPTY.toInt32 := by
    rw [type]
    rcases ending.introduces.kind with ⟨punch, _⟩ | ⟨rep, _⟩
    · simp [punch]
    · simp [rep]
  have agrees : (glued (earlier ++ [last])).length.toNat =
      (glued (earlier ++ [last])).bodyLength runtime ↔
        (naming (earlier ++ [last])).length ≤ 1 := by
    have list : (glued (earlier ++ [last])).hasNodes = true := by
      rw [EbcMsg.hasNodes, glued_append, EbcMsg.body_mergeFrom ending.body]
    have size : (glued (earlier ++ [last])).bodyLength runtime =
        listSize runtime ((earlier ++ [last]).flatMap Packed.listing) := by
      rw [EbcMsg.bodyLength, if_pos list, nodes, listSize]
    rw [size, length, listSize_flatMap, getLastD_eq_sum_iff, List.length_map]
    intro size member
    obtain ⟨packed, named, rfl⟩ := List.mem_map.mp member
    exact listSize_pos (of_decide_eq_true (List.mem_filter.mp named).2)
  split
  · refine MsgPack.unpack_eq_some.mpr ⟨parse_glued lists, rfl, head, typed, ?_⟩
    rw [EbcMsg.bodyLength_observable]
    exact agrees.mpr ‹_›
  · rw [Option.eq_none_iff_forall_ne_some]
    intro next accepted
    obtain ⟨parsed, _, _, _, counted⟩ := MsgPack.unpack_eq_some.mp accepted
    rw [parse_glued lists] at parsed
    rw [← Option.some.inj parsed, EbcMsg.bodyLength_observable] at counted
    exact absurd (agrees.mp counted) ‹_›

end Glued

/-! ### What a receiver does with them -/

namespace NetEngine

variable {runtime : Runtime} {sent : List Packed} {receiver : NetEngine} {env : Env}
variable {sock : UDTSOCKET} {epollFd : Int}

/-- When no more than one message names anybody, and the last one does, it names all. -/
private theorem flatMap_listing {earlier : List Packed} {last : Packed}
    (few : (naming (earlier ++ [last])).length ≤ 1) (named : last.listing ≠ []) :
    (earlier ++ [last]).flatMap Packed.listing = last.listing := by
  have split : naming (earlier ++ [last]) = naming earlier ++ [last] := by
    simp [naming, named]
  rw [split, List.length_append, List.length_singleton] at few
  have counted : (naming earlier).length = 0 := by omega
  have silent : ∀ packed ∈ earlier, packed.listing = [] := by
    intro packed member
    by_contra names
    have present : packed ∈ naming earlier := List.mem_filter.mpr ⟨member, by simp [names]⟩
    rw [List.length_eq_zero_iff.mp counted] at present
    cases present
  rw [List.flatMap_append, List.flatMap_eq_nil_iff.mpr silent]
  simp

private theorem observable_known {nodes : List EbcNode} (known : ∀ node ∈ nodes, node.unknown = []) :
    (EbcNodes.observable runtime { ebcNodes := nodes }).ebcNodes = nodes := by
  have same : ∀ node ∈ nodes, node.observable runtime = node := by
    intro node member
    have empty := known node member
    unfold EbcNode.observable
    rw [empty, unknownFields_nil, ← empty]
  exact (List.map_congr_left same).trans (List.map_id _)

/-- A message whose nodes are in hand is handled like the list of them. -/
private theorem handleMsg_listed {object : MsgPack} {nodes : List EbcNode}
    (accepted : receiver.received runtime env = some object)
    (listed : object.ebcMsg.nodes.ebcNodes = nodes)
    (kind : (object.ebcMsg.type = MsgType.PUNCH.toInt32 ∧ ∃ node, nodes = [node]) ∨
      (object.ebcMsg.type = MsgType.REP.toInt32 ∧
        object.ebcMsg.subType = MsgSubType.NODE.toInt32)) :
    receiver.handleMsg runtime env sock epollFd =
      some (introduceAll env epollFd receiver 0 nodes) := by
  unfold handleMsg
  rw [accepted]
  dsimp only
  rcases kind with ⟨punch, node, rfl⟩ | ⟨rep, node⟩
  · rw [punch, if_neg (by simp), if_neg (by simp), if_pos rfl, handlePunch, listed]
    simp [introduceAll]
  · rw [rep, if_neg (by simp), if_pos rfl, handleRep, if_pos node, listed]

theorem handleMsg_glued (lists : ∀ packed ∈ sent, Lists runtime packed) (nonempty : sent ≠ [])
    (together : env.recv = some (sent.map Packed.sent).flatten) :
    receiver.handleMsg runtime env sock epollFd =
      some (if (naming sent).length ≤ 1 then
        introduceAll env epollFd receiver 0 (sent.flatMap Packed.listing) else (receiver, [])) := by
  have unpacked : receiver.received runtime env = if (naming sent).length ≤ 1 then
      some { selfId := receiver.self.id, ebcMsg := (glued sent).observable runtime } else none := by
    rw [received, together, Option.bind_some, unpack_glued lists nonempty]
  by_cases few : (naming sent).length ≤ 1
  · rw [if_pos few] at unpacked ⊢
    have known : ∀ node ∈ sent.flatMap Packed.listing, node.unknown = [] := by
      intro node member
      obtain ⟨packed, listed, named⟩ := List.mem_flatMap.mp member
      exact (lists packed listed).introduces.known node named
    have listed : ((glued sent).observable runtime).nodes.ebcNodes = sent.flatMap Packed.listing := by
      rw [EbcMsg.nodes_observable, (glued_lists lists).1, observable_known known]
    refine handleMsg_listed unpacked listed ?_
    obtain ⟨earlier, last, rfl⟩ := (List.eq_nil_or_concat sent).resolve_left nonempty
    rw [List.concat_eq_append] at *
    have ending := lists last (by simp)
    obtain ⟨_, type, subType⟩ := @glued_last runtime last earlier ending
    rcases ending.introduces.kind with ⟨punch, node, single⟩ | ⟨rep, listing⟩
    · refine Or.inl ⟨type.trans punch, node, ?_⟩
      rw [flatMap_listing few (by simp [single]), single]
    · exact Or.inr ⟨type.trans rep, subType listing⟩
  · rw [if_neg few] at unpacked ⊢
    unfold handleMsg
    rw [unpacked]

/-- Messages of servers that come together are handled as one list of all that they name,
in their order, when no more than one of them names anybody. Otherwise nobody is punched
towards, whatever the messages say. -/
theorem handleMsg_together
    (packs : ∀ packed ∈ sent, ∃ (engine : NetEngine) (event : NetEngine.Event),
      engine.Packs runtime event packed ∧
        packed.object.ebcMsg.byteSizeLong runtime ≤ bufSize)
    (nonempty : sent ≠ []) (together : env.recv = some (sent.map Packed.sent).flatten) :
    receiver.handleMsg runtime env sock epollFd =
      some (if (naming sent).length ≤ 1 then
        introduceAll env epollFd receiver 0 (sent.flatMap Packed.listing) else (receiver, [])) := by
  refine handleMsg_glued (fun packed member => ?_) nonempty together
  obtain ⟨engine, event, packs, fits⟩ := packs packed member
  exact packs.lists fits

open Sample

/-- The empty list for the first client and the news of the second one come together. -/
theorem handleMsg_together_first :
    ∃ rep punch, server.Packs Reference.runtime (arrival (nodeId 7) ⟨1, 2⟩ 1) rep ∧
      server.Packs Reference.runtime (arrival (nodeId 8) ⟨1, 3⟩ 2) punch ∧
      ∀ receiver : NetEngine,
        receiver.handleMsg Reference.runtime
            { recv := some (([rep, punch].map Packed.sent).flatten), peerName := ⟨0, 0⟩,
              punch := fun _ => .connects 5, memory := memory } 3 4 =
          some (if (naming [rep, punch]).length ≤ 1 then
            introduceAll
              { recv := some (([rep, punch].map Packed.sent).flatten), peerName := ⟨0, 0⟩,
                punch := fun _ => .connects 5, memory := memory } 4 receiver 0
              ([rep, punch].flatMap Packed.listing) else (receiver, [])) := by
  obtain ⟨rep, replied⟩ : ∃ packed, MsgPack.pack Reference.runtime
      { selfId := server.self.id,
        ebcMsg := announcement Reference.runtime (Node.ofId memory (nodeId 7)) } .REP
      (.nodes { ebcNodes := server.clientList.map listed }) (some zeroBuf) (Int32.ofNat bufSize)
      .NODE .zero = some packed := ⟨_, rfl⟩
  obtain ⟨punch, punched⟩ : ∃ packed, MsgPack.pack Reference.runtime { selfId := server.self.id }
      .PUNCH (.node (punchNode (env (nodeId 8) ⟨1, 3⟩)
        (announcement Reference.runtime (Node.ofId memory (nodeId 8))) { portNat := comPortNat 0 0 }))
      (some zeroBuf) (Int32.ofNat bufSize) .EMPTY_SUB .zero = some packed := ⟨_, rfl⟩
  have repPacks : server.Packs Reference.runtime (arrival (nodeId 7) ⟨1, 2⟩ 1) rep :=
    ⟨_, _, _, _, _, rfl, received_env server (nodeId 7) ⟨1, 2⟩, rfl, rfl, Or.inr replied⟩
  have punchPacks : server.Packs Reference.runtime (arrival (nodeId 8) ⟨1, 3⟩ 2) punch :=
    ⟨_, _, _, _, _, rfl, received_env server (nodeId 8) ⟨1, 3⟩, rfl, rfl, Or.inl punched⟩
  refine ⟨rep, punch, repPacks, punchPacks, fun receiver => ?_⟩
  refine handleMsg_together ?_ (by simp) rfl
  intro packed member
  rcases List.mem_pair.mp member with rfl | rfl
  · refine ⟨_, _, repPacks, ?_⟩
    rw [pack_rep_eq replied]
    decide +kernel
  · refine ⟨_, _, punchPacks, ?_⟩
    rw [pack_punch_eq punched]
    decide +kernel

end NetEngine

end EbcNet
