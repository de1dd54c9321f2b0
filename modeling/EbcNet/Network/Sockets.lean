import EbcNet.Network

/-! The sockets that a client records for its peers. A client that is told of each of them
once has a socket for one peer only, and loses the peer just when it loses the socket. -/

namespace EbcNet

open Wire (Bytes EbcNode)

namespace NetEngine

/-- Each recorded socket is that of a peer which the client was told of, and of no other. -/
structure Recorded (told : List Bytes) (engine : NetEngine) : Prop where
  backed : engine.Backed
  once : ∀ first second id, engine.owner first = some id → engine.owner second = some id →
    first = second
  told : ∀ sock id, engine.owner sock = some id → id.bytes ∈ told

section Recorded
variable {told more : List Bytes} {engine : NetEngine} {sock : UDTSOCKET} {memory : Memory}
variable {env : Env} {epollFd : Int} {turn : Nat} {node : EbcNode} {nodes : List EbcNode}

theorem recorded_client (self : Node) : Recorded told { self, isServer := false } := by
  constructor <;> simp [Backed, owner]

theorem Recorded.mono (recorded : Recorded told engine) (later : told ⊆ more) :
    Recorded more engine :=
  ⟨recorded.backed, recorded.once, fun sock id owned => later (recorded.told sock id owned)⟩

/-- A connect-success of a recorded socket finds its peer. -/
theorem Recorded.finds (recorded : Recorded told engine) (known : (engine.owner sock).isSome = true) :
    engine.FindsPeer (.connected memory sock) := by
  obtain ⟨id, owned⟩ := Option.isSome_iff_exists.mp known
  change (engine.peers ((engine.owner sock).getD .zero)).isSome = true
  rw [owned]
  exact recorded.backed sock id owned

theorem Recorded.connected (recorded : Recorded told engine)
    (known : (engine.owner sock).isSome = true) :
    Recorded told (engine.peerConnected memory sock) := by
  obtain ⟨id, owned⟩ := Option.isSome_iff_exists.mp known
  have same : (engine.peerConnected memory sock).owner = engine.owner := by
    rw [owner_peerConnected, owned, Option.some_or, ← owned, Function.update_eq_self]
  refine ⟨?_, ?_, ?_⟩
  · intro place key ownedHere
    rw [same] at ownedHere
    rw [peers_peerConnected, owned, Option.getD_some]
    by_cases here : key = id
    · rw [here, Function.update_self]
      rfl
    · rw [Function.update_of_ne here]
      exact recorded.backed place key ownedHere
  · rw [same]
    exact recorded.once
  · rw [same]
    exact recorded.told

/-- The peer of another socket is another one, and stays. -/
theorem Recorded.lost (recorded : Recorded told engine) : Recorded told (engine.delPeerNode sock) := by
  have kept : ∀ place id, (engine.delPeerNode sock).owner place = some id →
      place ≠ sock ∧ engine.owner place = some id := by
    intro place id owned
    rw [owner_delPeerNode, InverseIndex.update_eq_some] at owned
    rcases owned with ⟨_, absent⟩ | owned
    · cases absent
    · exact owned
  refine ⟨?_, ?_, ?_⟩
  · intro place id owned
    obtain ⟨elsewhere, ownedBefore⟩ := kept place id owned
    obtain ⟨entry, present⟩ := Option.isSome_iff_exists.mp (recorded.backed place id ownedBefore)
    rw [Option.isSome_iff_exists]
    refine ⟨entry, ?_⟩
    rw [peers_delPeerNode, InverseIndex.eraseVia_eq_some]
    exact ⟨fun lost => elsewhere (recorded.once place sock id ownedBefore lost), present⟩
  · intro first second id firstOwned secondOwned
    exact recorded.once first second id (kept first id firstOwned).2 (kept second id secondOwned).2
  · intro place id owned
    exact recorded.told place id (kept place id owned).2

private theorem Recorded.introduce (recorded : Recorded told engine) {id : NodeId}
    (named : node.id = id.bytes) (news : node.id ∉ told) :
    Recorded (told ++ [node.id]) (introduce env epollFd engine turn node).1 := by
  have backed : (NetEngine.introduce env epollFd engine turn node).1.Backed := by
    rw [introduce_calls]
    refine (addPeers_spec recorded.backed fun made member => ?_).1
    obtain ⟨_, _, place, rfl⟩ := mem_introductions member
    exact ⟨_, _, _, _, place, rfl⟩
  have owners : ∀ place key, (NetEngine.introduce env epollFd engine turn node).1.owner place = some key →
      engine.owner place = some key ∨
        key = id ∧ place = (startPunch (env.punch turn) epollFd node.ip
          (parPort node.portNat).toUInt16).1 := by
    intro place key owned
    unfold NetEngine.introduce at owned
    dsimp only at owned
    split at owned
    · exact Or.inl owned
    · rw [owner_addPeerNode, InverseIndex.update_eq_some, named, string2NodeId_id] at owned
      rcases owned with ⟨here, same⟩ | ⟨_, old⟩
      · exact Or.inr ⟨(Option.some.inj same).symm, here⟩
      · exact Or.inl old
  have unknown : ∀ place, engine.owner place ≠ some id := by
    intro place owned
    exact news (named ▸ recorded.told place id owned)
  refine ⟨backed, ?_, ?_⟩
  · intro first second key firstOwned secondOwned
    rcases owners first key firstOwned with firstOld | ⟨rfl, firstHere⟩ <;>
      rcases owners second _ secondOwned with secondOld | ⟨same, secondHere⟩
    · exact recorded.once first second key firstOld secondOld
    · exact absurd (same ▸ firstOld) (unknown first)
    · exact absurd secondOld (unknown second)
    · rw [firstHere, secondHere]
  · intro place key owned
    rw [List.mem_append, List.mem_singleton]
    rcases owners place key owned with old | ⟨rfl, _⟩
    · exact Or.inl (recorded.told place key old)
    · exact Or.inr named.symm

/-- A client that is told of others for the first time. -/
theorem Recorded.introduced (recorded : Recorded told engine)
    (named : ∀ node ∈ nodes, ∃ id : NodeId, node.id = id.bytes)
    (once : (told ++ nodes.map EbcNode.id).Nodup) :
    Recorded (told ++ nodes.map EbcNode.id) (introduceAll env epollFd engine turn nodes).1 := by
  induction nodes generalizing engine told turn with
  | nil =>
    rw [List.map_nil, List.append_nil]
    exact recorded
  | cons node nodes ih =>
    obtain ⟨id, own⟩ := named node List.mem_cons_self
    have news : node.id ∉ told := by
      intro member
      exact (List.disjoint_of_nodup_append once) member (by simp)
    have first := @Recorded.introduce told engine env epollFd turn node recorded id own news
    rw [List.map_cons, List.append_cons] at once ⊢
    exact ih first (fun other member => named other (List.mem_cons_of_mem _ member)) once

end Recorded

end NetEngine

end EbcNet
