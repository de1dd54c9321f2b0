import EbcNet.Rendezvous.Peers

/-! Mutual introduction: of two clients, either both punch towards each other once and
know each other, or neither does. -/

namespace EbcNet

open Wire (Bytes Runtime MsgType EbcNode)

namespace NetEngine

section Inbox
variable {runtime : Runtime} {self : Node} {history : History} {engine next : NetEngine}
variable {id : NodeId} {sock place : UDTSOCKET} {actions : List Action} {punch rep packed : Packed}
variable {stored : Node} {happening : Happening} {name : Bytes}

theorem proper_of_names (names : List NodeId) (letter : Letter runtime packed)
    (ids : packed.listing.map EbcNode.id = names.map NodeId.bytes) : Proper runtime packed := by
  refine ⟨letter, ?_⟩
  intro node member
  have named := List.mem_map_of_mem (f := EbcNode.id) member
  rw [ids] at named
  obtain ⟨id, _, same⟩ := List.mem_map.mp named
  exact ⟨id, same.symm⟩

/-- Only messages of the two types that introduce are sent, and they name proper ids. -/
theorem Rendezvous.inbox_proper (run : Rendezvous runtime self history engine)
    (member : packed ∈ history.inbox place) :
    Proper runtime packed ∧ (packed.object.ebcMsg.type = MsgType.PUNCH.toInt32 ∨
      packed.object.ebcMsg.type = MsgType.REP.toInt32) := by
  induction run using Rendezvous.induct with
  | start => simp [History.inbox] at member
  | @join history engine next id sock actions punch rep stored before _ new welcome ih =>
    rw [History.inbox_append, List.mem_append, welcome.inbox, List.mem_append] at member
    rcases member with old | toClient | toSender
    · exact ih old
    · obtain ⟨_, _, rfl⟩ := List.mem_map.mp toClient
      obtain ⟨letter, type, ids⟩ := welcome.punch
      exact ⟨proper_of_names [id] letter ids, Or.inl type⟩
    · split at toSender
      · rw [List.mem_singleton.mp toSender]
        obtain ⟨letter, type, ids⟩ := welcome.rep
        refine ⟨proper_of_names (engine.clientList.map Node.id) letter ?_, Or.inr type⟩
        rw [ids, List.map_map]
        rfl
      · simp at toSender
  | leave before _ silent ih =>
    rw [History.inbox_append, silent, List.append_nil] at member
    exact ih member

theorem Rendezvous.mem_namesOf_inbox (run : Rendezvous runtime self history engine) :
    name ∈ namesOf (history.inbox place) ↔
      name ∈ history.told .PUNCH place ∨ name ∈ history.told .REP place := by
  simp only [namesOf, History.told, List.mem_flatMap, List.mem_filter, decide_eq_true_eq]
  constructor
  · rintro ⟨packed, member, named⟩
    rcases (run.inbox_proper member).2 with punch | rep
    · exact Or.inl ⟨packed, ⟨member, punch⟩, named⟩
    · exact Or.inr ⟨packed, ⟨member, rep⟩, named⟩
  · rintro (⟨packed, ⟨member, _⟩, named⟩ | ⟨packed, ⟨member, _⟩, named⟩)
    · exact ⟨packed, member, named⟩
    · exact ⟨packed, member, named⟩

theorem namesOf_append (front back : List Packed) :
    namesOf (front ++ back) = namesOf front ++ namesOf back := by
  simp [namesOf]

/-- No client is told of another one twice. -/
theorem Rendezvous.namesOf_nodup (run : Rendezvous runtime self history engine) :
    (namesOf (history.inbox place)).Nodup := by
  induction run using Rendezvous.induct with
  | start => simp [History.inbox, namesOf]
  | @join history engine next id sock actions punch rep stored before _ new welcome ih =>
    have online := before.online
    rw [History.inbox_append, namesOf_append, welcome.inbox]
    by_cases here : sock = place
    · -- The newcomer's own list is the first that it gets.
      subst here
      have none : namesOf (history.inbox sock) = [] := by
        apply List.eq_nil_iff_forall_not_mem.mpr
        intro name member
        rcases before.mem_namesOf_inbox.mp member with member | member
        · rw [before.told_newcomer new (Or.inl rfl)] at member
          simp at member
        · rw [before.told_newcomer new (Or.inr rfl)] at member
          simp at member
      rw [none, online.residents_newcomer new, List.nil_append, List.map_nil, List.nil_append,
        if_pos rfl, namesOf, List.flatMap_singleton, welcome.rep.2.2]
      exact online.ids_nodup
    · have single : namesOf ((engine.residents place).map fun _ => punch) =
          (engine.residents place).map fun _ => id.bytes := welcome.names _
      rw [if_neg here, List.append_nil, single]
      refine List.Nodup.append ih ?_ ?_
      · have most : (engine.residents place).length ≤ 1 := online.residents_length
        cases residents : engine.residents place with
        | nil => simp
        | cons node others =>
          rw [residents, List.length_cons] at most
          have alone : others = [] := List.eq_nil_of_length_eq_zero (by omega)
          simp [alone]
      · intro name old member
        obtain ⟨_, _, rfl⟩ := List.mem_map.mp member
        rcases before.mem_namesOf_inbox.mp old with old | old
        · exact before.newcomer_untold new (Or.inl rfl) old
        · exact before.newcomer_untold new (Or.inr rfl) old
  | leave before _ silent ih =>
    rw [History.inbox_append, silent, List.append_nil]
    exact ih

end Inbox

/-! ### Both sides -/

/-- A client calls `startPunch` once for each client that it was told of. -/
def PunchesOnce (history : History) (sock : UDTSOCKET) (trace : List (BootEvent × Effect)) : Prop :=
  ∃ nodes : List EbcNode, nodes.Perm ((history.inbox sock).flatMap Packed.listing) ∧
    (nodes.map EbcNode.id).Nodup ∧
    punches trace = nodes.map fun node => ⟨node.ip, (parPort node.portNat).toUInt16⟩

section Mutual
variable {runtime : Runtime} {self : Node} {history past future : History} {engine : NetEngine}
variable {first second : NodeId} {sock place : UDTSOCKET} {actions : List Action}

theorem Handed.peers {client : Node} {trace : List (BootEvent × Effect)} {final : NetEngine}
    (run : Rendezvous runtime self history engine)
    (handed : Handed runtime client (history.inbox sock) trace final) :
    PunchesOnce history sock trace ∧ ∀ id : NodeId, (final.peers id).isSome ↔
      id.bytes ∈ history.told .PUNCH sock ∨ id.bytes ∈ history.told .REP sock := by
  obtain ⟨⟨epollFd, clientRun⟩, ⟨order, perm, delivered⟩, calm⟩ := handed
  have serving := serving_of_run clientRun calm
    (fun packed member => (run.inbox_proper (perm.mem_iff.mp member)).1) delivered
  constructor
  · refine ⟨order.flatMap Packed.listing, perm.flatMap_right _, ?_, ?_⟩
    · have names : (namesOf (history.inbox sock)).Nodup := run.namesOf_nodup
      rw [List.map_flatMap]
      exact (perm.flatMap_right _).nodup_iff.mpr names
    · rw [serving.punches, addressesOf, List.map_flatMap]
  · intro id
    rw [serving.keys, ← run.mem_namesOf_inbox]
    exact (perm.flatMap_right _).mem_iff

/-- Of two clients, the first is in the second's list just when the first is sent a
`PUNCH` about the second, which is just when it has not left; and once they have been
handed their messages, each has the other as a peer or neither has. -/
theorem mutual_introduction (run : Rendezvous runtime self history engine)
    (split : history = past ++ (.joined second place, actions) :: future)
    (joined : past.Joined first sock) :
    Introduced history past first second sock place ∧
    (∀ later spot, History.Joined future later spot → later.bytes ∉ history.told .REP place) ∧
    second.bytes ∉ history.told .REP place ∧ second.bytes ∉ history.told .PUNCH place ∧
    ∀ firstSelf secondSelf firstTrace secondTrace firstFinal secondFinal,
      Handed runtime firstSelf (history.inbox sock) firstTrace firstFinal →
      Handed runtime secondSelf (history.inbox place) secondTrace secondFinal →
      PunchesOnce history sock firstTrace ∧ PunchesOnce history place secondTrace ∧
        ((firstFinal.peers second).isSome ↔ (secondFinal.peers first).isSome) := by
  have introduced := run.introduced split joined
  have here : history.Joined second place := ⟨actions, by simp [split]⟩
  refine ⟨introduced, ?_, run.notSelf here (Or.inr rfl), run.notSelf here (Or.inl rfl), ?_⟩
  · intro later spot ⟨done, member⟩
    obtain ⟨between, rest, parts⟩ := List.append_of_mem member
    have again : history =
        (past ++ (.joined second place, actions) :: between) ++ (.joined later spot, done) :: rest := by
      simp [split, parts]
    have before : History.Joined (past ++ (.joined second place, actions) :: between) second place :=
      ⟨actions, by simp⟩
    exact (run.introduced again before).notListed
  · intro firstSelf secondSelf firstTrace secondTrace firstFinal secondFinal firstHanded secondHanded
    obtain ⟨firstOnce, firstPeers⟩ := firstHanded.peers run
    obtain ⟨secondOnce, secondPeers⟩ := secondHanded.peers run
    refine ⟨firstOnce, secondOnce, ?_⟩
    rw [firstPeers, secondPeers, or_iff_left introduced.notListed, or_iff_right introduced.notPunched,
      introduced.punched, introduced.listed]

end Mutual

/-! ### Two clients -/

/-- A client can be handed any messages of a server. -/
theorem exists_handed {runtime : Runtime} {letters : List Packed} (self : Node) (memory : Memory)
    (proper : ∀ packed ∈ letters, Proper runtime packed) :
    ∃ trace final, Handed runtime self letters trace final := by
  induction letters using List.reverseRecOn with
  | nil =>
    refine ⟨[], _, ⟨0, .start⟩, ⟨[], .refl _, rfl⟩, ?_, ?_, ?_⟩
    · intro env sock effect member
      simp at member
    · intro past memory sock effect future split
      simp at split
    · intro sock effect member
      simp at member
  | append_singleton front packed ih =>
    obtain ⟨trace, final, ⟨epollFd, run⟩, ⟨order, perm, delivered⟩, calm⟩ :=
      ih fun other member => proper other (List.mem_append_left _ member)
    let env : Env :=
      { recv := some packed.sent, peerName := ⟨0, 0⟩, punch := fun turn => .connects turn, memory }
    obtain ⟨letter, _⟩ := proper packed (by simp)
    have gets : final.Gets runtime env packed := letter.introduces.gets letter.fits rfl
    obtain ⟨⟨next, effect⟩, taken⟩ :
        ∃ result, bootStep runtime epollFd final (.message env 0) = some result := by
      have done : final.handleMsg runtime env 0 epollFd = _ := letter.introduces.handled gets
      exact ⟨_, by rw [bootStep, step, done]; rfl⟩
    refine ⟨_, next, ⟨epollFd, run.step taken⟩,
      ⟨order ++ [packed], perm.append_right _, ?_⟩, ?_, ?_, ?_⟩
    · rw [deliveries_snoc, delivered, List.map_append]
      rfl
    · intro other sock effect member turn
      rcases List.mem_append.mp member with earlier | now
      · exact calm.succeeds other sock effect earlier turn
      · cases List.mem_singleton.mp now
        refine ⟨turn, rfl, ?_⟩
        intro invalid
        have positive : (0 : Int) ≤ (turn : Int) := Int.natCast_nonneg turn
        rw [invalid] at positive
        exact absurd positive (by decide)
    · intro past memory sock effect future split
      rcases Machine.split_snoc split with ⟨_, same⟩ | ⟨rest, earlier⟩
      · cases same
      · exact calm.returned past memory sock effect rest earlier
    · intro sock effect member
      rcases List.mem_append.mp member with earlier | now
      · exact calm.kept sock effect earlier
      · cases List.mem_singleton.mp now

open Sample

/-- Two clients join one after the other, and know each other in the end. -/
theorem mutual_introduction_pair :
    ∃ history past engine actions, Rendezvous Wire.Reference.runtime server.self history engine ∧
      history = past ++ [(.joined (nodeId 8) 2, actions)] ∧ past.Joined (nodeId 7) 1 ∧
      Introduced history past (nodeId 7) (nodeId 8) 1 2 ∧
      ∃ firstTrace secondTrace firstFinal secondFinal,
        Handed Wire.Reference.runtime (Node.ofId memory (nodeId 7)) (history.inbox 1) firstTrace
          firstFinal ∧
        Handed Wire.Reference.runtime (Node.ofId memory (nodeId 8)) (history.inbox 2) secondTrace
          secondFinal ∧
        (firstFinal.peers (nodeId 8)).isSome ∧ (secondFinal.peers (nodeId 7)).isSome := by
  have check : ((step Wire.Reference.runtime server (arrival (nodeId 7) ⟨1, 2⟩ 1)).bind
      fun (first, _) => (step Wire.Reference.runtime first (arrival (nodeId 8) ⟨1, 3⟩ 2)).map
        fun _ => repSize Wire.Reference.runtime
          (announcement Wire.Reference.runtime (Node.ofId memory (nodeId 8))) first.clientList) =
            some 94 := by
    decide +kernel
  obtain ⟨⟨first, firstEffect⟩, firstStep, rest⟩ := Option.bind_eq_some_iff.mp check
  obtain ⟨⟨second, secondEffect⟩, secondStep, size⟩ := Option.map_eq_some_iff.mp rest
  have joinedFirst : Rendezvous Wire.Reference.runtime server.self
      ([] ++ [(.joined (nodeId 7) 1, firstEffect.actions)]) first := by
    refine .join .start (received_env server (nodeId 7) ⟨1, 2⟩) rfl rfl ⟨?_, ?_⟩ (by decide) firstStep
    · intro other place ⟨_, member⟩
      simp at member
    · intro ⟨_, member⟩
      simp at member
  have joinedBoth : Rendezvous Wire.Reference.runtime server.self
      (([] ++ [(.joined (nodeId 7) 1, firstEffect.actions)]) ++
        [(.joined (nodeId 8) 2, secondEffect.actions)]) second := by
    refine .join joinedFirst (received_env first (nodeId 8) ⟨1, 3⟩) rfl rfl ⟨?_, ?_⟩ ?_ secondStep
    · intro other place ⟨_, member⟩
      cases List.mem_singleton.mp member
      decide
    · intro ⟨_, member⟩
      simp at member
    · rw [size]
      decide
  have here : History.Joined ([] ++ [(.joined (nodeId 7) 1, firstEffect.actions)]) (nodeId 7) 1 :=
    ⟨firstEffect.actions, by simp⟩
  have stays : ¬ History.Left ([] ++ [(.joined (nodeId 7) 1, firstEffect.actions)]) 1 := by
    intro ⟨_, member⟩
    simp at member
  obtain ⟨introduced, _, _, _, clients⟩ := mutual_introduction joinedBoth rfl here
  obtain ⟨firstTrace, firstFinal, firstHanded⟩ :=
    exists_handed (Node.ofId memory (nodeId 7)) memory
      fun _ member => (joinedBoth.inbox_proper member).1
  obtain ⟨secondTrace, secondFinal, secondHanded⟩ :=
    exists_handed (Node.ofId memory (nodeId 8)) memory
      fun _ member => (joinedBoth.inbox_proper member).1
  obtain ⟨_, _, both⟩ := clients _ _ _ _ _ _ firstHanded secondHanded
  have known := ((firstHanded.peers joinedBoth).2 (nodeId 8)).mpr
    (Or.inl (introduced.punched.mpr stays))
  exact ⟨_, _, second, _, joinedBoth, rfl, here, introduced, firstTrace, secondTrace, firstFinal,
    secondFinal, firstHanded, secondHanded, known, both.mp known⟩

end NetEngine

end EbcNet
