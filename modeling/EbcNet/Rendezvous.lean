import EbcNet.Engine.Sizes

/-! A server as a meeting point: who is introduced to whom, over any order in which
clients announce themselves and leave. -/

namespace EbcNet

open Wire (Bytes Runtime MsgType EbcNode)
open InverseIndex (Indexes)

/-- What a server sees of its clients. -/
inductive Happening where
  | joined (id : NodeId) (sock : UDTSOCKET)
  | left (sock : UDTSOCKET)
  deriving DecidableEq

/-- What happened at a server, and what it did each time. -/
abbrev History := List (Happening × List Action)

namespace History

def Joined (history : History) (id : NodeId) (sock : UDTSOCKET) : Prop :=
  ∃ actions, (.joined id sock, actions) ∈ history

def Left (history : History) (sock : UDTSOCKET) : Prop :=
  ∃ actions, (.left sock, actions) ∈ history

/-- A client whose id and connection are new, and whose connection is not closed. -/
structure New (history : History) (id : NodeId) (sock : UDTSOCKET) : Prop where
  unused : ∀ other place, history.Joined other place → other ≠ id ∧ place ≠ sock
  connected : ¬ history.Left sock

end History

namespace History

/-- All messages that were sent on a socket. -/
def inbox (history : History) (sock : UDTSOCKET) : List Packed :=
  history.flatMap fun item => sentTo sock item.2

/-- The ids that messages of one type named on a socket. -/
def told (type : MsgType) (history : History) (sock : UDTSOCKET) : List Bytes :=
  ((history.inbox sock).filter fun packed => packed.object.ebcMsg.type = type.toInt32).flatMap
    fun packed => packed.listing.map EbcNode.id

section Append
variable {history : History} {happening : Happening} {actions : List Action} {id : NodeId}
variable {sock place : UDTSOCKET}

theorem joined_snoc :
    History.Joined (history ++ [(happening, actions)]) id sock ↔
      history.Joined id sock ∨ happening = .joined id sock := by
  unfold History.Joined
  simp [exists_or, eq_comm]

theorem left_snoc :
    History.Left (history ++ [(happening, actions)]) sock ↔
      history.Left sock ∨ happening = .left sock := by
  unfold History.Left
  simp [exists_or, eq_comm]

theorem inbox_append (future : History) :
    History.inbox (history ++ future) place = history.inbox place ++ future.inbox place := by
  simp [History.inbox]

theorem told_append (type : MsgType) (future : History) :
    History.told type (history ++ future) place = history.told type place ++ future.told type place := by
  simp [History.told, inbox_append]

theorem told_eq_nil {type : MsgType} (silent : history.inbox place = []) :
    history.told type place = [] := by
  rw [told, silent]
  rfl

end Append

end History

namespace NetEngine

/-- A run of a server in which each connection announces one client, no two of them of
one id, and every reply fits its buffer. -/
inductive Rendezvous (runtime : Runtime) (self : Node) : History → NetEngine → Prop where
  | start : Rendezvous runtime self [] { self, isServer := true }
  | join {history : History} {engine next : NetEngine} {env : Env} {sock : UDTSOCKET}
      {epollFd : Int} {object : MsgPack} {id : NodeId} {effect : Effect}
      (before : Rendezvous runtime self history engine)
      (accepted : engine.received runtime env = some object)
      (type : object.ebcMsg.type = MsgType.GET_NODE.toInt32)
      (named : object.ebcMsg.srcId = id.bytes) (new : history.New id sock)
      (fits : repSize runtime object.ebcMsg engine.clientList ≤ bufSize)
      (taken : step runtime engine (.message env sock epollFd) = some (next, effect)) :
      Rendezvous runtime self (history ++ [(.joined id sock, effect.actions)]) next
  | leave {history : History} {engine next : NetEngine} {sock : UDTSOCKET} {effect : Effect}
      (before : Rendezvous runtime self history engine)
      (taken : step runtime engine (.clientLost sock) = some (next, effect)) :
      Rendezvous runtime self (history ++ [(.left sock, effect.actions)]) next

/-- A message of a server that reaches its receiver whole. -/
structure Letter (runtime : Runtime) (packed : Packed) : Prop where
  introduces : Introduces runtime packed
  fits : packed.object.ebcMsg.byteSizeLong runtime ≤ bufSize

/-- How a server takes in a client. -/
structure Welcome (runtime : Runtime) (engine next : NetEngine) (id : NodeId) (sock : UDTSOCKET)
    (actions : List Action) (punch rep : Packed) (stored : Node) : Prop where
  actions : actions = engine.clientList.map (fun node => .send node.sock punch) ++ [.send sock rep]
  punch : Letter runtime punch ∧ punch.object.ebcMsg.type = MsgType.PUNCH.toInt32 ∧
    punch.listing.map EbcNode.id = [id.bytes]
  rep : Letter runtime rep ∧ rep.object.ebcMsg.type = MsgType.REP.toInt32 ∧
    rep.listing.map EbcNode.id = engine.clientList.map fun node => node.id.bytes
  entry : stored.id = id ∧ stored.sock = sock
  clients : next.clients = Function.update engine.clients id ((engine.clients id).or (some stored))
  owner : next.owner = Function.update engine.owner sock (some id)

section Steps
variable {runtime : Runtime} {engine next : NetEngine} {env : Env} {sock : UDTSOCKET}
variable {epollFd : Int} {object : MsgPack} {id : NodeId} {effect : Effect}

theorem step_welcome (server : engine.isServer = true)
    (accepted : engine.received runtime env = some object)
    (type : object.ebcMsg.type = MsgType.GET_NODE.toInt32) (named : object.ebcMsg.srcId = id.bytes)
    (fits : repSize runtime object.ebcMsg engine.clientList ≤ bufSize)
    (taken : step runtime engine (.message env sock epollFd) = some (next, effect)) :
    ∃ punch rep entry, Welcome runtime engine next id sock effect.actions punch rep entry := by
  obtain ⟨actions, done, rfl⟩ := step_message taken
  have whole : object.ebcMsg.srcId.length = idLength := by rw [named, id.length_eq]
  obtain ⟨first, punch, rep, registration⟩ := handleMsg_getNode done server accepted type
    (by rw [whole]; decide)
  obtain ⟨punchIntroduces, punchList⟩ := punch_introduces registration.punched
  obtain ⟨repIntroduces, repList⟩ := rep_introduces accepted registration.replied
  have punchMessage := pack_punch_eq registration.punched
  have repMessage := pack_rep_eq registration.replied
  have punchFits : punch.object.ebcMsg.byteSizeLong runtime ≤ bufSize := by
    rw [punchMessage]
    exact punch_fits runtime engine.self.id env first whole
  have repFits : rep.object.ebcMsg.byteSizeLong runtime ≤ bufSize := by
    rw [repMessage, repMsg_size]
    exact fits
  have repSent : ¬ rep.ret < 0 :=
    ret_not_neg repIntroduces.returned (Nat.le_trans repFits (by decide))
  have key := string2NodeId_id env.memory id
  refine ⟨punch, rep, clientEntry env.memory id env.peerName (parNat first.portNat) sock, ?_, ?_, ?_,
    ⟨rfl, rfl⟩, ?_, ?_⟩
  · rw [registration.actions, if_neg repSent]
  · refine ⟨⟨punchIntroduces, punchFits⟩, by rw [punchMessage]; rfl, ?_⟩
    rw [punchList, List.map_singleton, punchNode, named]
  · refine ⟨⟨repIntroduces, repFits⟩, by rw [repMessage]; rfl, ?_⟩
    rw [repList, List.map_map]
    rfl
  · rw [registration.next, named, clients_addClientNode, key]
  · rw [registration.next, named, owner_addClientNode, key]

end Steps

/-! ### Who is online -/

/-- The clients of a server are those that joined and have not left. -/
structure Online (history : History) (engine : NetEngine) : Prop where
  server : engine.isServer = true
  keyed : engine.Keyed
  indexed : Indexes Node.sock engine.clients engine.owner
  owned : ∀ id sock, engine.owner sock = some id → engine.clients id ≠ none
  entry : ∀ id node, engine.clients id = some node →
    history.Joined id node.sock ∧ ¬ history.Left node.sock
  present : ∀ id sock, history.Joined id sock → ¬ history.Left sock →
    ∃ node, engine.clients id = some node ∧ node.sock = sock

section Online
variable {runtime : Runtime} {self : Node} {history : History} {engine next : NetEngine}
variable {id : NodeId} {sock place : UDTSOCKET} {actions : List Action} {punch rep : Packed}
variable {stored : Node}

theorem Online.owner_joined (online : Online history engine) (owned : engine.owner sock = some id) :
    history.Joined id sock := by
  obtain ⟨node, present⟩ := Option.ne_none_iff_exists'.mp (online.owned id sock owned)
  have home := (online.indexed id node present sock).mp owned
  rw [← home]
  exact (online.entry id node present).1

theorem Online.join (online : Online history engine) (new : history.New id sock)
    (welcome : Welcome runtime engine next id sock actions punch rep stored)
    (keyed : next.Keyed) (server : next.isServer = true) :
    Online (history ++ [(.joined id sock, actions)]) next := by
  have absent : engine.clients id = none := by
    by_contra present
    obtain ⟨node, present⟩ := Option.ne_none_iff_exists'.mp present
    exact (new.unused id node.sock (online.entry id node present).1).1 rfl
  have looks : ∀ other node, next.clients other = some node ↔
      engine.clients other = some node ∨ (other = id ∧ node = stored) := by
    intro other node
    rw [welcome.clients, InverseIndex.store_eq_some]
    simp [absent]
  refine ⟨server, keyed, ?_, ?_, ?_, ?_⟩
  · have inserted := online.indexed.insert_iff id stored
    rw [welcome.entry.2] at inserted
    rw [welcome.clients, welcome.owner]
    refine inserted.mpr ⟨?_, ?_⟩
    · intro other _ owned
      exact (new.unused id other (online.owner_joined owned)).1 rfl
    · intro other _ owned
      exact absurd rfl (new.unused other sock (online.owner_joined owned)).2
  · intro other place owned
    rw [welcome.owner, InverseIndex.update_eq_some] at owned
    rw [← Option.isSome_iff_ne_none, welcome.clients, InverseIndex.store_isSome,
      Option.isSome_iff_ne_none]
    rcases owned with ⟨_, named⟩ | ⟨_, owned⟩
    · exact Or.inr (Option.some.inj named).symm
    · exact Or.inl (online.owned other place owned)
  · intro other node present
    rw [History.joined_snoc, History.left_snoc]
    rcases (looks other node).mp present with old | ⟨rfl, rfl⟩
    · obtain ⟨joined, stays⟩ := online.entry other node old
      exact ⟨Or.inl joined, by simpa using stays⟩
    · rw [welcome.entry.2]
      exact ⟨Or.inr rfl, by simpa using new.connected⟩
  · intro other place joined stays
    rw [History.joined_snoc] at joined
    rw [History.left_snoc] at stays
    rcases joined with joined | now
    · obtain ⟨node, present, home⟩ := online.present other place joined fun left => stays (Or.inl left)
      exact ⟨node, (looks other node).mpr (Or.inl present), home⟩
    · cases now
      exact ⟨stored, (looks id stored).mpr (Or.inr ⟨rfl, rfl⟩), welcome.entry.2⟩

theorem Online.leave (online : Online history engine) (keyed : (engine.delClientNode sock).Keyed)
    (server : (engine.delClientNode sock).isServer = true) :
    Online (history ++ [(.left sock, actions)]) (engine.delClientNode sock) := by
  have kept : ∀ id node, (engine.delClientNode sock).clients id = some node ↔
      engine.owner sock ≠ some id ∧ engine.clients id = some node := by
    intro id node
    rw [clients_delClientNode, InverseIndex.eraseVia_eq_some]
  refine ⟨server, keyed, ?_, ?_, ?_, ?_⟩
  · rw [clients_delClientNode, owner_delClientNode]
    exact online.indexed.erase sock
  · intro id place owned
    rw [owner_delClientNode, InverseIndex.update_eq_some] at owned
    rcases owned with ⟨_, none⟩ | ⟨here, owned⟩
    · cases none
    · obtain ⟨node, present⟩ := Option.ne_none_iff_exists'.mp (online.owned id place owned)
      have home := (online.indexed id node present place).mp owned
      have unnamed : engine.owner sock ≠ some id := by
        intro named
        exact here (home.symm.trans ((online.indexed id node present sock).mp named))
      rw [(kept id node).mpr ⟨unnamed, present⟩]
      simp
  · intro id node present
    obtain ⟨unnamed, old⟩ := (kept id node).mp present
    obtain ⟨joined, stays⟩ := online.entry id node old
    rw [History.joined_snoc, History.left_snoc]
    refine ⟨Or.inl joined, ?_⟩
    rintro (left | now)
    · exact stays left
    · cases now
      exact unnamed ((online.indexed id node old node.sock).mpr rfl)
  · intro id place joined stays
    rw [History.joined_snoc] at joined
    rw [History.left_snoc] at stays
    rcases joined with joined | now
    · obtain ⟨node, present, home⟩ := online.present id place joined fun left => stays (Or.inl left)
      refine ⟨node, (kept id node).mpr ⟨?_, present⟩, home⟩
      intro named
      have here := (online.indexed id node present sock).mp named
      rw [home] at here
      exact stays (Or.inr (by rw [here]))
    · cases now

theorem Rendezvous.online (run : Rendezvous runtime self history engine) : Online history engine := by
  induction run with
  | start =>
    exact ⟨rfl, by simp [Keyed], by simp [Indexes], by simp, by simp, by simp [History.Joined]⟩
  | join before accepted type named new fits taken ih =>
    obtain ⟨punch, rep, stored, welcome⟩ := step_welcome ih.server accepted type named fits taken
    exact ih.join new welcome (step_preserves Keyed.call ih.keyed taken)
      ((step_role taken).2.trans ih.server)
  | leave before taken ih =>
    have keyed := step_preserves Keyed.call ih.keyed taken
    have server := (step_role taken).2.trans ih.server
    cases taken
    exact ih.leave keyed server

/-- A rendezvous is a run of the server, with the actions of each step. -/
theorem Rendezvous.run (run : Rendezvous runtime self history engine) :
    ∃ trace, Machine.Run (step runtime) { self, isServer := true } trace engine ∧
      trace.map (fun item => item.2.actions) = history.map Prod.snd := by
  induction run with
  | start => exact ⟨[], .start, rfl⟩
  | join before accepted type named new fits taken ih =>
    obtain ⟨trace, reached, same⟩ := ih
    exact ⟨_, reached.step taken, by simp [same]⟩
  | leave before taken ih =>
    obtain ⟨trace, reached, same⟩ := ih
    exact ⟨_, reached.step taken, by simp [same]⟩

end Online

/-! ### Who is told of whom -/

section Told
variable {runtime : Runtime} {self : Node} {history : History} {engine next : NetEngine}
variable {id other : NodeId} {sock place : UDTSOCKET} {actions : List Action}
variable {punch rep : Packed} {stored : Node} {happening : Happening}

theorem Online.clientList_pairwise (online : Online history engine) :
    engine.clientList.Pairwise fun first second => first.id ≠ second.id := by
  unfold clientList
  rw [List.pairwise_map]
  refine (Std.ExtTreeMap.distinct_keys_toList).imp_of_mem ?_
  intro first second firstMember secondMember distinct same
  have firstPresent := Std.ExtTreeMap.mem_toList_iff_getElem?_eq_some.mp firstMember
  have secondPresent := Std.ExtTreeMap.mem_toList_iff_getElem?_eq_some.mp secondMember
  rw [online.keyed.1 _ _ firstPresent, online.keyed.1 _ _ secondPresent] at same
  apply distinct
  rw [same]
  exact Std.ReflCmp.compare_self

theorem Online.ids_nodup (online : Online history engine) :
    (engine.clientList.map fun node => node.id.bytes).Nodup := by
  apply List.pairwise_map.mpr
  exact online.clientList_pairwise.imp fun different same => different (NodeId.ext same)

theorem Online.mem_clientList (online : Online history engine) {node : Node} :
    node ∈ engine.clientList ↔ engine.clients node.id = some node := by
  rw [NetEngine.mem_clientList]
  constructor
  · intro ⟨id, present⟩
    rw [online.keyed.1 id node present]
    exact present
  · exact fun present => ⟨node.id, present⟩

/-- The clients that live at a socket: one at most. -/
def residents (engine : NetEngine) (sock : UDTSOCKET) : List Node :=
  engine.clientList.filter fun node => node.sock = sock

theorem Online.residents_length (online : Online history engine) :
    (engine.residents sock).length ≤ 1 := by
  have distinct := online.clientList_pairwise.sublist
    (List.filter_sublist (p := fun node : Node => decide (node.sock = sock)))
  have home : ∀ node ∈ engine.residents sock, engine.owner sock = some node.id := by
    intro node member
    obtain ⟨listed, here⟩ := List.mem_filter.mp member
    exact (online.indexed _ node (online.mem_clientList.mp listed) sock).mpr (by simpa using here)
  change (engine.residents sock).Pairwise _ at distinct
  match engine.residents sock, distinct, home with
  | [], _, _ => simp
  | [_], _, _ => simp
  | first :: second :: _, distinct, home =>
    have firstHome := home first (by simp)
    rw [home second (by simp)] at firstHome
    exact absurd (Option.some.inj firstHome).symm
      ((List.pairwise_cons.mp distinct).1 second (by simp))

private theorem sentTo_clients (clients : List Node) :
    sentTo place (clients.map fun node => .send node.sock punch) =
      (clients.filter fun node => node.sock = place).map fun _ => punch := by
  induction clients with
  | nil => rfl
  | cons node clients ih =>
    unfold sentTo at ih ⊢
    by_cases here : node.sock = place
    · simp [here, ih]
    · simp [here, ih]

/-- What a newcomer makes arrive at a socket. -/
theorem Welcome.inbox (welcome : Welcome runtime engine next id sock actions punch rep stored) :
    History.inbox [(happening, actions)] place =
      ((engine.residents place).map fun _ => punch) ++ if sock = place then [rep] else [] := by
  have answer : sentTo place [.send sock rep] = if sock = place then [rep] else [] := by
    by_cases here : sock = place
    · simp [sentTo, here]
    · simp [sentTo, here]
  rw [History.inbox, List.flatMap_singleton, welcome.actions, ← answer]
  change sentTo place (_ ++ _) = _
  rw [residents, ← sentTo_clients, sentTo, List.filterMap_append]
  rfl

/-- The newcomer is all that the others are told of. -/
theorem Welcome.names (welcome : Welcome runtime engine next id sock actions punch rep stored)
    (clients : List Node) :
    ((clients.map fun _ => punch).flatMap fun packed => packed.listing.map EbcNode.id) =
      clients.map fun _ => id.bytes := by
  simp only [List.flatMap_map, welcome.punch.2.2]
  exact List.map_eq_flatMap.symm

theorem Welcome.told_punch (welcome : Welcome runtime engine next id sock actions punch rep stored) :
    History.told .PUNCH [(happening, actions)] place =
      (engine.residents place).map fun _ => id.bytes := by
  have rest : ((if sock = place then [rep] else []).filter fun packed =>
      packed.object.ebcMsg.type = MsgType.PUNCH.toInt32) = [] := by
    by_cases here : sock = place
    · simp [here, welcome.rep.2.1]
    · simp [here]
  have all : (((engine.residents place).map fun _ => punch).filter fun packed =>
      packed.object.ebcMsg.type = MsgType.PUNCH.toInt32) =
        (engine.residents place).map fun _ => punch := by
    rw [List.filter_eq_self]
    intro packed member
    obtain ⟨_, _, rfl⟩ := List.mem_map.mp member
    simp [welcome.punch.2.1]
  rw [History.told, welcome.inbox, List.filter_append, rest, List.append_nil, all, welcome.names]

theorem Welcome.told_rep (welcome : Welcome runtime engine next id sock actions punch rep stored) :
    History.told .REP [(happening, actions)] place =
      if sock = place then engine.clientList.map fun node => node.id.bytes else [] := by
  have first : (((engine.residents place).map fun _ => punch).filter fun packed =>
      packed.object.ebcMsg.type = MsgType.REP.toInt32) = [] := by
    rw [List.filter_eq_nil_iff]
    intro packed member
    obtain ⟨_, _, rfl⟩ := List.mem_map.mp member
    simp [welcome.punch.2.1]
  rw [History.told, welcome.inbox, List.filter_append, first, List.nil_append]
  by_cases here : sock = place
  · simp [here, welcome.rep.2.1, welcome.rep.2.2]
  · simp [here]

private theorem inbox_leave {effect : Effect}
    (taken : step runtime engine (.clientLost sock) = some (next, effect)) :
    History.inbox [(happening, effect.actions)] place = [] := by
  cases taken
  rfl

/-- Induction on a rendezvous: a newcomer is welcomed, or a client leaves and nothing
is sent. -/
@[elab_as_elim]
theorem Rendezvous.induct
    {motive : ∀ history engine, Rendezvous runtime self history engine → Prop}
    (start : motive [] { self, isServer := true } .start)
    (join : ∀ {history engine next id sock actions punch rep stored}
      (before : Rendezvous runtime self history engine)
      (after : Rendezvous runtime self (history ++ [(.joined id sock, actions)]) next),
      history.New id sock → Welcome runtime engine next id sock actions punch rep stored →
      motive history engine before → motive _ next after)
    (leave : ∀ {history engine next sock actions} (before : Rendezvous runtime self history engine)
      (after : Rendezvous runtime self (history ++ [(.left sock, actions)]) next),
      (∀ place, History.inbox [(.left sock, actions)] place = []) →
      motive history engine before → motive _ next after)
    (run : Rendezvous runtime self history engine) : motive history engine run := by
  induction run with
  | start => exact start
  | join before accepted type named new fits taken ih =>
    obtain ⟨punch, rep, stored, welcome⟩ :=
      step_welcome before.online.server accepted type named fits taken
    exact join before _ new welcome ih
  | leave before taken ih => exact leave before _ (fun _ => inbox_leave taken) ih

end Told

end NetEngine

end EbcNet
