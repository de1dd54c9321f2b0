import EbcNet.Rendezvous
import Mathlib.Data.List.Nodup

/-! The two halves of an introduction: the newcomer's list and the messages to those
who were there before. -/

namespace EbcNet

open Wire (Bytes Runtime MsgType EbcNode)

namespace NetEngine

/-- How two clients are introduced, the first of which joined before the second one. -/
structure Introduced (history past : History) (first second : NodeId) (sock place : UDTSOCKET) :
    Prop where
  listed : first.bytes ∈ history.told .REP place ↔ ¬ past.Left sock
  punched : second.bytes ∈ history.told .PUNCH sock ↔ ¬ past.Left sock
  listedOnce : (history.told .REP place).count first.bytes ≤ 1
  punchedOnce : (history.told .PUNCH sock).count second.bytes ≤ 1
  /-- The first is not told of the second by a list, nor the second of the first by a `PUNCH`. -/
  notListed : second.bytes ∉ history.told .REP sock
  notPunched : first.bytes ∉ history.told .PUNCH place

section Runs
variable {runtime : Runtime} {self : Node} {history past future : History}
variable {engine next : NetEngine} {id other : NodeId} {sock place : UDTSOCKET}
variable {actions : List Action} {punch rep : Packed} {stored : Node} {name : Bytes}
variable {happening : Happening}

/-- An id and a connection belong to one client each. -/
theorem Rendezvous.joined_unique (run : Rendezvous runtime self history engine)
    (joined : history.Joined id sock) (again : history.Joined other place) :
    id = other ↔ sock = place := by
  induction run with
  | start => simp [History.Joined] at joined
  | join before accepted type named new fits taken ih =>
    rw [History.joined_snoc] at joined again
    rcases joined with joined | now <;> rcases again with again | nowAgain
    · exact ih joined again
    · cases nowAgain
      obtain ⟨differentId, differentSock⟩ := new.unused id sock joined
      exact ⟨fun same => absurd same differentId, fun same => absurd same differentSock⟩
    · cases now
      obtain ⟨differentId, differentSock⟩ := new.unused other place again
      exact ⟨fun same => absurd same.symm differentId, fun same => absurd same.symm differentSock⟩
    · cases now
      cases nowAgain
      exact ⟨fun _ => rfl, fun _ => rfl⟩
  | leave before taken ih =>
    rw [History.joined_snoc] at joined again
    exact ih (joined.resolve_right (by simp)) (again.resolve_right (by simp))

theorem Online.mem_residents (online : Online history engine) {node : Node}
    (member : node ∈ engine.residents sock) :
    history.Joined node.id sock ∧ ¬ history.Left sock := by
  obtain ⟨listed, here⟩ := List.mem_filter.mp member
  have home : node.sock = sock := by simpa using here
  rw [← home]
  exact online.entry node.id node (online.mem_clientList.mp listed)

theorem Online.mem_ids (online : Online history engine)
    (member : name ∈ engine.clientList.map fun node => node.id.bytes) :
    ∃ id sock, name = id.bytes ∧ history.Joined id sock ∧ ¬ history.Left sock := by
  obtain ⟨node, listed, rfl⟩ := List.mem_map.mp member
  exact ⟨node.id, node.sock, rfl, online.entry node.id node (online.mem_clientList.mp listed)⟩

/-- Only clients are told of anyone, and only of clients. -/
theorem Rendezvous.told_joined (run : Rendezvous runtime self history engine) {type : MsgType}
    (kind : type = .PUNCH ∨ type = .REP) (member : name ∈ history.told type place) :
    (∃ id, history.Joined id place) ∧ ∃ id sock, history.Joined id sock ∧ name = id.bytes := by
  induction run using Rendezvous.induct with
  | start => simp [History.told, History.inbox] at member
  | @join history engine next id sock actions punch rep stored before _ new welcome ih =>
    have online := before.online
    rw [History.told_append, List.mem_append] at member
    rcases member with old | now
    · obtain ⟨⟨there, joinedThere⟩, other, sock, joined, named⟩ := ih old
      exact ⟨⟨there, History.joined_snoc.mpr (Or.inl joinedThere)⟩, other, sock,
        History.joined_snoc.mpr (Or.inl joined), named⟩
    · rcases kind with rfl | rfl
      · rw [welcome.told_punch] at now
        obtain ⟨node, member, rfl⟩ := List.mem_map.mp now
        exact ⟨⟨node.id, History.joined_snoc.mpr (Or.inl (online.mem_residents member).1)⟩, id, sock,
          History.joined_snoc.mpr (Or.inr rfl), rfl⟩
      · rw [welcome.told_rep] at now
        split at now
        · obtain ⟨other, home, named, joined, _⟩ := online.mem_ids now
          refine ⟨⟨id, History.joined_snoc.mpr (Or.inr ?_)⟩, other, home,
            History.joined_snoc.mpr (Or.inl joined), named⟩
          rw [‹sock = place›]
        · simp at now
  | leave before _ silent ih =>
    rw [History.told_append, History.told_eq_nil (silent place), List.append_nil] at member
    obtain ⟨⟨there, joinedThere⟩, other, sock, joined, named⟩ := ih member
    exact ⟨⟨there, History.joined_snoc.mpr (Or.inl joinedThere)⟩, other, sock,
      History.joined_snoc.mpr (Or.inl joined), named⟩

/-- A newcomer has not been told of anyone. -/
theorem Rendezvous.told_newcomer (run : Rendezvous runtime self history engine)
    (new : history.New id sock) {type : MsgType} (kind : type = .PUNCH ∨ type = .REP) :
    history.told type sock = [] := by
  apply List.eq_nil_iff_forall_not_mem.mpr
  intro name member
  obtain ⟨⟨there, joined⟩, _⟩ := run.told_joined kind member
  exact (new.unused there sock joined).2 rfl

/-- And nobody has been told of it. -/
theorem Rendezvous.newcomer_untold (run : Rendezvous runtime self history engine)
    (new : history.New id sock) {type : MsgType} (kind : type = .PUNCH ∨ type = .REP) :
    id.bytes ∉ history.told type place := by
  intro member
  obtain ⟨_, other, there, joined, same⟩ := run.told_joined kind member
  exact (new.unused other there joined).1 (NodeId.ext same).symm

theorem Online.residents_newcomer (online : Online history engine) (new : history.New id sock) :
    engine.residents sock = [] := by
  apply List.eq_nil_iff_forall_not_mem.mpr
  intro node member
  exact (new.unused node.id sock (online.mem_residents member).1).2 rfl

/-- The step that introduces the newcomer to a client. -/
private theorem introduced_now (run : Rendezvous runtime self history engine)
    (new : history.New other place) (joined : history.Joined id sock)
    (welcome : Welcome runtime engine next other place actions punch rep stored) :
    Introduced (history ++ [(happening, actions)]) history id other sock place := by
  have online := run.online
  obtain ⟨differentId, differentSock⟩ := new.unused id sock joined
  have distinct : id.bytes ≠ other.bytes := fun same => differentId (NodeId.ext same)
  have untoldRep : other.bytes ∉ history.told .REP sock := run.newcomer_untold new (Or.inr rfl)
  have untoldPunch : other.bytes ∉ history.told .PUNCH sock := run.newcomer_untold new (Or.inl rfl)
  have list : History.told .REP (history ++ [(happening, actions)]) place =
      engine.clientList.map fun node => node.id.bytes := by
    rw [History.told_append, run.told_newcomer new (Or.inr rfl), welcome.told_rep, if_pos rfl,
      List.nil_append]
  have punches : History.told .PUNCH (history ++ [(happening, actions)]) sock =
      history.told .PUNCH sock ++ (engine.residents sock).map fun _ => other.bytes := by
    rw [History.told_append, welcome.told_punch]
  refine ⟨?_, ?_, ?_, ?_, ?_, ?_⟩
  · rw [list]
    constructor
    · intro member
      obtain ⟨same, home, named, joinedHome, stays⟩ := online.mem_ids member
      have here := (run.joined_unique joined joinedHome).mp (NodeId.ext named)
      rw [here]
      exact stays
    · intro stays
      obtain ⟨node, present, _⟩ := online.present id sock joined stays
      have own := online.keyed.1 id node present
      refine List.mem_map.mpr ⟨node, online.mem_clientList.mpr (by rw [own]; exact present), ?_⟩
      rw [own]
  · rw [punches, List.mem_append, or_iff_right untoldPunch]
    constructor
    · intro member
      obtain ⟨node, resident, _⟩ := List.mem_map.mp member
      exact (online.mem_residents resident).2
    · intro stays
      obtain ⟨node, present, home⟩ := online.present id sock joined stays
      have own := online.keyed.1 id node present
      have client := online.mem_clientList.mpr (show engine.clients node.id = some node by
        rw [own]; exact present)
      exact List.mem_map.mpr ⟨node, List.mem_filter.mpr ⟨client, by simpa using home⟩, rfl⟩
  · rw [list]
    exact List.nodup_iff_count_le_one.mp online.ids_nodup _
  · rw [punches, List.count_append, List.count_eq_zero_of_not_mem untoldPunch, Nat.zero_add]
    exact Nat.le_trans List.count_le_length (by simpa using online.residents_length)
  · rw [History.told_append, welcome.told_rep, if_neg (Ne.symm differentSock), List.append_nil]
    exact untoldRep
  · rw [History.told_append, run.told_newcomer new (Or.inl rfl), welcome.told_punch,
      online.residents_newcomer new]
    simp

/-- What changes nothing between two clients. -/
private theorem Introduced.extend (introduced : Introduced history past id other sock place)
    (rep : History.told .REP future place = [] ∧ History.told .REP future sock = [])
    (punch : other.bytes ∉ History.told .PUNCH future sock ∧
      id.bytes ∉ History.told .PUNCH future place) :
    Introduced (history ++ future) past id other sock place := by
  refine ⟨?_, ?_, ?_, ?_, ?_, ?_⟩
  · rw [History.told_append, rep.1, List.append_nil]
    exact introduced.listed
  · rw [History.told_append, List.mem_append, or_iff_left punch.1]
    exact introduced.punched
  · rw [History.told_append, rep.1, List.append_nil]
    exact introduced.listedOnce
  · rw [History.told_append, List.count_append, List.count_eq_zero_of_not_mem punch.1]
    exact introduced.punchedOnce
  · rw [History.told_append, rep.2, List.append_nil]
    exact introduced.notListed
  · rw [History.told_append, List.mem_append]
    exact fun member => member.elim introduced.notPunched punch.2

/-- Two clients are introduced as soon as the second joins, and nothing is said of one
to the other before or after. -/
theorem Rendezvous.introduced (run : Rendezvous runtime self history engine)
    (split : history = past ++ (.joined other place, actions) :: future)
    (joined : past.Joined id sock) : Introduced history past id other sock place := by
  induction run using Rendezvous.induct generalizing future with
  | start => simp at split
  | @join history engine next newcomer spot done punch rep stored before _ new welcome ih =>
    rcases Machine.split_snoc split with ⟨rfl, same⟩ | ⟨rest, earlier⟩
    · cases same
      exact introduced_now before new joined welcome
    · -- A later newcomer is told to both, and told of neither to the other.
      have secondJoined : history.Joined other place := ⟨actions, by simp [earlier]⟩
      have firstJoined : history.Joined id sock := by
        obtain ⟨done, member⟩ := joined
        exact ⟨done, by rw [earlier]; exact List.mem_append_left _ member⟩
      obtain ⟨otherNew, placeNew⟩ := new.unused other place secondJoined
      obtain ⟨idNew, sockNew⟩ := new.unused id sock firstJoined
      refine (ih earlier).extend ⟨?_, ?_⟩ ⟨?_, ?_⟩
      · rw [welcome.told_rep, if_neg (Ne.symm placeNew)]
      · rw [welcome.told_rep, if_neg (Ne.symm sockNew)]
      · rw [welcome.told_punch]
        intro member
        obtain ⟨_, _, same⟩ := List.mem_map.mp member
        exact otherNew (NodeId.ext same).symm
      · rw [welcome.told_punch]
        intro member
        obtain ⟨_, _, same⟩ := List.mem_map.mp member
        exact idNew (NodeId.ext same).symm
  | leave before _ silent ih =>
    rcases Machine.split_snoc split with ⟨_, same⟩ | ⟨rest, earlier⟩
    · cases same
    · refine (ih earlier).extend
        ⟨History.told_eq_nil (silent place), History.told_eq_nil (silent sock)⟩ ⟨?_, ?_⟩
      · simp [History.told_eq_nil (silent sock)]
      · simp [History.told_eq_nil (silent place)]

/-- No client is told of itself. -/
theorem Rendezvous.notSelf (run : Rendezvous runtime self history engine)
    (joined : history.Joined id sock) {type : MsgType} (kind : type = .PUNCH ∨ type = .REP) :
    id.bytes ∉ history.told type sock := by
  induction run using Rendezvous.induct with
  | start => simp [History.Joined] at joined
  | @join history engine next newcomer spot done punch rep stored before _ new welcome ih =>
    have online := before.online
    rw [History.told_append, List.mem_append]
    rintro (old | now)
    · rcases History.joined_snoc.mp joined with joined | same
      · exact ih joined old
      · cases same
        exact before.newcomer_untold new kind old
    · rcases kind with rfl | rfl
      · rw [welcome.told_punch] at now
        obtain ⟨node, resident, same⟩ := List.mem_map.mp now
        have here := (online.mem_residents resident).1
        rcases History.joined_snoc.mp joined with joined | newest
        · exact (new.unused id sock joined).1 (NodeId.ext same).symm
        · cases newest
          exact (new.unused node.id _ here).2 rfl
      · rw [welcome.told_rep] at now
        split at now
        · rcases History.joined_snoc.mp joined with joined | newest
          · exact (new.unused id sock joined).2 (Eq.symm ‹_›)
          · cases newest
            obtain ⟨same, home, named, listed, _⟩ := online.mem_ids now
            exact (new.unused same home listed).1 (NodeId.ext named).symm
        · simp at now
  | leave before _ silent ih =>
    rw [History.told_append, History.told_eq_nil (silent sock), List.append_nil]
    exact ih ((History.joined_snoc.mp joined).resolve_right (by simp))

end Runs

end NetEngine

end EbcNet
