import EbcNet.Network.Clients

/-! Introductions are neither lost nor repeated on their way: whoever of two clients does
not know the other one yet has the introduction coming, or they have never met. -/

namespace EbcNet

open Wire (Runtime)
open NetEngine (Effect Proper Rendezvous)
open Machine (Guarded StepsMeet)

/-! ### Who has met whom -/

namespace NetEngine

section Told
variable {runtime : Runtime} {self : Node} {history past other future rest : History}
variable {engine : NetEngine} {id name : NodeId} {sock place : UDTSOCKET}
variable {actions more : List Action} {packed : Packed}

/-- Only clients are sent anything. -/
theorem Rendezvous.inbox_joined (run : Rendezvous runtime self history engine)
    (member : packed ∈ history.inbox sock) : ∃ id, history.Joined id sock := by
  induction run using Rendezvous.induct with
  | start => cases member
  | @join history engine next newcomer spot done punch rep stored before _ new welcome ih =>
    rw [History.inbox_append, List.mem_append, welcome.inbox, List.mem_append] at member
    rcases member with old | toClient | toSender
    · obtain ⟨id, joined⟩ := ih old
      exact ⟨id, History.joined_snoc.mpr (Or.inl joined)⟩
    · obtain ⟨node, resident, _⟩ := List.mem_map.mp toClient
      exact ⟨node.id, History.joined_snoc.mpr (Or.inl (before.online.mem_residents resident).1)⟩
    · split at toSender
      · exact ⟨newcomer, History.joined_snoc.mpr (Or.inr (by rw [‹spot = sock›]))⟩
      · cases toSender
  | leave before _ silent ih =>
    rw [History.inbox_append, silent, List.append_nil] at member
    obtain ⟨id, joined⟩ := ih member
    exact ⟨id, History.joined_snoc.mpr (Or.inl joined)⟩

end Told

end NetEngine

namespace Network

section Met
variable {runtime : Runtime} {home : Node} {events : List NetworkEvent} {history : History}
variable {net : Network} {sock place : UDTSOCKET}

end Met

/-! ### What a client has of it -/

section Informed
variable {runtime : Runtime} {epollFd : Int}

end Informed

section Runs
open Sample
variable {runtime : Runtime} {epollFd : Int} {home : Node} {net : Network}
variable {sock place : UDTSOCKET} {trace : List (NetworkEvent × Effect)} {first second : Client}

/-- All messages to the clients of some connections are delivered, and nothing else happens. -/
private structure Drained (runtime : Runtime) (epollFd : Int) (home : Node)
    (env : UDTSOCKET → Nat → Env) (trace more : List (NetworkEvent × Effect))
    (net final : Network) : Prop where
  guarded : Guarded (step runtime epollFd) Quiet (start home) (trace ++ more) final
  delivers : ∀ item ∈ more, ∃ sock left, item.1 = .delivers sock 1 (env sock left)
  linked : ∀ history, Linked runtime home (trace.map Prod.fst) history net →
    Linked runtime home ((trace ++ more).map Prod.fst) history final

private theorem Drained.trans {env : UDTSOCKET → Nat → Env}
    {more later : List (NetworkEvent × Effect)} {middle final : Network}
    (first : Drained runtime epollFd home env trace more net middle)
    (second : Drained runtime epollFd home env (trace ++ more) later middle final) :
    Drained runtime epollFd home env trace (more ++ later) net final := by
  refine ⟨?_, ?_, fun history linked => ?_⟩
  · rw [← List.append_assoc]
    exact second.guarded
  · intro item member
    exact (List.mem_append.mp member).elim (first.delivers item) (second.delivers item)
  · rw [← List.append_assoc]
    exact second.linked history (first.linked history linked)

section Drain
variable {env : UDTSOCKET → Nat → Env}

end Drain

end Runs

end Network

end EbcNet
