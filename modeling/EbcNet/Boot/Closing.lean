import EbcNet.Boot.Tracking

/-! Which sockets a client closes: in a round of its loop, and when it is destroyed. -/

namespace EbcNet

open Wire (Runtime)
open Machine (StepsMeet)
open NetEngine (BootEvent Effect Punched FreshSockets)

/-! ### Rounds -/

/-- A visit finds the socket failed. The error pass takes any socket for failed. -/
def Round.deadly (round : Round) (sock : UDTSOCKET) (visited : Pass × UDTSOCKET) : Bool :=
  visited.2 = sock && (visited.1 = .errfds || (round.status visited.1 sock).failed)

/-- A round finds the socket failed in one of its passes. -/
def Round.Fails (round : Round) (sock : UDTSOCKET) : Prop :=
  sock ∈ (round.fds .errfds).socks ∨
    (sock ∈ (round.fds .writefds).socks ∧ (round.status .writefds sock).failed = true) ∨
    (sock ∈ (round.fds .readfds).socks ∧ (round.status .readfds sock).failed = true)

theorem Round.fails_iff {round : Round} {sock : UDTSOCKET} :
    round.visits.any (round.deadly sock) = true ↔ round.Fails sock := by
  have pass : ∀ pass, (((round.fds pass).socks.map (Prod.mk pass)).any (round.deadly sock)) =
      true ↔ sock ∈ (round.fds pass).socks ∧
        (pass = .errfds ∨ (round.status pass sock).failed = true) := by
    intro pass
    simp only [List.any_map, List.any_eq_true, Function.comp_apply, deadly, Bool.and_eq_true,
      Bool.or_eq_true, decide_eq_true_eq]
    constructor
    · rintro ⟨_, member, rfl, failed⟩
      exact ⟨member, failed⟩
    · rintro ⟨member, failed⟩
      exact ⟨sock, member, rfl, failed⟩
  rw [visits, List.any_append, List.any_append, Bool.or_eq_true, Bool.or_eq_true, pass, pass, pass,
    Fails]
  simp [or_assoc]

namespace BootLoop

section Visits
variable {runtime : Runtime} {epollFd : Int} {round : Round} {loop next : BootLoop}
variable {sock : UDTSOCKET} {visited : Pass × UDTSOCKET} {log : List BootAction}

/-- A visit closes the socket that it is about when it gives it up. -/
private theorem Outcome.opened_here {pass : Pass} (foreign : round.Foreign sock)
    (peer : sock ≠ loop.bootSock)
    (outcome : Outcome runtime epollFd round loop sock pass next log) :
    next.udt.opened sock =
      (loop.udt.opened sock && !(pass = .errfds || loop.failed)) := by
  cases outcome with
  | bootError boot => exact absurd boot peer
  | lost _ failed =>
    have given : (decide (pass = .errfds) || loop.failed) = true := by
      rcases failed with error | failed
      · simp [error]
      · simp [failed]
    simp [given]
  | reconnected boot => exact absurd boot peer
  | gaveUp boot => exact absurd boot peer
  | announced boot => exact absurd boot peer
  | connected _ succeeds => simp [watch, unwatch, succeeds]
  | received succeeds punch taken => simp [(received_other foreign punch taken loop.udt).1, succeeds]

private theorem Outcome.opened_elsewhere {pass : Pass} {place : UDTSOCKET}
    (foreign : round.Foreign sock) (elsewhere : sock ≠ place)
    (outcome : Outcome runtime epollFd round loop place pass next log) :
    next.udt.opened sock = loop.udt.opened sock := by
  cases outcome with
  | bootError => rfl
  | lost => exact Function.update_of_ne elsewhere ..
  | reconnected => simp [watch, unwatch]
  | gaveUp => rfl
  | announced => simp [watch, unwatch]
  | connected => simp [watch, unwatch]
  | received _ punch taken => exact (received_other foreign punch taken loop.udt).1

/-- A visit closes the socket of a peer just when it finds it failed. -/
private theorem visit_closes (foreign : round.Foreign sock) (peer : sock ≠ loop.bootSock)
    (visiting : visit runtime epollFd round loop visited = some (next, log)) :
    next.udt.opened sock = (loop.udt.opened sock && !round.deadly sock visited) := by
  obtain ⟨pass, place⟩ := visited
  have outcome := visit_outcome visiting
  by_cases here : place = sock
  · subst here
    rw [outcome.opened_here foreign (by rwa [examine_bootSock]), examine_udt]
    cases known : loop.udt.opened place with
    | false => rfl
    | true => simp [BootLoop.failed, examine_opened known, Round.deadly]
  · rw [outcome.opened_elsewhere foreign (Ne.symm here), examine_udt]
    simp [Round.deadly, here]

private theorem step_closes (foreign : round.Foreign sock) (peer : sock ≠ loop.bootSock)
    (taken : step runtime epollFd loop round = some (next, log)) (going : next.returned = false) :
    next.udt.opened sock = (loop.udt.opened sock && !round.visits.any (round.deadly sock)) := by
  obtain ⟨_, swept⟩ := step_swept taken
  have each := Machine.sweep_invariant (fun done _ _ state => state.bootSock = loop.bootSock ∧
    state.udt.opened sock = (loop.udt.opened sock && !done.any (round.deadly sock))) swept
    ⟨rfl, by simp⟩
  obtain ⟨done, rest, split, ended, _, closed⟩ := each <| by
    rintro done visited todo past state reached more - ⟨boot, closed⟩ - visiting
    refine ⟨(visit_bootSock visiting).trans boot, ?_⟩
    rw [visit_closes foreign (boot ▸ peer) visiting, closed, List.any_append, Bool.not_or]
    simp [Bool.and_assoc]
  have all : rest = [] := ended.resolve_right (by simp [going])
  rw [closed, split, all, List.append_nil]

end Visits

section Rounds
variable {runtime : Runtime} {epollFd : Int} {loop final : BootLoop} {sock : UDTSOCKET}
variable {trace : List (Round × List BootAction)}

/-- While the thread goes on, the socket of a peer that is open stays so until a round finds
it failed, and no longer. -/
theorem open_iff_spared (run : Machine.Run (step runtime epollFd) loop trace final)
    (foreign : ∀ round log, (round, log) ∈ trace → round.Foreign sock)
    (peer : sock ≠ loop.bootSock) (opened : loop.udt.opened sock = true)
    (going : final.returned = false) :
    final.udt.opened sock = true ↔ ∀ round log, (round, log) ∈ trace → ¬ round.Fails sock := by
  suffices whole : final.bootSock = loop.bootSock ∧ (final.udt.opened sock = true ↔
      ∀ round log, (round, log) ∈ trace → ¬ round.Fails sock) from whole.2
  induction run with
  | start => exact ⟨rfl, by simp [opened]⟩
  | @step trace state next round log before taken ih =>
    obtain ⟨boot, spared⟩ := ih (fun round log member => foreign round log
      (List.mem_append_left _ member)) (step_swept taken).1
    refine ⟨(step_bootSock taken).trans boot, ?_⟩
    rw [step_closes (foreign round log (by simp)) (boot ▸ peer) taken going, Bool.and_eq_true,
      spared, Bool.not_eq_true', ← Bool.not_eq_true, Round.fails_iff]
    constructor
    · rintro ⟨earlier, now⟩ other more member
      rcases List.mem_append.mp member with past | last
      · exact earlier other more past
      · cases List.mem_singleton.mp last
        exact now
    · intro never
      exact ⟨fun other more member => never other more (List.mem_append_left _ member),
        never round log (by simp)⟩

end Rounds

open Sample in
/-- The socket that breaks is closed, and the other one is not. -/
theorem open_iff_spared_broken :
    ∃ (loop final : BootLoop) (log : List BootAction),
      Machine.Run (step Wire.Reference.runtime 0) loop [(brokenPeer noFds, log)] final ∧
      ∀ sock, sock = 1 ∨ sock = 2 → (final.udt.opened sock = true ↔
        ∀ round more, (round, more) ∈ [(brokenPeer noFds, log)] → ¬ round.Fails sock) := by
  have check : ((step Wire.Reference.runtime 0 (start (Node.new memory) 5 true) connectedRound).bind
      fun first => (step Wire.Reference.runtime 0 first.1 listedRound).bind
        fun second => (step Wire.Reference.runtime 0 second.1 (brokenPeer noFds)).map
          fun third => (second.1.bootSock, second.1.udt.opened 1, second.1.udt.opened 2,
            third.1.returned)) = some (5, true, true, false) := by
    decide +kernel
  obtain ⟨⟨first, connected⟩, _, rest⟩ := Option.bind_eq_some_iff.mp check
  obtain ⟨⟨second, listed⟩, _, rest⟩ := Option.bind_eq_some_iff.mp rest
  obtain ⟨⟨third, broken⟩, breaks, facts⟩ := Option.map_eq_some_iff.mp rest
  obtain ⟨boot, facts⟩ := Prod.mk.inj facts
  obtain ⟨one, facts⟩ := Prod.mk.inj facts
  obtain ⟨two, going⟩ := Prod.mk.inj facts
  dsimp only at breaks boot one two going
  refine ⟨second, third, broken, .single breaks, fun sock here => ?_⟩
  refine open_iff_spared (.single breaks) ?_ ?_ ?_ going
  · intro round more member
    cases List.mem_singleton.mp member
    exact foreign_connectedRound sock
  · rw [boot]
    rcases here with rfl | rfl <;> decide
  · rcases here with rfl | rfl
    · exact one
    · exact two

end BootLoop

/-! ### What a client holds open -/

/-- A socket that a message stores a peer for is made and watched by it. -/
theorem NetEngine.handleMsg_epollAdd {runtime : Runtime} {engine next : NetEngine} {env : Env}
    {place sock : UDTSOCKET} {epollFd : Int} {actions : List Action} {memory : Memory}
    {str : Wire.Bytes} {ip portNat : UInt32}
    (done : engine.handleMsg runtime env place epollFd = some (next, actions))
    (introduced : .addPeer memory str ip portNat sock ∈ engine.calls runtime env place) :
    .epollAdd epollFd sock ∈ actions ∧ ∃ turn, (env.punch turn).made = some sock := by
  have listed : ∀ {nodes : List Wire.EbcNode},
      .addPeer memory str ip portNat sock ∈ introductions env 0 nodes →
        .epollAdd epollFd sock ∈ (introduceAll env epollFd engine 0 nodes).2 ∧
          ∃ turn, (env.punch turn).made = some sock := by
    intro nodes member
    obtain ⟨turn, node, made, found, connects, _, same⟩ := mem_introductions_iff.mp member
    cases same
    obtain ⟨below, _⟩ := List.getElem?_eq_some_iff.mp found
    exact ⟨introduceAll_epollAdd.mpr ⟨rfl, turn, below, connects⟩, _, by rw [connects]; rfl⟩
  cases handleMsg_handled done with
  | ignored nothing => simp [nothing] at introduced
  | registered _ _ _ _ _ _ told => simp [told] at introduced
  | answered _ _ _ told => simp [told] at introduced
  | introduced _ _ _ told => exact listed (told ▸ introduced)
  | punched _ _ _ told =>
    rw [← introduceAll_single]
    exact listed (told ▸ introduced)

namespace Udt

section Held
variable {epollFd : Int} {udt : Udt} {sock : UDTSOCKET}

private theorem act_held {action : Action} (kept : action ≠ .close sock)
    (held : udt.opened sock = true ∨ action = .epollAdd epollFd sock) :
    (udt.act epollFd action).opened sock = true := by
  cases action with
  | close other =>
    have elsewhere : sock ≠ other := fun same => kept (by rw [same])
    exact (Function.update_of_ne elsewhere ..).trans (held.resolve_right (by simp))
  | epollAdd fd other =>
    by_cases own : fd = epollFd
    · rw [act, if_pos own, epollAdd_opened]
      by_cases here : sock = other
      · subst here
        exact Function.update_self ..
      · refine (Function.update_of_ne here ..).trans (held.resolve_right fun same => here ?_)
        cases same
        rfl
    · rw [act, if_neg own]
      refine held.resolve_right fun same => own ?_
      cases same
      rfl
  | _ => exact held.resolve_right (by simp)

/-- A socket is open that was so or is added, where it is not closed. -/
theorem acts_held {actions : List Action} (kept : .close sock ∉ actions)
    (held : udt.opened sock = true ∨ .epollAdd epollFd sock ∈ actions) :
    (actions.foldl (act epollFd) udt).opened sock = true := by
  induction actions generalizing udt with
  | nil => exact held.resolve_right (by simp)
  | cons action actions ih =>
    obtain ⟨now, later⟩ := List.ne_and_not_mem_of_not_mem_cons kept
    refine ih later ?_
    by_cases held' : udt.opened sock = true ∨ action = .epollAdd epollFd sock
    · exact Or.inl (act_held (Ne.symm now) held')
    · obtain ⟨closed, other⟩ := not_or.mp held'
      refine Or.inr ((List.mem_cons.mp (held.resolve_left closed)).resolve_left ?_)
      exact fun same => other same.symm

end Held

end Udt

namespace BootLoop

section Held
variable {runtime : Runtime} {epollFd : Int} {round : Round} {loop next : BootLoop} {pass : Pass}
variable {sock bootSock : UDTSOCKET} {log : List BootAction} {past : List (BootEvent × Effect)}

/-- The sockets that punch are open, and `boot_sock` is none of them. -/
def Holds (past : List (BootEvent × Effect)) (loop : BootLoop) : Prop :=
  ∀ sock id, Punched past sock id → loop.udt.opened sock = true ∧ sock ≠ loop.bootSock

private theorem Holds.visited (holds : Holds past loop) (foreign : round.Foreign loop.bootSock)
    (outcome : Outcome runtime epollFd round loop sock pass next log) :
    Holds (past ++ events log) next := by
  intro place id punched
  cases outcome with
  | bootError => exact holds place id (by simpa [events] using punched)
  | lost peer =>
    obtain ⟨kept, before | introduced⟩ := NetEngine.punched_snoc.mp punched
    · obtain ⟨opened, elsewhere⟩ := holds place id before
      have other : place ≠ sock := by simpa using kept
      exact ⟨(Function.update_of_ne other ..).trans opened, elsewhere⟩
    · simp at introduced
  | reconnected => simpa [watch, unwatch] using holds place id (by simpa [events] using punched)
  | gaveUp => exact holds place id (by simpa [events] using punched)
  | announced => simpa [watch, unwatch] using holds place id (by simpa [events] using punched)
  | connected =>
    obtain ⟨_, before | introduced⟩ := NetEngine.punched_snoc.mp punched
    · simpa [watch, unwatch] using holds place id before
    · simp at introduced
  | received _ punch taken =>
    obtain ⟨kept, origin⟩ := NetEngine.punched_snoc.mp punched
    obtain ⟨actions, done, rfl⟩ := NetEngine.step_message taken
    rcases origin with before | ⟨memory, str, ip, portNat, introduced, _⟩
    · obtain ⟨opened, elsewhere⟩ := holds place id before
      exact ⟨Udt.acts_held kept (Or.inl opened), elsewhere⟩
    · obtain ⟨added, turn, made⟩ := NetEngine.handleMsg_epollAdd done introduced
      refine ⟨Udt.acts_held kept (Or.inr added), ?_⟩
      rintro rfl
      rw [punch] at made
      exact foreign sock turn made

private theorem Holds.step (holds : Holds past loop) (foreign : round.Foreign loop.bootSock)
    (taken : step runtime epollFd loop round = some (next, log)) :
    Holds (past ++ events log) next := by
  obtain ⟨_, swept⟩ := step_swept taken
  have start : Holds (past ++ events []) loop := by simpa [events] using holds
  have each := Machine.sweep_invariant (fun _ _ more state => state.bootSock = loop.bootSock ∧
    Holds (past ++ events more) state) swept ⟨rfl, start⟩
  obtain ⟨_, _, _, _, _, held⟩ := each <| by
    rintro done ⟨pass, sock⟩ todo earlier state reached more - ⟨boot, held⟩ - visiting
    refine ⟨(visit_bootSock visiting).trans boot, ?_⟩
    have examined : Holds (past ++ events earlier)
        (state.examine (round.status pass sock) sock) := by
      intro place id punched
      rw [examine_udt, examine_bootSock]
      exact held place id punched
    rw [events_append, ← List.append_assoc]
    exact examined.visited (by rwa [examine_bootSock, boot]) (visit_outcome visiting)
  exact held

end Held

/-- `~NetEngine` -/
def destroy (loop : BootLoop) : Udt :=
  ((loop.engine.peerList ++ loop.engine.clientList).map Node.sock).foldl Udt.close
    (loop.udt.close loop.bootSock)

private theorem closes_opened {udt : Udt} {socks : List UDTSOCKET} {sock : UDTSOCKET} :
    (socks.foldl Udt.close udt).opened sock = true ↔ udt.opened sock = true ∧ sock ∉ socks := by
  induction socks generalizing udt with
  | nil => simp
  | cons other socks ih =>
    rw [List.foldl_cons, ih, Udt.close_opened, List.mem_cons, not_or, ← and_assoc]
    by_cases here : sock = other
    · simp [here]
    · simp [here]

theorem destroy_opened {loop : BootLoop} {sock : UDTSOCKET} :
    loop.destroy.opened sock = true ↔ (loop.udt.opened sock = true ∧ sock ≠ loop.bootSock) ∧
      ∀ node ∈ loop.engine.peerList ++ loop.engine.clientList, node.sock ≠ sock := by
  have one := @closes_opened loop.udt [loop.bootSock] sock
  rw [List.foldl_cons, List.foldl_nil, List.mem_singleton] at one
  rw [destroy, closes_opened, one, List.mem_map]
  simp

section Runs
variable {runtime : Runtime} {epollFd : Int} {loop : BootLoop} {self : Node}
variable {bootSock : UDTSOCKET} {connects : Bool} {trace : List (Round × List BootAction)}

private theorem sound_of_run
    (run : Machine.Run (step runtime epollFd) (start self bootSock connects) trace loop)
    (reported : StepsMeet (step runtime epollFd) Reported (start self bootSock connects) trace)
    (foreign : ∀ round log, (round, log) ∈ trace →
      round.Foreign bootSock ∧ round.Foreign INVALID_SOCK)
    (fresh : FreshSockets (events (history bootSock connects trace)))
    (sees : ∀ round log, (round, log) ∈ trace → SeesFailure bootSock round) :
    Sound bootSock (events (history bootSock connects trace)) loop ∧
      Holds (events (history bootSock connects trace)) loop := by
  induction run with
  | start =>
    refine ⟨by simpa [history] using sound_start, ?_⟩
    rintro sock id ⟨past, event, effect, future, split, _⟩
    simp [history] at split
  | @step trace state next round log before taken ih =>
    rw [history_snoc, events_append] at fresh ⊢
    obtain ⟨sound, holds⟩ := ih reported.past
      (fun round log member => foreign round log (List.mem_append_left _ member)) fresh.past
      (fun round log member => sees round log (List.mem_append_left _ member))
    obtain ⟨own, valid⟩ := foreign round log (by simp)
    refine ⟨sound.step (reported trace round log [] rfl state before) own valid fresh
      (sees round log (by simp)) taken, holds.step ?_ taken⟩
    rwa [sound.boot]

/-- As long as the write pass goes by failures at what is closed: a client has just
`boot_sock` and the sockets open that it has recorded for its peers, and its destructor
leaves just those of them open that none of its nodes stands at. -/
theorem opened_iff_recorded
    (run : Machine.Run (step runtime epollFd) (start self bootSock connects) trace loop)
    (reported : StepsMeet (step runtime epollFd) Reported (start self bootSock connects) trace)
    (foreign : ∀ round log, (round, log) ∈ trace →
      round.Foreign bootSock ∧ round.Foreign INVALID_SOCK)
    (fresh : FreshSockets (events (history bootSock connects trace)))
    (sees : ∀ round log, (round, log) ∈ trace → SeesFailure bootSock round) (sock : UDTSOCKET) :
    (loop.udt.opened sock = true ↔ sock = bootSock ∨ (loop.engine.owner sock).isSome = true) ∧
      (loop.destroy.opened sock = true ↔ (loop.engine.owner sock).isSome = true ∧
        ∀ node ∈ loop.engine.peerList ++ loop.engine.clientList, node.sock ≠ sock) := by
  obtain ⟨sound, holds⟩ := sound_of_run run reported foreign fresh sees
  have recorded : (loop.engine.owner sock).isSome = true ↔
      loop.udt.opened sock = true ∧ sock ≠ bootSock := by
    rw [Option.isSome_iff_exists]
    constructor
    · rintro ⟨id, owned⟩
      obtain ⟨opened, elsewhere⟩ := holds sock id ((sound.tracks.recorded sock id).mp owned)
      exact ⟨opened, sound.boot ▸ elsewhere⟩
    · rintro ⟨opened, elsewhere⟩
      obtain ⟨id, punched⟩ := (sound.known sock opened).resolve_left elsewhere
      exact ⟨id, (sound.tracks.recorded sock id).mpr punched⟩
  constructor
  · rw [recorded]
    by_cases here : sock = bootSock
    · simp [here, sound.connection]
    · simp [here]
  · rw [destroy_opened, recorded, sound.boot]

end Runs

open Sample

/-- Of two peers that are punched towards, one breaks. -/
theorem opened_iff_recorded_broken :
    ∃ trace loop, Machine.Run (step Wire.Reference.runtime 0) (start (Node.new memory) 5 true) trace
        loop ∧
      trace.map Prod.fst = [connectedRound, listedRound, brokenPeer noFds] ∧ ∀ sock,
        (loop.udt.opened sock = true ↔ sock = 5 ∨ (loop.engine.owner sock).isSome = true) ∧
        (loop.destroy.opened sock = true ↔ (loop.engine.owner sock).isSome = true ∧
          ∀ node ∈ loop.engine.peerList ++ loop.engine.clientList, node.sock ≠ sock) := by
  obtain ⟨trace, loop, run, rounds, reported, fresh, _, _⟩ :=
    @brokenPeer_run noFds none (by decide +kernel) (by simp [noFds])
  refine ⟨trace, loop, run, rounds, fun sock => ?_⟩
  refine opened_iff_recorded run reported (brokenPeer_foreign rounds) fresh ?_ sock
  intro round log member before place after split closed
  have listed : round ∈ trace.map Prod.fst := List.mem_map_of_mem member
  rw [rounds] at listed
  simp only [List.mem_cons, List.not_mem_nil, or_false] at listed
  rcases listed with rfl | rfl | rfl
  · cases closed
  · cases closed
  · simp [brokenPeer, noFds] at split

end BootLoop

end EbcNet
