import EbcNet.OpenClients
import EbcNet.Server.Refinement

/-! What becomes of the connections of a server: a round closes those that it finds dead,
once each, and the clients of the server are all at the others. -/

namespace EbcNet

open Wire (Runtime MsgType)
open Machine (Guarded StepsMeet)

namespace ServerAction

def closes (sock : UDTSOCKET) : ServerAction → Bool
  | .close other => other = sock
  | _ => false

end ServerAction

/-- A visit finds the socket dead. The readable pass accepts on `srv` instead. -/
def ServerRound.deadly (round : ServerRound) (srv sock : UDTSOCKET)
    (visited : ServerPass × UDTSOCKET) : Bool :=
  visited.2 = sock && (round.status visited.1 sock).gone &&
    (visited.1 = .errfds || decide (sock ≠ srv))

/-- A round finds the socket dead in one of its passes. -/
def ServerRound.Dies (round : ServerRound) (srv sock : UDTSOCKET) : Prop :=
  (sock ∈ (round.fds .errfds).socks ∧ (round.status .errfds sock).gone = true) ∨
    (sock ∈ (round.fds .readfds).socks ∧ sock ≠ srv ∧ (round.status .readfds sock).gone = true)

theorem ServerRound.dies_iff {round : ServerRound} {srv sock : UDTSOCKET} :
    round.visits.any (round.deadly srv sock) = true ↔ round.Dies srv sock := by
  have pass : ∀ pass, (((round.fds pass).socks.map (Prod.mk pass)).any (round.deadly srv sock)) =
      true ↔ sock ∈ (round.fds pass).socks ∧ (round.status pass sock).gone = true ∧
        (pass = .errfds ∨ sock ≠ srv) := by
    intro pass
    simp only [List.any_map, List.any_eq_true, Function.comp_apply, deadly, Bool.and_eq_true,
      Bool.or_eq_true, decide_eq_true_eq]
    constructor
    · rintro ⟨_, member, ⟨rfl, gone⟩, place⟩
      exact ⟨member, gone, place⟩
    · rintro ⟨member, gone, place⟩
      exact ⟨sock, member, ⟨rfl, gone⟩, place⟩
  rw [visits, List.any_append, Bool.or_eq_true, pass, pass, Dies]
  simp [and_comm]

namespace ServerThread

section Visits
variable {runtime : Runtime} {epollFd : Int} {round : ServerRound} {thread next : ServerThread}
variable {sock place : UDTSOCKET} {pass : ServerPass} {log : List ServerAction}

/-- What a visit makes of a socket: it is closed when it is open and found dead, and a
closed one is recorded for nobody. -/
structure Treats (thread next : ServerThread) (log : List ServerAction) (sock : UDTSOCKET)
    (dead : Bool) : Prop where
  srv : next.srv = thread.srv
  returned : next.returned = thread.returned
  opened : next.udt.opened sock = (thread.udt.opened sock && !dead)
  closes : log.countP (ServerAction.closes sock) = if thread.udt.opened sock && dead then 1 else 0
  owner : (thread.udt.opened sock = false → thread.engine.owner sock = none) →
    next.udt.opened sock = false → next.engine.owner sock = none

private theorem lose_treats (opened : thread.udt.opened sock = true)
    (taken : thread.lose runtime sock = some (next, log)) :
    Treats thread next log place (sock = place) := by
  obtain ⟨⟨engine, effect⟩, stepped, same⟩ := Option.map_eq_some_iff.mp taken
  cases same
  cases stepped
  refine ⟨rfl, rfl, ?_, ?_, ?_⟩
  · by_cases here : place = sock
    · simp [here]
    · simp [here, Ne.symm here]
  · by_cases here : sock = place
    · subst here
      simp [opened, ServerAction.closes]
    · simp [here, ServerAction.closes]
  · intro before closed
    rw [NetEngine.owner_delClientNode]
    by_cases here : place = sock
    · rw [here, Function.update_self]
    · rw [Function.update_of_ne here]
      refine before ?_
      simpa [Function.update_of_ne here] using closed

/-- A message records its sender, and what it punches with. -/
private theorem message_owner {engine after : NetEngine} {env : Env} {fd : Int}
    {actions : List Action}
    (foreign : ∀ turn, (env.punch turn).made ≠ some place) (elsewhere : place ≠ sock)
    (done : engine.handleMsg runtime env sock fd = some (after, actions)) :
    after.owner place = engine.owner place := by
  have away : ∀ turn, env.punch turn ≠ .connects place := by
    intro turn connects
    refine foreign turn ?_
    rw [connects]
    rfl
  rw [NetEngine.handleMsg_calls done]
  refine NetEngine.owner_calls_other fun made member => ?_
  cases NetEngine.handleMsg_handled done with
  | ignored nothing => simp [nothing] at member
  | registered _ _ _ _ _ _ told _ =>
    rw [told] at member
    rw [List.mem_singleton.mp member]
    exact ⟨sock, _, rfl, Ne.symm elsewhere⟩
  | answered _ _ _ told _ => simp [told] at member
  | introduced _ _ _ told => exact NetEngine.introductions_recorded away (told ▸ member)
  | punched _ _ _ told => exact NetEngine.introductions_recorded away (told ▸ member)

private theorem receive_treats {env : Env} (foreign : ∀ turn, (env.punch turn).made ≠ some place)
    (taken : thread.receive runtime epollFd sock env = some (next, log)) :
    Treats thread next log place false := by
  obtain ⟨⟨engine, effect⟩, stepped, same⟩ := Option.map_eq_some_iff.mp taken
  cases same
  obtain ⟨actions, done, same⟩ := NetEngine.step_message stepped
  have kept : ∀ turn, ((if thread.udt.opened sock then env else { env with recv := none }).punch
      turn).made ≠ some place := by
    split <;> exact foreign
  have others : ∀ action ∈ effect.actions, action.handled ≠ some place := by
    intro action member about
    rw [same] at member
    obtain ⟨turn, made⟩ := NetEngine.handleMsg_made done member about
    exact kept turn made
  have opened := (@Udt.acts_other epollFd thread.udt place _ others).1
  refine ⟨rfl, rfl, by simpa using opened, ?_, ?_⟩
  · have none : (if (thread.udt.opened place && false) = true then 1 else 0) = 0 := by simp
    rw [none]
    split <;> rfl
  · intro before closed
    dsimp only at closed ⊢
    rw [opened] at closed
    by_cases here : place = sock
    · -- Nothing is received from a closed socket.
      subst here
      rw [closed, if_neg (by simp)] at done
      cases done
      exact before closed
    · rw [message_owner kept here done]
      exact before closed

private theorem Treats.spared {dead : Bool} (treats : Treats thread next log sock false)
    (spared : (thread.udt.opened sock && dead) = false) : Treats thread next log sock dead := by
  obtain ⟨srv, returned, opened, closes, owner⟩ := treats
  refine ⟨srv, returned, ?_, ?_, owner⟩
  · rw [opened]
    cases before : thread.udt.opened sock with
    | false => rfl
    | true =>
      rw [before, Bool.true_and] at spared
      rw [spared]
  · rw [closes, spared, Bool.and_false]

private theorem Treats.same (thread : ServerThread) (sock : UDTSOCKET) :
    Treats thread thread [] sock false :=
  ⟨rfl, rfl, (Bool.and_true _).symm, by simp, id⟩

private theorem accept_treats (foreign : round.cli ≠ some place) :
    Treats thread (thread.accept epollFd round.cli).1 (thread.accept epollFd round.cli).2 place
      false := by
  unfold accept
  split
  · exact .same thread place
  · rename_i cli accepted
    split
    · have elsewhere : place ≠ cli := fun same => foreign (same ▸ accepted)
      refine ⟨rfl, rfl, ?_, ?_, fun before closed => before ?_⟩
      · rw [Udt.epollAdd_opened]
        simp [Function.update_of_ne elsewhere]
      · rw [Bool.and_false]
        rfl
      · rw [Udt.epollAdd_opened] at closed
        simpa [Function.update_of_ne elsewhere] using closed
    · exact .same thread place

private theorem visit_treats
    (foreign : round.cli ≠ some place ∧ ∀ turn, ((round.env sock).punch turn).made ≠ some place)
    (taken : visit runtime epollFd round thread (pass, sock) = some (next, log)) :
    Treats thread next log place (round.deadly thread.srv place (pass, sock)) := by
  cases pass with
  | errfds =>
    dsimp only [visit] at taken
    split at taken
    · rename_i gone
      obtain ⟨opened, gone⟩ := Bool.and_eq_true_iff.mp gone
      have treats := @lose_treats _ _ _ _ place _ opened taken
      have dead : round.deadly thread.srv place (.errfds, sock) = decide (sock = place) := by
        by_cases here : sock = place
        · subst here
          simp [ServerRound.deadly, gone]
        · simp [ServerRound.deadly, here]
      rw [dead]
      exact treats
    · rename_i spared
      cases taken
      refine (Treats.same thread place).spared ?_
      rw [Bool.eq_false_iff]
      intro both
      obtain ⟨opened, dead⟩ := Bool.and_eq_true_iff.mp both
      obtain ⟨rfl, dead⟩ : sock = place ∧ (round.status .errfds place).gone = true := by
        simpa [ServerRound.deadly] using dead
      exact spared (Bool.and_eq_true_iff.mpr ⟨opened, dead⟩)
  | readfds =>
    dsimp only [visit] at taken
    split at taken
    · rename_i here
      have spared : round.deadly thread.srv place (.readfds, sock) = false := by
        rw [Bool.eq_false_iff]
        intro dead
        obtain ⟨⟨rfl, _⟩, elsewhere⟩ : (sock = place ∧ _) ∧ place ≠ thread.srv := by
          simpa [ServerRound.deadly] using dead
        exact elsewhere here
      have treats := @accept_treats epollFd round thread place foreign.1
      rw [Option.some.inj taken] at treats
      rw [spared]
      exact treats
    · rename_i other
      split at taken
      · rename_i gone
        obtain ⟨opened, gone⟩ := Bool.and_eq_true_iff.mp gone
        have dead : round.deadly thread.srv place (.readfds, sock) = decide (sock = place) := by
          by_cases here : sock = place
          · subst here
            simp [ServerRound.deadly, gone, other]
          · simp [ServerRound.deadly, here]
        rw [dead]
        exact lose_treats opened taken
      · rename_i spared
        refine (receive_treats foreign.2 taken).spared ?_
        rw [Bool.eq_false_iff]
        intro both
        obtain ⟨opened, dead⟩ := Bool.and_eq_true_iff.mp both
        obtain ⟨⟨rfl, gone⟩, _⟩ : (sock = place ∧ (round.status .readfds place).gone = true) ∧
            place ≠ thread.srv := by
          simpa [ServerRound.deadly] using dead
        exact spared (Bool.and_eq_true_iff.mpr ⟨opened, gone⟩)

theorem Treats.trans {middle : ServerThread} {more : List ServerAction} {dead again : Bool}
    (first : Treats thread middle log sock dead) (second : Treats middle next more sock again) :
    Treats thread next (log ++ more) sock (dead || again) := by
  refine ⟨second.srv.trans first.srv, second.returned.trans first.returned, ?_, ?_, ?_⟩
  · rw [second.opened, first.opened, Bool.not_or, Bool.and_assoc]
  · rw [List.countP_append, first.closes, second.closes, first.opened]
    cases thread.udt.opened sock <;> cases dead <;> cases again <;> rfl
  · exact fun before => second.owner (first.owner before)

end Visits

section Round
variable {runtime : Runtime} {epollFd : Int} {round : ServerRound} {thread next : ServerThread}
variable {sock : UDTSOCKET} {log : List ServerAction}

theorem step_treats (fits : round.Fits thread) (waited : 0 < round.ret)
    (opened : thread.udt.opened sock = true)
    (taken : step runtime epollFd thread round = some (next, log)) :
    Treats thread next log sock (round.visits.any (round.deadly thread.srv sock)) := by
  have foreign : round.cli ≠ some sock ∧
      ∀ other turn, ((round.env other).punch turn).made ≠ some sock := by
    refine ⟨fun accepted => ?_, fun other turn made => ?_⟩
    · have closed := fits.accepted sock accepted
      simp [opened] at closed
    · have closed := (fits.made other turn sock made).1
      simp [opened] at closed
  unfold step at taken
  split at taken
  · cases taken
  · rename_i going
    rw [if_neg (by omega), if_neg (by omega)] at taken
    obtain ⟨past, rest, split, ended, treats⟩ := Machine.sweep_invariant
      (fun done _ log state =>
        Treats thread state log sock (done.any (round.deadly thread.srv sock)))
      taken (.same thread sock) fun _ treats _ taken => by
        rw [List.any_append]
        have treated := visit_treats ⟨foreign.1, foreign.2 _⟩ taken
        rw [treats.srv] at treated
        simpa using treats.trans treated
    have done : rest = [] := by
      refine ended.resolve_right ?_
      rw [treats.returned]
      exact going
    rw [split, done, List.append_nil]
    exact treats

/-- A round closes just those of the open sockets that it finds dead, each once, and the
closed ones are recorded for nobody. -/
theorem closes_iff_dies (fits : round.Fits thread) (waited : 0 < round.ret)
    (opened : thread.udt.opened sock = true)
    (taken : step runtime epollFd thread round = some (next, log)) :
    (next.udt.opened sock = false ↔ round.Dies thread.srv sock) ∧
      (.close sock ∈ log ↔ round.Dies thread.srv sock) ∧
      log.countP (ServerAction.closes sock) ≤ 1 ∧
      (round.Dies thread.srv sock → next.engine.owner sock = none) := by
  have treats := step_treats fits waited opened taken
  have closes : .close sock ∈ log ↔ 0 < log.countP (ServerAction.closes sock) := by
    rw [List.countP_pos_iff]
    constructor
    · exact fun member => ⟨_, member, decide_eq_true rfl⟩
    · rintro ⟨action, member, same⟩
      cases action with
      | close other =>
        rw [← of_decide_eq_true same]
        exact member
      | _ => cases same
  rw [closes, treats.closes, treats.opened, ← ServerRound.dies_iff, opened]
  cases dead : round.visits.any (round.deadly thread.srv sock) with
  | false => simp
  | true =>
    refine ⟨by simp, by simp, by simp, fun _ => treats.owner ?_ ?_⟩
    · simp [opened]
    · simp [treats.opened, dead]

end Round

open Sample

/-- A round that reports the connection broken, after one that accepts it. -/
theorem closes_iff_dies_broken :
    ∃ (first next : ServerThread) (log : List ServerAction),
      step Wire.Reference.runtime 1 first (quietRound (oneFd 2) (oneFd 2) .BROKEN none) =
          some (next, log) ∧
        (next.udt.opened 2 = false ↔
          (quietRound (oneFd 2) (oneFd 2) .BROKEN none).Dies first.srv 2) ∧
        (.close 2 ∈ log ↔ (quietRound (oneFd 2) (oneFd 2) .BROKEN none).Dies first.srv 2) ∧
        log.countP (ServerAction.closes 2) ≤ 1 ∧
        ((quietRound (oneFd 2) (oneFd 2) .BROKEN none).Dies first.srv 2 →
          next.engine.owner 2 = none) := by
  have check : ((step Wire.Reference.runtime 1 (start (Node.new memory) 1 true true)
      (quietRound noFds (oneFd 1) .CONNECTED (some 2))).bind fun first =>
        (step Wire.Reference.runtime 1 first.1 (quietRound (oneFd 2) (oneFd 2) .BROKEN none)).map
          fun _ => (first.1.udt.opened 2, (first.1.udt.watched 2).isSome)) = some (true, true) := rfl
  obtain ⟨⟨first, accepts⟩, _, rest⟩ := Option.bind_eq_some_iff.mp check
  obtain ⟨⟨second, breaks⟩, secondStep, facts⟩ := Option.map_eq_some_iff.mp rest
  obtain ⟨opened, watched⟩ := Prod.mk.inj facts
  have report : ∀ sock ∈ (oneFd 2).socks, (first.udt.watched sock).isSome = true := by
    intro sock member
    rw [List.mem_singleton.mp member]
    exact watched
  exact ⟨first, second, breaks, secondStep,
    closes_iff_dies (quietRound_fits report report nofun) (by decide) opened secondStep⟩

end ServerThread

/-! ### Clients of a running thread -/

/-- What the engine gets of it. -/
def ServerEvent.handed : ServerEvent → Option NetEngine.Event
  | .accepted _ => none
  | .message env sock => some (.message env sock ServerLoop.defaultEpollFd)
  | .lost sock => some (.clientLost sock)

namespace ServerLoop

section Runs
variable {runtime : Runtime} {epollFd : Int} {self : Node} {srv : UDTSOCKET}
variable {trace : List (ServerEvent × NetEngine.Effect)} {loop : ServerLoop}

/-- The engine of a loop runs on what the loop hands it. -/
theorem engine_run (run : Machine.Run (step runtime epollFd) (start self srv) trace loop) :
    ∃ taken, Machine.Run (NetEngine.step runtime) { self, isServer := true } taken loop.engine ∧
      taken.map Prod.fst = trace.filterMap (ServerEvent.handed ∘ Prod.fst) := by
  induction run with
  | start => exact ⟨[], .start, rfl⟩
  | @step trace before next event effect _ taken ih =>
    obtain ⟨past, reached, events⟩ := ih
    rw [List.filterMap_append, ← events]
    cases event with
    | accepted sock =>
      cases taken
      exact ⟨past, reached, by simp [ServerEvent.handed]⟩
    | message env sock =>
      obtain ⟨⟨engine, other⟩, handled, same⟩ := Option.map_eq_some_iff.mp taken
      cases same
      exact ⟨_, reached.step handled, by simp [ServerEvent.handed]⟩
    | lost sock =>
      cases taken
      have lost : NetEngine.step runtime before.engine (.clientLost sock) = some (_, _) := rfl
      exact ⟨_, reached.step lost, by simp [ServerEvent.handed]⟩

/-- What a loop was handed before its last event, and after a message in it. -/
private theorem handed_snoc {event last : NetEngine.Event} {front past future : List NetEngine.Event}
    (heard : front ++ [last] = past ++ event :: future) :
    (event = last ∧ future = []) ∨
      ∃ rest, front = past ++ event :: rest ∧ future = rest ++ [last] := by
  rcases Machine.split_snoc heard with ⟨rfl, rfl⟩ | ⟨rest, rfl⟩
  · simp only [List.append_cancel_left_eq, List.cons.injEq, true_and] at heard
    exact Or.inl ⟨rfl, heard.symm⟩
  · simp only [List.append_assoc, List.cons_append, List.append_cancel_left_eq, List.cons.injEq,
      true_and] at heard
    exact Or.inr ⟨rest, rfl, heard.symm⟩

/-- A connection that a message came from is watched until it is lost. -/
private theorem watched_of_heard {start : ServerLoop}
    (guarded : Guarded (step runtime epollFd) Proper start trace loop) {sock : UDTSOCKET}
    {env : Env} {fd : Int} {past future : List NetEngine.Event}
    (heard : trace.filterMap (ServerEvent.handed ∘ Prod.fst) =
      past ++ .message env sock fd :: future)
    (kept : .clientLost sock ∉ future) : sock ∈ loop.watched := by
  obtain ⟨run, meets⟩ := guarded
  induction run generalizing future with
  | start => simp at heard
  | @step trace before next event effect reached taken ih =>
    have proper : before.Proper event := meets _ _ _ [] rfl _ reached
    rw [List.filterMap_append] at heard
    cases event with
    | accepted place =>
      cases taken
      rw [List.filterMap_cons_none rfl, List.filterMap_nil, List.append_nil] at heard
      exact Finset.mem_insert_of_mem (ih heard kept meets.past)
    | message other place =>
      obtain ⟨⟨engine, effect⟩, _, same⟩ := Option.map_eq_some_iff.mp taken
      cases same
      refine mem_watch.mpr (Or.inl ?_)
      rcases handed_snoc heard with ⟨same, _⟩ | ⟨rest, front, rfl⟩
      · cases same
        exact proper.1
      · exact ih front (fun member => kept (List.mem_append_left _ member)) meets.past
    | lost place =>
      cases taken
      rcases handed_snoc heard with ⟨same, _⟩ | ⟨rest, front, rfl⟩
      · cases same
      · refine Finset.mem_erase.mpr ⟨?_, ?_⟩
        · rintro rfl
          exact kept (by simp)
        · exact ih front (fun member => kept (List.mem_append_left _ member)) meets.past

/-- The messages that a loop takes up punch with no connection that has registered: it is
watched still, and what `startPunch` returns is not. -/
theorem handed_settled
    (guarded : Guarded (step runtime epollFd) Proper (start self srv) trace loop)
    (steady : NetEngine.Steady runtime { self, isServer := true }
      (trace.filterMap (ServerEvent.handed ∘ Prod.fst))) :
    NetEngine.Settled runtime { self, isServer := true }
      (trace.filterMap (ServerEvent.handed ∘ Prod.fst)) where
  loop := by
    intro sock member
    obtain ⟨⟨event, effect⟩, _, handed⟩ := List.mem_filterMap.mp member
    cases event <;> cases handed
  steady := steady
  foreign := by
    rintro _ env sock fd object future split _ _ turn made connects id
      ⟨past, other, place, first, later, rfl, _, _, _, kept⟩
    obtain ⟨before, rest, rfl, front, back⟩ := List.filterMap_eq_append_iff.mp split
    obtain ⟨silent, ⟨event, effect⟩, after, rfl, nothing, handed, _⟩ :=
      List.filterMap_eq_cons_iff.mp back
    have heard : (before ++ silent).filterMap (ServerEvent.handed ∘ Prod.fst) =
        past ++ .message other made place :: later := by
      rw [List.filterMap_append, front, List.filterMap_eq_nil_iff.mpr nothing, List.append_nil]
    rw [← List.append_assoc] at guarded
    obtain ⟨middle, next, reached, _, _⟩ := guarded.run.at
    have proper := guarded.meets _ _ _ _ rfl _ reached
    have watched := watched_of_heard ⟨reached, guarded.meets.past⟩ heard kept
    cases event with
    | message again origin =>
      cases handed
      refine proper.2 turn made ?_ watched
      rw [connects]
      rfl
    | _ => cases handed

end Runs

end ServerLoop

namespace ServerThread

section Runs
variable {runtime : Runtime} {epollFd : Int} {self : Node} {srv : UDTSOCKET}
variable {trace : List (ServerRound × List ServerAction)} {thread : ServerThread}

/-- What the engine of a thread got in a run. -/
def handed (trace : List (ServerRound × List ServerAction)) : List NetEngine.Event :=
  ((trace.flatMap Prod.snd).filterMap ServerAction.taken).filterMap (ServerEvent.handed ∘ Prod.fst)

/-- While each connection keeps to one id, all clients of the thread are at sockets that it
has open and watches, each under its own id and at a socket recorded for it, and they are no
more than these sockets. -/
theorem clients_opened
    (run : Machine.Run (step runtime epollFd) (start self srv true true) trace thread)
    (fits : StepsMeet (step runtime epollFd) (fun thread round => round.Fits thread)
      (start self srv true true) trace)
    (steady : NetEngine.Steady runtime { self, isServer := true } (handed trace)) :
    (∀ id node, thread.engine.clients id = some node → node.id = id ∧
      thread.udt.opened node.sock = true ∧ (thread.udt.watched node.sock).isSome = true ∧
        thread.engine.owner node.sock = some id) ∧
      thread.engine.clientNode.size ≤ {sock | thread.udt.opened sock = true}.ncard := by
  obtain ⟨loop, guarded, mirrors⟩ :=
    run.simulate Mirrors fits (mirrors_start self srv) step_simulate
  obtain ⟨taken, engineRun, events⟩ := ServerLoop.engine_run guarded.run
  have open_ := NetEngine.allOpen_of_run engineRun
    (events ▸ ServerLoop.handed_settled guarded steady)
  rw [mirrors.engine, events] at open_
  have watched : ∀ id node, thread.engine.clients id = some node → node.sock ∈ loop.watched := by
    intro id node present
    obtain ⟨_, ⟨past, env, fd, _, future, split, _, _, _, kept⟩, _⟩ := open_ id node present
    exact ServerLoop.watched_of_heard guarded split kept
  have sockets : {sock | thread.udt.opened sock = true} = (loop.watched : Set UDTSOCKET) := by
    ext sock
    exact mirrors.opened.symm
  refine ⟨fun id node present => ?_, ?_⟩
  · obtain ⟨own, _, recorded⟩ := open_ id node present
    have here := watched id node present
    exact ⟨own, mirrors.opened.mp here, (mirrors.watched _).mp here, recorded⟩
  · have distinct := NetEngine.clientList_nodup fun id node present => (open_ id node present).2.2
    rw [sockets, Set.ncard_coe_finset]
    calc thread.engine.clientNode.size
        = (thread.engine.clientList.map Node.sock).toFinset.card := by
          rw [List.toFinset_card_of_nodup distinct]
          simp [NetEngine.clientList]
      _ ≤ loop.watched.card := by
          refine Finset.card_le_card ?_
          intro sock member
          obtain ⟨node, client, rfl⟩ := List.mem_map.mp (List.mem_toFinset.mp member)
          obtain ⟨id, present⟩ := NetEngine.mem_clientList.mp client
          exact watched id node present

end Runs

open Sample

/-- A round that reports a connection, on which a message comes in. -/
def messageRound (env : Env) (sock : UDTSOCKET) : ServerRound where
  ret := 1
  fds
    | .errfds => noFds
    | .readfds => oneFd sock
  status _ _ := .CONNECTED
  cli := none
  env := Function.update (quietRound noFds noFds .CONNECTED none).env sock env

theorem messageRound_fits {thread : ServerThread} {env : Env} {sock : UDTSOCKET}
    (watched : (thread.udt.watched sock).isSome = true)
    (made : ∀ turn made, (env.punch turn).made = some made → thread.udt.opened made = false ∧
      ∀ later, (env.punch later).made = some made → later = turn) :
    (messageRound env sock).Fits thread := by
  have place : ∀ other turn made,
      (((messageRound env sock).env other).punch turn).made = some made →
        other = sock ∧ (env.punch turn).made = some made := by
    intro other turn made isMade
    by_cases here : other = sock
    · simp only [here, messageRound, Function.update_self] at isMade
      exact ⟨here, isMade⟩
    · simp only [messageRound, Function.update_of_ne here] at isMade
      cases isMade
  have quiet : ∀ cli, (messageRound env sock).cli ≠ some cli := by
    intro cli accepted
    cases accepted
  refine ⟨?_, fun cli accepted => absurd accepted (quiet cli), ?_⟩
  · intro pass other reported
    cases pass with
    | errfds => simp [messageRound, noFds] at reported
    | readfds =>
      rw [List.mem_singleton.mp reported]
      exact watched
  · intro other turn socket isMade
    obtain ⟨here, isMade⟩ := place other turn socket isMade
    obtain ⟨closed, unique⟩ := made turn socket isMade
    refine ⟨closed, quiet socket, fun again later isMade => ?_⟩
    obtain ⟨there, isMade⟩ := place again later socket isMade
    exact ⟨there.trans here.symm, unique later isMade⟩

/-- A `PUNCH` is no `GET_NODE` with another id. -/
private theorem punched_steady : NetEngine.Steady Wire.Reference.runtime server
    [arrival (nodeId 7) ⟨1, 2⟩ 2, .message (punchEnv (nodeId 8) ⟨1, 3⟩ ⟨1, 2⟩ 3) 2 0] := by
  refine @NetEngine.steady_of_one _ _ _ (nodeId 7) ?_
  intro other sock fd object member taken getNode
  rcases List.mem_cons.mp member with same | member
  · cases same
    rw [received_env] at taken
    cases taken
    rfl
  · cases List.mem_singleton.mp member
    have punch : (server.received Wire.Reference.runtime
        (punchEnv (nodeId 8) ⟨1, 3⟩ ⟨1, 2⟩ 3)).map (·.ebcMsg.type) ≠
          some MsgType.GET_NODE.toInt32 := by
      decide +kernel
    rw [taken] at punch
    exact absurd (congrArg some getNode) punch

/-- A client registers, and sends a `PUNCH` then. -/
theorem clients_opened_punched :
    ∃ (trace : List (ServerRound × List ServerAction)) (thread : ServerThread),
      Machine.Run (step Wire.Reference.runtime 1) (start (Node.new memory) 1 true true) trace thread ∧
      trace.map Prod.fst =
        [quietRound noFds (oneFd 1) .CONNECTED (some 2),
          messageRound (env (nodeId 7) ⟨1, 2⟩) 2,
          messageRound (punchEnv (nodeId 8) ⟨1, 3⟩ ⟨1, 2⟩ 3) 2] ∧
      thread.engine.clientNode.size = 1 ∧ thread.engine.owner 3 = some (nodeId 8) ∧
      (∀ id node, thread.engine.clients id = some node → node.id = id ∧
        thread.udt.opened node.sock = true ∧ (thread.udt.watched node.sock).isSome = true ∧
          thread.engine.owner node.sock = some id) ∧
      thread.engine.clientNode.size ≤ {sock | thread.udt.opened sock = true}.ncard := by
  have check : ((step Wire.Reference.runtime 1 (start (Node.new memory) 1 true true)
      (quietRound noFds (oneFd 1) .CONNECTED (some 2))).bind fun first =>
        (step Wire.Reference.runtime 1 first.1 (messageRound (env (nodeId 7) ⟨1, 2⟩) 2)).bind
          fun second => (step Wire.Reference.runtime 1 second.1
            (messageRound (punchEnv (nodeId 8) ⟨1, 3⟩ ⟨1, 2⟩ 3) 2)).map fun third =>
              ((first.1.udt.watched 2).isSome, (second.1.udt.watched 2).isSome,
                second.1.udt.opened 3, third.1.engine.clientNode.size, third.1.engine.owner 3,
                handed [(quietRound noFds (oneFd 1) .CONNECTED (some 2), first.2),
                  (messageRound (env (nodeId 7) ⟨1, 2⟩) 2, second.2),
                  (messageRound (punchEnv (nodeId 8) ⟨1, 3⟩ ⟨1, 2⟩ 3) 2, third.2)])) =
      some (true, true, false, 1, some (nodeId 8), [arrival (nodeId 7) ⟨1, 2⟩ 2,
        .message (punchEnv (nodeId 8) ⟨1, 3⟩ ⟨1, 2⟩ 3) 2 0]) := by
    with_unfolding_all rfl
  obtain ⟨⟨first, accepts⟩, firstStep, rest⟩ := Option.bind_eq_some_iff.mp check
  obtain ⟨⟨second, arrives⟩, secondStep, rest⟩ := Option.bind_eq_some_iff.mp rest
  obtain ⟨⟨third, punches⟩, thirdStep, facts⟩ := Option.map_eq_some_iff.mp rest
  simp only [Prod.mk.injEq] at facts
  obtain ⟨watched, again, closed, size, owner, events⟩ := facts
  have accepted := Machine.Run.start.step firstStep
  have arrived := accepted.step secondStep
  have run := arrived.step thirdStep
  refine ⟨_, third, run, rfl, size, owner, clients_opened run ?_ ?_⟩
  · refine ((StepsMeet.nil.snoc .start accepting_fits).snoc accepted
      (messageRound_fits watched ?_)).snoc arrived (messageRound_fits again ?_)
    · intro turn made isMade
      cases isMade
    · intro turn made isMade
      obtain ⟨rfl, rfl⟩ := punchEnv_made isMade
      exact ⟨closed, fun later isMade => (punchEnv_made isMade).2⟩
  · exact (congrArg (NetEngine.Steady _ _) events).mpr punched_steady

end ServerThread

end EbcNet
