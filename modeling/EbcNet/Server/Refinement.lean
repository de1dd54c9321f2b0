import EbcNet.Base.Simulation
import EbcNet.Server.Thread

/-! The rounds of the server thread come to the events of its loop: each socket is given up
once, and nothing is taken up from it after that. -/

namespace EbcNet

open Wire (Runtime)
open Machine (Guarded StepsMeet)

/-! ### Open sockets are watched -/

namespace Udt

/-- The open sockets are just those that are watched. -/
def Agrees (udt : Udt) : Prop := ∀ sock, udt.opened sock = (udt.watched sock).isSome

section Agrees
variable {epollFd : Int} {udt : Udt} {sock : UDTSOCKET} {actions : List Action}

theorem Agrees.close (agrees : udt.Agrees) (sock : UDTSOCKET) : (udt.close sock).Agrees := by
  intro other
  by_cases same : other = sock
  · subst same
    simp
  · simpa [Function.update_of_ne same] using agrees other

theorem Agrees.open (agrees : udt.Agrees) (sock : UDTSOCKET) (mask : EpollMask) :
    ({ udt with opened := Function.update udt.opened sock true }.epollAdd sock mask).Agrees := by
  intro other
  unfold epollAdd
  by_cases same : other = sock
  · subst same
    cases watched : udt.watched other <;> simp [watched]
  · have before := agrees other
    cases udt.watched sock <;> simp [Function.update_of_ne same, before]

theorem Agrees.acted (agrees : udt.Agrees) (action : Action) : (udt.act epollFd action).Agrees := by
  cases action with
  | close sock => exact agrees.close sock
  | epollAdd other sock =>
    unfold Udt.act
    dsimp only
    split
    · exact agrees.open sock .all
    · exact agrees
  | _ => exact agrees

theorem Agrees.acts (agrees : udt.Agrees) : (actions.foldl (Udt.act epollFd) udt).Agrees := by
  induction actions generalizing udt with
  | nil => exact agrees
  | cons action actions ih => exact ih (agrees.acted action)

private theorem act_watched {action : Action} (kept : action ≠ .close sock) :
    ((udt.act epollFd action).watched sock).isSome = true ↔
      (udt.watched sock).isSome = true ∨ action = .epollAdd epollFd sock := by
  by_cases about : action.handled = some sock
  · cases action with
    | close other =>
      cases about
      exact absurd rfl kept
    | epollAdd fd other =>
      cases about
      by_cases own : fd = epollFd
      · subst own
        cases watched : udt.watched sock <;> simp [act, epollAdd, watched]
      · simp [act, own]
    | connect other addr =>
      refine (or_iff_left fun same => ?_).symm
      cases same
    | _ => cases about
  · rw [(act_other about).2]
    refine (or_iff_left fun same => about ?_).symm
    rw [same]
    rfl

/-- Where nothing is closed, a socket is watched that was so, or that is added. -/
theorem acts_watched (kept : .close sock ∉ actions) :
    ((actions.foldl (act epollFd) udt).watched sock).isSome = true ↔
      (udt.watched sock).isSome = true ∨ .epollAdd epollFd sock ∈ actions := by
  induction actions generalizing udt with
  | nil => simp
  | cons action actions ih =>
    rw [List.foldl_cons, ih fun member => kept (List.mem_cons_of_mem _ member),
      act_watched fun same => kept (same ▸ List.mem_cons_self), List.mem_cons, or_assoc,
      @eq_comm _ action]

end Agrees

end Udt

/-! ### Rounds and events -/

theorem ServerRound.visits_nodup (round : ServerRound) : round.visits.Nodup := by
  have one : ∀ pass, ((round.fds pass).socks.map (Prod.mk pass)).Nodup := fun pass =>
    List.Nodup.map (fun left right same => (Prod.mk.inj same).2) (FdSet.nodup _)
  refine List.nodup_append'.mpr ⟨one _, one _, ?_⟩
  simp [List.disjoint_left]

/-- What a round of the thread can be like: `epoll_wait` reports watched sockets, and
`UDT::accept` and `UDT::socket` make new ones, each once. -/
structure ServerRound.Fits (thread : ServerThread) (round : ServerRound) : Prop where
  reported : ∀ pass sock, sock ∈ (round.fds pass).socks → (thread.udt.watched sock).isSome = true
  accepted : ∀ cli, round.cli = some cli → thread.udt.opened cli = false
  made : ∀ sock turn made, ((round.env sock).punch turn).made = some made →
    thread.udt.opened made = false ∧ round.cli ≠ some made ∧
      ∀ other later, ((round.env other).punch later).made = some made → other = sock ∧ later = turn

/-- A connection is taken up when it is not watched yet, and a message or a loss when it
is. What `startPunch` makes is not watched. -/
def ServerLoop.Proper (loop : ServerLoop) : ServerEvent → Prop
  | .accepted sock => sock ∉ loop.watched
  | .message env sock => sock ∈ loop.watched ∧
      ∀ turn made, (env.punch turn).made = some made → made ∉ loop.watched
  | .lost sock => sock ∈ loop.watched

theorem ServerLoop.Proper.possible {loop : ServerLoop} {event : ServerEvent}
    (proper : loop.Proper event) : loop.Possible event := by
  cases event with
  | message env sock =>
    refine ⟨proper.1, fun turn made connects => proper.2 turn made ?_⟩
    rw [connects]
    rfl
  | _ => trivial

namespace ServerThread

/-- The thread is in the state of the loop. -/
structure Mirrors (thread : ServerThread) (loop : ServerLoop) : Prop where
  engine : loop.engine = thread.engine
  watched : ∀ sock, sock ∈ loop.watched ↔ (thread.udt.watched sock).isSome = true
  agrees : thread.udt.Agrees

section Visits
variable {runtime : Runtime} {epollFd : Int} {round : ServerRound} {thread next : ServerThread}
variable {loop : ServerLoop} {sock : UDTSOCKET} {log : List ServerAction}

theorem Mirrors.opened (mirrors : Mirrors thread loop) :
    sock ∈ loop.watched ↔ thread.udt.opened sock = true := by
  rw [mirrors.watched, mirrors.agrees]

/-- What a message does with a socket is part of its introductions. -/
private theorem handleMsg_introduces {engine after : NetEngine} {env : Env} {actions : List Action}
    {place made : UDTSOCKET} {fd : Int} {action : Action}
    (done : engine.handleMsg runtime env place fd = some (after, actions))
    (member : action ∈ actions) (about : action.handled = some made) :
    ∃ nodes, action ∈ (NetEngine.introduceAll env fd engine 0 nodes).2 := by
  cases NetEngine.handleMsg_handled done with
  | ignored => simp at member
  | registered _ _ _ _ _ _ _ answered =>
    rcases List.mem_append.mp member with toClient | toSender
    · obtain ⟨node, _, rfl⟩ := List.mem_map.mp toClient
      cases about
    · rw [NetEngine.reply_handled answered toSender] at about
      cases about
  | answered _ _ _ _ answered =>
    rw [NetEngine.reply_handled answered member] at about
    cases about
  | introduced => exact ⟨_, member⟩
  | punched => exact ⟨_, NetEngine.introduceAll_single _ _ ▸ member⟩

/-- What is made in a message is closed again or added, not both. -/
private theorem close_or_add {engine after : NetEngine} {env : Env} {actions : List Action}
    {place made : UDTSOCKET} {fd other : Int}
    (apart : ∀ turn later made, (env.punch turn).made = some made →
      (env.punch later).made = some made → later = turn)
    (done : engine.handleMsg runtime env place fd = some (after, actions))
    (closed : .close made ∈ actions) : .epollAdd other made ∉ actions := by
  intro added
  obtain ⟨_, closes⟩ := handleMsg_introduces done closed rfl
  obtain ⟨turn, isMade, failed⟩ := NetEngine.introduceAll_close closes
  obtain ⟨_, adds⟩ := handleMsg_introduces done added rfl
  obtain ⟨_, later, _, connects⟩ := NetEngine.introduceAll_epollAdd.mp adds
  have same := apart turn (0 + later) _ isMade (by rw [connects]; rfl)
  rw [← same] at failed
  exact failed connects

/-- After a message the thread watches what it did, and what the message added. -/
private theorem message_watched {engine after : NetEngine} {env : Env} {actions : List Action}
    {place : UDTSOCKET} {fd : Int} {udt : Udt} (agrees : udt.Agrees)
    (fresh : ∀ turn made, (env.punch turn).made = some made → udt.opened made = false ∧
      ∀ later, (env.punch later).made = some made → later = turn)
    (done : engine.handleMsg runtime env place fd = some (after, actions)) :
    ((actions.foldl (Udt.act epollFd) udt).watched sock).isSome = true ↔
      (udt.watched sock).isSome = true ∨ .epollAdd epollFd sock ∈ actions := by
  by_cases closed : .close sock ∈ actions
  · have absent : .epollAdd epollFd sock ∉ actions :=
      close_or_add (fun turn later made first second => (fresh turn made first).2 later second)
        done closed
    obtain ⟨turn, made⟩ := NetEngine.handleMsg_made done closed rfl
    have unwatched : (udt.watched sock).isSome = false := by
      rw [← agrees]
      exact (fresh turn sock made).1
    rcases (@Udt.acts_added epollFd udt sock actions absent).2 with gone | same
    · simp [gone, absent, unwatched]
    · simp [same, absent, unwatched]
  · exact Udt.acts_watched closed

private theorem lose_simulate (mirrors : Mirrors thread loop)
    (opened : thread.udt.opened sock = true)
    (taken : thread.lose runtime sock = some (next, log)) :
    ∃ reached, Guarded (ServerLoop.step runtime epollFd) ServerLoop.Proper loop
      (log.filterMap ServerAction.taken) reached ∧ Mirrors next reached := by
  obtain ⟨⟨engine, effect⟩, stepped, same⟩ := Option.map_eq_some_iff.mp taken
  cases same
  have lost : ServerLoop.step runtime epollFd loop (.lost sock) =
      some ({ engine, watched := loop.watched.erase sock }, effect) := by
    rw [ServerLoop.step, mirrors.engine, stepped]
    rfl
  have proper : loop.Proper (.lost sock) := mirrors.opened.mpr opened
  refine ⟨_, .single proper lost, rfl, ?_, ?_⟩
  · intro other
    rw [Finset.mem_erase, mirrors.watched]
    by_cases here : other = sock
    · simp [here]
    · simp [here]
  · intro other
    by_cases here : other = sock
    · simp [here]
    · simp [here, mirrors.agrees other]

private theorem accept_simulate (mirrors : Mirrors thread loop)
    (fresh : ∀ cli, round.cli = some cli → thread.udt.opened cli = false) :
    ∃ reached, Guarded (ServerLoop.step runtime epollFd) ServerLoop.Proper loop
      ((thread.accept epollFd round.cli).2.filterMap ServerAction.taken) reached ∧
        Mirrors (thread.accept epollFd round.cli).1 reached := by
  unfold accept
  split
  · exact ⟨loop, .nil, mirrors⟩
  · rename_i cli accepted
    split
    · have unwatched : (thread.udt.watched cli).isSome = false := by
        rw [← mirrors.agrees]
        exact fresh cli accepted
      have proper : loop.Proper (.accepted cli) := by
        rw [ServerLoop.Proper, mirrors.watched, unwatched]
        simp
      refine ⟨_, .single proper rfl, mirrors.engine, ?_, mirrors.agrees.open cli .inErr⟩
      intro other
      rw [Finset.mem_insert, mirrors.watched]
      have none := Option.isSome_eq_false_iff.mp unwatched
      unfold Udt.epollAdd
      by_cases here : other = cli
      · simp [here, Option.isNone_iff_eq_none.mp none]
      · simp [here, Option.isNone_iff_eq_none.mp none]
    · exact ⟨loop, .nil, mirrors⟩

private theorem receive_simulate (mirrors : Mirrors thread loop) {env : Env}
    (fresh : ∀ turn made, (env.punch turn).made = some made → thread.udt.opened made = false ∧
      ∀ later, (env.punch later).made = some made → later = turn)
    (taken : thread.receive runtime epollFd sock env = some (next, log)) :
    ∃ reached, Guarded (ServerLoop.step runtime epollFd) ServerLoop.Proper loop
      (log.filterMap ServerAction.taken) reached ∧ Mirrors next reached := by
  obtain ⟨⟨engine, effect⟩, stepped, same⟩ := Option.map_eq_some_iff.mp taken
  cases same
  cases opened : thread.udt.opened sock with
  | false =>
    rw [opened, if_neg (by simp)] at stepped
    obtain ⟨actions, done, rfl⟩ := NetEngine.step_message stepped
    have silent : thread.engine.handleMsg runtime { env with recv := none } sock
        ServerLoop.defaultEpollFd = some (thread.engine, []) := rfl
    rw [silent] at done
    cases done
    exact ⟨loop, .nil, mirrors⟩
  | true =>
    rw [opened, if_pos rfl] at stepped
    obtain ⟨actions, done, same⟩ := NetEngine.step_message stepped
    have heard : ServerLoop.step runtime epollFd loop (.message env sock) =
        some ({ engine, watched := watch epollFd loop.watched effect.actions }, effect) := by
      rw [ServerLoop.step, mirrors.engine, stepped]
      rfl
    have proper : loop.Proper (.message env sock) := by
      refine ⟨mirrors.opened.mpr opened, fun turn made isMade => ?_⟩
      rw [mirrors.opened, (fresh turn made isMade).1]
      simp
    refine ⟨_, .single proper heard, rfl, ?_, mirrors.agrees.acts⟩
    intro other
    rw [ServerLoop.mem_watch, mirrors.watched, same, message_watched mirrors.agrees fresh done]

private theorem lose_opens {place : UDTSOCKET} (taken : thread.lose runtime sock = some (next, log)) :
    next.srv = thread.srv ∧
      (next.udt.opened place = true → thread.udt.opened place = true) := by
  obtain ⟨⟨engine, effect⟩, _, same⟩ := Option.map_eq_some_iff.mp taken
  cases same
  refine ⟨rfl, fun opened => ?_⟩
  by_cases here : place = sock
  · simp [here] at opened
  · simpa [Function.update_of_ne here] using opened

private theorem accept_opens {place : UDTSOCKET} {cli : Option UDTSOCKET} :
    (thread.accept epollFd cli).1.srv = thread.srv ∧
      ((thread.accept epollFd cli).1.udt.opened place = true →
        thread.udt.opened place = true ∨ cli = some place) := by
  unfold accept
  split
  · exact ⟨rfl, Or.inl⟩
  · rename_i cli
    split
    · refine ⟨rfl, fun opened => ?_⟩
      rw [Udt.epollAdd_opened] at opened
      by_cases here : place = cli
      · exact Or.inr (congrArg some here.symm)
      · exact Or.inl (by simpa [Function.update_of_ne here] using opened)
    · exact ⟨rfl, Or.inl⟩

private theorem receive_opens {place : UDTSOCKET} {env : Env}
    (taken : thread.receive runtime epollFd sock env = some (next, log)) :
    next.srv = thread.srv ∧
      (next.udt.opened place = true →
        thread.udt.opened place = true ∨ ∃ turn, (env.punch turn).made = some place) := by
  obtain ⟨⟨engine, effect⟩, stepped, same⟩ := Option.map_eq_some_iff.mp taken
  cases same
  refine ⟨rfl, fun opened => ?_⟩
  obtain ⟨actions, done, same⟩ := NetEngine.step_message stepped
  by_cases about : ∃ action ∈ effect.actions, action.handled = some place
  · obtain ⟨action, member, about⟩ := about
    rw [same] at member
    obtain ⟨turn, made⟩ := NetEngine.handleMsg_made done member about
    refine Or.inr ⟨turn, ?_⟩
    split at made <;> exact made
  · have kept := (@Udt.acts_other epollFd thread.udt place effect.actions
      fun action member handled => about ⟨action, member, handled⟩).1
    exact Or.inl (kept ▸ opened)

/-- What a visit may open: the connection that it accepts, or what its message makes. -/
private theorem visit_opens {pass : ServerPass} {place : UDTSOCKET}
    (taken : visit runtime epollFd round thread (pass, sock) = some (next, log)) :
    next.srv = thread.srv ∧ (next.udt.opened place = true → thread.udt.opened place = true ∨
      pass = .readfds ∧ (sock = thread.srv ∧ round.cli = some place ∨
        ∃ turn, ((round.env sock).punch turn).made = some place)) := by
  cases pass with
  | errfds =>
    dsimp only [visit] at taken
    split at taken
    · exact (lose_opens taken).imp_right fun opens opened => Or.inl (opens opened)
    · cases taken
      exact ⟨rfl, Or.inl⟩
  | readfds =>
    dsimp only [visit] at taken
    split at taken
    · have same := Option.some.inj taken
      have opens := @accept_opens epollFd thread place round.cli
      rw [same] at opens
      refine opens.imp_right fun opens opened => (opens opened).imp_right fun accepted => ?_
      exact ⟨rfl, Or.inl ⟨‹_›, accepted⟩⟩
    · split at taken
      · exact (lose_opens taken).imp_right fun opens opened => Or.inl (opens opened)
      · refine (receive_opens taken).imp_right fun opens opened =>
          (opens opened).imp_right fun made => ⟨rfl, Or.inr made⟩

/-- The visits to come make new sockets. -/
private structure Ready (round : ServerRound) (todo : List (ServerPass × UDTSOCKET))
    (thread : ServerThread) : Prop where
  nodup : todo.Nodup
  accepted : (.readfds, thread.srv) ∈ todo → ∀ cli, round.cli = some cli →
    thread.udt.opened cli = false
  made : ∀ sock, (.readfds, sock) ∈ todo → ∀ turn made,
    ((round.env sock).punch turn).made = some made → thread.udt.opened made = false

private theorem Ready.visit {pass : ServerPass} {todo : List (ServerPass × UDTSOCKET)}
    (ready : Ready round ((pass, sock) :: todo) thread)
    (apart : ∀ sock turn made, ((round.env sock).punch turn).made = some made →
      round.cli ≠ some made ∧
        ∀ other later, ((round.env other).punch later).made = some made →
          other = sock ∧ later = turn)
    (taken : visit runtime epollFd round thread (pass, sock) = some (next, log)) :
    Ready round todo next := by
  obtain ⟨absent, nodup⟩ := List.nodup_cons.mp ready.nodup
  have srv : next.srv = thread.srv := (@visit_opens _ _ _ _ _ sock _ _ sock taken).1
  refine ⟨nodup, ?_, ?_⟩
  · rw [srv]
    intro later cli accepted
    have closed := ready.accepted (List.mem_cons_of_mem _ later) cli accepted
    rw [← Bool.not_eq_true]
    intro opened
    rcases (visit_opens taken).2 opened with before | ⟨rfl, ⟨rfl, _⟩ | ⟨turn, made⟩⟩
    · simp [closed] at before
    · exact absent later
    · exact (apart sock turn cli made).1 accepted
  · intro other later turn made isMade
    have closed := ready.made other (List.mem_cons_of_mem _ later) turn made isMade
    rw [← Bool.not_eq_true]
    intro opened
    rcases (visit_opens taken).2 opened with before | ⟨rfl, ⟨rfl, accepted⟩ | ⟨again, sameMade⟩⟩
    · simp [closed] at before
    · exact (apart other turn made isMade).1 accepted
    · obtain ⟨rfl, _⟩ := (apart other turn made isMade).2 sock again sameMade
      exact absent later

/-- A visit comes to what the loop takes up in it. -/
private theorem visit_simulate {pass : ServerPass} {todo : List (ServerPass × UDTSOCKET)}
    (mirrors : Mirrors thread loop) (ready : Ready round ((pass, sock) :: todo) thread)
    (apart : ∀ sock turn made, ((round.env sock).punch turn).made = some made →
      round.cli ≠ some made ∧
        ∀ other later, ((round.env other).punch later).made = some made →
          other = sock ∧ later = turn)
    (taken : visit runtime epollFd round thread (pass, sock) = some (next, log)) :
    ∃ reached, Guarded (ServerLoop.step runtime epollFd) ServerLoop.Proper loop
      (log.filterMap ServerAction.taken) reached ∧ Mirrors next reached := by
  cases pass with
  | errfds =>
    dsimp only [visit] at taken
    split at taken
    · rename_i gone
      exact lose_simulate mirrors (Bool.and_eq_true_iff.mp gone).1 taken
    · cases taken
      exact ⟨loop, .nil, mirrors⟩
  | readfds =>
    dsimp only [visit] at taken
    split at taken
    · rename_i here
      have accepted := @accept_simulate runtime epollFd round thread loop mirrors
        (ready.accepted (here ▸ List.mem_cons_self))
      rw [Option.some.inj taken] at accepted
      exact accepted
    · split at taken
      · rename_i gone
        exact lose_simulate mirrors (Bool.and_eq_true_iff.mp gone).1 taken
      · refine receive_simulate mirrors (fun turn made isMade => ⟨?_, ?_⟩) taken
        · exact ready.made sock List.mem_cons_self turn made isMade
        · exact fun later again => ((apart sock turn made isMade).2 sock later again).2

end Visits

section Runs
variable {runtime : Runtime} {epollFd : Int} {self : Node} {srv : UDTSOCKET}
variable {trace : List (ServerRound × List ServerAction)} {thread : ServerThread}

theorem mirrors_start (self : Node) (srv : UDTSOCKET) :
    Mirrors (start self srv true true) (ServerLoop.start self srv) := by
  refine ⟨rfl, fun sock => ?_, fun sock => ?_⟩
  · by_cases here : sock = srv <;> simp [start, ServerLoop.start, here]
  · by_cases here : sock = srv <;> simp [start, here]

/-- A round of the thread comes to the events that its loop takes up. -/
theorem step_simulate {round : ServerRound} {next : ServerThread} {log : List ServerAction}
    {loop : ServerLoop} (mirrors : Mirrors thread loop) (fits : round.Fits thread)
    (taken : step runtime epollFd thread round = some (next, log)) :
    ∃ reached, Guarded (ServerLoop.step runtime epollFd) ServerLoop.Proper loop
      (log.filterMap ServerAction.taken) reached ∧ Mirrors next reached := by
  unfold step at taken
  split at taken
  · cases taken
  · split at taken
    · cases taken
      exact ⟨loop, .nil, mirrors.engine, mirrors.watched, mirrors.agrees⟩
    · split at taken
      · cases taken
        exact ⟨loop, .nil, mirrors⟩
      · have apart : ∀ sock turn made, ((round.env sock).punch turn).made = some made →
            round.cli ≠ some made ∧
              ∀ other later, ((round.env other).punch later).made = some made →
                other = sock ∧ later = turn :=
          fun sock turn made isMade => (fits.made sock turn made isMade).2
        have ready : Ready round round.visits thread :=
          ⟨round.visits_nodup, fun _ => fits.accepted,
            fun sock _ turn made isMade => (fits.made sock turn made isMade).1⟩
        obtain ⟨rest, reached, guarded, mirrors, _⟩ := Machine.sweep_simulate
          (fun todo thread loop => Mirrors thread loop ∧ Ready round todo thread) taken
          ⟨mirrors, ready⟩ fun related taken => by
            obtain ⟨reached, guarded, next⟩ := visit_simulate related.1 related.2 apart taken
            exact ⟨reached, guarded, next, related.2.visit apart taken⟩
        exact ⟨reached, guarded, mirrors⟩

/-- Every run of the thread comes to a run of its loop with the same engine and the same
watched sockets, in which a connection is given up once and nothing is taken up from it
after that. -/
theorem refines (run : Machine.Run (step runtime epollFd) (start self srv true true) trace thread)
    (fits : StepsMeet (step runtime epollFd) (fun thread round => round.Fits thread)
      (start self srv true true) trace) :
    ∃ loop, Guarded (ServerLoop.step runtime epollFd) ServerLoop.Proper
        (ServerLoop.start self srv)
        ((trace.flatMap Prod.snd).filterMap ServerAction.taken) loop ∧ Mirrors thread loop :=
  run.simulate Mirrors fits (mirrors_start self srv) step_simulate

end Runs

open Sample

/-- A round in which nothing is received. -/
def quietRound (errfds readfds : FdSet) (status : UDTSTATUS) (cli : Option UDTSOCKET) :
    ServerRound where
  ret := 1
  fds
    | .errfds => errfds
    | .readfds => readfds
  status _ _ := status
  cli
  env _ := { recv := none, peerName := ⟨0, 0⟩, punch _ := .socketFails, memory := memory }

theorem quietRound_fits {thread : ServerThread} {errfds readfds : FdSet}
    {status : UDTSTATUS} {cli : Option UDTSOCKET}
    (errors : ∀ sock ∈ errfds.socks, (thread.udt.watched sock).isSome = true)
    (reads : ∀ sock ∈ readfds.socks, (thread.udt.watched sock).isSome = true)
    (fresh : ∀ made, cli = some made → thread.udt.opened made = false) :
    (quietRound errfds readfds status cli).Fits thread := by
  refine ⟨?_, fresh, ?_⟩
  · intro pass sock reported
    cases pass with
    | errfds => exact errors sock reported
    | readfds => exact reads sock reported
  · intro sock turn made isMade
    cases isMade

theorem accepting_fits : (quietRound noFds (oneFd 1) .CONNECTED (some 2)).Fits
    (start (Node.new memory) 1 true true) := by
  refine quietRound_fits ?_ ?_ ?_
  · simp [noFds]
  · intro sock member
    rw [List.mem_singleton.mp member]
    rfl
  · rintro made ⟨⟩
    rfl

/-- A connection is accepted, and reported broken in both sets of the next round. -/
theorem refines_broken :
    ∃ (trace : List (ServerRound × List ServerAction)) (thread : ServerThread),
      trace.map Prod.fst =
        [quietRound noFds (oneFd 1) .CONNECTED (some 2),
          quietRound (oneFd 2) (oneFd 2) .BROKEN none] ∧
      ∃ loop, Guarded (ServerLoop.step Wire.Reference.runtime 1) ServerLoop.Proper
        (ServerLoop.start (Node.new memory) 1)
        ((trace.flatMap Prod.snd).filterMap ServerAction.taken) loop ∧ Mirrors thread loop := by
  have check : ((step Wire.Reference.runtime 1 (start (Node.new memory) 1 true true)
      (quietRound noFds (oneFd 1) .CONNECTED (some 2))).bind fun first =>
        (step Wire.Reference.runtime 1 first.1 (quietRound (oneFd 2) (oneFd 2) .BROKEN none)).map
          fun _ => (first.1.udt.watched 2).isSome) = some true := rfl
  obtain ⟨⟨first, accepts⟩, firstStep, rest⟩ := Option.bind_eq_some_iff.mp check
  obtain ⟨⟨second, breaks⟩, secondStep, watched⟩ := Option.map_eq_some_iff.mp rest
  have reached := Machine.Run.start.step firstStep
  have report : ∀ sock ∈ (oneFd 2).socks, (first.udt.watched sock).isSome = true := by
    intro sock member
    rw [List.mem_singleton.mp member]
    exact watched
  exact ⟨_, second, rfl, refines (reached.step secondStep)
    ((StepsMeet.nil.snoc .start accepting_fits).snoc reached (quietRound_fits report report nofun))⟩

end ServerThread

end EbcNet
