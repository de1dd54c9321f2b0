import EbcNet.Base.Grants
import EbcNet.Boot.Loop

/-! How often a client registers: once for each connect, since only a connect makes its
socket watched for output. The same goes for the success of a peer's socket. -/

namespace EbcNet

open Wire (Runtime MsgType)
open Machine (StepsMeet)
open Grants (Respects held)

namespace BootAction

/-- A successful `UDT::connect` on `boot_sock`. -/
def connected : BootAction → Bool
  | .connect succeeds => succeeds
  | _ => false

/-- A `GET_NODE` that is sent on `boot_sock`. -/
def getNode (bootSock : UDTSOCKET) : BootAction → Bool
  | .send packed => packed.object.ebcMsg.type = MsgType.GET_NODE.toInt32
  | .took _ effect => effect.actions.any fun action =>
      match action with
      | .send sock packed => sock = bootSock && packed.object.ebcMsg.type = MsgType.GET_NODE.toInt32
      | _ => false
  | _ => false

/-- A `startPunch` that returns the socket. -/
def punched (sock : UDTSOCKET) : BootAction → Bool
  | .took (.message _ _) effect => effect.actions.any fun action =>
      match action with
      | .epollAdd _ made => made = sock
      | _ => false
  | _ => false

/-- The connect-success branch for the socket of a peer. -/
def succeeded (sock : UDTSOCKET) : BootAction → Bool
  | .took (.connected _ other) _ => other = sock
  | _ => false

end BootAction

namespace BootLoop

/-- Between two `GET_NODE`s on `boot_sock` it is connected, and there are no more of them than
of its successful connects. And a peer's socket succeeds once each time that `startPunch`
has returned it. -/
structure OnePerConnect (bootSock : UDTSOCKET) (log : List BootAction) : Prop where
  between : ∀ past first middle second future, log = past ++ first :: middle ++ second :: future →
    first.getNode bootSock = true → second.getNode bootSock = true →
    ∃ item ∈ middle, item.connected = true
  count : log.countP (BootAction.getNode bootSock) ≤ log.countP BootAction.connected
  once : ∀ sock, sock ≠ bootSock →
    log.countP (BootAction.succeeded sock) ≤ log.countP (BootAction.punched sock)
  again : ∀ sock past first middle second future, sock ≠ bootSock →
    log = past ++ first :: middle ++ second :: future →
    first.succeeded sock = true → second.succeeded sock = true →
    ∃ item ∈ middle, item.punched sock = true

/-- The loop watches a socket for output. -/
def Awaits (loop : BootLoop) (sock : UDTSOCKET) : Prop :=
  ∃ mask, loop.udt.watched sock = some mask ∧ mask.output = true

/-- `epoll_wait` reports a socket as writable only if it is watched for that. -/
def Writable (loop : BootLoop) (round : Round) : Prop :=
  ∀ sock ∈ (round.fds .writefds).socks, loop.Awaits sock

/-- One visit takes nothing but for its own socket in the write pass. It takes nothing if
the socket is watched for output afterwards, which it was before, or something is given. -/
structure Fair (gives takes : BootAction → Bool) (place : UDTSOCKET) (visited : Pass × UDTSOCKET)
    (loop next : BootLoop) (log : List BootAction) : Prop where
  silent : visited ≠ (.writefds, place) → ∀ item ∈ log, takes item = false
  respects : Respects gives takes true log
  awaits : next.Awaits place → (∀ item ∈ log, takes item = false) ∧
    (loop.Awaits place ∨ log.any gives = true)

section Visits
variable {runtime : Runtime} {epollFd : Int} {round : Round} {loop next other : BootLoop}
variable {pass : Pass} {sock place : UDTSOCKET} {log : List BootAction}
variable {gives takes : BootAction → Bool}

theorem Awaits.congr (awaits : loop.Awaits place)
    (same : other.udt.watched place = loop.udt.watched place) : other.Awaits place := by
  obtain ⟨mask, watched, output⟩ := awaits
  exact ⟨mask, same.trans watched, output⟩

theorem not_awaits (removed : loop.udt.watched place = none) : ¬ loop.Awaits place := by
  rintro ⟨mask, watched, _⟩
  rw [removed] at watched
  cases watched

/-- A socket that is switched to input. -/
theorem not_awaits_inErr : ¬ ((loop.unwatch place).watch place .inErr).Awaits place := by
  rintro ⟨mask, watched, output⟩
  rw [watch, unwatch, Udt.switch_watched, Function.update_self] at watched
  split at watched
  · cases watched
    cases output
  · cases watched

/-- A visit that takes nothing is fair when what it watches for output was watched, or given. -/
private theorem fair_of_silent {visited : Pass × UDTSOCKET} (silent : ∀ item ∈ log, takes item = false)
    (awaits : next.Awaits place → loop.Awaits place ∨ log.any gives = true) :
    Fair gives takes place visited loop next log where
  silent _ := silent
  respects := Grants.respects_of_silent silent
  awaits watched := ⟨silent, awaits watched⟩

private theorem unwatched_other (elsewhere : place ≠ sock) :
    (loop.udt.epollRemove sock).watched place = loop.udt.watched place :=
  Function.update_of_ne elsewhere ..

private theorem closed_other (elsewhere : place ≠ sock) :
    ((loop.udt.epollRemove sock).close sock).watched place = loop.udt.watched place :=
  (Function.update_of_ne elsewhere ..).trans (unwatched_other elsewhere)

private theorem switched_other (elsewhere : place ≠ sock) (mask : EpollMask) :
    ((loop.udt.epollRemove sock).epollAdd sock mask).watched place = loop.udt.watched place := by
  rw [Udt.switch_watched]
  exact Function.update_of_ne elsewhere ..

/-- A message that is handled makes no `GET_NODE`. -/
theorem message_getNode {env : Env} {engine reached : NetEngine} {bootSock : UDTSOCKET}
    {effect : NetEngine.Effect}
    (taken : NetEngine.step runtime engine (.message env sock epollFd) = some (reached, effect)) :
    BootAction.getNode bootSock (.took (.message env sock) effect) = false := by
  obtain ⟨actions, done, rfl⟩ := NetEngine.step_message taken
  rw [BootAction.getNode, List.any_eq_false]
  intro action member
  cases action with
  | send target packed => simp [NetEngine.handleMsg_type done member]
  | _ => simp

/-- The socket of the server: each `GET_NODE` takes a connect. -/
theorem Outcome.fair_boot (outcome : Outcome runtime epollFd round loop sock pass next log)
    (foreign : round.Foreign loop.bootSock) :
    Fair BootAction.connected (BootAction.getNode loop.bootSock) loop.bootSock (pass, sock) loop next
      log := by
  cases outcome with
  | bootError boot =>
    subst boot
    refine fair_of_silent (by simp [BootAction.getNode]) fun watched => ?_
    exact absurd watched (not_awaits (Function.update_self ..))
  | lost peer =>
    refine fair_of_silent (by simp [BootAction.getNode]) fun watched => ?_
    exact Or.inl (watched.congr (closed_other (Ne.symm peer)).symm)
  | reconnected =>
    exact fair_of_silent (by simp [BootAction.getNode]) fun _ => Or.inr rfl
  | gaveUp boot =>
    subst boot
    refine fair_of_silent (by simp [BootAction.getNode]) fun watched => ?_
    exact absurd watched (not_awaits (Function.update_self ..))
  | announced boot =>
    subst boot
    refine ⟨fun elsewhere => absurd rfl elsewhere, ?_, fun watched => absurd watched not_awaits_inErr⟩
    simp [Respects, Grants.after, BootAction.getNode]
  | connected peer =>
    refine fair_of_silent (by simp [BootAction.getNode]) fun watched => ?_
    exact Or.inl (watched.congr (switched_other (Ne.symm peer) .inErr).symm)
  | received _ punch taken =>
    refine fair_of_silent ?_ fun watched => ?_
    · intro item member
      rw [List.mem_singleton.mp member]
      exact message_getNode taken
    · exact Or.inl (watched.congr (received_other foreign punch taken loop.udt).2.symm)

/-- The socket of a peer: each success takes a `startPunch` that returned it. -/
theorem Outcome.fair_peer (outcome : Outcome runtime epollFd round loop sock pass next log)
    (peer : place ≠ loop.bootSock) :
    Fair (BootAction.punched place) (BootAction.succeeded place) place (pass, sock) loop next
      log := by
  cases outcome with
  | bootError boot =>
    subst boot
    refine fair_of_silent (by simp [BootAction.succeeded]) fun watched => ?_
    exact Or.inl (watched.congr (unwatched_other peer).symm)
  | lost =>
    refine fair_of_silent (by simp [BootAction.succeeded]) fun watched => ?_
    by_cases here : place = sock
    · subst here
      exact absurd watched (not_awaits (Function.update_self ..))
    · exact Or.inl (watched.congr (closed_other here).symm)
  | reconnected boot =>
    subst boot
    refine fair_of_silent (by simp [BootAction.succeeded]) fun watched => ?_
    exact Or.inl (watched.congr (switched_other peer .outErr).symm)
  | gaveUp boot =>
    subst boot
    refine fair_of_silent (by simp [BootAction.succeeded]) fun watched => ?_
    exact Or.inl (watched.congr (unwatched_other peer).symm)
  | announced boot =>
    subst boot
    refine fair_of_silent (by simp [BootAction.succeeded]) fun watched => ?_
    exact Or.inl (watched.congr (switched_other peer .inErr).symm)
  | connected =>
    by_cases here : place = sock
    · subst here
      refine ⟨fun elsewhere => absurd rfl elsewhere, ?_, fun watched => ?_⟩
      · simp [Respects, Grants.after, BootAction.succeeded]
      · exact absurd (watched.congr rfl) not_awaits_inErr
    · refine fair_of_silent (by simp [BootAction.succeeded, Ne.symm here]) fun watched => ?_
      exact Or.inl (watched.congr (switched_other here .inErr).symm)
  | @received env engine effect _ punch taken =>
    refine fair_of_silent (by simp [BootAction.succeeded]) fun watched => ?_
    by_cases added : .epollAdd epollFd place ∈ effect.actions
    · right
      simp only [List.any_cons, BootAction.punched, List.any_nil, Bool.or_false, List.any_eq_true]
      exact ⟨_, added, by simp⟩
    · rcases (Udt.acts_added added).2 with gone | same
      · exact absurd watched (not_awaits gone)
      · exact Or.inl (watched.congr same.symm)

end Visits

/-! ### Rounds -/

section Rounds
variable {runtime : Runtime} {epollFd : Int} {round : Round} {loop next : BootLoop} {self : Node}
variable {place bootSock : UDTSOCKET} {connects : Bool} {past log : List BootAction}
variable {gives takes : BootAction → Bool} {trace : List (Round × List BootAction)}

/-- Nothing is taken that was not given, and something is there while a socket may be
found writable, in the visits to come or later. -/
structure Credit (gives takes : BootAction → Bool) (place : UDTSOCKET)
    (todo : List (Pass × UDTSOCKET)) (log : List BootAction) (loop : BootLoop) : Prop where
  respects : Respects gives takes false log
  awaits : (.writefds, place) ∈ todo ∨ loop.Awaits place → held gives takes false log = true

theorem Credit.visited {visited : Pass × UDTSOCKET} {todo : List (Pass × UDTSOCKET)}
    (credit : Credit gives takes place (visited :: todo) past loop) (once : visited ∉ todo)
    (fair : Fair gives takes place visited loop next log) :
    Credit gives takes place todo (past ++ log) next := by
  obtain ⟨respects, awaits⟩ := credit
  refine ⟨Grants.respects_append.mpr ⟨respects, ?_⟩, ?_⟩
  · by_cases own : visited = (.writefds, place)
    · rw [awaits (Or.inl (by rw [own]; exact List.mem_cons_self))]
      exact fair.respects
    · exact Grants.respects_of_silent (fair.silent own)
  · rw [Grants.held_append]
    rintro (pending | watched)
    · have other : visited ≠ (.writefds, place) := by
        rintro rfl
        exact once pending
      rw [Grants.held_of_silent (fair.silent other), awaits (Or.inl (List.mem_cons_of_mem _ pending))]
      rfl
    · obtain ⟨quiet, origin⟩ := fair.awaits watched
      rw [Grants.held_of_silent quiet]
      rcases origin with before | given
      · rw [awaits (Or.inr before)]
        rfl
      · rw [given, Bool.or_true]

/-- A round whose visits are all fair keeps the credit. -/
theorem Credit.swept (credit : Credit gives takes place [] past loop) (writable : loop.Writable round)
    (fair : ∀ {visited state reached more},
      visit runtime epollFd round state visited = some (reached, more) →
      state.bootSock = loop.bootSock → Fair gives takes place visited state reached more)
    (taken : step runtime epollFd loop round = some (next, log)) :
    Credit gives takes place [] (past ++ log) next := by
  obtain ⟨_, swept⟩ := step_swept taken
  have start : Credit gives takes place round.visits (past ++ []) loop := by
    rw [List.append_nil]
    refine ⟨credit.respects, fun some_ => credit.awaits (Or.inr ?_)⟩
    exact some_.elim (fun pending => writable place (Round.mem_visits.mp pending)) id
  have each := Machine.sweep_invariant (fun _ todo more state =>
    state.bootSock = loop.bootSock ∧ Credit gives takes place todo (past ++ more) state) swept
  obtain ⟨_, rest, _, _, _, kept⟩ := each ⟨rfl, start⟩ <| by
    rintro done visited todo earlier state reached more split ⟨boot, kept⟩ _ visiting
    have nodup := round.visits_nodup
    rw [split] at nodup
    have once := (List.nodup_cons.mp (List.nodup_append'.mp nodup).2.1).1
    rw [← List.append_assoc]
    exact ⟨(visit_bootSock visiting).trans boot, kept.visited once (fair visiting boot)⟩
  exact ⟨kept.respects, fun some_ => kept.awaits (Or.inr (some_.resolve_left (List.not_mem_nil)))⟩

theorem Fair.examined {visited : Pass × UDTSOCKET} {status : UDTSTATUS} {sock : UDTSOCKET}
    (fair : Fair gives takes place visited (loop.examine status sock) next log) :
    Fair gives takes place visited loop next log where
  silent := fair.silent
  respects := fair.respects
  awaits watched := (fair.awaits watched).imp_right (Or.imp_left fun before =>
    before.congr (by rw [examine_udt]))

theorem visit_fair_boot {visited : Pass × UDTSOCKET}
    (visiting : visit runtime epollFd round loop visited = some (next, log))
    (boot : loop.bootSock = bootSock) (foreign : round.Foreign bootSock) :
    Fair BootAction.connected (BootAction.getNode bootSock) bootSock visited loop next log := by
  obtain ⟨pass, sock⟩ := visited
  have same := (@examine_bootSock loop sock (round.status pass sock)).trans boot
  have fair := (visit_outcome visiting).fair_boot
  rw [same] at fair
  exact (fair foreign).examined

theorem visit_fair_peer {visited : Pass × UDTSOCKET}
    (visiting : visit runtime epollFd round loop visited = some (next, log))
    (boot : loop.bootSock = bootSock) (peer : place ≠ bootSock) :
    Fair (BootAction.punched place) (BootAction.succeeded place) place visited loop next log := by
  obtain ⟨pass, sock⟩ := visited
  refine ((visit_outcome visiting).fair_peer ?_).examined
  rw [examine_bootSock, boot]
  exact peer

/-- Over a run, each `GET_NODE` takes a connect. -/
theorem credit_boot
    (run : Machine.Run (step runtime epollFd) (start self bootSock connects) trace loop)
    (writable : StepsMeet (step runtime epollFd) Writable (start self bootSock connects) trace)
    (foreign : ∀ round log, (round, log) ∈ trace → round.Foreign bootSock) :
    Credit BootAction.connected (BootAction.getNode bootSock) bootSock []
      (history bootSock connects trace) loop := by
  induction run with
  | start =>
    cases connects with
    | true =>
      refine ⟨?_, fun _ => rfl⟩
      simp [history, startLog, Respects, BootAction.getNode]
    | false =>
      refine ⟨?_, fun some_ => ?_⟩
      · simp [history, startLog, Respects, BootAction.getNode]
      · rcases some_ with pending | ⟨mask, watched, _⟩
        · cases pending
        · simp [start] at watched
  | @step trace state next round log before taken ih =>
    have credit := ih writable.past fun round log member =>
      foreign round log (List.mem_append_left _ member)
    rw [history_snoc]
    refine credit.swept (writable trace round log [] rfl state before) ?_ taken
    intro visited state reached more visiting boot
    exact visit_fair_boot visiting (boot.trans (run_bootSock before)) (foreign round log (by simp))

/-- And each success of a peer's socket takes a `startPunch` that returned it. -/
theorem credit_peer
    (run : Machine.Run (step runtime epollFd) (start self bootSock connects) trace loop)
    (writable : StepsMeet (step runtime epollFd) Writable (start self bootSock connects) trace)
    (peer : place ≠ bootSock) :
    Credit (BootAction.punched place) (BootAction.succeeded place) place []
      (history bootSock connects trace) loop := by
  induction run with
  | start =>
    refine ⟨?_, fun some_ => ?_⟩
    · cases connects <;> simp [history, startLog, Respects, BootAction.succeeded]
    · rcases some_ with pending | ⟨mask, watched, _⟩
      · cases pending
      · simp [start, peer] at watched
  | @step trace state next round log before taken ih =>
    rw [history_snoc]
    refine (ih writable.past).swept (writable trace round log [] rfl state before) ?_ taken
    intro visited state reached more visiting boot
    exact visit_fair_peer visiting (boot.trans (run_bootSock before)) peer

/-- One registration per connect, over every run. -/
theorem onePerConnect_of_run
    (run : Machine.Run (step runtime epollFd) (start self bootSock connects) trace loop)
    (writable : StepsMeet (step runtime epollFd) Writable (start self bootSock connects) trace)
    (foreign : ∀ round log, (round, log) ∈ trace → round.Foreign bootSock) :
    OnePerConnect bootSock (history bootSock connects trace) where
  between := by
    intro past first middle second future split takesFirst takesSecond
    have respects := (credit_boot run writable foreign).respects
    rw [split] at respects
    refine respects.between takesFirst takesSecond ?_
    cases first with
    | connect succeeds => simp [BootAction.getNode] at takesFirst
    | _ => rfl
  count := by
    simpa using (credit_boot run writable foreign).respects.count
  once := by
    intro sock peer
    simpa using (credit_peer run writable peer).respects.count
  again := by
    intro sock past first middle second future peer split takesFirst takesSecond
    have respects := (credit_peer run writable peer).respects
    rw [split] at respects
    refine respects.between takesFirst takesSecond ?_
    cases first with
    | took event effect =>
      cases event <;> first | rfl | simp [BootAction.succeeded] at takesFirst
    | _ => rfl

end Rounds

end BootLoop

namespace Sample
open BootLoop

theorem onePerConnect_of_run_connected :
    ∃ log loop, Machine.Run (step Wire.Reference.runtime 0) (start (Node.new memory) 5 true)
        [(connectedRound, log)] loop ∧
      (history 5 true [(connectedRound, log)]).countP (BootAction.getNode 5) = 1 ∧
      OnePerConnect 5 (history 5 true [(connectedRound, log)]) := by
  have check : ((step Wire.Reference.runtime 0 (start (Node.new memory) 5 true) connectedRound).map
      fun (_, log) => log.countP (BootAction.getNode 5)) = some 1 := by
    decide +kernel
  obtain ⟨⟨loop, log⟩, taken, one⟩ := Option.map_eq_some_iff.mp check
  have run := Machine.Run.single taken
  refine ⟨log, loop, run, ?_, onePerConnect_of_run run ?_ ?_⟩
  · simpa [history, startLog, BootAction.getNode] using one
  · refine Machine.StepsMeet.nil.snoc .start ?_
    intro sock member
    rw [List.mem_singleton.mp member]
    exact ⟨.outErr, rfl, rfl⟩
  · intro round other member
    cases List.mem_singleton.mp member
    exact foreign_connectedRound 5

end Sample

end EbcNet
