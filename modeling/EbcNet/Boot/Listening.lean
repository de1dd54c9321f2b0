import EbcNet.Boot.Registrations

/-! Whether a client keeps listening to its server: `boot_sock` is taken out of the epoll in
four places, and put back in three of them. -/

namespace EbcNet

open Wire (Runtime)
open Machine (Always StepsMeet)
open Grants (held)

namespace BootLoop

/-- What `boot_sock` is to be watched for: output while a connect is outstanding, and input
once the `GET_NODE` was sent. -/
def awaited (bootSock : UDTSOCKET) (log : List BootAction) : EpollMask :=
  if held BootAction.connected (BootAction.getNode bootSock) false log then .outErr else .inErr

/-- The loop has returned, or watches `boot_sock` for what is to come. -/
def Listens (bootSock : UDTSOCKET) (connects : Bool) (trace : List (Round × List BootAction))
    (loop : BootLoop) : Prop :=
  loop.returned = false →
    loop.udt.watched bootSock = some (awaited bootSock (history bootSock connects trace))

/-- An error of `boot_sock` is reported only together with another event that makes the
loop add it again. -/
def Restores (bootSock : UDTSOCKET) (round : Round) : Prop :=
  bootSock ∈ (round.fds .errfds).socks → bootSock ∈ (round.fds .writefds).socks ∨
    (bootSock ∈ (round.fds .readfds).socks ∧ (round.status .readfds bootSock).failed = true)

/-- Whether `boot_sock` is out of the epoll after a visit. -/
def misses (bootSock : UDTSOCKET) (round : Round) (missing : Bool) : Pass × UDTSOCKET → Bool
  | (pass, sock) =>
    if sock = bootSock then
      match pass with
      | .errfds => true
      | .writefds => false
      | .readfds => missing && !(round.status .readfds bootSock).failed
    else missing

section Misses
variable {bootSock : UDTSOCKET} {round : Round}

private theorem misses_pass (pass : Pass) (socks : List UDTSOCKET) (missing : Bool) :
    (socks.map (Prod.mk pass)).foldl (misses bootSock round) missing =
      if bootSock ∈ socks then misses bootSock round missing (pass, bootSock) else missing := by
  induction socks generalizing missing with
  | nil => simp
  | cons sock socks ih =>
    rw [List.map_cons, List.foldl_cons, ih]
    by_cases here : sock = bootSock
    · subst here
      by_cases again : sock ∈ socks
      · cases pass <;> simp [misses, again]
      · simp [again]
    · have same : misses bootSock round missing (pass, sock) = missing := by simp [misses, here]
      simp [same, Ne.symm here]

theorem misses_visits :
    round.visits.foldl (misses bootSock round) false = false ↔ Restores bootSock round := by
  unfold Round.visits Restores
  rw [List.foldl_append, List.foldl_append, misses_pass, misses_pass, misses_pass]
  by_cases err : bootSock ∈ (round.fds .errfds).socks <;>
    by_cases write : bootSock ∈ (round.fds .writefds).socks <;>
    by_cases read : bootSock ∈ (round.fds .readfds).socks <;> simp [misses, err, write, read]

end Misses

/-- The state of `boot_sock` in the middle of a round. -/
structure Listening (bootSock : UDTSOCKET) (round : Round) (done : List (Pass × UDTSOCKET))
    (log : List BootAction) (loop : BootLoop) : Prop where
  boot : loop.bootSock = bootSock
  opened : loop.udt.opened bootSock = true
  returned : loop.returned = true → Restores bootSock round
  watched : loop.returned = false → loop.udt.watched bootSock =
    if done.foldl (misses bootSock round) false then none else some (awaited bootSock log)

section Visits
variable {runtime : Runtime} {epollFd : Int} {round : Round} {loop next : BootLoop} {pass : Pass}
variable {sock bootSock : UDTSOCKET} {past log : List BootAction} {done : List (Pass × UDTSOCKET)}

private theorem awaited_silent (silent : ∀ item ∈ log, item.getNode bootSock = false)
    (quiet : log.any BootAction.connected = false) :
    awaited bootSock (past ++ log) = awaited bootSock past := by
  rw [awaited, Grants.held_append, Grants.held_of_silent silent, quiet, Bool.or_false, awaited]

/-- A visit that leaves `boot_sock` alone. -/
private theorem Listening.kept (listening : Listening bootSock round done past loop)
    (same : ∀ missing, misses bootSock round missing (pass, sock) = missing) (boot : next.bootSock = loop.bootSock)
    (opened : next.udt.opened bootSock = loop.udt.opened bootSock)
    (watched : next.udt.watched bootSock = loop.udt.watched bootSock)
    (returned : next.returned = loop.returned)
    (silent : ∀ item ∈ log, item.getNode bootSock = false)
    (quiet : log.any BootAction.connected = false) :
    Listening bootSock round (done ++ [(pass, sock)]) (past ++ log) next where
  boot := boot.trans listening.boot
  opened := opened.trans listening.opened
  returned stop := listening.returned (returned.symm.trans stop)
  watched go := by
    rw [watched, listening.watched (returned.symm.trans go), awaited_silent silent quiet,
      List.foldl_append, List.foldl_cons, same, List.foldl_nil]

private theorem misses_other (elsewhere : sock ≠ bootSock) (missing : Bool) :
    misses bootSock round missing (pass, sock) = missing := by
  simp [misses, elsewhere]

private theorem misses_failed (later : pass ≠ .errfds)
    (failed : (round.status pass bootSock).failed = true) (missing : Bool) :
    misses bootSock round missing (pass, bootSock) = false := by
  cases pass with
  | errfds => exact absurd rfl later
  | writefds => simp [misses]
  | readfds => simp [misses, failed]

private theorem Listening.visit (listening : Listening bootSock round done past loop)
    (foreign : round.Foreign bootSock) (member : (pass, sock) ∈ round.visits)
    (examined : sock = bootSock → loop.state = some (round.status pass bootSock))
    (outcome : Outcome runtime epollFd round loop sock pass next log) :
    Listening bootSock round (done ++ [(pass, sock)]) (past ++ log) next := by
  have listening_ := listening
  obtain ⟨rfl, opened, stopped, watched⟩ := listening_
  cases outcome with
  | bootError boot =>
    subst boot
    refine ⟨rfl, opened, stopped, fun _ => ?_⟩
    rw [List.foldl_append]
    simp [misses, unwatch]
  | lost peer =>
    refine listening.kept (misses_other peer) rfl ?_ ?_ rfl (by simp [BootAction.getNode]) rfl
    · exact Function.update_of_ne (Ne.symm peer) ..
    · rw [Udt.close_watched, Function.update_of_ne (Ne.symm peer), Udt.epollRemove_watched]
      exact Function.update_of_ne (Ne.symm peer) ..
  | reconnected boot later failed =>
    subst boot
    rw [BootLoop.failed, examined rfl, Option.any_some] at failed
    refine ⟨rfl, ?_, stopped, fun _ => ?_⟩
    · simpa [watch, unwatch] using opened
    · rw [watch, unwatch, Udt.switch_watched, Function.update_self, if_pos opened, List.foldl_append,
        List.foldl_cons, misses_failed later failed]
      simp [awaited, Grants.held, Grants.after, BootAction.connected, BootAction.getNode]
  | gaveUp boot later failed =>
    subst boot
    rw [BootLoop.failed, examined rfl, Option.any_some] at failed
    refine ⟨rfl, opened, fun _ _ => ?_, fun go => by cases go⟩
    have reported := Round.mem_visits.mp member
    cases pass with
    | errfds => exact absurd rfl later
    | writefds => exact Or.inl reported
    | readfds => exact Or.inr ⟨reported, failed⟩
  | announced boot _ type =>
    subst boot
    refine ⟨rfl, ?_, stopped, fun _ => ?_⟩
    · simpa [watch, unwatch] using opened
    · rw [watch, unwatch, Udt.switch_watched, Function.update_self, if_pos opened, List.foldl_append]
      simp [misses, awaited, Grants.held, Grants.after, BootAction.connected, BootAction.getNode, type]
  | connected peer =>
    refine listening.kept (misses_other peer) rfl ?_ ?_ rfl (by simp [BootAction.getNode]) rfl
    · simp [watch, unwatch]
    · rw [watch, unwatch, Udt.switch_watched]
      exact Function.update_of_ne (Ne.symm peer) ..
  | received succeeds punch taken =>
    have same : ∀ missing, misses loop.bootSock round missing (.readfds, sock) = missing := by
      intro missing
      by_cases here : sock = loop.bootSock
      · subst here
        rw [BootLoop.failed, examined rfl, Option.any_some] at succeeds
        simp [misses, succeeds]
      · exact misses_other here missing
    obtain ⟨sameOpened, sameWatched⟩ := received_other foreign punch taken loop.udt
    refine listening.kept same rfl sameOpened sameWatched rfl ?_ rfl
    intro item member
    rw [List.mem_singleton.mp member]
    exact message_getNode taken

end Visits

section Runs
variable {runtime : Runtime} {epollFd : Int} {round : Round} {loop next : BootLoop} {self : Node}
variable {bootSock : UDTSOCKET} {connects : Bool} {log : List BootAction}
variable {trace past : List (Round × List BootAction)}

/-- One round, from a loop that listens. -/
theorem listens_iff
    (run : Machine.Run (step runtime epollFd) (start self bootSock connects) past loop)
    (foreign : ∀ other log, (other, log) ∈ past ++ [(round, log)] → other.Foreign bootSock)
    (listens : Listens bootSock connects past loop)
    (taken : step runtime epollFd loop round = some (next, log)) :
    Listens bootSock connects (past ++ [(round, log)]) next ↔ Restores bootSock round := by
  have opened := run_opened run fun other log member =>
    foreign other log (List.mem_append_left _ member)
  have alien := foreign round log (by simp)
  obtain ⟨running, swept⟩ := step_swept taken
  have start : Listening bootSock round [] (history bootSock connects past ++ []) loop := by
    refine ⟨run_bootSock run, opened, fun stop => ?_, fun go => ?_⟩
    · rw [running] at stop
      cases stop
    · rw [List.append_nil]
      exact listens go
  have each := Machine.sweep_invariant (fun done _ more state =>
    Listening bootSock round done (history bootSock connects past ++ more) state) swept start
  obtain ⟨visited, rest, split, ended, _, _, returned, watched⟩ := each <| by
    rintro done ⟨pass, sock⟩ todo earlier state reached more split listening _ visiting
    have member : (pass, sock) ∈ round.visits := by rw [split]; simp
    have outcome := visit_outcome visiting
    have examined : Listening bootSock round done (history bootSock connects past ++ earlier)
        (state.examine (round.status pass sock) sock) := by
      obtain ⟨boot, opened, returned, watched⟩ := listening
      exact ⟨by rwa [examine_bootSock], by rwa [examine_udt], by rwa [examine_returned],
        by rwa [examine_returned, examine_udt]⟩
    rw [← List.append_assoc]
    refine examined.visit alien member ?_ outcome
    rintro rfl
    exact examine_opened listening.opened _
  rw [Listens, history_snoc]
  cases stop : next.returned with
  | true => exact iff_of_true (fun go => by cases go) (returned stop)
  | false =>
    have all : rest = [] := ended.resolve_right (by simp [stop])
    rw [all, List.append_nil] at split
    rw [watched stop, ← split, ← misses_visits]
    cases missing : round.visits.foldl (misses bootSock round) false <;> simp

/-- Over a whole run, the loop listens after every round if and only if no round reports an
error of `boot_sock` alone. -/
theorem listens_iff_restores
    (run : Machine.Run (step runtime epollFd) (start self bootSock connects) trace loop)
    (foreign : ∀ round log, (round, log) ∈ trace → round.Foreign bootSock) :
    Always (step runtime epollFd) (Listens bootSock connects) (start self bootSock connects) trace ↔
      StepsMeet (step runtime epollFd) (fun _ => Restores bootSock) (start self bootSock connects)
        trace := by
  refine run.always_iff ?_ ?_
  · intro running
    cases connects with
    | true =>
      simp [start, awaited, history, startLog, Grants.held, Grants.after, BootAction.connected,
        BootAction.getNode]
    | false => cases running
  · rintro past before round log next reached ⟨future, rfl⟩ taken listens
    refine listens_iff reached ?_ listens taken
    intro other more member
    rcases List.mem_append.mp member with earlier | now
    · exact foreign other more (List.mem_append_left _ earlier)
    · cases List.mem_singleton.mp now
      exact foreign round log (by simp)

end Runs

end BootLoop

namespace Sample
open BootLoop

/-- The connection to the server breaks, and nothing else is reported. -/
def brokenRound : Round :=
  { connectedRound with
    fds
      | .errfds => oneFd 5
      | _ => noFds
    status _ _ := .BROKEN }

private theorem brokenRound_run :
    ∃ log loop, Machine.Run (step Wire.Reference.runtime 0) (start (Node.new memory) 5 true)
        [(brokenRound, log)] loop ∧ loop.returned = false ∧ loop.udt.watched 5 = none := by
  have check : ((step Wire.Reference.runtime 0 (start (Node.new memory) 5 true) brokenRound).map
      fun (loop, _) => (loop.returned, loop.udt.watched 5)) = some (false, none) := by
    decide +kernel
  obtain ⟨⟨loop, log⟩, taken, facts⟩ := Option.map_eq_some_iff.mp check
  obtain ⟨returned, unwatched⟩ := Prod.mk.inj facts
  exact ⟨log, loop, .single taken, returned, unwatched⟩

theorem listens_iff_restores_broken :
    ∃ log, Always (step Wire.Reference.runtime 0) (Listens 5 true) (start (Node.new memory) 5 true)
        [(brokenRound, log)] ↔
      StepsMeet (step Wire.Reference.runtime 0) (fun _ => Restores 5) (start (Node.new memory) 5 true)
        [(brokenRound, log)] := by
  obtain ⟨log, loop, run, _, _⟩ := brokenRound_run
  refine ⟨log, listens_iff_restores run ?_⟩
  intro round other member
  cases List.mem_singleton.mp member
  exact foreign_connectedRound 5

/-- A client that is told of the break by an error alone never hears of its server again. -/
theorem listens_counterexample :
    ∃ log loop, Machine.Run (step Wire.Reference.runtime 0) (start (Node.new memory) 5 true)
        [(brokenRound, log)] loop ∧ ¬ Listens 5 true [(brokenRound, log)] loop := by
  obtain ⟨log, loop, run, running, unwatched⟩ := brokenRound_run
  refine ⟨log, loop, run, fun listens => ?_⟩
  have watched := listens running
  rw [unwatched] at watched
  cases watched

end Sample

end EbcNet
