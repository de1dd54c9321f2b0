import Mathlib.Data.List.Nodup
import EbcNet.Base.Sweep
import EbcNet.Boot

/-! The boot loop of a client, round by round. A round makes three passes over what
`epoll_wait` reports, which share one `state` variable. -/

namespace EbcNet

open Wire (Runtime)
open NetEngine (BootEvent Effect bootStep)

/-! ### UDT -/

/-- `UDTSTATUS` -/
inductive UDTSTATUS where
  | INIT | OPENED | LISTENING | CONNECTING | CONNECTED | BROKEN | CLOSING | CLOSED | NONEXIST
  deriving DecidableEq

/-- `CLOSED == state || BROKEN == state || CONNECTING == state` -/
def UDTSTATUS.failed (status : UDTSTATUS) : Bool :=
  status = .CLOSED || status = .BROKEN || status = .CONNECTING

/-- What an epoll watches a socket for. -/
structure EpollMask where
  input : Bool
  output : Bool
  error : Bool
  deriving DecidableEq

namespace EpollMask

/-- `UDT_EPOLL_IN|UDT_EPOLL_ERR` -/
def inErr : EpollMask := ⟨true, false, true⟩

/-- `UDT_EPOLL_OUT|UDT_EPOLL_ERR` -/
def outErr : EpollMask := ⟨false, true, true⟩

/-- What a null mask stands for. -/
def all : EpollMask := ⟨true, true, true⟩

end EpollMask

/-- The sockets that are open, and the epoll of the loop. -/
structure Udt where
  opened : UDTSOCKET → Bool
  watched : UDTSOCKET → Option EpollMask

namespace Udt

/-- `epoll_add_usock`. It fails for a closed socket, and ignores one that is watched. -/
def epollAdd (udt : Udt) (sock : UDTSOCKET) (mask : EpollMask) : Udt :=
  if udt.opened sock && (udt.watched sock).isNone then
    { udt with watched := Function.update udt.watched sock (some mask) }
  else udt

def epollRemove (udt : Udt) (sock : UDTSOCKET) : Udt :=
  { udt with watched := Function.update udt.watched sock none }

/-- `UDT::close`. A closed socket is not watched. -/
def close (udt : Udt) (sock : UDTSOCKET) : Udt where
  opened := Function.update udt.opened sock false
  watched := Function.update udt.watched sock none

/-- What an action of the engine does. The loop first sees a socket that is made when it is
added, as the last thing of a `startPunch` that succeeds. A socket that is added to another
epoll, as a server's go to the default 0, is open in UDT and not marked here: no loop of
these visits it. -/
def act (epollFd : Int) (udt : Udt) : Action → Udt
  | .close sock => udt.close sock
  | .epollAdd other sock =>
    if other = epollFd then
      { udt with opened := Function.update udt.opened sock true }.epollAdd sock .all
    else udt
  | _ => udt

section Lookup
variable (udt : Udt) (sock : UDTSOCKET) (mask : EpollMask)

@[simp] theorem epollRemove_opened : (udt.epollRemove sock).opened = udt.opened := rfl

@[simp] theorem epollRemove_watched :
    (udt.epollRemove sock).watched = Function.update udt.watched sock none := rfl

@[simp] theorem close_opened : (udt.close sock).opened = Function.update udt.opened sock false := rfl

@[simp] theorem close_watched :
    (udt.close sock).watched = Function.update udt.watched sock none := rfl

@[simp] theorem epollAdd_opened : (udt.epollAdd sock mask).opened = udt.opened := by
  unfold epollAdd
  split <;> rfl

/-- A socket that is removed and added again, if it is open. -/
theorem switch_watched : ((udt.epollRemove sock).epollAdd sock mask).watched =
    Function.update udt.watched sock (if udt.opened sock then some mask else none) := by
  unfold epollAdd
  cases opened : udt.opened sock with
  | true => simp [opened]
  | false => simp [opened]

end Lookup

section Actions
variable {epollFd : Int} {udt : Udt} {sock : UDTSOCKET} {actions : List Action}

theorem act_other {action : Action} (other : action.handled ≠ some sock) :
    (udt.act epollFd action).opened sock = udt.opened sock ∧
      (udt.act epollFd action).watched sock = udt.watched sock := by
  cases action with
  | close made =>
    have elsewhere : sock ≠ made := fun same => other (congrArg some same.symm)
    exact ⟨Function.update_of_ne elsewhere .., Function.update_of_ne elsewhere ..⟩
  | epollAdd fd made =>
    have elsewhere : sock ≠ made := fun same => other (congrArg some same.symm)
    unfold act
    dsimp only
    split
    · refine ⟨?_, ?_⟩
      · rw [epollAdd_opened]
        exact Function.update_of_ne elsewhere ..
      · unfold epollAdd
        split
        · exact Function.update_of_ne elsewhere ..
        · rfl
    · exact ⟨rfl, rfl⟩
  | _ => exact ⟨rfl, rfl⟩

/-- Actions leave alone what they are not about. -/
theorem acts_other (other : ∀ action ∈ actions, action.handled ≠ some sock) :
    (actions.foldl (act epollFd) udt).opened sock = udt.opened sock ∧
      (actions.foldl (act epollFd) udt).watched sock = udt.watched sock := by
  induction actions generalizing udt with
  | nil => exact ⟨rfl, rfl⟩
  | cons action actions ih =>
    obtain ⟨opened, watched⟩ := @act_other epollFd udt sock action (other action List.mem_cons_self)
    obtain ⟨later, laterWatched⟩ := @ih (udt.act epollFd action) fun action member =>
      other action (List.mem_cons_of_mem _ member)
    exact ⟨later.trans opened, laterWatched.trans watched⟩

/-- A socket that is added is about it, and only adding it opens or watches it. -/
private theorem act_added {action : Action} :
    action = .epollAdd epollFd sock ∨
      ((udt.act epollFd action).opened sock = true → udt.opened sock = true) ∧
        ((udt.act epollFd action).watched sock = none ∨
          (udt.act epollFd action).watched sock = udt.watched sock) := by
  by_cases other : action.handled = some sock
  · cases action with
    | close made =>
      cases other
      exact Or.inr ⟨by simp [act], Or.inl (Function.update_self ..)⟩
    | epollAdd fd made =>
      cases other
      by_cases own : fd = epollFd
      · subst own
        exact Or.inl rfl
      · rw [act, if_neg own]
        exact Or.inr ⟨id, Or.inr rfl⟩
    | _ => exact Or.inr ⟨id, Or.inr rfl⟩
  · obtain ⟨opened, watched⟩ := @act_other epollFd udt sock action other
    exact Or.inr ⟨fun now => opened.symm.trans now, Or.inr watched⟩

/-- A socket that actions do not add is open only if it was, and watched as it was. -/
theorem acts_added (absent : .epollAdd epollFd sock ∉ actions) :
    ((actions.foldl (act epollFd) udt).opened sock = true → udt.opened sock = true) ∧
      ((actions.foldl (act epollFd) udt).watched sock = none ∨
        (actions.foldl (act epollFd) udt).watched sock = udt.watched sock) := by
  induction actions generalizing udt with
  | nil => exact ⟨id, Or.inr rfl⟩
  | cons action actions ih =>
    obtain ⟨opened, watched⟩ := @ih (udt.act epollFd action) fun member =>
      absent (List.mem_cons_of_mem _ member)
    rcases @act_added epollFd udt sock action with added | ⟨openedNow, watchedNow⟩
    · exact absurd (added ▸ List.mem_cons_self) absent
    · refine ⟨openedNow ∘ opened, ?_⟩
      rcases watched with gone | same
      · exact Or.inl gone
      · exact watchedNow.imp same.trans same.trans

/-- Actions leave only open sockets watched. -/
theorem acts_opened (inside : ∀ sock, (udt.watched sock).isSome → udt.opened sock = true) :
    ((actions.foldl (act epollFd) udt).watched sock).isSome →
      (actions.foldl (act epollFd) udt).opened sock = true := by
  induction actions generalizing udt with
  | nil => exact inside sock
  | cons action actions ih =>
    refine @ih (udt.act epollFd action) fun other watched => ?_
    cases action with
    | close made =>
      by_cases here : other = made
      · subst here
        simp [act] at watched
      · simp only [act, close_watched, close_opened, Function.update_of_ne here] at watched ⊢
        exact inside other watched
    | epollAdd fd made =>
      unfold act at watched ⊢
      dsimp only at watched ⊢
      split at watched
      · rename_i own
        rw [if_pos own, epollAdd_opened]
        by_cases here : other = made
        · subst here
          exact Function.update_self ..
        · refine (Function.update_of_ne here ..).trans (inside other ?_)
          unfold epollAdd at watched
          split at watched
          · dsimp only at watched
            rwa [Function.update_of_ne here] at watched
          · exact watched
      · rename_i foreign
        rw [if_neg foreign]
        exact inside other watched
    | _ => exact inside other watched

end Actions

end Udt

/-! ### Rounds -/

inductive Pass where
  | errfds | writefds | readfds
  deriving DecidableEq

/-- A `std::set` of sockets. -/
structure FdSet where
  socks : List UDTSOCKET
  sorted : socks.Pairwise (· < ·)

/-- What a round gets from outside: the sets that `epoll_wait` fills, the status of each
socket where it is examined, whether `UDT::connect` succeeds, and what `handleMsg` gets. -/
structure Round where
  fds : Pass → FdSet
  status : Pass → UDTSOCKET → UDTSTATUS
  connects : Pass → Bool
  env : UDTSOCKET → Env
  memory : UDTSOCKET → Memory

def Round.visits (round : Round) : List (Pass × UDTSOCKET) :=
  (round.fds .errfds).socks.map (Pass.errfds, ·) ++
    (round.fds .writefds).socks.map (Pass.writefds, ·) ++
    (round.fds .readfds).socks.map (Pass.readfds, ·)

theorem FdSet.nodup (fds : FdSet) : fds.socks.Nodup :=
  fds.sorted.imp fun before => ne_of_lt before

theorem Round.visits_nodup (round : Round) : round.visits.Nodup := by
  have one : ∀ pass, ((round.fds pass).socks.map (Prod.mk pass)).Nodup := fun pass =>
    List.Nodup.map (fun left right same => (Prod.mk.inj same).2) (FdSet.nodup _)
  unfold Round.visits
  have apart : ∀ left right, left ≠ right → List.Disjoint ((round.fds left).socks.map (Prod.mk left))
      ((round.fds right).socks.map (Prod.mk right)) := by
    intro left right different
    simp [List.disjoint_left, Ne.symm different]
  exact List.nodup_append'.mpr ⟨List.nodup_append'.mpr ⟨one _, one _, apart _ _ (by simp)⟩, one _,
    List.disjoint_append_left.mpr ⟨apart _ _ (by simp), apart _ _ (by simp)⟩⟩

theorem Round.mem_visits {round : Round} {pass : Pass} {sock : UDTSOCKET} :
    (pass, sock) ∈ round.visits ↔ sock ∈ (round.fds pass).socks := by
  cases pass <;> simp [Round.visits]

/-- No `startPunch` makes the socket, since it is open. -/
def Round.Foreign (round : Round) (sock : UDTSOCKET) : Prop :=
  ∀ from_ turn, ((round.env from_).punch turn).made ≠ some sock

/-- What the loop does. It connects and sends on `boot_sock` only. -/
inductive BootAction where
  | epollRemove (sock : UDTSOCKET)
  | epollAdd (sock : UDTSOCKET) (mask : EpollMask)
  | connect (succeeds : Bool)
  | send (packed : Packed)
  | took (event : BootEvent) (effect : Effect)

/-- The boot thread. Its `state` starts as 0, which is no status. -/
structure BootLoop where
  engine : NetEngine
  bootSock : UDTSOCKET
  udt : Udt
  state : Option UDTSTATUS := none
  returned : Bool := false

namespace BootLoop

/-- `UDT::getsockopt(sock, 0, UDT_STATE, &state, &len)`. It leaves `state` as it is when the
socket is closed. -/
def examine (loop : BootLoop) (status : UDTSTATUS) (sock : UDTSOCKET) : BootLoop :=
  if loop.udt.opened sock then { loop with state := some status } else loop

def failed (loop : BootLoop) : Bool := loop.state.any UDTSTATUS.failed

def unwatch (loop : BootLoop) (sock : UDTSOCKET) : BootLoop :=
  { loop with udt := loop.udt.epollRemove sock }

def watch (loop : BootLoop) (sock : UDTSOCKET) (mask : EpollMask) : BootLoop :=
  { loop with udt := loop.udt.epollAdd sock mask }

/-- Connect `boot_sock` again, or return. -/
def reconnect (loop : BootLoop) (sock : UDTSOCKET) (connects : Bool) : BootLoop × List BootAction :=
  let loop := loop.unwatch sock
  if connects then
    (loop.watch sock .outErr, [.epollRemove sock, .connect true, .epollAdd sock .outErr])
  else ({ loop with returned := true }, [.epollRemove sock, .connect false])

section Visits
variable (runtime : Runtime) (epollFd : Int)

def take (loop : BootLoop) (event : BootEvent) : Option (BootLoop × List BootAction) :=
  (bootStep runtime epollFd loop.engine event).map fun taken =>
    ({ loop with
        engine := taken.1
        udt := taken.2.actions.foldl (Udt.act epollFd) loop.udt },
      [.took event taken.2])

/-- Close the socket of a peer. -/
def lose (loop : BootLoop) (sock : UDTSOCKET) : Option (BootLoop × List BootAction) :=
  ((loop.unwatch sock).take runtime epollFd (.lost sock)).map fun lost =>
    (lost.1, .epollRemove sock :: lost.2)

/-- The error pass. It does not connect `boot_sock` again. -/
def error (loop : BootLoop) (sock : UDTSOCKET) : Option (BootLoop × List BootAction) :=
  if sock = loop.bootSock then some (loop.unwatch sock, [.epollRemove sock])
  else loop.lose runtime epollFd sock

def fail (loop : BootLoop) (sock : UDTSOCKET) (connects : Bool) :
    Option (BootLoop × List BootAction) :=
  if sock = loop.bootSock then some (loop.reconnect sock connects)
  else loop.lose runtime epollFd sock

def succeed (loop : BootLoop) (sock : UDTSOCKET) (memory : Memory) :
    Option (BootLoop × List BootAction) :=
  let loop := (loop.unwatch sock).watch sock .inErr
  let switched := [.epollRemove sock, .epollAdd sock .inErr]
  if sock = loop.bootSock then
    (announce runtime loop.engine.self).map fun packed =>
      (loop, switched ++ if packed.ret < 0 then [] else [.send packed])
  else
    (loop.take runtime epollFd (.connected memory sock)).map fun taken =>
      (taken.1, switched ++ taken.2)

/-- `handleMsg`. Nothing is received from a closed socket. -/
def receive (loop : BootLoop) (sock : UDTSOCKET) (env : Env) : Option (BootLoop × List BootAction) :=
  loop.take runtime epollFd
    (.message (if loop.udt.opened sock then env else { env with recv := none }) sock)

def visit (round : Round) : Machine.Step BootLoop (Pass × UDTSOCKET) (List BootAction)
  | loop, (pass, sock) =>
    let loop := loop.examine (round.status pass sock) sock
    match pass with
    | .errfds => loop.error runtime epollFd sock
    | .writefds =>
      if loop.failed then loop.fail runtime epollFd sock (round.connects pass)
      else loop.succeed runtime epollFd sock (round.memory sock)
    | .readfds =>
      if loop.failed then loop.fail runtime epollFd sock (round.connects pass)
      else loop.receive runtime epollFd sock (round.env sock)

def step : Machine.Step BootLoop Round (List BootAction) := fun loop round =>
  if loop.returned then none
  else Machine.sweep (visit runtime epollFd round) BootLoop.returned round.visits loop

end Visits

/-- The thread after its first connect. It returns when that fails. -/
def start (self : Node) (bootSock : UDTSOCKET) (connects : Bool) : BootLoop where
  engine := { self, isServer := false }
  bootSock
  udt :=
    { opened sock := sock = bootSock
      watched sock := if connects && sock = bootSock then some .outErr else none }
  returned := !connects

def startLog (bootSock : UDTSOCKET) (connects : Bool) : List BootAction :=
  if connects then [.connect true, .epollAdd bootSock .outErr] else [.connect false]

/-- All that the thread has done in a run. -/
def history (bootSock : UDTSOCKET) (connects : Bool) (trace : List (Round × List BootAction)) :
    List BootAction :=
  startLog bootSock connects ++ trace.flatMap Prod.snd

/-- What the engine has taken up of it. -/
def events (log : List BootAction) : List (BootEvent × Effect) :=
  log.filterMap fun
    | .took event effect => some (event, effect)
    | _ => none

/-! ### What a visit can do -/

section Outcomes
variable {runtime : Runtime} {epollFd : Int} {round : Round} {loop next : BootLoop} {pass : Pass}
variable {sock : UDTSOCKET} {log : List BootAction} {event : BootEvent}

@[simp] theorem examine_engine (status : UDTSTATUS) : (loop.examine status sock).engine = loop.engine := by
  unfold examine
  split <;> rfl

@[simp] theorem examine_bootSock (status : UDTSTATUS) :
    (loop.examine status sock).bootSock = loop.bootSock := by
  unfold examine
  split <;> rfl

@[simp] theorem examine_udt (status : UDTSTATUS) : (loop.examine status sock).udt = loop.udt := by
  unfold examine
  split <;> rfl

@[simp] theorem examine_returned (status : UDTSTATUS) :
    (loop.examine status sock).returned = loop.returned := by
  unfold examine
  split <;> rfl

theorem examine_opened (opened : loop.udt.opened sock = true) (status : UDTSTATUS) :
    (loop.examine status sock).state = some status := by
  rw [examine, if_pos opened]

theorem examine_closed (closed : loop.udt.opened sock = false) (status : UDTSTATUS) :
    loop.examine status sock = loop := by
  rw [examine, if_neg (by simp [closed])]

/-- The `GET_NODE` is always packed. -/
theorem announce_sent {self : Node} {packed : Packed} (packs : announce runtime self = some packed) :
    packed.object.ebcMsg.type = Wire.MsgType.GET_NODE.toInt32 ∧ ¬ packed.ret < 0 := by
  obtain ⟨again, packsAgain, message, _⟩ := announce_eq runtime self
  obtain rfl := Option.some.inj (packs.symm.trans packsAgain)
  refine ⟨by rw [message]; rfl, ?_⟩
  refine NetEngine.ret_not_neg (MsgPack.pack_eq packs).2.2 ?_
  rw [message]
  exact Nat.le_trans (announcement_fits runtime self) (by decide)

/-- What can come of a visit to a socket, from the loop that has examined it. -/
inductive Outcome (runtime : Runtime) (epollFd : Int) (round : Round) (loop : BootLoop)
    (sock : UDTSOCKET) : Pass → BootLoop → List BootAction → Prop where
  | bootError (boot : sock = loop.bootSock) :
      Outcome runtime epollFd round loop sock .errfds (loop.unwatch sock) [.epollRemove sock]
  | lost {pass : Pass} (peer : sock ≠ loop.bootSock) (failed : pass = .errfds ∨ loop.failed = true) :
      Outcome runtime epollFd round loop sock pass
        { loop with
          engine := loop.engine.delPeerNode sock
          udt := (loop.udt.epollRemove sock).close sock }
        [.epollRemove sock, .took (.lost sock) { actions := [.close sock], calls := [.delPeer sock] }]
  | reconnected {pass : Pass} (boot : sock = loop.bootSock) (later : pass ≠ .errfds)
      (failed : loop.failed = true) (connects : round.connects pass = true) :
      Outcome runtime epollFd round loop sock pass ((loop.unwatch sock).watch sock .outErr)
        [.epollRemove sock, .connect true, .epollAdd sock .outErr]
  | gaveUp {pass : Pass} (boot : sock = loop.bootSock) (later : pass ≠ .errfds)
      (failed : loop.failed = true) (fails : round.connects pass = false) :
      Outcome runtime epollFd round loop sock pass { loop.unwatch sock with returned := true }
        [.epollRemove sock, .connect false]
  | announced {packed : Packed} (boot : sock = loop.bootSock) (succeeds : loop.failed = false)
      (type : packed.object.ebcMsg.type = Wire.MsgType.GET_NODE.toInt32) :
      Outcome runtime epollFd round loop sock .writefds ((loop.unwatch sock).watch sock .inErr)
        [.epollRemove sock, .epollAdd sock .inErr, .send packed]
  | connected {memory : Memory} (peer : sock ≠ loop.bootSock) (succeeds : loop.failed = false) :
      Outcome runtime epollFd round loop sock .writefds
        { (loop.unwatch sock).watch sock .inErr with
          engine := loop.engine.peerConnected memory sock }
        [.epollRemove sock, .epollAdd sock .inErr,
          .took (.connected memory sock) { actions := [], calls := [] }]
  | received {env : Env} {engine : NetEngine} {effect : Effect} (succeeds : loop.failed = false)
      (punch : env.punch = (round.env sock).punch)
      (taken : NetEngine.step runtime loop.engine (.message env sock epollFd) = some (engine, effect)) :
      Outcome runtime epollFd round loop sock .readfds
        { loop with engine, udt := effect.actions.foldl (Udt.act epollFd) loop.udt }
        [.took (.message env sock) effect]

private theorem fail_outcome {connects : Bool} (later : pass ≠ .errfds)
    (failed : loop.failed = true) (same : connects = round.connects pass)
    (failing : loop.fail runtime epollFd sock connects = some (next, log)) :
    Outcome runtime epollFd round loop sock pass next log := by
  unfold fail at failing
  split at failing
  · rw [reconnect] at failing
    cases connects with
    | true =>
      cases failing
      exact .reconnected ‹_› later failed same.symm
    | false =>
      cases failing
      exact .gaveUp ‹_› later failed same.symm
  · cases failing
    exact .lost ‹_› (Or.inr failed)

private theorem succeed_outcome {memory : Memory} (succeeds : loop.failed = false)
    (succeeding : loop.succeed runtime epollFd sock memory = some (next, log)) :
    Outcome runtime epollFd round loop sock .writefds next log := by
  unfold succeed at succeeding
  dsimp only at succeeding
  split at succeeding
  · obtain ⟨packed, packs, same⟩ := Option.map_eq_some_iff.mp succeeding
    obtain ⟨type, sent⟩ := announce_sent packs
    rw [if_neg sent] at same
    cases same
    exact .announced ‹_› succeeds type
  · cases succeeding
    exact .connected ‹_› succeeds

theorem visit_outcome
    (visited : visit runtime epollFd round loop (pass, sock) = some (next, log)) :
    Outcome runtime epollFd round (loop.examine (round.status pass sock) sock) sock pass next log := by
  unfold visit at visited
  dsimp only at visited
  generalize loop.examine (round.status pass sock) sock = loop at visited ⊢
  cases pass with
  | errfds =>
    dsimp only at visited
    unfold error at visited
    split at visited
    · cases visited
      exact .bootError ‹_›
    · cases visited
      exact .lost ‹_› (Or.inl rfl)
  | writefds =>
    dsimp only at visited
    cases failed : loop.failed with
    | true =>
      rw [failed, if_pos rfl] at visited
      exact fail_outcome (by simp) failed rfl visited
    | false =>
      rw [failed, if_neg (by simp)] at visited
      exact succeed_outcome failed visited
  | readfds =>
    dsimp only at visited
    cases failed : loop.failed with
    | true =>
      rw [failed, if_pos rfl] at visited
      exact fail_outcome (by simp) failed rfl visited
    | false =>
      rw [failed, if_neg (by simp)] at visited
      obtain ⟨⟨engine, effect⟩, taken, same⟩ := Option.map_eq_some_iff.mp visited
      cases same
      exact .received failed (by split <;> rfl) taken

theorem visit_bootSock {visited : Pass × UDTSOCKET}
    (visiting : visit runtime epollFd round loop visited = some (next, log)) :
    next.bootSock = loop.bootSock := by
  obtain ⟨pass, sock⟩ := visited
  have outcome := visit_outcome visiting
  rw [← @examine_bootSock loop sock (round.status pass sock)]
  generalize loop.examine (round.status pass sock) sock = examined at outcome ⊢
  cases outcome <;> rfl

/-- What a message makes of a socket that no `startPunch` makes. -/
theorem received_other {env : Env} {engine reached : NetEngine} {effect : Effect} {place : UDTSOCKET}
    (foreign : round.Foreign place) (punch : env.punch = (round.env sock).punch)
    (taken : NetEngine.step runtime engine (.message env sock epollFd) = some (reached, effect))
    (udt : Udt) :
    (effect.actions.foldl (Udt.act epollFd) udt).opened place = udt.opened place ∧
      (effect.actions.foldl (Udt.act epollFd) udt).watched place = udt.watched place := by
  obtain ⟨actions, done, rfl⟩ := NetEngine.step_message taken
  refine Udt.acts_other fun action member about => ?_
  obtain ⟨turn, made⟩ := NetEngine.handleMsg_made done member about
  rw [punch] at made
  exact foreign sock turn made

/-- No visit closes `boot_sock`. -/
theorem Outcome.opened_boot (outcome : Outcome runtime epollFd round loop sock pass next log)
    (foreign : round.Foreign loop.bootSock) (opened : loop.udt.opened loop.bootSock = true) :
    next.udt.opened loop.bootSock = true := by
  cases outcome with
  | bootError => exact opened
  | lost peer => exact (Function.update_of_ne (Ne.symm peer) ..).trans opened
  | reconnected => simpa [watch, unwatch] using opened
  | gaveUp => exact opened
  | announced => simpa [watch, unwatch] using opened
  | connected => simpa [watch, unwatch] using opened
  | received _ punch taken => exact (received_other foreign punch taken loop.udt).1.trans opened

/-- The engine takes up, one after the other, the events that the visits log. -/
theorem Outcome.run (outcome : Outcome runtime epollFd round loop sock pass next log) :
    Machine.Run (bootStep runtime epollFd) loop.engine (events log) next.engine := by
  cases outcome with
  | bootError => exact .start
  | lost =>
    have taken : bootStep runtime epollFd loop.engine (.lost sock) = some (_, _) := rfl
    exact .single taken
  | reconnected => exact .start
  | gaveUp => exact .start
  | announced => exact .start
  | @connected memory =>
    have taken : bootStep runtime epollFd loop.engine (.connected memory sock) = some (_, _) := rfl
    exact .single taken
  | @received env engine effect _ _ handled =>
    have taken : bootStep runtime epollFd loop.engine (.message env sock) = some (engine, effect) :=
      handled
    exact .single taken

end Outcomes

/-! ### Runs -/

section Runs
variable {runtime : Runtime} {epollFd : Int} {round : Round} {loop next : BootLoop} {self : Node}
variable {bootSock : UDTSOCKET} {connects : Bool} {log : List BootAction}
variable {trace : List (Round × List BootAction)}

theorem events_append (log later : List BootAction) : events (log ++ later) = events log ++ events later :=
  List.filterMap_append

@[simp] theorem events_startLog : events (startLog bootSock connects) = [] := by
  cases connects <;> rfl

theorem history_snoc : history bootSock connects (trace ++ [(round, log)]) =
    history bootSock connects trace ++ log := by
  simp [history, List.append_assoc]

/-- A round is a sweep over its visits. -/
theorem step_swept (taken : step runtime epollFd loop round = some (next, log)) :
    loop.returned = false ∧
      Machine.sweep (visit runtime epollFd round) BootLoop.returned round.visits loop =
        some (next, log) := by
  unfold step at taken
  cases returned : loop.returned with
  | true => simp [returned] at taken
  | false =>
    rw [returned, if_neg (by simp)] at taken
    exact ⟨rfl, taken⟩

theorem step_bootSock (taken : step runtime epollFd loop round = some (next, log)) :
    next.bootSock = loop.bootSock := by
  obtain ⟨_, swept⟩ := step_swept taken
  have each := Machine.sweep_invariant (fun _ _ _ state => state.bootSock = loop.bootSock) swept rfl
  obtain ⟨_, _, _, _, same⟩ := each <| by
    intro done visited todo past state reached more _ boot _ visiting
    exact (visit_bootSock visiting).trans boot
  exact same

theorem step_opened (taken : step runtime epollFd loop round = some (next, log))
    (foreign : round.Foreign loop.bootSock) (opened : loop.udt.opened loop.bootSock = true) :
    next.udt.opened loop.bootSock = true := by
  obtain ⟨_, swept⟩ := step_swept taken
  have each := Machine.sweep_invariant (fun _ _ _ state => state.bootSock = loop.bootSock ∧
    state.udt.opened loop.bootSock = true) swept ⟨rfl, opened⟩
  obtain ⟨_, _, _, _, _, reached⟩ := each <| by
    rintro done ⟨pass, sock⟩ todo past state reached more _ ⟨boot, opened⟩ _ visiting
    refine ⟨(visit_bootSock visiting).trans boot, ?_⟩
    have kept := (visit_outcome visiting).opened_boot
    rw [examine_bootSock, examine_udt, boot] at kept
    exact kept foreign opened
  exact reached

theorem step_run (taken : step runtime epollFd loop round = some (next, log)) :
    Machine.Run (bootStep runtime epollFd) loop.engine (events log) next.engine := by
  obtain ⟨_, swept⟩ := step_swept taken
  have each := Machine.sweep_invariant (fun _ _ past state =>
    Machine.Run (bootStep runtime epollFd) loop.engine (events past) state.engine) swept .start
  obtain ⟨_, _, _, _, run⟩ := each <| by
    intro done visited todo past state reached more _ run _ visiting
    obtain ⟨pass, sock⟩ := visited
    have later := (visit_outcome visiting).run
    rw [examine_engine] at later
    rw [events_append]
    exact run.trans later
  exact run

theorem run_bootSock
    (run : Machine.Run (step runtime epollFd) (start self bootSock connects) trace loop) :
    loop.bootSock = bootSock := by
  induction run with
  | start => rfl
  | step _ taken ih => exact (step_bootSock taken).trans ih

theorem run_opened
    (run : Machine.Run (step runtime epollFd) (start self bootSock connects) trace loop)
    (foreign : ∀ round log, (round, log) ∈ trace → round.Foreign bootSock) :
    loop.udt.opened bootSock = true := by
  induction run with
  | start => simp [start]
  | @step trace state next round log before taken ih =>
    have opened := ih fun round log member => foreign round log (List.mem_append_left _ member)
    have boot := run_bootSock before
    rw [← boot] at opened foreign ⊢
    exact step_opened taken (foreign round log (by simp)) opened

/-- A run of the loop is a run of its engine over the events that it logs. -/
theorem engine_run
    (run : Machine.Run (step runtime epollFd) (start self bootSock connects) trace loop) :
    Machine.Run (bootStep runtime epollFd) { self, isServer := false }
      (events (history bootSock connects trace)) loop.engine := by
  induction run with
  | start =>
    rw [history, List.flatMap_nil, List.append_nil, events_startLog]
    exact .start
  | step before taken ih =>
    rw [history_snoc, events_append]
    exact ih.trans (step_run taken)

end Runs

end BootLoop

/-! ### Rounds to evaluate the model with -/

namespace Sample
open BootLoop

/-- Nothing is received, and no socket can be made. -/
def quiet : Env where
  recv := none
  peerName := ⟨0, 0⟩
  punch _ := .socketFails
  memory := memory

def noFds : FdSet := ⟨[], .nil⟩

def oneFd (sock : UDTSOCKET) : FdSet := ⟨[sock], List.pairwise_singleton _ sock⟩

/-- The connect to the server, whose socket is 5, succeeds. -/
def connectedRound : Round where
  fds
    | .writefds => oneFd 5
    | _ => noFds
  status _ _ := .CONNECTED
  connects _ := true
  env _ := quiet
  memory _ := memory

theorem foreign_connectedRound (sock : UDTSOCKET) : connectedRound.Foreign sock := by
  intro place turn made
  cases made

end Sample

end EbcNet
