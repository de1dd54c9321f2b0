import Mathlib.Data.Finset.Basic
import EbcNet.Engine.Punches
import EbcNet.Registry

/-! The loop of a server and the epoll that it waits on: whether it watches the sockets
that its registries record. -/

namespace EbcNet

open Wire (Runtime EbcNode)
open Machine (Always StepsMeet)

/-- The sockets that an epoll watches after a handler has run. -/
def watch (epollFd : Int) (watched : Finset UDTSOCKET) (actions : List Action) : Finset UDTSOCKET :=
  actions.foldl (fun watched action =>
    match action with
    | .epollAdd other sock => if other = epollFd then insert sock watched else watched
    | _ => watched) watched

/-- The server thread: its engine, and the sockets in its epoll. -/
structure ServerLoop where
  engine : NetEngine
  watched : Finset UDTSOCKET

/-- What the loop takes up: a connection it accepts, a message, and a socket that it
finds closed or broken. -/
inductive ServerEvent where
  | accepted (sock : UDTSOCKET)
  | message (env : Env) (sock : UDTSOCKET)
  | lost (sock : UDTSOCKET)

namespace ServerLoop

/-- The default epoll of `handleMsg`. -/
def defaultEpollFd : Int := 0

/-- A loop that waits on `epollFd`. Only an accepted connection is added to that epoll by
the loop itself. -/
def step (runtime : Runtime) (epollFd : Int) :
    Machine.Step ServerLoop ServerEvent NetEngine.Effect
  | loop, .accepted sock =>
    some ({ loop with watched := insert sock loop.watched },
      { actions := [.epollAdd epollFd sock], calls := [] })
  | loop, .message env sock =>
    (NetEngine.step runtime loop.engine (.message env sock defaultEpollFd)).map
      fun (engine, effect) => ({ engine, watched := watch epollFd loop.watched effect.actions }, effect)
  | loop, .lost sock =>
    (NetEngine.step runtime loop.engine (.clientLost sock)).map
      fun (engine, effect) => ({ engine, watched := loop.watched.erase sock }, effect)

/-- A new server watches the socket that it listens on. -/
def start (self : Node) (srv : UDTSOCKET) : ServerLoop where
  engine := { self, isServer := true }
  watched := {srv}

/-- Every socket that the registries record is watched. -/
structure RecordsWatched (loop : ServerLoop) : Prop where
  owner : ∀ sock id, loop.engine.owner sock = some id → sock ∈ loop.watched
  clients : ∀ id node, loop.engine.clients id = some node → node.sock ∈ loop.watched
  peers : ∀ id node, loop.engine.peers id = some node → node.sock ∈ loop.watched

/-- When a step keeps all recorded sockets watched: no `startPunch` succeeds unless the
default epoll is the loop's own, and a socket that is lost is the home of no peer, and
of no client but the one that it is recorded for. -/
def KeepsWatched (runtime : Runtime) (epollFd : Int) (loop : ServerLoop) : ServerEvent → Prop
  | .accepted _ => True
  | .message env _ => epollFd = defaultEpollFd ∨
      ∀ turn < (loop.engine.punchTargets runtime env).length, ∀ sock,
        env.punch turn = .connects sock → sock = INVALID_SOCK
  | .lost sock =>
      (∀ id node, loop.engine.clients id = some node → node.sock = sock →
        loop.engine.owner sock = some id) ∧
      ∀ id node, loop.engine.peers id = some node → node.sock ≠ sock

/-- `UDT::epoll_wait` reports watched sockets, and `UDT::socket` makes a new one. -/
def Possible (loop : ServerLoop) : ServerEvent → Prop
  | .message env sock => sock ∈ loop.watched ∧
      ∀ turn made, env.punch turn = .connects made → made ∉ loop.watched
  | _ => True

section Step
variable {runtime : Runtime} {epollFd : Int} {loop next : ServerLoop} {event : ServerEvent}
variable {effect : NetEngine.Effect} {engine reached : NetEngine} {watched larger : Finset UDTSOCKET}

theorem mem_watch {actions : List Action} {sock : UDTSOCKET} :
    sock ∈ watch epollFd watched actions ↔ sock ∈ watched ∨ .epollAdd epollFd sock ∈ actions := by
  unfold watch
  induction actions generalizing watched with
  | nil => simp
  | cons action actions ih =>
    rw [List.foldl_cons, ih, List.mem_cons]
    cases action with
    | epollAdd other place =>
      by_cases same : other = epollFd
      · simp [same, or_assoc, or_left_comm]
      · simp [same, Ne.symm same]
    | _ => simp

theorem RecordsWatched.mono (records : RecordsWatched { engine, watched })
    (part : watched ⊆ larger) : RecordsWatched { engine, watched := larger } where
  owner sock id recorded := part (records.owner sock id recorded)
  clients id node present := part (records.clients id node present)
  peers id node present := part (records.peers id node present)

theorem RecordsWatched.call (records : RecordsWatched { engine, watched }) {made : Call}
    (within : ∀ sock id, made.recorded = some (sock, id) → sock ∈ watched) :
    RecordsWatched { engine := engine.call made, watched } := by
  refine ⟨?_, ?_, ?_⟩
  · intro sock id named
    rcases NetEngine.owner_origin named with old | added
    · exact records.owner sock id old
    · exact within sock id added
  · intro id node present
    rcases NetEngine.clients_call present with old | ⟨_, _, _, _, sock, rfl, _, rfl⟩
    · exact records.clients id node old
    · exact within sock _ rfl
  · intro id node present
    rcases NetEngine.peers_call present with old | ⟨_, _, _, _, sock, rfl, _, rfl⟩
    · exact records.peers id node old
    · exact within sock _ rfl

theorem RecordsWatched.calls (records : RecordsWatched { engine, watched }) {calls : List Call}
    (within : ∀ made ∈ calls, ∀ sock id, made.recorded = some (sock, id) → sock ∈ watched) :
    RecordsWatched { engine := calls.foldl NetEngine.call engine, watched } := by
  induction calls generalizing engine with
  | nil => exact records
  | cons made calls ih =>
    exact ih (records.call (within made List.mem_cons_self))
      fun other member => within other (List.mem_cons_of_mem _ member)

/-- Introductions keep the recorded sockets watched just when nothing comes of them, or
the sockets that they make get into the epoll of the loop. -/
private theorem introduced_iff {env : Env} {nodes : List EbcNode}
    (records : RecordsWatched { engine, watched })
    (fresh : ∀ turn made, env.punch turn = .connects made → made ∉ watched) :
    RecordsWatched
        { engine := (NetEngine.introduceAll env defaultEpollFd engine 0 nodes).1
          watched := watch epollFd watched (NetEngine.introduceAll env defaultEpollFd engine 0 nodes).2 } ↔
      epollFd = defaultEpollFd ∨
        ∀ turn < nodes.length, ∀ sock, env.punch turn = .connects sock → sock = INVALID_SOCK := by
  have adds : ∀ made ∈ NetEngine.introductions env 0 nodes, made.recorded.isSome := by
    intro made member
    obtain ⟨node, _, sock, rfl⟩ := NetEngine.mem_introductions member
    rfl
  rw [NetEngine.introduceAll_calls]
  constructor
  · intro records
    by_contra wrong
    push Not at wrong
    obtain ⟨foreign, turn, below, sock, connects, valid⟩ := wrong
    have made : .addPeer env.memory nodes[turn].id nodes[turn].ip nodes[turn].portNat sock ∈
        NetEngine.introductions env 0 nodes :=
      NetEngine.mem_introductions_iff.mpr ⟨turn, nodes[turn], sock, List.getElem?_eq_getElem below,
        by rw [Nat.zero_add]; exact connects, valid, rfl⟩
    rcases @NetEngine.owner_calls engine _ sock adds with ⟨_, _, id, _, recorded⟩ | ⟨none, _⟩
    · rcases mem_watch.mp (records.owner sock id recorded) with old | added
      · exact fresh turn sock connects old
      · exact foreign (NetEngine.introduceAll_epollAdd.mp added).1
    · exact none _ made _ rfl
  · intro condition
    refine (records.mono fun sock member => mem_watch.mpr (Or.inl member)).calls ?_
    intro made member sock id recorded
    obtain ⟨turn, node, place, listed, connects, valid, rfl⟩ :=
      NetEngine.mem_introductions_iff.mp member
    cases recorded
    have below : turn < nodes.length := (List.getElem?_eq_some_iff.mp listed).1
    rcases condition with own | failed
    · exact mem_watch.mpr (Or.inr (NetEngine.introduceAll_epollAdd.mpr ⟨own, turn, below, connects⟩))
    · rw [Nat.zero_add] at connects
      exact absurd (failed turn below sock connects) valid

private theorem message_iff {env : Env} {sock : UDTSOCKET} (records : loop.RecordsWatched)
    (possible : loop.Possible (.message env sock))
    (taken : step runtime epollFd loop (.message env sock) = some (next, effect)) :
    next.RecordsWatched ↔ loop.KeepsWatched runtime epollFd (.message env sock) := by
  obtain ⟨⟨engine, other⟩, handled, same⟩ := Option.map_eq_some_iff.mp taken
  cases same
  obtain ⟨actions, done, rfl⟩ := NetEngine.step_message handled
  obtain ⟨here, fresh⟩ := possible
  by_cases getNode : ∃ object, loop.engine.received runtime env = some object ∧
      object.ebcMsg.type = Wire.MsgType.GET_NODE.toInt32
  · obtain ⟨object, accepted, type⟩ := getNode
    have keeps : loop.KeepsWatched runtime epollFd (.message env sock) := by
      rw [KeepsWatched, NetEngine.punchTargets_getNode accepted type]
      exact Or.inr fun turn below => absurd below (Nat.not_lt_zero turn)
    refine iff_of_true ?_ keeps
    rw [NetEngine.handleMsg_calls done]
    refine (records.mono fun sock member => mem_watch.mpr (Or.inl member)).calls ?_
    intro made member place id recorded
    obtain ⟨again, acceptedAgain, ⟨_, first, _, rfl⟩ | ⟨other, _⟩⟩ := NetEngine.mem_calls member
    · cases recorded
      exact mem_watch.mpr (Or.inl here)
    · obtain rfl := Option.some.inj (accepted.symm.trans acceptedAgain)
      exact absurd type other
  · have targets := NetEngine.handleMsg_targets done fun object accepted type =>
      getNode ⟨object, accepted, type⟩
    obtain ⟨rfl, rfl⟩ := Prod.mk.inj targets
    exact introduced_iff records fresh

private theorem lost_iff {sock : UDTSOCKET} (records : loop.RecordsWatched)
    (taken : step runtime epollFd loop (.lost sock) = some (next, effect)) :
    next.RecordsWatched ↔ loop.KeepsWatched runtime epollFd (.lost sock) := by
  cases taken
  constructor
  · rintro ⟨_, clients, peers⟩
    refine ⟨?_, ?_⟩
    · intro id node present here
      by_contra unnamed
      have kept : (loop.engine.delClientNode sock).clients id = some node := by
        rw [NetEngine.clients_delClientNode, InverseIndex.eraseVia_eq_some]
        exact ⟨unnamed, present⟩
      exact (Finset.mem_erase.mp (clients id node kept)).1 here
    · intro id node present
      refine (Finset.mem_erase.mp (peers id node ?_)).1
      rw [NetEngine.peers_delClientNode]
      exact present
  · rintro ⟨clients, peers⟩
    refine ⟨?_, ?_, ?_⟩
    · intro other id recorded
      rw [NetEngine.owner_delClientNode, InverseIndex.update_eq_some] at recorded
      rcases recorded with ⟨_, gone⟩ | ⟨elsewhere, old⟩
      · cases gone
      · exact Finset.mem_erase.mpr ⟨elsewhere, records.owner other id old⟩
    · intro id node present
      rw [NetEngine.clients_delClientNode, InverseIndex.eraseVia_eq_some] at present
      obtain ⟨unnamed, stored⟩ := present
      exact Finset.mem_erase.mpr
        ⟨fun here => unnamed (clients id node stored here), records.clients id node stored⟩
    · intro id node present
      rw [NetEngine.peers_delClientNode] at present
      exact Finset.mem_erase.mpr ⟨peers id node present, records.peers id node present⟩

/-- One step: from a loop that watches all recorded sockets. -/
theorem RecordsWatched.step_iff (records : loop.RecordsWatched) (possible : loop.Possible event)
    (taken : step runtime epollFd loop event = some (next, effect)) :
    next.RecordsWatched ↔ loop.KeepsWatched runtime epollFd event := by
  cases event with
  | accepted sock =>
    cases taken
    exact iff_of_true (records.mono (Finset.subset_insert _ _)) trivial
  | message env sock => exact message_iff records possible taken
  | lost sock => exact lost_iff records taken

end Step

section Runs
variable {runtime : Runtime} {epollFd : Int} {self : Node} {srv : UDTSOCKET}
variable {trace : List (ServerEvent × NetEngine.Effect)} {loop : ServerLoop}

theorem recordsWatched_start : (start self srv).RecordsWatched := by
  refine ⟨?_, ?_, ?_⟩ <;> simp [start]

/-- Over a whole run, every recorded socket is always watched if and only if every step
meets its condition. -/
theorem recordsWatched_iff_keepsWatched
    (run : Machine.Run (step runtime epollFd) (start self srv) trace loop)
    (possible : StepsMeet (step runtime epollFd) Possible (start self srv) trace) :
    Always (step runtime epollFd) (fun _ => RecordsWatched) (start self srv) trace ↔
      StepsMeet (step runtime epollFd) (KeepsWatched runtime epollFd) (start self srv) trace := by
  refine run.always_iff recordsWatched_start ?_
  rintro past before event effect next reached ⟨future, split⟩ taken records
  exact records.step_iff (possible past event effect future split before reached) taken

end Runs

open Sample

/-- A `PUNCH` at a server. -/
def punched (id : NodeId) (addr : SockAddrIn) (made sock : UDTSOCKET) : ServerEvent :=
  .message (punchEnv id addr addr made) sock

/-- A connection is accepted, and a `PUNCH` comes in on it. -/
private theorem punched_run :
    ∃ accepted next effect, Machine.Run (step Wire.Reference.runtime 1) (start (Node.new memory) 1)
        [(.accepted 2, accepted), (punched (nodeId 7) ⟨1, 2⟩ 3 2, effect)] next ∧
      StepsMeet (step Wire.Reference.runtime 1) Possible (start (Node.new memory) 1)
        [(.accepted 2, accepted), (punched (nodeId 7) ⟨1, 2⟩ 3 2, effect)] ∧
      next.engine.owner 3 = some (nodeId 7) ∧ 3 ∉ next.watched := by
  have check : ((step Wire.Reference.runtime 1 (start (Node.new memory) 1) (.accepted 2)).bind
      fun (first, _) => (step Wire.Reference.runtime 1 first
        (punched (nodeId 7) ⟨1, 2⟩ 3 2)).map fun (second, _) =>
          (decide (first.watched = {2, 1}), second.engine.owner 3, decide (3 ∈ second.watched))) =
        some (true, some (nodeId 7), false) := by
    decide +kernel
  obtain ⟨⟨first, accepted⟩, firstStep, rest⟩ := Option.bind_eq_some_iff.mp check
  obtain ⟨⟨second, effect⟩, secondStep, facts⟩ := Option.map_eq_some_iff.mp rest
  obtain ⟨watched, facts⟩ := Prod.mk.inj facts
  obtain ⟨recorded, unwatched⟩ := Prod.mk.inj facts
  have reached := Machine.Run.start.step firstStep
  have watched := of_decide_eq_true watched
  refine ⟨accepted, second, effect, reached.step secondStep, ?_, recorded,
    of_decide_eq_false unwatched⟩
  refine (Machine.StepsMeet.nil.snoc .start trivial).snoc reached ⟨?_, ?_⟩
  · rw [watched]
    decide
  · intro turn made connects
    have isMade : made = 3 := (punchEnv_made (by rw [connects]; rfl)).1
    rw [watched, isMade]
    decide

theorem recordsWatched_iff_keepsWatched_accepted :
    ∃ accepted effect,
      (Always (step Wire.Reference.runtime 1) (fun _ => RecordsWatched) (start (Node.new memory) 1)
          [(.accepted 2, accepted), (punched (nodeId 7) ⟨1, 2⟩ 3 2, effect)] ↔
        StepsMeet (step Wire.Reference.runtime 1) (KeepsWatched Wire.Reference.runtime 1)
          (start (Node.new memory) 1)
          [(.accepted 2, accepted), (punched (nodeId 7) ⟨1, 2⟩ 3 2, effect)]) := by
  obtain ⟨accepted, next, effect, run, possible, _, _⟩ := punched_run
  exact ⟨accepted, effect, recordsWatched_iff_keepsWatched run possible⟩

/-- The socket that a server punches with for a client is in no epoll of its loop. -/
theorem recordsWatched_counterexample :
    ∃ trace next, Machine.Run (step Wire.Reference.runtime 1) (start (Node.new memory) 1) trace next ∧
      StepsMeet (step Wire.Reference.runtime 1) Possible (start (Node.new memory) 1) trace ∧
      trace.map Prod.fst = [.accepted 2, punched (nodeId 7) ⟨1, 2⟩ 3 2] ∧ ¬ next.RecordsWatched := by
  obtain ⟨accepted, next, effect, run, possible, recorded, unwatched⟩ := punched_run
  exact ⟨_, next, run, possible, rfl, fun records => unwatched (records.owner 3 _ recorded)⟩

end ServerLoop

end EbcNet
