import EbcNet.Deployment.Visits

/-! The network that the threads of a server and its clients make: a client is in it once its
`GET_NODE` is sent. What a visit of a client comes to there. -/

namespace EbcNet

open Wire (Runtime)
open NetEngine (Effect BootEvent bootStep bufSize)
open Machine (Guarded)

namespace Network

/-- Before a client has sent its `GET_NODE`, the server has nothing to do with it. -/
theorem outside {runtime : Runtime} {epollFd : Int} {home : Node} {net : Network}
    {trace : List (NetworkEvent × Effect)} {sock : UDTSOCKET}
    (guarded : Guarded (step runtime epollFd) Admits (start home) trace net)
    (absent : net.client sock = none) :
    net.up sock = [] ∧ net.down sock = [] ∧ net.server.owner sock = none := by
  obtain ⟨history, linked, ledger⟩ := known_of_run guarded.run guarded.meets
  have unknown : net.selves sock = none := by
    unfold selves
    rw [absent]
    rfl
  have fresh : ∀ id, ¬ history.Joined id sock := by
    intro id joined
    obtain ⟨node, present, _⟩ := linked.joined id sock joined
    rw [unknown] at present
    cases present
  refine ⟨?_, ?_, ?_⟩
  · cases waits : net.up sock with
    | nil => rfl
    | cons packed rest =>
      obtain ⟨_, _, _, node, present, _⟩ := linked.waiting sock packed rest waits
      rw [unknown] at present
      cases present
  · obtain ⟨got, whole, _⟩ := ledger sock
    apply List.eq_nil_iff_forall_not_mem.mpr
    intro packed member
    obtain ⟨id, joined⟩ := linked.run.inbox_joined (whole ▸ List.mem_append_right got member)
    exact fresh id joined
  · apply Option.eq_none_iff_forall_ne_some.mpr
    intro id owned
    exact fresh id (linked.run.online.owner_joined owned)

end Network

/-! ### The network of a deployment -/

namespace Deployment

/-- The server has received something on a connection, from an address. -/
def Arrived (log : List DeploymentAction) (sock : UDTSOCKET) (addr : SockAddrIn) : Prop :=
  ∃ env effect, .server (.took (.message env sock) effect) ∈ log ∧ env.recv.isSome = true ∧
    env.peerName = addr

/-- The addresses that the client of a connection has punched towards. -/
def punchesAt (sock : UDTSOCKET) (log : List DeploymentAction) : List SockAddrIn :=
  log.flatMap fun
    | .client place (.took _ effect) =>
      if place = sock then effect.actions.filterMap Action.punched else []
    | _ => []

/-- The threads have done what the events of a network tell: just what the server has seen,
and just where the clients have punched. -/
structure Reports (log : List DeploymentAction) (events : List (NetworkEvent × Effect)) : Prop where
  seen : ∀ sock addr, Seen (events.map Prod.fst) sock addr ↔ Arrived log sock addr
  punches : ∀ sock, Network.punchesAt sock events = punchesAt sock log

/-- The thread is that of a client of the network, or has not sent its `GET_NODE`. -/
structure Standing (thread : ClientThread) (client : Option Client) : Prop where
  accounts : thread.loop.Accounts
  nodup : thread.todo.Nodup
  inside : thread.announced = true →
    client = some { engine := thread.loop.engine, bootSock := thread.loop.bootSock } ∧
      (.writefds, thread.loop.bootSock) ∉ thread.todo ∧
      ¬ thread.loop.Awaits thread.loop.bootSock
  outside : thread.announced = false →
    client = none ∧ thread.loop.engine = { self := thread.loop.engine.self, isServer := false }

/-- What every visit of a client keeps. -/
structure Visited (thread : ClientThread) (place : Pass × UDTSOCKET) (todo : List (Pass × UDTSOCKET))
    (loop : BootLoop) : Prop where
  rest : thread.todo = place :: todo
  boot : loop.bootSock = thread.loop.bootSock
  own : loop.engine.self = thread.loop.engine.self
  accounts : loop.Accounts
  awaits : thread.announced = true → ¬ thread.loop.Awaits thread.loop.bootSock →
    ¬ loop.Awaits thread.loop.bootSock

/-- The network has the server, the clients that have sent their `GET_NODE`, and the messages
of the deployment. -/
structure Mirrors (dep : Deployment) (net : Network) : Prop where
  server : net.server = dep.server.engine
  up : net.up = dep.up
  down : net.down = dep.down
  absent : ∀ sock, dep.client sock = none → net.client sock = none
  clients : ∀ sock thread, dep.client sock = some thread → Standing thread (net.client sock)
  distinct : ∀ sock place first second, dep.client sock = some first →
    dep.client place = some second → first.loop.engine.self.id = second.loop.engine.self.id →
    sock = place

/-- The network goes on to mirror the deployment, in what the log tells. -/
def Follows (runtime : Runtime) (epollFd : Int) (net : Network) (log : List DeploymentAction)
    (next : Deployment) : Prop :=
  ∃ events reached, Guarded (Network.step runtime epollFd) Network.Admits net events reached ∧
    Mirrors next reached ∧ Reports log events

section Following
variable {runtime : Runtime} {epollFd : Int} {dep next : Deployment} {net reached : Network}
variable {log later : List DeploymentAction} {event : NetworkEvent} {effect : Effect}
variable {sock : UDTSOCKET} {thread : ClientThread}

theorem arrived_append {addr : SockAddrIn} :
    Arrived (log ++ later) sock addr ↔ Arrived log sock addr ∨ Arrived later sock addr := by
  simp only [Arrived, List.mem_append, or_and_right, exists_or]

theorem Reports.append {events more : List (NetworkEvent × Effect)} (reports : Reports log events)
    (rest : Reports later more) : Reports (log ++ later) (events ++ more) := by
  constructor
  · intro sock addr
    rw [arrived_append, ← reports.seen, ← rest.seen, List.map_append]
    simp only [Seen, List.mem_append, or_and_right, exists_or]
  · intro sock
    have first := reports.punches sock
    have second := rest.punches sock
    unfold Network.punchesAt punchesAt at first second ⊢
    rw [List.flatMap_append, List.flatMap_append, first, second]

/-- What no event of a network tells of. -/
structure Silent (log : List DeploymentAction) : Prop where
  arrivals : ∀ sock addr, ¬ Arrived log sock addr
  punches : ∀ sock, punchesAt sock log = []

theorem silent_nil : Silent [] := by
  refine ⟨?_, fun _ => rfl⟩
  rintro sock addr ⟨env, effect, member, _⟩
  cases member

theorem Silent.reports (silent : Silent log) : Reports log [] := by
  refine ⟨fun sock addr => iff_of_false ?_ (silent.arrivals sock addr), fun sock =>
    (silent.punches sock).symm⟩
  rintro ⟨env, member, _⟩
  cases member

theorem follows_nothing (mirrors : Mirrors next net) (silent : Silent log) :
    Follows runtime epollFd net log next :=
  ⟨[], net, .nil, mirrors, silent.reports⟩

theorem follows_one (admits : net.Admits event)
    (taken : Network.step runtime epollFd net event = some (reached, effect))
    (mirrors : Mirrors next reached) (reports : Reports log [(event, effect)]) :
    Follows runtime epollFd net log next :=
  ⟨_, reached, .single admits taken, mirrors, reports⟩

/-- What one client changes. -/
theorem Mirrors.updated (mirrors : Mirrors dep net) {after : ClientThread}
    {client : Option Client} (present : dep.client sock = some thread)
    (own : after.loop.engine.self = thread.loop.engine.self) (standing : Standing after client)
    (server : next.server = dep.server)
    (threads : next.client = Function.update dep.client sock (some after))
    (serverSame : reached.server = net.server)
    (clients : reached.client = Function.update net.client sock client)
    (up : reached.up = next.up) (down : reached.down = next.down) : Mirrors next reached := by
  have origin : ∀ place other, next.client place = some other → ∃ old,
      dep.client place = some old ∧ other.loop.engine.self = old.loop.engine.self := by
    intro place other known
    rw [threads, InverseIndex.update_eq_some] at known
    rcases known with ⟨rfl, now⟩ | ⟨_, old⟩
    · cases now
      exact ⟨thread, present, own⟩
    · exact ⟨other, old, rfl⟩
  refine ⟨?_, up, down, ?_, ?_, ?_⟩
  · rw [serverSame, server]
    exact mirrors.server
  · intro place absent
    rw [threads] at absent
    rw [clients]
    by_cases here : place = sock
    · subst here
      rw [Function.update_self] at absent
      cases absent
    · rw [Function.update_of_ne here] at absent ⊢
      exact mirrors.absent place absent
  · intro place other known
    rw [threads] at known
    rw [clients]
    by_cases here : place = sock
    · subst here
      rw [Function.update_self] at known ⊢
      cases known
      exact standing
    · rw [Function.update_of_ne here] at known ⊢
      exact mirrors.clients place other known
  · intro spot place first second firstKnown secondKnown same
    obtain ⟨old, firstOld, firstSame⟩ := origin spot first firstKnown
    obtain ⟨other, secondOld, secondSame⟩ := origin place second secondKnown
    rw [firstSame, secondSame] at same
    exact mirrors.distinct spot place old other firstOld secondOld same

/-- A visit that is no `GET_NODE`. -/
private theorem Standing.visited {client : Option Client} (standing : Standing thread client)
    {place : Pass × UDTSOCKET} {todo : List (Pass × UDTSOCKET)} {loop : BootLoop}
    (visited : Visited thread place todo loop)
    (fresh : thread.announced = false → loop.engine = thread.loop.engine) :
    Standing { loop, todo, announced := thread.announced }
      (client.map fun client => { client with engine := loop.engine }) := by
  obtain ⟨_, nodup, inside, outside⟩ := standing
  obtain ⟨rest, boot, _, accounts, awaits⟩ := visited
  rw [rest] at nodup inside
  refine ⟨accounts, (List.nodup_cons.mp nodup).2, ?_, ?_⟩
  · intro announced
    obtain ⟨rfl, absent, idle⟩ := inside announced
    refine ⟨?_, ?_, ?_⟩
    · rw [Option.map_some, boot]
    · rw [boot]
      exact fun member => absent (List.mem_cons_of_mem _ member)
    · rw [boot]
      exact awaits announced idle
  · intro unannounced
    obtain ⟨rfl, new⟩ := outside unannounced
    refine ⟨rfl, ?_⟩
    dsimp only
    rw [fresh unannounced]
    exact new

/-- A visit in which the engine takes up nothing. -/
private theorem Mirrors.idle (mirrors : Mirrors dep net) (present : dep.client sock = some thread)
    {place : Pass × UDTSOCKET} {todo : List (Pass × UDTSOCKET)} {loop : BootLoop}
    (visited : Visited thread place todo loop)
    (engine : loop.engine = thread.loop.engine) (silent : Silent log) :
    Follows runtime epollFd net log { dep with
      client := Function.update dep.client sock
        (some { loop, todo, announced := thread.announced }) } := by
  have standing := mirrors.clients sock thread present
  have after := standing.visited visited fun _ => engine
  have same : (net.client sock).map (fun client => { client with engine := loop.engine }) =
      net.client sock := by
    cases announced : thread.announced with
    | true => rw [(standing.inside announced).1, Option.map_some, engine]
    | false => rw [(standing.outside announced).1, Option.map_none]
  rw [same] at after
  exact follows_nothing (mirrors.updated present visited.own after rfl rfl rfl
    (Function.update_eq_self ..).symm mirrors.up mirrors.down) silent

/-- A visit in which the engine of a client takes up something. -/
private theorem Mirrors.turned (mirrors : Mirrors dep net) (present : dep.client sock = some thread)
    {place : Pass × UDTSOCKET} {todo : List (Pass × UDTSOCKET)} {loop : BootLoop}
    (visited : Visited thread place todo loop)
    (announced : thread.announced = true) {down : UDTSOCKET → List Packed}
    (admits : net.Admits event)
    (taken : net.client sock =
        some { engine := thread.loop.engine, bootSock := thread.loop.bootSock } →
      Network.step runtime epollFd net event = some ({ net with
        client := Function.update net.client sock
          (some { engine := loop.engine, bootSock := thread.loop.bootSock })
        down }, effect))
    (reports : Reports log [(event, effect)]) :
    Follows runtime epollFd net log { dep with
      client := Function.update dep.client sock
        (some { loop, todo, announced := thread.announced })
      down } := by
  have standing := mirrors.clients sock thread present
  have known := (standing.inside announced).1
  have after := standing.visited visited fun unannounced => by
    rw [announced] at unannounced
    cases unannounced
  rw [known, Option.map_some] at after
  exact follows_one admits (taken known)
    (mirrors.updated present visited.own after rfl rfl rfl rfl mirrors.up rfl) reports

private theorem turn_taken (turn : UDTSOCKET → BootEvent) {client : Client} {engine : NetEngine}
    (present : net.client sock = some client)
    (stepped : NetEngine.bootStep runtime epollFd client.engine (turn client.bootSock) =
      some (engine, effect)) :
    net.turn runtime epollFd sock turn = some ({ net with
      client := Function.update net.client sock (some { client with engine }) }, effect) := by
  rw [Network.turn, present, Option.bind_some, stepped]
  rfl

end Following

/-! ### Visits of a client -/

section Clients
variable {runtime : Runtime} {epollFd : Int} {dep next : Deployment} {net : Network} {home : Node}
variable {past : List (NetworkEvent × Effect)} {sock place : UDTSOCKET} {thread : ClientThread}
variable {round : Round} {count : Nat} {pass : Pass} {todo : List (Pass × UDTSOCKET)}
variable {visit : Pass × UDTSOCKET} {loop : BootLoop} {log : List BootAction}

private theorem clientVisit_eq_some (taken : dep.clientVisit runtime epollFd sock round count thread
      (visit :: todo) = some (next, log)) :
    ∃ loop, (((dep.down sock).take count).map Packed.sent).flatten.length ≤ bufSize ∧
      thread.loop.visit runtime epollFd
        (round.hearing thread.loop.bootSock ((dep.down sock).take count)) visit =
          some (loop, log) ∧
      next = dep.clientDid sock count thread todo loop log := by
  rw [clientVisit] at taken
  split at taken
  · cases taken
  · rename_i refused
    rw [Bool.or_eq_true, not_or, decide_eq_true_eq, not_lt] at refused
    obtain ⟨⟨loop, log⟩, visiting, same⟩ := Option.map_eq_some_iff.mp taken
    cases same
    exact ⟨loop, refused.2, visiting, rfl⟩

private theorem hearing_foreign {bootSock : UDTSOCKET} {sent : List Packed}
    (foreign : round.Foreign place) : (round.hearing bootSock sent).Foreign place := by
  intro sock turn
  unfold Round.hearing
  dsimp only
  split
  · exact foreign sock turn
  · exact foreign sock turn

/-- A visit in which nothing is sent to the server or comes from it. -/
private theorem clientDid_quiet (posted : log.filterMap BootAction.sent = [])
    (heard : log.any (BootAction.hears thread.loop.bootSock) = false) :
    dep.clientDid sock count thread todo loop log =
      { dep with
        client := Function.update dep.client sock
          (some { loop, todo, announced := thread.announced }) } := by
  rw [clientDid, posted, heard]
  simp

/-- Nothing stands in the registries of a client that has not sent its `GET_NODE`. -/
private theorem Standing.nobody {client : Option Client} (standing : Standing thread client)
    (unannounced : thread.announced = false) :
    thread.loop.engine.delPeerNode place = thread.loop.engine ∧
      thread.loop.engine.owner place = none := by
  obtain ⟨_, new⟩ := standing.outside unannounced
  rw [new]
  exact ⟨by simp [NetEngine.delPeerNode], rfl⟩

private theorem arrived_client {spot : UDTSOCKET} {addr : SockAddrIn} :
    ¬ Arrived (log.map (DeploymentAction.client sock)) spot addr := by
  rintro ⟨env, effect, member, _⟩
  obtain ⟨item, _, same⟩ := List.mem_map.mp member
  cases same

theorem silent_client (silent : ∀ item ∈ log, ∀ event effect, item = .took event effect →
      effect.actions.filterMap Action.punched = []) :
    Silent (log.map (DeploymentAction.client sock)) := by
  refine ⟨fun _ _ => arrived_client, fun spot => ?_⟩
  rw [punchesAt, List.flatMap_map]
  apply List.flatMap_eq_nil_iff.mpr
  intro item member
  cases item with
  | took event effect => simp [silent _ member event effect rfl]
  | _ => rfl

/-- What a client does without the server. -/
private theorem reports_client {event : NetworkEvent} {effect : Effect} (unseen : event.spot = none)
    (punches : ∀ spot, Network.punchesAt spot [(event, effect)] =
      punchesAt spot (log.map (DeploymentAction.client sock))) :
    Reports (log.map (DeploymentAction.client sock)) [(event, effect)] := by
  refine ⟨fun spot addr => iff_of_false ?_ arrived_client, punches⟩
  rintro ⟨env, member, _⟩
  cases List.mem_singleton.mp member
  cases unseen

/-- A visit in which the engine takes up what is nothing to the server. -/
private theorem alone_follows (mirrors : Mirrors dep net) (present : dep.client sock = some thread)
    (visited : Visited thread visit todo loop) (event : NetworkEvent) {taken : BootEvent} {effect : Effect}
    (stepped : bootStep runtime epollFd thread.loop.engine taken = some (loop.engine, effect))
    (fresh : thread.announced = false → loop.engine = thread.loop.engine)
    (turns : Network.step runtime epollFd net event = net.turn runtime epollFd sock fun _ => taken)
    (admits : net.client sock =
        some { engine := thread.loop.engine, bootSock := thread.loop.bootSock } → net.Admits event)
    (unseen : event.spot = none)
    (silent : ∀ spot, Network.punchesAt spot [(event, effect)] = [])
    (quiet : Silent (log.map (DeploymentAction.client sock))) :
    Follows runtime epollFd net (log.map (DeploymentAction.client sock)) { dep with
      client := Function.update dep.client sock
        (some { loop, todo, announced := thread.announced }) } := by
  have standing := mirrors.clients sock thread present
  cases announced : thread.announced with
  | true =>
    rw [← announced]
    have turned : net.client sock =
          some { engine := thread.loop.engine, bootSock := thread.loop.bootSock } →
        Network.step runtime epollFd net event = some ({ net with
          client := Function.update net.client sock
            (some { engine := loop.engine, bootSock := thread.loop.bootSock })
          down := dep.down }, effect) := by
      intro known
      rw [turns, ← mirrors.down]
      exact turn_taken _ known stepped
    refine mirrors.turned present visited announced
      (admits (standing.inside announced).1) turned (reports_client unseen fun spot => ?_)
    rw [silent, quiet.punches]
  | false =>
    rw [← announced]
    exact mirrors.idle present visited (fresh announced) quiet

/-- A client of the network is one that has sent its `GET_NODE`. -/
theorem Mirrors.origin (mirrors : Mirrors dep net) {client : Client}
    (known : net.client sock = some client) :
    ∃ thread, dep.client sock = some thread ∧ thread.announced = true ∧
      client.engine = thread.loop.engine := by
  cases present : dep.client sock with
  | none =>
    rw [mirrors.absent sock present] at known
    cases known
  | some thread =>
    have standing := mirrors.clients sock thread present
    cases announced : thread.announced with
    | true =>
      rw [(standing.inside announced).1] at known
      cases known
      exact ⟨thread, rfl, announced, rfl⟩
    | false =>
      rw [(standing.outside announced).1] at known
      cases known

/-- A client that has not sent its `GET_NODE` has another id than those of the network. -/
private theorem Mirrors.newcomer (mirrors : Mirrors dep net)
    (present : dep.client sock = some thread) (absent : net.client sock = none) {client : Client}
    (known : net.client place = some client) :
    client.engine.self.id ≠ thread.loop.engine.self.id := by
  obtain ⟨other, standing, _, engine⟩ := mirrors.origin known
  rw [engine]
  intro same
  rw [mirrors.distinct place sock other thread standing present same, absent] at known
  cases known

private theorem announced_follows (mirrors : Mirrors dep net)
    (guarded : Guarded (Network.step runtime epollFd) Network.Admits (Network.start home) past net)
    (present : dep.client sock = some thread)
    (visited : Visited thread (.writefds, thread.loop.bootSock) todo loop)
    (awaits : ¬ loop.Awaits thread.loop.bootSock) (same : loop.engine = thread.loop.engine)
    {packed : Packed} (packs : announce runtime thread.loop.engine.self = some packed)
    (posted : log.filterMap BootAction.sent = [packed])
    (heard : log.any (BootAction.hears thread.loop.bootSock) = false)
    (quiet : Silent (log.map (DeploymentAction.client sock))) :
    Follows runtime epollFd net (log.map (DeploymentAction.client sock))
      (dep.clientDid sock count thread todo loop log) := by
  have standing := mirrors.clients sock thread present
  have nodup := standing.nodup
  rw [visited.rest, List.nodup_cons] at nodup
  have unannounced : thread.announced = false := by
    rw [← Bool.not_eq_true]
    intro announced
    exact (standing.inside announced).2.1 (by rw [visited.rest]; exact List.mem_cons_self)
  obtain ⟨absent, new⟩ := standing.outside unannounced
  obtain ⟨empty, _, _⟩ := Network.outside guarded absent
  have taken : Network.step runtime epollFd net
      (.connects thread.loop.engine.self thread.loop.bootSock sock) = some ({ net with
        client := Function.update net.client sock (some {
          engine := { self := thread.loop.engine.self, isServer := false }
          bootSock := thread.loop.bootSock })
        up := Function.update net.up sock [packed] },
      { actions := [.send thread.loop.bootSock packed], calls := [] }) := by
    dsimp only [Network.step]
    rw [absent, packs]
    rfl
  have admits : net.Admits (.connects thread.loop.engine.self thread.loop.bootSock sock) :=
    fun place client known => mirrors.newcomer present absent known
  have after : Standing { loop, todo, announced := true } (some {
      engine := { self := thread.loop.engine.self, isServer := false }
      bootSock := thread.loop.bootSock }) := by
    refine ⟨visited.accounts, nodup.2, fun _ => ⟨?_, ?_, ?_⟩, nofun⟩
    · rw [← new, visited.boot, same]
    · rw [visited.boot]
      exact nodup.1
    · rw [visited.boot]
      exact awaits
  refine follows_one admits taken
    (mirrors.updated present visited.own after rfl ?_ rfl rfl ?_ ?_)
    (reports_client rfl fun spot => ?_)
  · rw [clientDid, posted]
    simp
  · rw [clientDid, posted, ← mirrors.up, empty]
    rfl
  · rw [clientDid, heard]
    simpa using mirrors.down
  · rw [quiet.punches]
    rfl

/-- What a visit receives: nothing, what comes from a peer, or messages of the server. -/
private theorem heard_cases {bootSock : UDTSOCKET} {sent : List Packed} {opened : Bool} {env : Env}
    (heard : env = if opened then (round.hearing bootSock sent).env place
      else { (round.hearing bootSock sent).env place with recv := none }) :
    env.recv = none ∨ (place ≠ bootSock ∧ env = round.env place) ∨
      (place = bootSock ∧ sent ≠ [] ∧
        env = { round.env place with recv := some (sent.map Packed.sent).flatten }) := by
  cases opened with
  | false =>
    left
    rw [heard]
    rfl
  | true =>
    rw [if_pos rfl, Round.hearing] at heard
    dsimp only at heard
    by_cases here : place = bootSock
    · rw [if_pos here] at heard
      cases sent with
      | nil =>
        left
        rw [heard]
        rfl
      | cons packed sent =>
        right
        right
        exact ⟨here, by simp, heard⟩
    · rw [if_neg here] at heard
      right
      left
      exact ⟨here, heard⟩

private theorem ignored_follows (mirrors : Mirrors dep net)
    (present : dep.client sock = some thread) (visited : Visited thread visit todo loop)
    {env : Env} {effect : Effect} (greeted : Greeted runtime env)
    (deaf : BootAction.hears thread.loop.bootSock (.took (.message env place) effect) = false)
    (stepped : NetEngine.step runtime thread.loop.engine (.message env place epollFd) =
      some (loop.engine, effect)) :
    Follows runtime epollFd net
      ([.took (.message env place) effect].map (DeploymentAction.client sock))
      (dep.clientDid sock count thread todo loop [.took (.message env place) effect]) := by
  obtain ⟨actions, done, rfl⟩ := NetEngine.step_message stepped
  rw [greeted.ignored] at done
  obtain ⟨same, rfl⟩ := Prod.mk.inj (Option.some.inj done)
  rw [clientDid_quiet rfl (by simp [deaf])]
  refine mirrors.idle present visited same.symm (silent_client ?_)
  intro item member event effect took
  rw [List.mem_singleton.mp member] at took
  cases took
  rfl

private theorem delivered_follows (mirrors : Mirrors dep net)
    (guarded : Guarded (Network.step runtime epollFd) Network.Admits (Network.start home) past net)
    (present : dep.client sock = some thread) (visited : Visited thread visit todo loop)
    (small : (((dep.down sock).take count).map Packed.sent).flatten.length ≤ bufSize)
    (some_ : (dep.down sock).take count ≠ []) {env : Env} {effect : Effect}
    (recv : env.recv = some (((dep.down sock).take count).map Packed.sent).flatten)
    (stepped : NetEngine.step runtime thread.loop.engine
      (.message env thread.loop.bootSock epollFd) = some (loop.engine, effect)) :
    Follows runtime epollFd net
      ([.took (.message env thread.loop.bootSock) effect].map (DeploymentAction.client sock))
      (dep.clientDid sock count thread todo loop
        [.took (.message env thread.loop.bootSock) effect]) := by
  have standing := mirrors.clients sock thread present
  have announced : thread.announced = true := by
    rw [← Bool.not_eq_false]
    intro unannounced
    obtain ⟨_, empty, _⟩ := Network.outside guarded (standing.outside unannounced).1
    rw [← mirrors.down, empty, List.take_nil] at some_
    exact some_ rfl
  have taken : net.client sock =
        some { engine := thread.loop.engine, bootSock := thread.loop.bootSock } →
      Network.step runtime epollFd net (.delivers sock count env) = some ({ net with
        client := Function.update net.client sock
          (some { engine := loop.engine, bootSock := thread.loop.bootSock })
        down := Function.update dep.down sock ((dep.down sock).drop count) }, effect) := by
    intro known
    have allowed : ¬ (((dep.down sock).take count).isEmpty ||
        decide (bufSize < (((dep.down sock).take count).map Packed.sent).flatten.length)) = true := by
      rw [Bool.or_eq_true, not_or, List.isEmpty_iff, decide_eq_true_eq, not_lt]
      exact ⟨some_, small⟩
    have turned := turn_taken (fun boot => .message env boot) known stepped
    dsimp only [Network.step]
    rw [mirrors.down, if_neg allowed, ← recv, turned]
    rfl
  have posted : [BootAction.took (.message env thread.loop.bootSock) effect].filterMap
      BootAction.sent = [] := rfl
  have after : dep.clientDid sock count thread todo loop
      [.took (.message env thread.loop.bootSock) effect] = { dep with
        client := Function.update dep.client sock
          (some { loop, todo, announced := thread.announced })
        down := Function.update dep.down sock ((dep.down sock).drop count) } := by
    rw [clientDid, posted]
    simp [BootAction.hears, recv]
  have admits : net.Admits (.delivers sock count env) := trivial
  rw [after]
  refine mirrors.turned present visited announced admits taken
    (reports_client rfl fun spot => ?_)
  simp [Network.punchesAt, punchesAt]

theorem client_follows (mirrors : Mirrors dep net)
    (guarded : Guarded (Network.step runtime epollFd) Network.Admits (Network.start home) past net)
    (present : dep.client sock = some thread) (rest : thread.todo = (pass, place) :: todo)
    (fits : Fits runtime thread round pass place)
    (taken : dep.clientVisit runtime epollFd sock round count thread ((pass, place) :: todo) =
      some (next, log)) :
    Follows runtime epollFd net (log.map (DeploymentAction.client sock)) next := by
  obtain ⟨loop, small, visiting, rfl⟩ := clientVisit_eq_some taken
  have standing := mirrors.clients sock thread present
  have visited : Visited thread (pass, place) todo loop :=
    ⟨rest, BootLoop.visit_bootSock visiting, BootLoop.visit_self visiting,
      standing.accounts.visited (hearing_foreign fits.valid) visiting, fun announced =>
        BootLoop.visit_awaits (hearing_foreign fits.foreign)
          (fun here => fits.once here announced) visiting⟩
  have turn := BootLoop.visit_turn visiting
  generalize same : loop.engine = engine at turn
  cases turn with
  | idle silent =>
    rw [clientDid_quiet]
    · refine mirrors.idle present visited same (silent_client ?_)
      intro item member event effect took
      exact absurd took ((silent item member).2 event effect)
    · exact List.filterMap_eq_nil_iff.mpr fun item member => (silent item member).1
    · rw [List.any_eq_false]
      intro item member
      cases item with
      | took event effect => exact absurd rfl ((silent _ member).2 event effect)
      | _ => simp [BootAction.hears]
  | lost peer =>
    rw [clientDid_quiet rfl rfl]
    have stepped : bootStep runtime epollFd thread.loop.engine (.lost place) =
        some (loop.engine, { actions := [.close place], calls := [.delPeer place] }) := by
      rw [same]
      rfl
    have admits : net.Admits (.misses sock place) := trivial
    exact alone_follows mirrors present visited (.misses sock place) stepped
      (fun unannounced => same.trans (standing.nobody unannounced).1) rfl (fun _ => admits) rfl
      (fun _ => rfl) (silent_client (by simp [Action.punched]))
  | announced here succeeds packs =>
    subst here
    exact announced_follows mirrors guarded present visited
      ((BootLoop.writes_turn succeeds visiting).2 rfl) same packs rfl rfl
      (silent_client (by simp))
  | @connected memory peer succeeds =>
    rw [clientDid_quiet rfl rfl]
    have stepped : bootStep runtime epollFd thread.loop.engine (.connected memory place) =
        some (loop.engine, { actions := [], calls := [] }) := by
      rw [same]
      rfl
    have owned := (standing.accounts.opened place (fits.opened peer rfl succeeds)).resolve_left peer
    refine alone_follows mirrors present visited (.reaches sock memory place) stepped ?_ rfl ?_ rfl
      (fun _ => rfl) (silent_client (by simp))
    · intro unannounced
      rw [(standing.nobody unannounced).2] at owned
      cases owned
    · intro known client found
      rw [known] at found
      cases found
      exact owned
  | @received env engine effect heard stepped =>
    subst same
    rcases heard_cases heard with nothing | ⟨elsewhere, peers⟩ | ⟨here, some_, server⟩
    · exact ignored_follows mirrors present visited (Or.inl nothing)
        (by simp [BootAction.hears, nothing]) stepped
    · exact ignored_follows mirrors present visited (peers ▸ fits.greeted elsewhere rfl)
        (by simp [BootAction.hears, elsewhere]) stepped
    · subst here
      exact delivered_follows mirrors guarded present visited small some_
        (by rw [server]) stepped

end Clients

end Deployment

end EbcNet
