import EbcNet.Boot.Tracking
import EbcNet.Deployment.Clients
import EbcNet.Server.Refinement

/-! The threads of a server and its clients, taking turns in any order: they come to a network,
and its clients are safe. -/

namespace EbcNet

open Wire (Runtime)
open NetEngine (Effect)
open Machine (Guarded StepsMeet)

namespace Deployment

/-! ### Visits of the server -/

section Server
variable {runtime : Runtime} {serverFd epollFd : Int} {dep next : Deployment}
variable {net reached : Network} {home : Node} {past : List (NetworkEvent × Effect)}
variable {round : ServerRound} {pass : ServerPass} {sock : UDTSOCKET}
variable {todo : List (ServerPass × UDTSOCKET)} {log : List ServerAction}

private theorem punchesAt_server (spot : UDTSOCKET) :
    punchesAt spot (log.map DeploymentAction.server) = [] := by
  rw [punchesAt, List.flatMap_map]
  exact List.flatMap_eq_nil_iff.mpr fun _ _ => rfl

private theorem silent_server (silent : ∀ env place effect,
      .took (.message env place) effect ∈ log → env.recv = none) :
    Silent (log.map DeploymentAction.server) := by
  refine ⟨?_, punchesAt_server⟩
  rintro spot addr ⟨env, effect, member, heard, _⟩
  obtain ⟨item, done, same⟩ := List.mem_map.mp member
  cases same
  rw [silent env spot effect done] at heard
  cases heard

/-- What the server changes. -/
private theorem Mirrors.served (mirrors : Mirrors dep net) (threads : next.client = dep.client)
    (clients : reached.client = net.client) (server : reached.server = next.server.engine)
    (up : reached.up = next.up) (down : reached.down = next.down) : Mirrors next reached := by
  refine ⟨server, up, down, ?_, ?_, ?_⟩
  · rw [threads, clients]
    exact mirrors.absent
  · rw [threads, clients]
    exact mirrors.clients
  · rw [threads]
    exact mirrors.distinct

private theorem lost_follows (mirrors : Mirrors dep net)
    (guarded : Guarded (Network.step runtime epollFd) Network.Admits (Network.start home) past net)
    {server : ServerThread} {effect : Effect}
    (stepped : NetEngine.step runtime dep.server.engine (.clientLost sock) =
      some (server.engine, effect)) :
    Follows runtime epollFd net
      ([.epollRemove sock, .close sock, .took (.lost sock) effect].map DeploymentAction.server)
      { dep with
        server
        todo
        up := Function.update dep.up sock [] } := by
  have silent : Silent ([.epollRemove sock, .close sock, .took (.lost sock) effect].map
      DeploymentAction.server) := silent_server (by simp)
  cases known : net.client sock with
  | some client =>
    have admits : net.Admits (.breaks sock) := by
      change (net.client sock).isSome = true
      rw [known]
      rfl
    have taken : Network.step runtime epollFd net (.breaks sock) = some ({ net with
        server := server.engine
        up := Function.update net.up sock [] }, effect) := by
      dsimp only [Network.step]
      rw [mirrors.server, stepped]
      rfl
    refine follows_one admits taken (mirrors.served rfl rfl rfl ?_ mirrors.down) ⟨?_, ?_⟩
    · rw [← mirrors.up]
    · intro spot addr
      refine iff_of_false ?_ (silent.arrivals spot addr)
      rintro ⟨env, member, _⟩
      cases List.mem_singleton.mp member
    · intro spot
      rw [punchesAt_server]
      rfl
  | none =>
    obtain ⟨empty, _, unowned⟩ := Network.outside guarded known
    have kept : dep.server.engine.delClientNode sock = dep.server.engine := by
      rw [← mirrors.server]
      unfold NetEngine.delClientNode
      have absent : net.server.sockIdPair[sock]? = none := unowned
      rw [absent]
    have same : dep.server.engine.delClientNode sock = server.engine :=
      (Prod.mk.inj (Option.some.inj stepped)).1
    refine follows_nothing (mirrors.served rfl rfl ?_ ?_ mirrors.down) silent
    · rw [← same, kept]
      exact mirrors.server
    · rw [← mirrors.up, ← empty, Function.update_eq_self]

private theorem arrival_follows (mirrors : Mirrors dep net)
    (few : dep.server.engine.clientNode.size ≤ 150) {server : ServerThread} {effect : Effect}
    {env : Env} (recv : env.recv = (dep.up sock).head?.map Packed.sent)
    (stepped : NetEngine.step runtime dep.server.engine
      (.message env sock ServerLoop.defaultEpollFd) = some (server.engine, effect)) :
    Follows runtime epollFd net ([.took (.message env sock) effect].map DeploymentAction.server)
      { dep with
        server
        todo
        up := Function.update dep.up sock (dep.up sock).tail
        down := fun place => dep.down place ++ sentTo place effect.actions } := by
  cases waits : dep.up sock with
  | nil =>
    rw [waits] at recv
    have silent : Silent ([.took (.message env sock) effect].map DeploymentAction.server) :=
      silent_server fun other place taken member => by
        cases List.mem_singleton.mp member
        exact recv
    have ignored := @Greeted.ignored runtime ServerLoop.defaultEpollFd dep.server.engine env sock
      (Or.inl recv)
    obtain ⟨actions, done, rfl⟩ := NetEngine.step_message stepped
    rw [ignored] at done
    obtain ⟨same, rfl⟩ := Prod.mk.inj (Option.some.inj done)
    refine follows_nothing (mirrors.served rfl rfl ?_ ?_ ?_) silent
    · rw [← same]
      exact mirrors.server
    · rw [List.tail_nil, ← waits, Function.update_eq_self]
      exact mirrors.up
    · funext place
      rw [mirrors.down]
      exact (List.append_nil _).symm
  | cons packed rest =>
    rw [waits, List.head?_cons, Option.map_some] at recv
    have admits : net.Admits (.arrives sock env) := by
      change net.server.clientNode.size ≤ 150
      rwa [mirrors.server]
    have taken : Network.step runtime epollFd net (.arrives sock env) = some ({ net with
        server := server.engine
        up := Function.update net.up sock rest
        down := fun place => net.down place ++ sentTo place effect.actions }, effect) := by
      dsimp only [Network.step]
      rw [mirrors.up, waits]
      dsimp only
      rw [← recv, mirrors.server, stepped]
      rfl
    refine follows_one admits taken (mirrors.served rfl rfl rfl ?_ ?_) ⟨?_, ?_⟩
    · rw [← mirrors.up]
      rfl
    · rw [← mirrors.down]
    · intro spot addr
      constructor
      · rintro ⟨other, member, observed⟩
        cases List.mem_singleton.mp member
        exact ⟨env, effect, List.mem_singleton.mpr rfl, by rw [recv]; rfl, observed⟩
      · rintro ⟨other, _, member, _, observed⟩
        cases List.mem_singleton.mp member
        exact ⟨env, List.mem_singleton.mpr rfl, observed⟩
    · intro spot
      rw [punchesAt_server]
      rfl

private theorem server_follows (mirrors : Mirrors dep net)
    (guarded : Guarded (Network.step runtime epollFd) Network.Admits (Network.start home) past net)
    (few : dep.server.engine.clientNode.size ≤ 150)
    (taken : dep.serverVisit runtime serverFd round ((pass, sock) :: todo) = some (next, log)) :
    Follows runtime epollFd net (log.map DeploymentAction.server) next := by
  obtain ⟨⟨server, actions⟩, visiting, same⟩ := Option.map_eq_some_iff.mp taken
  cases same
  have outcome := ServerThread.visit_outcome visiting
  generalize after : server.engine = engine at outcome
  have nothing : ∀ place, dep.down place ++ [] = dep.down place := fun place => List.append_nil _
  cases outcome with
  | idle =>
    refine follows_nothing (mirrors.served rfl rfl ?_ mirrors.up ?_) (silent_server (by simp))
    · rw [after]
      exact mirrors.server
    · rw [mirrors.down]
      funext place
      exact (nothing place).symm
  | accepted cli =>
    refine follows_nothing (mirrors.served rfl rfl ?_ mirrors.up ?_) (silent_server (by simp))
    · rw [after]
      exact mirrors.server
    · rw [mirrors.down]
      funext place
      exact (nothing place).symm
  | @lost _ effect stepped =>
    subst after
    have followed := @lost_follows runtime epollFd dep net home past sock todo mirrors guarded _ _ stepped
    have silent : ∀ place, sentTo place effect.actions = [] := by
      intro place
      have same := (Prod.mk.inj (Option.some.inj stepped)).2
      rw [← same]
      rfl
    simp only [List.foldl_cons, List.foldl_nil, ServerAction.leaves, List.flatMap_cons,
      List.flatMap_nil, ServerAction.sentTo, silent, List.append_nil]
    exact followed
  | received stepped =>
    subst after
    have followed := @arrival_follows runtime epollFd dep net sock todo mirrors few _ _ _ rfl stepped
    simp only [List.foldl_cons, List.foldl_nil, ServerAction.leaves, List.flatMap_cons,
      List.flatMap_nil, ServerAction.sentTo, List.append_nil]
    exact followed

end Server

/-! ### Runs -/

section Runs
variable {runtime : Runtime} {serverFd epollFd : Int} {dep next : Deployment} {net : Network}
variable {home : Node} {srv : UDTSOCKET} {binds listens : Bool} {log : List DeploymentAction}
variable {past : List (NetworkEvent × Effect)} {event : DeploymentEvent} {sock : UDTSOCKET}
variable {thread : ClientThread} {trace : List (DeploymentEvent × List DeploymentAction)}

theorem mirrors_start : Mirrors (start home srv binds listens) (Network.start home) := by
  refine ⟨rfl, rfl, rfl, fun _ _ => rfl, ?_, ?_⟩
  · intro sock thread present
    cases present
  · intro sock place first second present
    cases present

private theorem starts_follows (mirrors : Mirrors dep net) {self : Node}
    {bootSock : UDTSOCKET} {connects : Bool} (absent : dep.client sock = none)
    (allows : dep.Allows runtime (.starts self bootSock sock connects)) :
    Follows runtime epollFd net
      ((BootLoop.startLog bootSock connects).map (DeploymentAction.client sock)) { dep with
        client := Function.update dep.client sock
          (some { loop := BootLoop.start self bootSock connects }) } := by
  have unknown := mirrors.absent sock absent
  refine follows_nothing ⟨mirrors.server, mirrors.up, mirrors.down, ?_, ?_, ?_⟩
    (silent_client ?_)
  · intro place missing
    dsimp only at missing
    by_cases here : place = sock
    · rw [here]
      exact unknown
    · rw [Function.update_of_ne here] at missing
      exact mirrors.absent place missing
  · intro place thread present
    dsimp only at present
    rw [InverseIndex.update_eq_some] at present
    rcases present with ⟨rfl, now⟩ | ⟨_, old⟩
    · cases now
      exact ⟨BootLoop.accounts_start .., List.nodup_nil, nofun, fun _ => ⟨unknown, rfl⟩⟩
    · exact mirrors.clients place thread old
  · intro spot place first second firstKnown secondKnown same
    dsimp only at firstKnown secondKnown
    rw [InverseIndex.update_eq_some] at firstKnown secondKnown
    rcases firstKnown with ⟨firstHere, now⟩ | ⟨_, firstOld⟩ <;>
      rcases secondKnown with ⟨secondHere, nowAgain⟩ | ⟨_, secondOld⟩
    · rw [firstHere, secondHere]
    · cases now
      exact absurd same.symm (allows place second secondOld)
    · cases nowAgain
      exact absurd same (allows spot first firstOld)
    · exact mirrors.distinct spot place first second firstOld secondOld same
  · intro item member event effect took
    subst took
    unfold BootLoop.startLog at member
    split at member <;> simp at member

private theorem wakes_follows (mirrors : Mirrors dep net) {round : Round}
    (present : dep.client sock = some thread)
    (writable : thread.loop.Writable round) :
    Follows runtime epollFd net [] { dep with
      client := Function.update dep.client sock (some { thread with todo := round.visits }) } := by
  obtain ⟨accounts, _, inside, outside⟩ := mirrors.clients sock thread present
  have standing : Standing { thread with todo := round.visits } (net.client sock) := by
    refine ⟨accounts, round.visits_nodup, fun announced => ?_, outside⟩
    obtain ⟨known, _, idle⟩ := inside announced
    exact ⟨known, fun member => idle (writable _ (Round.mem_visits.mp member)), idle⟩
  have own : ({ thread with todo := round.visits } : ClientThread).loop.engine.self =
    thread.loop.engine.self := rfl
  exact follows_nothing (mirrors.updated present own standing rfl rfl rfl
    (Function.update_eq_self ..).symm mirrors.up mirrors.down) silent_nil

/-- A step of the threads comes to one of the network, or to none. -/
private theorem step_follows (mirrors : Mirrors dep net)
    (guarded : Guarded (Network.step runtime epollFd) Network.Admits (Network.start home) past net)
    (allows : dep.Allows runtime event)
    (taken : step runtime serverFd epollFd dep event = some (next, log)) :
    Follows runtime epollFd net log next := by
  cases event with
  | starts self bootSock sock connects =>
    dsimp only [step] at taken
    split at taken
    · cases taken
    · cases taken
      exact starts_follows mirrors ‹_› allows
  | serverWakes round =>
    dsimp only [step] at taken
    split at taken
    · cases taken
    · split at taken
      · cases taken
        exact follows_nothing (mirrors.served rfl rfl mirrors.server mirrors.up mirrors.down)
          silent_nil
      · cases taken
        exact follows_nothing (mirrors.served rfl rfl mirrors.server mirrors.up mirrors.down)
          silent_nil
  | serverVisits round =>
    obtain ⟨⟨reached, actions⟩, visited, same⟩ := Option.map_eq_some_iff.mp taken
    cases same
    cases todo : dep.todo with
    | nil =>
      rw [todo] at visited
      cases visited
    | cons visit todo' =>
      rw [todo] at visited
      exact server_follows mirrors guarded allows visited
  | clientWakes sock round =>
    obtain ⟨thread, present, woken⟩ := Option.bind_eq_some_iff.mp taken
    split at woken
    · cases woken
    · cases woken
      exact wakes_follows mirrors present (allows thread present)
  | clientVisits sock round count =>
    obtain ⟨thread, present, visiting⟩ := Option.bind_eq_some_iff.mp taken
    obtain ⟨⟨reached, actions⟩, visited, same⟩ := Option.map_eq_some_iff.mp visiting
    cases same
    cases todo : thread.todo with
    | nil =>
      rw [todo] at visited
      cases visited
    | cons visit todo' =>
      obtain ⟨pass, place⟩ := visit
      rw [todo] at visited
      exact client_follows mirrors guarded present todo
        (allows thread pass place todo' present todo) visited

private theorem follows_of_run
    (guarded : Guarded (step runtime serverFd epollFd) (Allows runtime)
      (start home srv binds listens) trace dep) :
    Follows runtime epollFd (Network.start home) (trace.flatMap Prod.snd) dep := by
  refine guarded.simulate Mirrors Reports mirrors_start silent_nil.reports Reports.append ?_
  intro dep event next log past net before mirrors allows taken
  exact step_follows mirrors before allows taken

end Runs

/-! ### Two clients to evaluate the model with -/

section Two
open Sample

/-- A connection of the socket that the server listens on, which is 3. -/
def accepting (cli : UDTSOCKET) : ServerRound :=
  ServerThread.quietRound noFds (oneFd 3) .CONNECTED (some cli)

def reading (sock : UDTSOCKET) : ServerRound :=
  ServerThread.quietRound noFds (oneFd sock) .CONNECTED none

/-- Two clients are accepted and send their `GET_NODE`s, and the second one gets its `REP`. -/
def script : List DeploymentEvent :=
  [.serverWakes (accepting 1), .serverVisits (accepting 1),
    .serverWakes (accepting 2), .serverVisits (accepting 2),
    .clientWakes 1 connectedRound, .clientVisits 1 connectedRound 0,
    .clientWakes 2 connectedRound, .clientVisits 2 connectedRound 0,
    .serverWakes (reading 1), .serverVisits (reading 1),
    .serverWakes (reading 2), .serverVisits (reading 2),
    .clientWakes 2 listedRound, .clientVisits 2 listedRound 1]

/-- What a step is allowed on, where that can be computed: visits to `boot_sock` only. -/
def checks (dep : Deployment) : DeploymentEvent → Bool
  | .starts _ _ _ _ => false
  | .serverWakes _ => true
  | .serverVisits _ => dep.server.engine.clientNode.size ≤ 150
  | .clientWakes sock round => (dep.client sock).all fun thread =>
      (round.fds .writefds).socks.all fun place =>
        (thread.loop.udt.watched place).any EpollMask.output
  | .clientVisits sock round _ => (dep.client sock).all fun thread =>
      thread.loop.bootSock = 5 && thread.todo.head?.all fun visited => visited.2 = 5 &&
        !(thread.loop.examine (round.status visited.1 visited.2) visited.2).failed

def checkedStep : Machine.Step Deployment DeploymentEvent (List DeploymentAction) := fun dep event =>
  if checks dep event then step Wire.Reference.runtime 1 1 dep event else none

/-- A client that starts, whose server has the socket for it. -/
def starting (id : NodeId) (sock : UDTSOCKET) : DeploymentEvent :=
  .starts (Node.ofId memory id) 5 sock true

/-- After the first of them has started. -/
def oneClient : Deployment :=
  { start (Node.new memory) 3 true true with
    client := Function.update (fun _ => none) 1
      (some { loop := BootLoop.start (Node.ofId memory (nodeId 7)) 5 true }) }

def twoClients : Deployment :=
  { oneClient with
    client := Function.update oneClient.client 2
      (some { loop := BootLoop.start (Node.ofId memory (nodeId 8)) 5 true }) }

private theorem allows_of_checks {dep : Deployment} {event : DeploymentEvent}
    (ok : checks dep event = true)
    (foreign : ∀ sock round count, event = .clientVisits sock round count →
      round.Foreign 5 ∧ round.Foreign INVALID_SOCK) :
    dep.Allows Wire.Reference.runtime event := by
  cases event with
  | starts => cases ok
  | serverWakes => trivial
  | serverVisits =>
    change dep.server.engine.clientNode.size ≤ 150
    exact of_decide_eq_true ok
  | clientWakes sock round =>
    intro thread present place member
    dsimp only [checks] at ok
    rw [present, Option.all_some, List.all_eq_true] at ok
    exact (Option.any_eq_true _ _).mp (ok place member)
  | clientVisits sock round count =>
    intro thread pass place todo present rest
    dsimp only [checks] at ok
    rw [present, Option.all_some, rest, List.head?_cons, Option.all_some, Bool.and_eq_true,
      Bool.and_eq_true, decide_eq_true_eq, decide_eq_true_eq, Bool.not_eq_true'] at ok
    obtain ⟨boot, here, succeeds⟩ := ok
    obtain ⟨foreign, valid⟩ := foreign sock round count rfl
    refine ⟨boot ▸ foreign, valid, ?_, ?_, ?_⟩
    · intro _ _ _ failed
      rw [succeeds] at failed
      cases failed
    · intro elsewhere
      exact absurd (here.trans boot.symm) elsewhere
    · intro elsewhere
      exact absurd (here.trans boot.symm) elsewhere

private theorem scripted {start dep final : Deployment} {log : List DeploymentAction}
    {events : List DeploymentEvent} {past : List (DeploymentEvent × List DeploymentAction)}
    (swept : Machine.sweep checkedStep (fun _ => false) events dep = some (final, log))
    (foreign : ∀ sock round count, .clientVisits sock round count ∈ events →
      round.Foreign 5 ∧ round.Foreign INVALID_SOCK)
    (before : Guarded (step Wire.Reference.runtime 1 1) (Allows Wire.Reference.runtime) start past
      dep) :
    ∃ trace, Guarded (step Wire.Reference.runtime 1 1) (Allows Wire.Reference.runtime) start trace
      final ∧ trace.map Prod.fst = past.map Prod.fst ++ events := by
  induction events generalizing dep past log with
  | nil =>
    obtain ⟨rfl, _⟩ := Machine.sweep_nil.mp swept
    exact ⟨past, before, (List.append_nil _).symm⟩
  | cons event events ih =>
    rcases Machine.sweep_cons swept with ⟨stopped, _⟩ | ⟨_, next, first, rest, taken, going, _⟩
    · cases stopped
    · unfold checkedStep at taken
      split at taken
      · have allows := allows_of_checks ‹_› fun sock round count same =>
          foreign sock round count (same ▸ List.mem_cons_self)
        obtain ⟨trace, guarded, told⟩ := ih going (fun sock round count member =>
          foreign sock round count (List.mem_cons_of_mem _ member)) (before.step allows taken)
        refine ⟨trace, guarded, told.trans ?_⟩
        rw [List.map_append, List.append_assoc]
        rfl
      · cases taken

/-- The clients of the script, before it. -/
private theorem starting_two :
    ∃ trace, Guarded (step Wire.Reference.runtime 1 1) (Allows Wire.Reference.runtime)
      (start (Node.new memory) 3 true true) trace twoClients ∧
      trace.map Prod.fst = [starting (nodeId 7) 1, starting (nodeId 8) 2] := by
  have first : step Wire.Reference.runtime 1 1 (start (Node.new memory) 3 true true)
    (starting (nodeId 7) 1) = some (oneClient, _) := rfl
  have second : step Wire.Reference.runtime 1 1 oneClient (starting (nodeId 8) 2) =
    some (twoClients, _) := rfl
  have firstAllowed : (start (Node.new memory) 3 true true).Allows Wire.Reference.runtime
    (starting (nodeId 7) 1) := by
    intro place thread present
    cases present
  have secondAllowed : oneClient.Allows Wire.Reference.runtime (starting (nodeId 8) 2) := by
    intro place thread present
    dsimp only [oneClient] at present
    rw [InverseIndex.update_eq_some] at present
    rcases present with ⟨_, now⟩ | ⟨_, absent⟩
    · cases now
      decide
    · cases absent
  have reached := (Guarded.nil.step firstAllowed first).step secondAllowed second
  exact ⟨_, reached, rfl⟩

/-- The script can be followed, and then the second client knows the first and has a socket
for it. -/
private theorem script_swept :
    ((Machine.sweep checkedStep (fun _ => false) script twoClients).map fun final =>
      (final.1.client 2).map fun thread =>
        ((thread.loop.engine.peers (nodeId 7)).isSome, thread.loop.udt.opened 2,
          thread.loop.bootSock)) = some (some (true, true, 5)) := by
  decide +kernel

private theorem script_foreign {sock place : UDTSOCKET} {round : Round} {count : Nat}
    (member : .clientVisits sock round count ∈ script) (other : place ≠ 2 ∧ place ≠ 1) :
    round.Foreign place := by
  simp only [script, List.mem_cons, List.not_mem_nil, or_false, reduceCtorEq, false_or,
    DeploymentEvent.clientVisits.injEq] at member
  rcases member with ⟨_, rfl, _⟩ | ⟨_, rfl, _⟩ | ⟨_, rfl, _⟩
  · exact foreign_connectedRound place
  · exact foreign_connectedRound place
  · exact foreign_listing (fun _ => rfl) other

/-- The threads of two clients and their server, until the second client knows the first. -/
private theorem two_threads :
    ∃ trace dep thread, Guarded (step Wire.Reference.runtime 1 1) (Allows Wire.Reference.runtime)
      (start (Node.new memory) 3 true true) trace dep ∧
      trace.map Prod.fst = starting (nodeId 7) 1 :: starting (nodeId 8) 2 :: script ∧
      dep.client 2 = some thread ∧ (thread.loop.engine.peers (nodeId 7)).isSome = true ∧
      thread.loop.udt.opened 2 = true ∧ thread.loop.bootSock = 5 := by
  obtain ⟨past, before, events⟩ := starting_two
  obtain ⟨⟨final, log⟩, swept, knows⟩ := Option.map_eq_some_iff.mp script_swept
  obtain ⟨thread, present, found⟩ := Option.map_eq_some_iff.mp knows
  obtain ⟨known, found⟩ := Prod.mk.inj found
  obtain ⟨opened, boot⟩ := Prod.mk.inj found
  obtain ⟨trace, guarded, told⟩ := scripted swept (fun _ _ _ member =>
    ⟨script_foreign member (by decide), script_foreign member (by decide)⟩) before
  exact ⟨trace, final, thread, guarded, by rw [told, events]; rfl, present, known, opened, boot⟩

end Two

/-! ### What the threads come to -/

section Results
variable {runtime : Runtime} {serverFd epollFd : Int} {dep : Deployment} {home : Node}
variable {srv : UDTSOCKET} {binds listens : Bool} {trace : List (DeploymentEvent × List DeploymentAction)}

/-- Whatever the order in which the threads take turns: they come to a run of the network
with the same server, the same messages, and the clients that have sent their `GET_NODE`. -/
theorem comes_to_network (run : Machine.Run (step runtime serverFd epollFd) (start home srv binds listens)
      trace dep)
    (meets : StepsMeet (step runtime serverFd epollFd) (Allows runtime)
      (start home srv binds listens) trace) :
    ∃ events net, Guarded (Network.step runtime epollFd) Network.Admits (Network.start home) events
      net ∧ Mirrors dep net ∧ Reports (trace.flatMap Prod.snd) events :=
  follows_of_run ⟨run, meets⟩

end Results

open Sample in
theorem comes_to_network_two :
    ∃ (trace : List (DeploymentEvent × List DeploymentAction)) (dep : Deployment),
      trace.map Prod.fst = starting (nodeId 7) 1 :: starting (nodeId 8) 2 :: script ∧
      ∃ events net, Guarded (Network.step Wire.Reference.runtime 1) Network.Admits
          (Network.start (Node.new memory)) events net ∧
        Mirrors dep net ∧ Reports (trace.flatMap Prod.snd) events := by
  obtain ⟨trace, dep, _, guarded, events, _⟩ := two_threads
  exact ⟨trace, dep, events, comes_to_network guarded.run guarded.meets⟩

section Results
variable {runtime : Runtime} {serverFd epollFd : Int} {dep : Deployment} {home : Node}
variable {srv : UDTSOCKET} {binds listens : Bool} {trace : List (DeploymentEvent × List DeploymentAction)}
variable {sock : UDTSOCKET} {thread : ClientThread} {log : List DeploymentAction}

/-- A client knows only others that have sent their `GET_NODE`, each at the address that the
server has seen it at, and has punched towards each of them once at most. -/
structure Safe (log : List DeploymentAction) (dep : Deployment) (sock : UDTSOCKET)
    (thread : ClientThread) : Prop where
  peers : ∀ id entry, thread.loop.engine.peers id = some entry → entry.id = id ∧
    ∃ place other addr, place ≠ sock ∧ dep.client place = some other ∧ other.announced = true ∧
      other.loop.engine.self.id = id ∧ Arrived log place addr ∧
      entry.addr = ⟨.AF_INET, addr.sinAddr, addr.sinPort⟩
  punches : ∃ places : List UDTSOCKET, places.Nodup ∧ sock ∉ places ∧
    List.Forall₂ (Arrived log) places (punchesAt sock log)

private theorem Standing.safe {client : Option Client} (standing : Standing thread client)
    (unannounced : thread.announced = false) (silent : punchesAt sock log = []) :
    Safe log dep sock thread := by
  obtain ⟨_, new⟩ := standing.outside unannounced
  refine ⟨fun id entry present => ?_, [], List.nodup_nil, List.not_mem_nil, ?_⟩
  · rw [new] at present
    simp [NetEngine.peers] at present
  · rw [silent]
    exact .nil

/-- Whatever the order in which the threads take turns: every client is safe. -/
theorem clients_safe
    (run : Machine.Run (step runtime serverFd epollFd) (start home srv binds listens) trace dep)
    (meets : StepsMeet (step runtime serverFd epollFd) (Allows runtime)
      (start home srv binds listens) trace) (present : dep.client sock = some thread) :
    Safe (trace.flatMap Prod.snd) dep sock thread := by
  obtain ⟨events, net, guarded, mirrors, reports⟩ := follows_of_run ⟨run, meets⟩
  obtain ⟨history, linked, ledger⟩ := Network.known_of_run guarded.run guarded.meets
  have standing := mirrors.clients sock thread present
  cases announced : thread.announced with
  | false =>
    obtain ⟨_, _, silent, _⟩ := ledger sock
    refine standing.safe announced ?_
    rw [← reports.punches]
    exact (silent (standing.outside announced).1).2
  | true =>
    obtain ⟨peers, places, nodup, absent, punches⟩ :=
      linked.safe ledger (standing.inside announced).1
    refine ⟨fun id entry stored => ?_, places, nodup, absent, ?_⟩
    · obtain ⟨own, place, other, addr, elsewhere, known, named, seen, addressed⟩ :=
        peers id entry stored
      obtain ⟨peer, there, announced, engine⟩ := mirrors.origin known
      exact ⟨own, place, peer, addr, elsewhere, there, announced, engine ▸ named,
        (reports.seen place addr).mp seen, addressed⟩
    · rw [← reports.punches]
      exact punches.imp fun place addr => (reports.seen place addr).mp

end Results

open Sample in
/-- The second client is told of the first one. -/
theorem clients_safe_two :
    ∃ (trace : List (DeploymentEvent × List DeploymentAction)) (dep : Deployment)
      (thread : ClientThread),
      trace.map Prod.fst = starting (nodeId 7) 1 :: starting (nodeId 8) 2 :: script ∧
      dep.client 2 = some thread ∧ (thread.loop.engine.peers (nodeId 7)).isSome = true ∧
      Safe (trace.flatMap Prod.snd) dep 2 thread := by
  obtain ⟨trace, dep, thread, guarded, events, present, knows, _⟩ := two_threads
  exact ⟨trace, dep, thread, events, present, knows,
    clients_safe guarded.run guarded.meets present⟩

section Results
variable {runtime : Runtime} {serverFd epollFd : Int} {dep : Deployment} {home : Node}
variable {srv : UDTSOCKET} {binds listens : Bool} {trace : List (DeploymentEvent × List DeploymentAction)}
variable {sock place : UDTSOCKET} {thread : ClientThread}

/-- Whatever the order in which the threads take turns: each socket that a client has open is
that to the server, or the only one that is recorded for a peer that it knows. -/
theorem open_sockets
    (run : Machine.Run (step runtime serverFd epollFd) (start home srv binds listens) trace dep)
    (meets : StepsMeet (step runtime serverFd epollFd) (Allows runtime)
      (start home srv binds listens) trace) (present : dep.client sock = some thread)
    (opened : thread.loop.udt.opened place = true) :
    place = thread.loop.bootSock ∨ ∃ id, thread.loop.engine.owner place = some id ∧
      (thread.loop.engine.peers id).isSome = true ∧
      ∀ other, thread.loop.engine.owner other = some id → other = place := by
  obtain ⟨events, net, guarded, mirrors, _⟩ := follows_of_run ⟨run, meets⟩
  have standing := mirrors.clients sock thread present
  refine (standing.accounts.opened place opened).imp_right fun owned => ?_
  obtain ⟨id, recorded⟩ := Option.isSome_iff_exists.mp owned
  cases announced : thread.announced with
  | false =>
    obtain ⟨_, new⟩ := standing.outside announced
    rw [new] at recorded
    simp [NetEngine.owner] at recorded
  | true =>
    obtain ⟨told, known⟩ :=
      Network.recorded_of_run guarded.run guarded.meets (standing.inside announced).1
    exact ⟨id, recorded, known.backed place id recorded, fun other same =>
      known.once other place id same recorded⟩

end Results

open Sample in
/-- The second client punches towards the first one. -/
theorem open_sockets_two :
    ∃ (trace : List (DeploymentEvent × List DeploymentAction)) (dep : Deployment)
      (thread : ClientThread),
      trace.map Prod.fst = starting (nodeId 7) 1 :: starting (nodeId 8) 2 :: script ∧
      dep.client 2 = some thread ∧ thread.loop.udt.opened 2 = true ∧
      ∃ id, thread.loop.engine.owner 2 = some id ∧ (thread.loop.engine.peers id).isSome = true := by
  obtain ⟨trace, dep, thread, guarded, events, present, _, opened, boot⟩ := two_threads
  have recorded := open_sockets guarded.run guarded.meets present opened
  rw [boot] at recorded
  obtain ⟨id, owned, known, _⟩ := recorded.resolve_left (by decide)
  exact ⟨trace, dep, thread, events, present, opened, id, owned, known⟩

end Deployment

end EbcNet
