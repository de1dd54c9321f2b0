import EbcNet.Engine.Punches
import EbcNet.Engine.Sends
import EbcNet.Registry

/-! The boot loop of a client: introductions, and the fate of the sockets that punch
towards a peer. -/

namespace EbcNet

open Wire (Runtime EbcNode)
open Machine (StepsMeet)

namespace NetEngine

/-- What the boot loop takes up: a message, a connect that succeeded, and a socket of a
peer that failed or broke, which it closes. -/
inductive BootEvent where
  | message (env : Env) (sock : UDTSOCKET)
  | connected (memory : Memory) (sock : UDTSOCKET)
  | lost (sock : UDTSOCKET)

def bootStep (runtime : Runtime) (epollFd : Int) : Machine.Step NetEngine BootEvent Effect
  | engine, .message env sock => step runtime engine (.message env sock epollFd)
  | engine, .connected memory sock =>
    some (engine.peerConnected memory sock, { actions := [], calls := [] })
  | engine, .lost sock => step runtime engine (.peerLost sock)

/-- `startPunch` returned the socket for an introduction of the id, and nothing has
closed it since. -/
def Punched (trace : List (BootEvent × Effect)) (sock : UDTSOCKET) (id : NodeId) : Prop :=
  ∃ past event effect future, trace = past ++ (event, effect) :: future ∧
    (∃ memory str ip portNat, .addPeer memory str ip portNat sock ∈ effect.calls ∧
      string2NodeId memory str = id) ∧
    ∀ other later, (other, later) ∈ (event, effect) :: future → .close sock ∉ later.actions

/-- Every peer stands under its own id, at an open socket that was punched for it and is
recorded for it. -/
def Integrity (trace : List (BootEvent × Effect)) (engine : NetEngine) : Prop :=
  ∀ id node, engine.peers id = some node →
    node.id = id ∧ Punched trace node.sock id ∧ engine.owner node.sock = some id

/-- `UDT::socket` returns a socket that is not open. -/
def FreshSockets (trace : List (BootEvent × Effect)) : Prop :=
  ∀ past env sock effect future, trace = past ++ (.message env sock, effect) :: future →
    ∀ turn made, (env.punch turn).made = some made →
      (∀ id, ¬ Punched past made id) ∧
        ∀ other, other ≠ turn → (env.punch other).made ≠ some made

/-- A connect-success finds the peer that it is about. -/
def FindsPeer (engine : NetEngine) : BootEvent → Prop
  | .connected _ sock => (engine.peers ((engine.owner sock).getD .zero)).isSome
  | _ => True

/-! ### One step -/

section Step
variable {runtime : Runtime} {epollFd : Int} {engine next : NetEngine} {env : Env}
variable {past : List (BootEvent × Effect)} {sock : UDTSOCKET} {actions : List Action}

private theorem startPunch_close {outcome : PunchOutcome} {ip : UInt32} {port : UInt16}
    (closed : .close sock ∈ (startPunch outcome epollFd ip port).2) :
    outcome.made = some sock ∧ outcome ≠ .connects sock := by
  cases outcome with
  | socketFails => simp [startPunch] at closed
  | bindFails made => simp_all [startPunch, PunchOutcome.made]
  | connectFails made => simp_all [startPunch, PunchOutcome.made]
  | connects made => simp [startPunch] at closed

private theorem introduce_close {turn : Nat} {node : EbcNode}
    (closed : .close sock ∈ (introduce env epollFd engine turn node).2) :
    ∃ turn, (env.punch turn).made = some sock ∧ env.punch turn ≠ .connects sock := by
  rw [introduce_actions] at closed
  exact ⟨turn, startPunch_close closed⟩

theorem introduceAll_close {turn : Nat} {nodes : List EbcNode}
    (closed : .close sock ∈ (introduceAll env epollFd engine turn nodes).2) :
    ∃ turn, (env.punch turn).made = some sock ∧ env.punch turn ≠ .connects sock := by
  induction nodes generalizing engine turn with
  | nil => simp [introduceAll] at closed
  | cons node nodes ih =>
    rcases List.mem_append.mp closed with now | later
    · exact introduce_close now
    · exact ih later

/-- While a message is handled, a peer stands at a socket that was open before, or at
one that an earlier turn has returned for it. -/
private def Stage (past : List (BootEvent × Effect)) (env : Env) (calls : List Call) (turn : Nat)
    (engine : NetEngine) : Prop :=
  ∀ id node, engine.peers id = some node →
    node.id = id ∧ engine.owner node.sock = some id ∧
      (Punched past node.sock id ∨
        (∃ earlier < turn, env.punch earlier = .connects node.sock) ∧
          ∃ memory str ip portNat, .addPeer memory str ip portNat node.sock ∈ calls ∧
            string2NodeId memory str = id)

private theorem Stage.later {calls : List Call} {turn : Nat}
    (stage : Stage past env calls turn engine) : Stage past env calls (turn + 1) engine := by
  intro id node present
  obtain ⟨own, recorded, origin⟩ := stage id node present
  refine ⟨own, recorded, origin.imp_right ?_⟩
  rintro ⟨⟨earlier, before, connected⟩, introduced⟩
  exact ⟨⟨earlier, by omega, connected⟩, introduced⟩

private theorem Stage.introductions {calls : List Call}
    (fresh : ∀ turn made, (env.punch turn).made = some made →
      (∀ id, ¬ Punched past made id) ∧
        ∀ other, other ≠ turn → (env.punch other).made ≠ some made)
    {turn : Nat} {nodes : List EbcNode} (stage : Stage past env calls turn engine)
    (within : ∀ made ∈ introductions env turn nodes, made ∈ calls) :
    ∃ final, Stage past env calls final ((introductions env turn nodes).foldl call engine) := by
  induction nodes generalizing engine turn with
  | nil => exact ⟨turn, stage⟩
  | cons node nodes ih =>
    simp only [NetEngine.introductions, List.foldl_append] at within ⊢
    by_cases invalid : (startPunch (env.punch turn) 0 node.ip 0).1 = INVALID_SOCK
    · simp only [invalid, if_true, List.nil_append, List.foldl_nil] at within ⊢
      exact ih stage.later within
    · simp only [invalid, if_false, List.foldl_cons, List.foldl_nil] at within ⊢
      refine ih ?_ fun made member => within made (List.mem_append_right _ member)
      have connects := (startPunch_valid invalid).mp rfl
      generalize (startPunch (env.punch turn) 0 node.ip 0).1 = sock at connects within
      have isMade : (env.punch turn).made = some sock := by rw [connects]; rfl
      have member := within _ (List.mem_append_left _ (List.mem_singleton_self _))
      -- No peer stands at the new socket yet.
      have elsewhere : ∀ id entry, engine.peers id = some entry → entry.sock ≠ sock := by
        intro id entry present same
        rcases (stage id entry present).2.2 with open_ | ⟨⟨earlier, before, connected⟩, _⟩
        · exact (fresh turn sock isMade).1 id (same ▸ open_)
        · apply (fresh turn sock isMade).2 earlier (by omega)
          rw [connected, same]
          rfl
      intro id entry present
      rw [NetEngine.call, peers_addPeerNode, InverseIndex.store_eq_some] at present
      rw [NetEngine.call, owner_addPeerNode]
      rcases present with old | ⟨rfl, _, rfl⟩
      · obtain ⟨own, recorded, origin⟩ := stage.later id entry old
        refine ⟨own, ?_, origin⟩
        rw [Function.update_of_ne (elsewhere id entry old)]
        exact recorded
      · refine ⟨rfl, Function.update_self .., Or.inr ⟨⟨turn, by omega, connects⟩, ?_⟩⟩
        exact ⟨env.memory, node.id, node.ip, node.portNat, member, rfl⟩

private theorem Integrity.stage (integrity : Integrity past engine) (calls : List Call) :
    Stage past env calls 0 engine := by
  intro id node present
  obtain ⟨own, open_, recorded⟩ := integrity id node present
  exact ⟨own, recorded, Or.inl open_⟩

/-- A message at a client only introduces nodes, and closes only sockets it made. -/
theorem client_message (client : engine.isServer = false)
    (done : engine.handleMsg runtime env sock epollFd = some (next, actions)) :
    ∃ nodes, engine.calls runtime env sock = introductions env 0 nodes ∧
      ∀ closed, .close closed ∈ actions →
        ∃ turn, (env.punch turn).made = some closed ∧ env.punch turn ≠ .connects closed := by
  cases handleMsg_handled done with
  | ignored nothing => exact ⟨[], nothing, by simp⟩
  | registered _ _ server => simp [client] at server
  | answered _ _ _ told answered =>
    refine ⟨[], told, ?_⟩
    intro closed member
    obtain ⟨packed, _, rfl⟩ := Option.map_eq_some_iff.mp answered
    split at member <;> simp at member
  | introduced _ _ _ told => exact ⟨_, told, fun closed member => introduceAll_close member⟩
  | punched _ _ _ told => exact ⟨_, told, fun closed member => introduce_close member⟩

/-- What a step makes of the sockets that are punched: it closes some, and introduces others. -/
theorem punched_snoc {id : NodeId} {event : BootEvent} {effect : Effect} :
    Punched (past ++ [(event, effect)]) sock id ↔
      .close sock ∉ effect.actions ∧ (Punched past sock id ∨
        ∃ memory str ip portNat, .addPeer memory str ip portNat sock ∈ effect.calls ∧
          string2NodeId memory str = id) := by
  constructor
  · rintro ⟨before, first, firstEffect, future, split, introduced, open_⟩
    rcases Machine.split_snoc split with ⟨rfl, same⟩ | ⟨rest, earlier⟩
    · cases same
      exact ⟨open_ _ _ List.mem_cons_self, Or.inr introduced⟩
    · rw [earlier, List.append_assoc] at split
      obtain rfl := List.cons.inj (List.append_cancel_left split) |>.2
      refine ⟨open_ event effect (by simp), Or.inl ⟨before, _, _, rest, earlier, introduced, ?_⟩⟩
      intro other later member
      rcases List.mem_cons.mp member with same | member
      · exact open_ other later (same ▸ List.mem_cons_self)
      · exact open_ other later (by simp [member])
  · rintro ⟨kept, ⟨before, first, firstEffect, future, rfl, introduced, open_⟩ | introduced⟩
    · refine ⟨before, first, firstEffect, future ++ [(event, effect)], by simp, introduced, ?_⟩
      intro other later member
      rw [← List.cons_append] at member
      rcases List.mem_append.mp member with member | member
      · exact open_ other later member
      · cases List.mem_singleton.mp member
        exact kept
    · refine ⟨past, event, effect, [], rfl, introduced, ?_⟩
      intro other later member
      cases List.mem_singleton.mp member
      exact kept

theorem Punched.later {id : NodeId} (punched : Punched past sock id) {event : BootEvent}
    {effect : Effect} (kept : .close sock ∉ effect.actions) :
    Punched (past ++ [(event, effect)]) sock id :=
  punched_snoc.mpr ⟨kept, Or.inl punched⟩

/-- A message at a client does not close a socket that is open before. -/
theorem Punched.not_closed {id : NodeId} (punched : Punched past sock id) {place : UDTSOCKET}
    (client : engine.isServer = false)
    (fresh : ∀ turn made, (env.punch turn).made = some made → ∀ id, ¬ Punched past made id)
    (done : engine.handleMsg runtime env place epollFd = some (next, actions)) :
    .close sock ∉ actions := by
  intro closed
  obtain ⟨_, _, closes⟩ := client_message client done
  obtain ⟨turn, made, _⟩ := closes sock closed
  exact fresh turn sock made id punched

/-- A message at a client does not close a socket that `startPunch` returns. -/
theorem introduced_open {memory : Memory} {str : Wire.Bytes} {ip portNat : UInt32} {place : UDTSOCKET}
    (client : engine.isServer = false)
    (apart : ∀ turn made, (env.punch turn).made = some made →
      ∀ other, other ≠ turn → (env.punch other).made ≠ some made)
    (done : engine.handleMsg runtime env place epollFd = some (next, actions))
    (introduced : .addPeer memory str ip portNat sock ∈ engine.calls runtime env place) :
    .close sock ∉ actions := by
  intro closed
  obtain ⟨nodes, told, closes⟩ := client_message client done
  rw [told] at introduced
  obtain ⟨turn, _, _, _, connects, _, same⟩ := mem_introductions_iff.mp introduced
  cases same
  obtain ⟨failing, made, fails⟩ := closes sock closed
  by_cases same : failing = 0 + turn
  · exact fails (same ▸ connects)
  · apply apart failing sock made (0 + turn) (Ne.symm same)
    rw [connects]
    rfl

private theorem Integrity.message {effect : Effect} (integrity : Integrity past engine)
    (client : engine.isServer = false)
    (fresh : ∀ turn made, (env.punch turn).made = some made →
      (∀ id, ¬ Punched past made id) ∧
        ∀ other, other ≠ turn → (env.punch other).made ≠ some made)
    (taken : step runtime engine (.message env sock epollFd) = some (next, effect)) :
    Integrity (past ++ [(.message env sock, effect)]) next := by
  have effects := step_calls taken
  obtain ⟨actions, done, rfl⟩ := step_message taken
  obtain ⟨nodes, told, _⟩ := client_message client done
  dsimp only at effects
  rw [told] at effects
  obtain ⟨final, stage⟩ := (integrity.stage (introductions env 0 nodes)).introductions fresh
    fun made member => member
  rw [← effects, ← told] at stage
  intro id node present
  obtain ⟨own, recorded, origin⟩ := stage id node present
  refine ⟨own, punched_snoc.mpr ?_, recorded⟩
  rcases origin with open_ | ⟨_, introduced⟩
  · exact ⟨open_.not_closed client (fun turn made isMade => (fresh turn made isMade).1) done, Or.inl open_⟩
  · have kept := fun turn made isMade => (fresh turn made isMade).2
    obtain ⟨memory, str, ip, portNat, member, same⟩ := introduced
    exact ⟨introduced_open client kept done member, Or.inr ⟨memory, str, ip, portNat, member, same⟩⟩

private theorem Integrity.connected {memory : Memory} (integrity : Integrity past engine)
    (finds : engine.FindsPeer (.connected memory sock)) :
    Integrity (past ++ [(.connected memory sock, { actions := [], calls := [] })])
      (engine.peerConnected memory sock) := by
  obtain ⟨found, stored⟩ := Option.isSome_iff_exists.mp finds
  have kept : ∀ id node, engine.peers id = some node →
      Punched (past ++ [(.connected memory sock, { actions := [], calls := [] })]) node.sock id ∧
        (engine.peerConnected memory sock).owner node.sock = some id := by
    intro id node present
    obtain ⟨_, open_, recorded⟩ := integrity id node present
    refine ⟨open_.later (by simp), ?_⟩
    rw [owner_peerConnected]
    by_cases same : node.sock = sock
    · rw [same, Function.update_self, ← same, recorded]
      rfl
    · rw [Function.update_of_ne same]
      exact recorded
  intro id node present
  rw [peers_peerConnected, stored, InverseIndex.update_eq_some] at present
  rcases present with ⟨same, now⟩ | ⟨_, old⟩
  · rw [← same] at stored
    cases now
    exact ⟨(integrity id found stored).1, kept id found stored⟩
  · exact ⟨(integrity id node old).1, kept id node old⟩

private theorem Integrity.lost (integrity : Integrity past engine) {effect : Effect}
    (taken : bootStep runtime epollFd engine (.lost sock) = some (next, effect)) :
    Integrity (past ++ [(.lost sock, effect)]) next := by
  cases taken
  intro id node present
  rw [peers_delPeerNode, InverseIndex.eraseVia_eq_some] at present
  obtain ⟨unnamed, stored⟩ := present
  obtain ⟨own, open_, recorded⟩ := integrity id node stored
  have elsewhere : node.sock ≠ sock := by
    intro same
    rw [same] at recorded
    exact unnamed recorded
  refine ⟨own, open_.later (by simpa using elsewhere), ?_⟩
  rw [owner_delPeerNode, Function.update_of_ne elsewhere]
  exact recorded

end Step

/-! ### Runs -/

section Runs
variable {runtime : Runtime} {epollFd : Int} {start state : NetEngine}
variable {trace : List (BootEvent × Effect)}

theorem bootStep_role {engine next : NetEngine} {event : BootEvent} {effect : Effect}
    (taken : bootStep runtime epollFd engine event = some (next, effect)) :
    next.isServer = engine.isServer := by
  cases event with
  | message env sock =>
    have same : step runtime engine (.message env sock epollFd) = some (next, effect) := taken
    exact (step_role same).2
  | connected memory sock =>
    cases taken
    rfl
  | lost sock =>
    have same : step runtime engine (.peerLost sock) = some (next, effect) := taken
    exact (step_role same).2

theorem bootStep_self {engine next : NetEngine} {event : BootEvent} {effect : Effect}
    (taken : bootStep runtime epollFd engine event = some (next, effect)) :
    next.self = engine.self := by
  cases event with
  | message env sock =>
    have same : step runtime engine (.message env sock epollFd) = some (next, effect) := taken
    exact (step_role same).1
  | connected memory sock =>
    cases taken
    rfl
  | lost sock =>
    have same : step runtime engine (.peerLost sock) = some (next, effect) := taken
    exact (step_role same).1

theorem boot_role (run : Machine.Run (bootStep runtime epollFd) start trace state) :
    state.isServer = start.isServer := by
  induction run with
  | start => rfl
  | step _ taken ih => exact (bootStep_role taken).trans ih

theorem FreshSockets.nil : FreshSockets [] := by
  intro past env sock effect future split
  simp at split

theorem FreshSockets.past {later : List (BootEvent × Effect)}
    (fresh : FreshSockets (trace ++ later)) : FreshSockets trace := by
  intro past env sock effect future split
  exact fresh past env sock effect (future ++ later) (by simp [split])

/-- While every connect-success finds its peer, the registry of a client is whole. -/
theorem integrity_of_run {self : Node}
    (run : Machine.Run (bootStep runtime epollFd) { self, isServer := false } trace state)
    (fresh : FreshSockets trace)
    (finds : StepsMeet (bootStep runtime epollFd) FindsPeer { self, isServer := false } trace) :
    Integrity trace state := by
  induction run with
  | start =>
    intro id node present
    simp at present
  | @step trace state next event effect before taken ih =>
    have integrity := ih fresh.past finds.past
    cases event with
    | message env sock =>
      exact integrity.message (boot_role before) (fresh trace env sock effect [] rfl) taken
    | connected memory sock =>
      have found := finds trace _ effect [] rfl state before
      cases taken
      exact integrity.connected found
    | lost sock => exact integrity.lost taken

end Runs

/-! ### A peer that is announced twice -/

end NetEngine

namespace Sample
open NetEngine

def client : NetEngine where
  self := Node.new memory
  isServer := false

/-- A `PUNCH` of the server about a peer. -/
def announced (id : NodeId) (addr : SockAddrIn) (sock : UDTSOCKET) : BootEvent :=
  .message (punchEnv id addr ⟨0, 0⟩ sock) 0

/-- The sockets of the peers that calls add. -/
def added (calls : List Call) : List UDTSOCKET :=
  calls.filterMap fun
    | .addPeer _ _ _ _ sock => some sock
    | _ => none

theorem FreshSockets.snoc {trace : List (BootEvent × Effect)} {event : BootEvent} {effect : Effect}
    (fresh : FreshSockets trace) (silent : ∀ env sock, event ≠ .message env sock) :
    FreshSockets (trace ++ [(event, effect)]) := by
  intro past env sock later future split
  rcases Machine.split_snoc split with ⟨rfl, same⟩ | ⟨rest, earlier⟩
  · cases same
    exact absurd rfl (silent env sock)
  · exact fresh past env sock later rest earlier

theorem FreshSockets.announced {trace : List (BootEvent × Effect)} {id : NodeId}
    {addr : SockAddrIn} {sock : UDTSOCKET} {effect : Effect} (fresh : FreshSockets trace)
    (unused : ∀ event other, (event, other) ∈ trace → sock ∉ added other.calls) :
    FreshSockets (trace ++ [(announced id addr sock, effect)]) := by
  intro past env on later future split turn made isMade
  rcases Machine.split_snoc split with ⟨rfl, same⟩ | ⟨rest, earlier⟩
  · cases same
    obtain ⟨rfl, first⟩ := punchEnv_made isMade
    constructor
    · intro id ⟨before, event, effect, future, split, ⟨memory, str, ip, portNat, member, _⟩, _⟩
      refine unused event effect (by simp [split]) (List.mem_filterMap.mpr ⟨_, member, rfl⟩)
    · intro other different again
      exact different ((punchEnv_made again).2.trans first.symm)
  · exact fresh past env on later rest earlier turn made isMade

theorem integrity_of_run_announced :
    ∃ trace state, Machine.Run (bootStep Wire.Reference.runtime 0) client trace state ∧
      Integrity trace state ∧ (state.peers (nodeId 7)).map Node.sock = some 1 := by
  have check : ((bootStep Wire.Reference.runtime 0 client (announced (nodeId 7) ⟨1, 2⟩ 1)).bind
      fun (first, _) => (bootStep Wire.Reference.runtime 0 first (.connected memory 1)).map
        fun (second, _) => ((first.peers ((first.owner 1).getD .zero)).isSome,
          (second.peers (nodeId 7)).map Node.sock)) = some (true, some 1) := by
    decide +kernel
  obtain ⟨⟨first, firstEffect⟩, firstStep, rest⟩ := Option.bind_eq_some_iff.mp check
  obtain ⟨⟨second, secondEffect⟩, secondStep, lookups⟩ := Option.map_eq_some_iff.mp rest
  obtain ⟨found, home⟩ := Prod.mk.inj lookups
  have reached := Machine.Run.step .start firstStep
  have run := reached.step secondStep
  have introduced : StepsMeet (bootStep Wire.Reference.runtime 0) FindsPeer client
      ([] ++ [(announced (nodeId 7) ⟨1, 2⟩ 1, firstEffect)]) :=
    Machine.StepsMeet.nil.snoc .start trivial
  refine ⟨_, second, run, integrity_of_run run ?_ (introduced.snoc reached found), home⟩
  exact FreshSockets.snoc (FreshSockets.announced .nil (by simp)) (by simp)

/-- A peer is announced on two sockets. The second one is lost, and its entry at the
first goes with it. Then the first connects, and a node of no id is stored. -/
theorem integrity_counterexample :
    ∃ trace state, Machine.Run (bootStep Wire.Reference.runtime 0) client trace state ∧
      FreshSockets trace ∧ ¬ Integrity trace state := by
  have check : ((bootStep Wire.Reference.runtime 0 client (announced (nodeId 7) ⟨1, 2⟩ 1)).bind
      fun (first, firstEffect) =>
        (bootStep Wire.Reference.runtime 0 first (announced (nodeId 7) ⟨1, 3⟩ 2)).bind
          fun (second, _) => (bootStep Wire.Reference.runtime 0 second (.lost 2)).bind
            fun (third, _) => (bootStep Wire.Reference.runtime 0 third (.connected memory 1)).map
              fun (last, _) => (added firstEffect.calls,
                (last.peers (nodeId 7)).map Node.id)) = some ([1], some .zero) := by
    decide +kernel
  obtain ⟨⟨first, firstEffect⟩, firstStep, rest⟩ := Option.bind_eq_some_iff.mp check
  obtain ⟨⟨second, secondEffect⟩, secondStep, rest⟩ := Option.bind_eq_some_iff.mp rest
  obtain ⟨⟨third, thirdEffect⟩, thirdStep, rest⟩ := Option.bind_eq_some_iff.mp rest
  obtain ⟨⟨last, lastEffect⟩, lastStep, lookups⟩ := Option.map_eq_some_iff.mp rest
  obtain ⟨one, anonymous⟩ := Prod.mk.inj lookups
  have run := (((Machine.Run.start.step firstStep).step secondStep).step thirdStep).step lastStep
  refine ⟨_, last, run, ?_, ?_⟩
  · refine FreshSockets.snoc (FreshSockets.snoc (FreshSockets.announced
      (FreshSockets.announced .nil (by simp)) ?_) (by simp)) (by simp)
    intro event other member
    cases List.mem_singleton.mp member
    rw [one]
    decide
  · intro integrity
    obtain ⟨node, present, blank⟩ := Option.map_eq_some_iff.mp anonymous
    have own := (integrity (nodeId 7) node present).1
    rw [blank] at own
    exact absurd own (by decide)

end Sample

end EbcNet
