import EbcNet.Boot

/-! Whether the peers of a client that are marked as connected are connected. -/

namespace EbcNet

open Wire (Runtime)
open Machine (StepsMeet)

namespace NetEngine

/-- The boot loop took the connect-success branch for the socket, and has not closed it
since. -/
def Connected (trace : List (BootEvent × Effect)) (sock : UDTSOCKET) : Prop :=
  ∃ past memory effect future, trace = past ++ (.connected memory sock, effect) :: future ∧
    ∀ event later, (event, later) ∈ future → .close sock ∉ later.actions

/-- Every peer that is marked as connected is at a socket that was punched for it, and
that is connected. -/
def Established (trace : List (BootEvent × Effect)) (engine : NetEngine) : Prop :=
  ∀ id node, engine.peers id = some node → node.state = .CONNECTED →
    Connected trace node.sock ∧ Punched trace node.sock id

/-- A connect-success finds the peer that it is about at its own socket, or connected
already. -/
def FindsOwn (engine : NetEngine) : BootEvent → Prop
  | .connected _ sock => ∃ node, engine.peers ((engine.owner sock).getD .zero) = some node ∧
      (node.sock = sock ∨ node.state = .CONNECTED)
  | _ => True

theorem FindsOwn.findsPeer {engine : NetEngine} {event : BootEvent} (finds : engine.FindsOwn event) :
    engine.FindsPeer event := by
  cases event with
  | connected memory sock =>
    obtain ⟨node, present, _⟩ := finds
    exact Option.isSome_of_eq_some present
  | message env sock => trivial
  | lost sock => trivial

section Runs
variable {runtime : Runtime} {epollFd : Int} {trace : List (BootEvent × Effect)}
variable {engine next : NetEngine} {event : BootEvent} {effect : Effect} {sock : UDTSOCKET}

theorem Connected.later (connected : Connected trace sock) (kept : .close sock ∉ effect.actions) :
    Connected (trace ++ [(event, effect)]) sock := by
  obtain ⟨past, memory, first, future, rfl, open_⟩ := connected
  refine ⟨past, memory, first, future ++ [(event, effect)], by simp, ?_⟩
  intro other later member
  rcases List.mem_append.mp member with member | member
  · exact open_ other later member
  · cases List.mem_singleton.mp member
    exact kept

private theorem Established.message {env : Env} (established : Established trace engine)
    (client : engine.isServer = false)
    (fresh : ∀ turn made, (env.punch turn).made = some made → ∀ id, ¬ Punched trace made id)
    (taken : step runtime engine (.message env sock epollFd) = some (next, effect)) :
    Established (trace ++ [(.message env sock, effect)]) next := by
  have effects := step_calls taken
  obtain ⟨actions, done, rfl⟩ := step_message taken
  intro id node present state
  rw [effects] at present
  rcases peers_calls present with old | ⟨memory, str, ip, portNat, place, _, _, rfl⟩
  · obtain ⟨connected, punched⟩ := established id node old state
    have kept := punched.not_closed client fresh done
    exact ⟨connected.later kept, punched.later kept⟩
  · -- A new peer is not connected yet.
    cases state

private theorem Established.connected {memory : Memory} (established : Established trace engine)
    (integrity : Integrity trace engine) (finds : engine.FindsOwn (.connected memory sock)) :
    Established (trace ++ [(.connected memory sock, { actions := [], calls := [] })])
      (engine.peerConnected memory sock) := by
  obtain ⟨found, stored, own⟩ := finds
  intro id node present state
  rw [peers_peerConnected, stored, InverseIndex.update_eq_some] at present
  rcases present with ⟨rfl, now⟩ | ⟨_, old⟩
  · obtain rfl := Option.some.inj now
    obtain ⟨_, punched, _⟩ := integrity _ found stored
    refine ⟨?_, punched.later (by simp)⟩
    rcases own with here | already
    · exact ⟨trace, memory, _, [], by rw [← here]; rfl, by simp⟩
    · exact (established _ found stored already).1.later (by simp)
  · obtain ⟨connected, punched⟩ := established id node old state
    exact ⟨connected.later (by simp), punched.later (by simp)⟩

private theorem Established.lost (established : Established trace engine)
    (integrity : Integrity trace engine)
    (taken : bootStep runtime epollFd engine (.lost sock) = some (next, effect)) :
    Established (trace ++ [(.lost sock, effect)]) next := by
  cases taken
  intro id node present state
  rw [peers_delPeerNode, InverseIndex.eraseVia_eq_some] at present
  obtain ⟨unnamed, stored⟩ := present
  have elsewhere : node.sock ≠ sock := by
    intro same
    have recorded := (integrity id node stored).2.2
    rw [same] at recorded
    exact unnamed recorded
  obtain ⟨connected, punched⟩ := established id node stored state
  exact ⟨connected.later (by simpa using elsewhere), punched.later (by simpa using elsewhere)⟩

/-- While every connect-success finds its peer at its own socket, or connected already,
every peer that is marked as connected is. -/
theorem established_of_run {self : Node}
    (run : Machine.Run (bootStep runtime epollFd) { self, isServer := false } trace engine)
    (fresh : FreshSockets trace)
    (finds : StepsMeet (bootStep runtime epollFd) FindsOwn { self, isServer := false } trace) :
    Established trace engine := by
  have findsPeer : StepsMeet (bootStep runtime epollFd) FindsPeer { self, isServer := false } trace :=
    fun past event effect future split state reached =>
      (finds past event effect future split state reached).findsPeer
  induction run with
  | start =>
    intro id node present
    simp at present
  | @step trace state next event effect before taken ih =>
    have established := ih fresh.past finds.past findsPeer.past
    have integrity := integrity_of_run before fresh.past findsPeer.past
    cases event with
    | message env sock =>
      exact established.message (boot_role before)
        (fun turn made isMade => (fresh trace env sock effect [] rfl turn made isMade).1) taken
    | connected memory sock =>
      have found := finds trace _ effect [] rfl state before
      cases taken
      exact established.connected integrity found
    | lost sock => exact established.lost integrity taken

end Runs

end NetEngine

namespace Sample
open NetEngine

theorem established_of_run_announced :
    ∃ trace state, Machine.Run (bootStep Wire.Reference.runtime 0) client trace state ∧
      Established trace state ∧ (state.peers (nodeId 7)).map Node.state = some .CONNECTED := by
  have check : ((bootStep Wire.Reference.runtime 0 client (announced (nodeId 7) ⟨1, 2⟩ 1)).bind
      fun (first, _) => (bootStep Wire.Reference.runtime 0 first (.connected memory 1)).map
        fun (second, _) => ((first.peers ((first.owner 1).getD .zero)).map Node.sock,
          (second.peers (nodeId 7)).map Node.state)) = some (some 1, some .CONNECTED) := by
    decide +kernel
  obtain ⟨⟨first, firstEffect⟩, firstStep, rest⟩ := Option.bind_eq_some_iff.mp check
  obtain ⟨⟨second, secondEffect⟩, secondStep, lookups⟩ := Option.map_eq_some_iff.mp rest
  obtain ⟨home, state⟩ := Prod.mk.inj lookups
  obtain ⟨node, present, here⟩ := Option.map_eq_some_iff.mp home
  have reached := Machine.Run.start.step firstStep
  have run := reached.step secondStep
  have introduced : StepsMeet (bootStep Wire.Reference.runtime 0) FindsOwn client
      ([] ++ [(announced (nodeId 7) ⟨1, 2⟩ 1, firstEffect)]) :=
    Machine.StepsMeet.nil.snoc .start trivial
  refine ⟨_, second, run, established_of_run run ?_
    (introduced.snoc reached ⟨node, present, Or.inl here⟩), state⟩
  exact FreshSockets.snoc (FreshSockets.announced .nil (by simp)) (by simp)

/-- A peer is announced on two sockets, of which the second connects. It is marked as
connected, at the first. -/
theorem established_counterexample :
    ∃ trace state, Machine.Run (bootStep Wire.Reference.runtime 0) client trace state ∧
      FreshSockets trace ∧
      trace.map Prod.fst = [announced (nodeId 7) ⟨1, 2⟩ 1, announced (nodeId 7) ⟨1, 3⟩ 2,
        .connected memory 2] ∧ ¬ Established trace state := by
  have check : ((bootStep Wire.Reference.runtime 0 client (announced (nodeId 7) ⟨1, 2⟩ 1)).bind
      fun (first, firstEffect) =>
        (bootStep Wire.Reference.runtime 0 first (announced (nodeId 7) ⟨1, 3⟩ 2)).bind
          fun (second, _) => (bootStep Wire.Reference.runtime 0 second (.connected memory 2)).map
            fun (third, _) => (added firstEffect.calls,
              (third.peers (nodeId 7)).map fun node => (node.sock, node.state))) =
        some ([1], some (1, .CONNECTED)) := by
    decide +kernel
  obtain ⟨⟨first, firstEffect⟩, firstStep, rest⟩ := Option.bind_eq_some_iff.mp check
  obtain ⟨⟨second, secondEffect⟩, secondStep, rest⟩ := Option.bind_eq_some_iff.mp rest
  obtain ⟨⟨third, thirdEffect⟩, thirdStep, lookups⟩ := Option.map_eq_some_iff.mp rest
  obtain ⟨one, marked⟩ := Prod.mk.inj lookups
  obtain ⟨node, present, same⟩ := Option.map_eq_some_iff.mp marked
  obtain ⟨home, state⟩ := Prod.mk.inj same
  refine ⟨_, third, ((Machine.Run.start.step firstStep).step secondStep).step thirdStep, ?_, rfl, ?_⟩
  · refine FreshSockets.snoc (FreshSockets.announced (FreshSockets.announced .nil (by simp)) ?_)
      (by simp)
    intro event other member
    cases List.mem_singleton.mp member
    rw [one]
    decide
  · intro established
    obtain ⟨past, memory, effect, future, split, _⟩ := (established _ node present state).1
    -- The only connect-success is that of the second socket.
    have events := congrArg (List.map Prod.fst) split
    have member : BootEvent.connected memory node.sock ∈
        (past ++ (.connected memory node.sock, effect) :: future).map Prod.fst := by simp
    rw [← events, home] at member
    simp [announced] at member

end Sample

end EbcNet
