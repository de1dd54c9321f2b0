import EbcNet.Deployment

/-! What a visit of a thread makes of its engine. -/

namespace EbcNet

open Wire (Runtime)
open NetEngine (Effect bootStep)

namespace ServerThread

/-- What a visit of the server thread makes of its engine. -/
inductive Outcome (runtime : Runtime) (epollFd : Int) (round : ServerRound) (sock : UDTSOCKET)
    (engine : NetEngine) : NetEngine → List ServerAction → Prop where
  | idle : Outcome runtime epollFd round sock engine engine []
  | accepted (cli : UDTSOCKET) : Outcome runtime epollFd round sock engine engine
      [.took (.accepted cli) { actions := [.epollAdd epollFd cli], calls := [] }]
  | lost {next : NetEngine} {effect : Effect}
      (stepped : NetEngine.step runtime engine (.clientLost sock) = some (next, effect)) :
      Outcome runtime epollFd round sock engine next
        [.epollRemove sock, .close sock, .took (.lost sock) effect]
  | received {next : NetEngine} {effect : Effect}
      (stepped : NetEngine.step runtime engine
        (.message (round.env sock) sock ServerLoop.defaultEpollFd) = some (next, effect)) :
      Outcome runtime epollFd round sock engine next
        [.took (.message (round.env sock) sock) effect]

section Visits
variable {runtime : Runtime} {epollFd : Int} {round : ServerRound} {thread next : ServerThread}
variable {pass : ServerPass} {sock : UDTSOCKET} {log : List ServerAction}

private theorem lose_outcome (losing : thread.lose runtime sock = some (next, log)) :
    Outcome runtime epollFd round sock thread.engine next.engine log := by
  obtain ⟨⟨engine, effect⟩, stepped, same⟩ := Option.map_eq_some_iff.mp losing
  cases same
  exact .lost stepped

private theorem receive_outcome
    (receiving : thread.receive runtime epollFd sock (round.env sock) = some (next, log)) :
    Outcome runtime epollFd round sock thread.engine next.engine log := by
  obtain ⟨⟨engine, effect⟩, stepped, same⟩ := Option.map_eq_some_iff.mp receiving
  cases same
  cases opened : thread.udt.opened sock with
  | true =>
    rw [opened, if_pos rfl] at stepped
    exact .received stepped
  | false =>
    rw [opened, if_neg (by simp)] at stepped
    obtain ⟨actions, done, rfl⟩ := NetEngine.step_message stepped
    have silent : thread.engine.handleMsg runtime { round.env sock with recv := none } sock
        ServerLoop.defaultEpollFd = some (thread.engine, []) := rfl
    rw [silent] at done
    cases done
    exact .idle

theorem visit_outcome
    (visiting : visit runtime epollFd round thread (pass, sock) = some (next, log)) :
    Outcome runtime epollFd round sock thread.engine next.engine log := by
  cases pass with
  | errfds =>
    dsimp only [visit] at visiting
    split at visiting
    · exact lose_outcome visiting
    · cases visiting
      exact .idle
  | readfds =>
    dsimp only [visit] at visiting
    split at visiting
    · have same := Option.some.inj visiting
      unfold accept at same
      split at same
      · cases same
        exact .idle
      · split at same
        · cases same
          exact .accepted _
        · cases same
          exact .idle
    · split at visiting
      · exact lose_outcome visiting
      · exact receive_outcome visiting

end Visits

end ServerThread

namespace BootLoop

/-- What a visit makes of the engine of a client. -/
inductive Turn (runtime : Runtime) (epollFd : Int) (round : Round) (loop : BootLoop)
    (sock : UDTSOCKET) : Pass → NetEngine → List BootAction → Prop where
  | idle {pass : Pass} {log : List BootAction}
      (silent : ∀ item ∈ log, item.sent = none ∧ ∀ event effect, item ≠ .took event effect) :
      Turn runtime epollFd round loop sock pass loop.engine log
  | lost {pass : Pass} (peer : sock ≠ loop.bootSock) :
      Turn runtime epollFd round loop sock pass (loop.engine.delPeerNode sock)
        [.epollRemove sock, .took (.lost sock) { actions := [.close sock], calls := [.delPeer sock] }]
  | announced {packed : Packed} (boot : sock = loop.bootSock)
      (succeeds : (loop.examine (round.status .writefds sock) sock).failed = false)
      (packs : announce runtime loop.engine.self = some packed) :
      Turn runtime epollFd round loop sock .writefds loop.engine
        [.epollRemove sock, .epollAdd sock .inErr, .send packed]
  | connected {memory : Memory} (peer : sock ≠ loop.bootSock)
      (succeeds : (loop.examine (round.status .writefds sock) sock).failed = false) :
      Turn runtime epollFd round loop sock .writefds (loop.engine.peerConnected memory sock)
        [.epollRemove sock, .epollAdd sock .inErr,
          .took (.connected memory sock) { actions := [], calls := [] }]
  | received {env : Env} {engine : NetEngine} {effect : Effect}
      (heard : env = if loop.udt.opened sock then round.env sock
        else { round.env sock with recv := none })
      (stepped : NetEngine.step runtime loop.engine (.message env sock epollFd) =
        some (engine, effect)) :
      Turn runtime epollFd round loop sock .readfds engine [.took (.message env sock) effect]

section Visits
variable {runtime : Runtime} {epollFd : Int} {round : Round} {loop next : BootLoop} {pass : Pass}
variable {sock : UDTSOCKET} {log : List BootAction}

theorem writes_turn
    (succeeds : (loop.examine (round.status .writefds sock) sock).failed = false)
    (visiting : visit runtime epollFd round loop (.writefds, sock) = some (next, log)) :
    Turn runtime epollFd round loop sock .writefds next.engine log ∧
      (sock = loop.bootSock → ¬ next.Awaits sock) := by
  unfold visit at visiting
  dsimp only at visiting
  rw [succeeds, if_neg (by simp), succeed] at visiting
  split at visiting
  · rename_i here
    have boot : sock = loop.bootSock := here.trans (examine_bootSock ..)
    obtain ⟨packed, packs, same⟩ := Option.map_eq_some_iff.mp visiting
    rw [if_neg (announce_sent packs).2] at same
    cases same
    have engine := @examine_engine loop sock (round.status .writefds sock)
    refine ⟨?_, fun _ => not_awaits_inErr⟩
    rw [watch, unwatch, engine] at packs ⊢
    exact .announced boot succeeds packs
  · rename_i here
    have peer : sock ≠ loop.bootSock := fun same => here (same.trans (examine_bootSock ..).symm)
    cases visiting
    refine ⟨?_, fun boot => absurd boot peer⟩
    have engine := @examine_engine loop sock (round.status .writefds sock)
    rw [watch, unwatch, engine]
    exact .connected peer succeeds

private theorem reads_turn
    (succeeds : (loop.examine (round.status .readfds sock) sock).failed = false)
    (visiting : visit runtime epollFd round loop (.readfds, sock) = some (next, log)) :
    Turn runtime epollFd round loop sock .readfds next.engine log := by
  unfold visit at visiting
  dsimp only at visiting
  rw [succeeds, if_neg (by simp), receive, take] at visiting
  obtain ⟨⟨engine, effect⟩, stepped, same⟩ := Option.map_eq_some_iff.mp visiting
  cases same
  rw [examine_engine, examine_udt] at stepped
  rw [examine_udt]
  exact .received rfl stepped

theorem visit_turn (visiting : visit runtime epollFd round loop (pass, sock) = some (next, log)) :
    Turn runtime epollFd round loop sock pass next.engine log := by
  have outcome := visit_outcome visiting
  have engine := @examine_engine loop sock (round.status pass sock)
  have boot := @examine_bootSock loop sock (round.status pass sock)
  cases outcome with
  | bootError =>
    rw [unwatch, engine]
    exact .idle (by simp [BootAction.sent])
  | lost peer =>
    rw [engine]
    exact .lost (by rwa [← boot])
  | reconnected =>
    rw [watch, unwatch, engine]
    exact .idle (by simp [BootAction.sent])
  | gaveUp =>
    rw [unwatch, engine]
    exact .idle (by simp [BootAction.sent])
  | announced _ succeeds => exact (writes_turn succeeds visiting).1
  | connected _ succeeds => exact (writes_turn succeeds visiting).1
  | received succeeds => exact reads_turn succeeds visiting

theorem visit_self (visiting : visit runtime epollFd round loop (pass, sock) = some (next, log)) :
    next.engine.self = loop.engine.self := by
  have turn := visit_turn visiting
  generalize next.engine = engine at turn ⊢
  cases turn with
  | idle => rfl
  | lost =>
    have taken : bootStep runtime epollFd loop.engine (.lost sock) = some (_, _) := rfl
    exact NetEngine.bootStep_self taken
  | announced => rfl
  | @connected memory =>
    have taken : bootStep runtime epollFd loop.engine (.connected memory sock) = some (_, _) := rfl
    exact NetEngine.bootStep_self taken
  | @received env engine effect _ stepped =>
    have taken : bootStep runtime epollFd loop.engine (.message env sock) = some (engine, effect) :=
      stepped
    exact NetEngine.bootStep_self taken

/-- A visit does not make `boot_sock` awaited, unless it connects it again. -/
theorem visit_awaits (foreign : round.Foreign loop.bootSock)
    (once : sock = loop.bootSock → pass ≠ .errfds →
      (loop.examine (round.status pass sock) sock).failed = true → round.connects pass = false)
    (visiting : visit runtime epollFd round loop (pass, sock) = some (next, log))
    (idle : ¬ loop.Awaits loop.bootSock) : ¬ next.Awaits loop.bootSock := by
  have outcome := visit_outcome visiting
  have same := @examine_udt loop sock (round.status pass sock)
  have boot := @examine_bootSock loop sock (round.status pass sock)
  rw [← boot] at once foreign idle ⊢
  have before : ¬ (loop.examine (round.status pass sock) sock).Awaits
      (loop.examine (round.status pass sock) sock).bootSock := fun awaits =>
    idle (awaits.congr (by rw [same]))
  generalize loop.examine (round.status pass sock) sock = loop at outcome once foreign before ⊢
  cases outcome with
  | bootError here => exact not_awaits (by rw [unwatch, here]; exact Function.update_self ..)
  | lost peer =>
    refine fun awaits => before (awaits.congr ?_)
    exact ((Function.update_of_ne peer.symm ..).trans (Function.update_of_ne peer.symm ..)).symm
  | reconnected here later failed connects =>
    rw [once here later failed] at connects
    cases connects
  | gaveUp here => exact not_awaits (by rw [unwatch, here]; exact Function.update_self ..)
  | announced here => exact here ▸ not_awaits_inErr
  | connected peer =>
    refine fun awaits => before (awaits.congr ?_)
    rw [watch, unwatch, Udt.switch_watched]
    exact (Function.update_of_ne peer.symm ..).symm
  | received _ punch taken =>
    exact fun awaits => before (awaits.congr (received_other foreign punch taken loop.udt).2.symm)

/-- A client records each socket that it has open, apart from that to the server. -/
structure Accounts (loop : BootLoop) : Prop where
  client : loop.engine.isServer = false
  opened : ∀ place, loop.udt.opened place = true → place = loop.bootSock ∨
    (loop.engine.owner place).isSome = true

theorem accounts_start (self : Node) (bootSock : UDTSOCKET) (connects : Bool) :
    (start self bootSock connects).Accounts := by
  refine ⟨rfl, fun place opened => Or.inl ?_⟩
  exact of_decide_eq_true opened

/-- What opens no socket, and forgets none that stays open. -/
private theorem Accounts.kept (accounts : loop.Accounts) (boot : next.bootSock = loop.bootSock)
    (role : next.engine.isServer = loop.engine.isServer)
    (opened : ∀ place, next.udt.opened place = true → loop.udt.opened place = true ∧
      ((loop.engine.owner place).isSome = true → (next.engine.owner place).isSome = true)) :
    next.Accounts := by
  refine ⟨role.trans accounts.client, fun place open_ => ?_⟩
  obtain ⟨before, recorded⟩ := opened place open_
  rw [boot]
  exact (accounts.opened place before).imp_right recorded

private theorem Accounts.received (accounts : loop.Accounts) {env : Env} {engine : NetEngine}
    {effect : Effect} (valid : round.Foreign INVALID_SOCK)
    (punch : env.punch = (round.env sock).punch)
    (taken : NetEngine.step runtime loop.engine (.message env sock epollFd) = some (engine, effect)) :
    Accounts { loop with engine, udt := effect.actions.foldl (Udt.act epollFd) loop.udt } := by
  have effects := NetEngine.step_calls taken
  have role := NetEngine.step_role taken
  obtain ⟨actions, done, rfl⟩ := NetEngine.step_message taken
  obtain ⟨nodes, told, _⟩ := NetEngine.client_message accounts.client done
  have adds : ∀ made ∈ loop.engine.calls runtime env sock, made.recorded.isSome := by
    intro made member
    rw [told] at member
    obtain ⟨_, _, _, rfl⟩ := NetEngine.mem_introductions member
    rfl
  dsimp only at effects
  refine ⟨role.2.trans accounts.client, fun place open_ => ?_⟩
  dsimp only
  rw [effects]
  rcases @NetEngine.owner_calls loop.engine _ place adds with ⟨_, _, id, _, now⟩ | ⟨unmade, same⟩
  · rw [now]
    exact Or.inr rfl
  · rw [same]
    apply accounts.opened
    refine (Udt.acts_added fun added => ?_).1 open_
    have real : place ≠ INVALID_SOCK := by
      rintro rfl
      obtain ⟨turn, made⟩ := NetEngine.handleMsg_made done added rfl
      rw [punch] at made
      exact valid sock turn made
    obtain ⟨memory, str, ip, portNat, member⟩ := NetEngine.handleMsg_added done added real
    exact unmade _ member _ rfl

theorem Accounts.visited (accounts : loop.Accounts) (valid : round.Foreign INVALID_SOCK)
    (visiting : visit runtime epollFd round loop (pass, sock) = some (next, log)) :
    next.Accounts := by
  have outcome := visit_outcome visiting
  have before : (loop.examine (round.status pass sock) sock).Accounts := by
    refine accounts.kept (examine_bootSock ..) (by rw [examine_engine]) fun place open_ => ?_
    rw [examine_udt] at open_
    rw [examine_engine]
    exact ⟨open_, id⟩
  generalize loop.examine (round.status pass sock) sock = loop at outcome before
  have switched : ∀ mask, ((loop.unwatch sock).watch sock mask).Accounts := fun mask =>
    before.kept rfl rfl fun place open_ => ⟨by simpa [watch, unwatch] using open_, id⟩
  cases outcome with
  | bootError => exact before.kept rfl rfl fun place open_ => ⟨open_, id⟩
  | lost peer =>
    have taken : bootStep runtime epollFd loop.engine (.lost sock) =
      some (loop.engine.delPeerNode sock, _) := rfl
    refine before.kept rfl (NetEngine.bootStep_role taken) fun place open_ => ?_
    rw [Udt.close_opened] at open_
    have elsewhere : place ≠ sock := by
      rintro rfl
      simp at open_
    rw [Function.update_of_ne elsewhere] at open_
    refine ⟨open_, fun recorded => ?_⟩
    rw [NetEngine.owner_delPeerNode, Function.update_of_ne elsewhere]
    exact recorded
  | reconnected => exact switched .outErr
  | gaveUp => exact before.kept rfl rfl fun place open_ => ⟨open_, id⟩
  | announced => exact switched .inErr
  | @connected memory =>
    have taken : bootStep runtime epollFd loop.engine (.connected memory sock) =
      some (loop.engine.peerConnected memory sock, _) := rfl
    refine (switched .inErr).kept rfl (NetEngine.bootStep_role taken) fun place open_ => ⟨open_, ?_⟩
    intro recorded
    dsimp only
    rw [NetEngine.owner_peerConnected]
    by_cases here : place = sock
    · rw [here, Function.update_self]
      cases loop.engine.owner sock <;> rfl
    · rw [Function.update_of_ne here]
      exact recorded
  | received _ punch taken => exact before.received valid punch taken

end Visits

end BootLoop

end EbcNet
