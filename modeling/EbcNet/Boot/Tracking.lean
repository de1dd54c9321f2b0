import EbcNet.Boot.Loop

/-! Whether a client keeps track of the sockets that punch towards its peers: which of them
`sockIdPair` records, and for whom. A pass of a round may close a socket that a later pass
of it still visits. -/

namespace EbcNet

open Wire (Runtime)
open Machine (StepsMeet)

namespace NetEngine

/-- `startPunch` returned a socket for an introduction of the id. -/
def EverPunched (trace : List (BootEvent × Effect)) (id : NodeId) : Prop :=
  ∃ event effect, (event, effect) ∈ trace ∧ ∃ memory str ip portNat sock,
    .addPeer memory str ip portNat sock ∈ effect.calls ∧ string2NodeId memory str = id

/-- The recorded sockets are just those that `startPunch` returned and that are not closed
since, each for the id it was introduced under, and only such ids have peers. -/
structure Tracks (trace : List (BootEvent × Effect)) (engine : NetEngine) : Prop where
  recorded : ∀ sock id, engine.owner sock = some id ↔ Punched trace sock id
  peers : ∀ id node, engine.peers id = some node → EverPunched trace id

section Step
variable {runtime : Runtime} {epollFd : Int} {engine next : NetEngine} {env : Env}
variable {past : List (BootEvent × Effect)} {sock : UDTSOCKET} {id : NodeId}

theorem EverPunched.later (ever : EverPunched past id) (later : List (BootEvent × Effect)) :
    EverPunched (past ++ later) id := by
  obtain ⟨event, effect, member, stored⟩ := ever
  exact ⟨event, effect, List.mem_append_left _ member, stored⟩

theorem Punched.ever (punched : Punched past sock id) : EverPunched past id := by
  obtain ⟨before, event, effect, future, rfl, ⟨memory, str, ip, portNat, member, same⟩, _⟩ := punched
  exact ⟨event, effect, by simp, memory, str, ip, portNat, sock, member, same⟩

private theorem Tracks.lost (tracks : Tracks past engine) {effect : Effect}
    (taken : bootStep runtime epollFd engine (.lost sock) = some (next, effect)) :
    Tracks (past ++ [(.lost sock, effect)]) next := by
  cases taken
  refine ⟨fun place id => ?_, fun id node present => ?_⟩
  · rw [owner_delPeerNode, InverseIndex.update_eq_some, punched_snoc, tracks.recorded]
    simp
  · rw [peers_delPeerNode, InverseIndex.eraseVia_eq_some] at present
    exact (tracks.peers id node present.2).later _

/-- A connect-success of a recorded socket records nothing more. -/
private theorem Tracks.connected (tracks : Tracks past engine) {memory : Memory}
    (found : Punched past sock id) :
    Tracks (past ++ [(.connected memory sock, { actions := [], calls := [] })])
      (engine.peerConnected memory sock) := by
  have recorded := (tracks.recorded sock id).mpr found
  refine ⟨fun place key => ?_, fun key node present => ?_⟩
  · rw [owner_peerConnected, recorded, Option.some_or, ← recorded, Function.update_eq_self,
      tracks.recorded, punched_snoc]
    simp
  · rw [peers_peerConnected, recorded, InverseIndex.update_eq_some] at present
    rcases present with ⟨rfl, _⟩ | ⟨_, old⟩
    · exact found.ever.later _
    · exact (tracks.peers key node old).later _

/-- What an introduction records is due to the turn that made its socket. -/
private theorem recorded_turn {nodes : List Wire.EbcNode} {made : Call}
    (member : made ∈ introductions env 0 nodes) (recorded : made.recorded = some (sock, id)) :
    ∃ turn node, nodes[turn]? = some node ∧ env.punch turn = .connects sock ∧
      made = .addPeer env.memory node.id node.ip node.portNat sock ∧
        string2NodeId env.memory node.id = id := by
  obtain ⟨turn, node, place, listed, connects, _, rfl⟩ := mem_introductions_iff.mp member
  cases recorded
  rw [Nat.zero_add] at connects
  exact ⟨turn, node, listed, connects, rfl, rfl⟩

/-- No two introductions of a message record the same socket. -/
private theorem recorded_unique {nodes : List Wire.EbcNode} {made other : Call} {key : NodeId}
    (apart : ∀ turn made, (env.punch turn).made = some made →
      ∀ other, other ≠ turn → (env.punch other).made ≠ some made)
    (member : made ∈ introductions env 0 nodes) (recorded : made.recorded = some (sock, id))
    (again : other ∈ introductions env 0 nodes) (same : other.recorded = some (sock, key)) :
    id = key := by
  obtain ⟨turn, node, listed, connects, rfl, rfl⟩ := recorded_turn member recorded
  obtain ⟨later, entry, listedLater, connectsLater, rfl, rfl⟩ := recorded_turn again same
  have together : later = turn := by
    by_contra different
    apply apart turn sock (by rw [connects]; rfl) later different
    rw [connectsLater]
    rfl
  subst together
  obtain rfl := Option.some.inj (listed.symm.trans listedLater)
  rfl

private theorem Tracks.message (tracks : Tracks past engine) {effect : Effect}
    (client : engine.isServer = false)
    (fresh : ∀ turn made, (env.punch turn).made = some made →
      (∀ id, ¬ Punched past made id) ∧
        ∀ other, other ≠ turn → (env.punch other).made ≠ some made)
    (taken : step runtime engine (.message env sock epollFd) = some (next, effect)) :
    Tracks (past ++ [(.message env sock, effect)]) next := by
  have effects := step_calls taken
  obtain ⟨actions, done, rfl⟩ := step_message taken
  obtain ⟨nodes, told, _⟩ := client_message client done
  have closed : ∀ turn made, (env.punch turn).made = some made → ∀ id, ¬ Punched past made id :=
    fun turn made isMade => (fresh turn made isMade).1
  have apart : ∀ turn made, (env.punch turn).made = some made →
      ∀ other, other ≠ turn → (env.punch other).made ≠ some made :=
    fun turn made isMade => (fresh turn made isMade).2
  dsimp only at effects
  refine ⟨fun place id => ?_, fun id node present => ?_⟩
  · have adds : ∀ made ∈ engine.calls runtime env sock, made.recorded.isSome := by
      intro made member
      rw [told] at member
      obtain ⟨node, _, place, rfl⟩ := mem_introductions member
      rfl
    rw [punched_snoc]
    rcases @owner_calls engine _ place adds with ⟨made, member, key, recorded, now⟩ | ⟨none, kept⟩
    · rw [effects, now]
      obtain ⟨turn, node, _, connects, rfl, rfl⟩ := recorded_turn (told ▸ member) recorded
      constructor
      · rintro ⟨rfl⟩
        exact ⟨introduced_open client apart done member, Or.inr ⟨_, _, _, _, member, rfl⟩⟩
      · rintro ⟨_, old | ⟨memory, str, ip, portNat, again, rfl⟩⟩
        · exact absurd old (closed turn place (by rw [connects]; rfl) id)
        · exact congrArg some (recorded_unique apart (told ▸ member) rfl (told ▸ again) rfl)
    · rw [effects, kept, tracks.recorded]
      constructor
      · intro punched
        exact ⟨punched.not_closed client closed done, Or.inl punched⟩
      · rintro ⟨_, old | ⟨memory, str, ip, portNat, member, rfl⟩⟩
        · exact old
        · exact absurd rfl (none _ member _)
  · rw [effects] at present
    rcases peers_calls present with old | ⟨memory, str, ip, portNat, place, member, same, _⟩
    · exact (tracks.peers id node old).later _
    · exact ⟨_, _, List.mem_append_right _ (List.mem_singleton_self _), memory, str, ip, portNat, place,
        member, same⟩

end Step

end NetEngine

open NetEngine (BootEvent Effect Tracks Punched FreshSockets bootStep)

namespace BootLoop

/-- The sets of a round have only sockets that are watched. -/
def Reported (loop : BootLoop) (round : Round) : Prop :=
  ∀ pass sock, sock ∈ (round.fds pass).socks → (loop.udt.watched sock).isSome

/-- The error pass closes the socket. -/
def closes (bootSock : UDTSOCKET) (round : Round) (sock : UDTSOCKET) : Bool :=
  sock ∈ (round.fds .errfds).socks && sock ≠ bootSock

/-- The status that the write pass saw last, after it has visited some sockets. It sees none of
a socket that is closed. -/
def lastSeen (bootSock : UDTSOCKET) (round : Round) (before : List UDTSOCKET) : Option UDTSTATUS :=
  ((before.filter fun sock => !closes bootSock round sock).getLast?.map (round.status .writefds)).or
    ((round.fds .errfds).socks.getLast?.map (round.status .errfds))

/-- The write pass ends with one of the sockets, since `boot_sock` cannot be connected again. -/
def GivesUp (bootSock : UDTSOCKET) (round : Round) (before : List UDTSOCKET) : Prop :=
  bootSock ∈ before ∧ (round.status .writefds bootSock).failed = true ∧
    round.connects .writefds = false

/-- When the write pass comes to a socket that the error pass has closed, what it saw last
is a failure. -/
def SeesFailure (bootSock : UDTSOCKET) (round : Round) : Prop :=
  ∀ before sock after, (round.fds .writefds).socks = before ++ sock :: after →
    closes bootSock round sock = true → ¬ GivesUp bootSock round before →
      (lastSeen bootSock round before).any UDTSTATUS.failed = true

/-- The client tracks its sockets, and knows those that are open. -/
structure Sound (bootSock : UDTSOCKET) (past : List (BootEvent × Effect)) (loop : BootLoop) :
    Prop where
  boot : loop.bootSock = bootSock
  client : loop.engine.isServer = false
  tracks : Tracks past loop.engine
  connection : loop.udt.opened bootSock = true
  opened : ∀ sock, (loop.udt.watched sock).isSome → loop.udt.opened sock = true
  known : ∀ sock, loop.udt.opened sock = true → sock = bootSock ∨ ∃ id, Punched past sock id

/-! ### One visit -/

section Visits
variable {runtime : Runtime} {epollFd : Int} {round : Round} {loop next : BootLoop} {pass : Pass}
variable {sock place bootSock : UDTSOCKET} {log : List BootAction}
variable {past : List (BootEvent × Effect)}

theorem Sound.examined (sound : Sound bootSock past loop) (status : UDTSTATUS) :
    Sound bootSock past (loop.examine status sock) := by
  obtain ⟨boot, client, tracks, connection, opened, known⟩ := sound
  exact ⟨by rwa [examine_bootSock], by rwa [examine_engine], by rwa [examine_engine],
    by rwa [examine_udt], by rwa [examine_udt], by rwa [examine_udt]⟩

/-- What only changes the epoll, and only for an open socket. -/
private theorem Sound.rewatched (sound : Sound bootSock past loop)
    (boot : next.bootSock = loop.bootSock) (engine : next.engine = loop.engine)
    (same : next.udt.opened = loop.udt.opened)
    (watched : ∀ sock, (next.udt.watched sock).isSome →
      (loop.udt.watched sock).isSome ∨ loop.udt.opened sock = true) :
    Sound bootSock past next where
  boot := boot.trans sound.boot
  client := by rw [engine]; exact sound.client
  tracks := by rw [engine]; exact sound.tracks
  connection := by rw [same]; exact sound.connection
  opened place listed := by
    rw [same]
    exact (watched place listed).elim (sound.opened place) id
  known := by rw [same]; exact sound.known

private theorem Sound.unwatched (sound : Sound bootSock past loop) :
    Sound bootSock past (loop.unwatch sock) := by
  refine sound.rewatched rfl rfl rfl fun place watched => Or.inl ?_
  by_cases here : place = sock
  · simp [unwatch, here] at watched
  · simpa [unwatch, here] using watched

private theorem Sound.stopped (sound : Sound bootSock past loop) :
    Sound bootSock past { loop with returned := true } :=
  ⟨sound.boot, sound.client, sound.tracks, sound.connection, sound.opened, sound.known⟩

private theorem Sound.switched (sound : Sound bootSock past loop) (mask : EpollMask) :
    Sound bootSock past ((loop.unwatch sock).watch sock mask) := by
  refine sound.rewatched rfl rfl (by simp [watch, unwatch]) fun place watched => ?_
  rw [watch, unwatch, Udt.switch_watched] at watched
  by_cases here : place = sock
  · subst here
    rw [Function.update_self] at watched
    split at watched
    · exact Or.inr ‹_›
    · cases watched
  · rw [Function.update_of_ne here] at watched
    exact Or.inl watched

private theorem Sound.lost (sound : Sound bootSock past loop) (peer : sock ≠ loop.bootSock) :
    Sound bootSock (past ++ [(.lost sock, { actions := [.close sock], calls := [.delPeer sock] })])
      { loop with
        engine := loop.engine.delPeerNode sock
        udt := (loop.udt.epollRemove sock).close sock } := by
  obtain ⟨rfl, client, tracks, connection, opened, known⟩ := sound
  have taken : bootStep Wire.Reference.runtime 0 loop.engine (.lost sock) =
    some (loop.engine.delPeerNode sock, _) := rfl
  refine ⟨rfl, (NetEngine.bootStep_role taken).trans client, tracks.lost taken, ?_, ?_, ?_⟩
  · exact (Function.update_of_ne (Ne.symm peer) ..).trans connection
  · intro place watched
    by_cases here : place = sock
    · simp [here] at watched
    · simp only [Udt.close_watched, Udt.epollRemove_watched, Function.update_of_ne here] at watched
      exact (Function.update_of_ne here ..).trans (opened place watched)
  · intro place open_
    by_cases here : place = sock
    · simp [here] at open_
    · rw [Udt.close_opened, Function.update_of_ne here, Udt.epollRemove_opened] at open_
      refine (known place open_).imp_right ?_
      rintro ⟨id, punched⟩
      exact ⟨id, punched.later (by simpa using here)⟩

private theorem Sound.connected (sound : Sound bootSock past loop) (peer : sock ≠ loop.bootSock)
    (memory : Memory) (found : loop.udt.opened sock = true) :
    Sound bootSock (past ++ [(.connected memory sock, { actions := [], calls := [] })])
      { (loop.unwatch sock).watch sock .inErr with engine := loop.engine.peerConnected memory sock } := by
  have switched : Sound bootSock past ((loop.unwatch sock).watch sock .inErr) := sound.switched .inErr
  obtain ⟨boot, client, tracks, connection, opened, known⟩ := switched
  obtain ⟨id, punched⟩ := (sound.known sock found).resolve_left (sound.boot ▸ peer)
  refine ⟨boot, client, sound.tracks.connected punched, connection, opened, ?_⟩
  intro place open_
  refine (known place open_).imp_right ?_
  rintro ⟨key, other⟩
  exact ⟨key, other.later (by simp)⟩

private theorem Sound.received (sound : Sound bootSock past loop) {env : Env} {engine : NetEngine}
    {effect : Effect} (foreign : round.Foreign bootSock) (valid : round.Foreign INVALID_SOCK)
    (punch : env.punch = (round.env sock).punch)
    (fresh : FreshSockets (past ++ [(.message env sock, effect)]))
    (taken : NetEngine.step runtime loop.engine (.message env sock epollFd) = some (engine, effect)) :
    Sound bootSock (past ++ [(.message env sock, effect)])
      { loop with engine, udt := effect.actions.foldl (Udt.act epollFd) loop.udt } := by
  obtain ⟨rfl, client, tracks, connection, opened, known⟩ := sound
  have news := fresh past env sock effect [] rfl
  have role := NetEngine.step_role taken
  have tracked := tracks.message client news taken
  refine ⟨rfl, role.2.trans client, tracked, ?_, fun place => Udt.acts_opened opened, ?_⟩
  · exact (received_other foreign punch taken loop.udt).1.trans connection
  intro place open_
  obtain ⟨actions, done, rfl⟩ := NetEngine.step_message taken
  by_cases added : .epollAdd epollFd place ∈ actions
  · right
    have real : place ≠ INVALID_SOCK := by
      rintro rfl
      obtain ⟨turn, made⟩ := NetEngine.handleMsg_made done added rfl
      rw [punch] at made
      exact valid sock turn made
    obtain ⟨memory, str, ip, portNat, member⟩ := NetEngine.handleMsg_added done added real
    have kept := NetEngine.introduced_open client (fun turn made isMade => (news turn made isMade).2)
      done member
    exact ⟨_, NetEngine.punched_snoc.mpr ⟨kept, Or.inr ⟨memory, str, ip, portNat, member, rfl⟩⟩⟩
  · refine (known place ((Udt.acts_added added).1 open_)).imp_right ?_
    rintro ⟨id, punched⟩
    exact ⟨id, punched.later
      (punched.not_closed client (fun turn made isMade => (news turn made isMade).1) done)⟩

/-- A visit keeps track, unless it takes a closed socket for connected. -/
private theorem Sound.visited (sound : Sound bootSock past loop) (foreign : round.Foreign bootSock)
    (valid : round.Foreign INVALID_SOCK)
    (outcome : Outcome runtime epollFd round loop sock pass next log)
    (found : pass = .writefds → sock ≠ bootSock → loop.failed = false → loop.udt.opened sock = true)
    (fresh : pass = .readfds → FreshSockets (past ++ events log)) :
    Sound bootSock (past ++ events log) next := by
  cases outcome with
  | bootError => simpa [events] using sound.unwatched
  | lost peer => exact sound.lost peer
  | reconnected => simpa [events] using sound.switched .outErr
  | gaveUp => simpa [events] using sound.unwatched.stopped
  | announced => simpa [events] using sound.switched .inErr
  | connected peer succeeds =>
    exact sound.connected peer _ (found rfl (sound.boot ▸ peer) succeeds)
  | received _ punch taken => exact sound.received foreign valid punch (fresh rfl) taken

/-- The passes of a round, one after the other. -/
private theorem step_passes (taken : step runtime epollFd loop round = some (next, log)) :
    loop.returned = false ∧ ∃ errored written errors writes reads,
      Machine.sweep (fun loop sock => visit runtime epollFd round loop (.errfds, sock)) returned
        (round.fds .errfds).socks loop = some (errored, errors) ∧
      Machine.sweep (fun loop sock => visit runtime epollFd round loop (.writefds, sock)) returned
        (round.fds .writefds).socks errored = some (written, writes) ∧
      Machine.sweep (fun loop sock => visit runtime epollFd round loop (.readfds, sock)) returned
        (round.fds .readfds).socks written = some (next, reads) ∧
      log = errors ++ writes ++ reads := by
  obtain ⟨running, swept⟩ := step_swept taken
  unfold Round.visits at swept
  obtain ⟨written, front, reads, before, last, rfl⟩ := Machine.sweep_append swept
  obtain ⟨errored, errors, writes, first, second, rfl⟩ := Machine.sweep_append before
  rw [Machine.sweep_map] at first second last
  exact ⟨running, errored, written, errors, writes, reads, first, second, last, rfl⟩

theorem Outcome.state (outcome : Outcome runtime epollFd round loop sock pass next log) :
    next.state = loop.state := by
  cases outcome <;> rfl

/-- Only a message opens a socket, and a socket is only closed where it is visited. -/
theorem Outcome.opened_other (outcome : Outcome runtime epollFd round loop sock pass next log)
    (earlier : pass ≠ .readfds) (elsewhere : place ≠ sock) :
    next.udt.opened place = loop.udt.opened place := by
  cases outcome with
  | lost => exact Function.update_of_ne elsewhere ..
  | reconnected => simp [watch, unwatch]
  | announced => simp [watch, unwatch]
  | connected => simp [watch, unwatch]
  | received => exact absurd rfl earlier
  | bootError => rfl
  | gaveUp => rfl

/-- A pass visits each socket once. -/
private theorem FdSet.once {fds : FdSet} {done todo : List UDTSOCKET}
    (split : fds.socks = done ++ sock :: todo) : sock ∉ done ∧ sock ∉ todo := by
  have nodup := fds.nodup
  rw [split, List.nodup_middle, List.nodup_cons, List.mem_append, not_or] at nodup
  exact nodup.1

/-- A visit of the error pass closes its socket, unless that is `boot_sock`. -/
private theorem error_outcome (outcome : Outcome runtime epollFd round loop sock .errfds next log) :
    next.returned = loop.returned ∧ ∀ place, next.udt.opened place = true ↔
      loop.udt.opened place = true ∧ (place = sock → place = loop.bootSock) := by
  cases outcome with
  | bootError boot => exact ⟨rfl, fun place => (and_iff_left fun same => same.trans boot).symm⟩
  | lost peer =>
    refine ⟨rfl, fun place => ?_⟩
    by_cases here : place = sock
    · subst here
      simp [peer]
    · simp [here]
  | reconnected _ later => exact absurd rfl later
  | gaveUp _ later => exact absurd rfl later

/-- After the error pass, the sockets it has visited are closed, `boot_sock` apart. -/
private theorem Sound.errors (sound : Sound bootSock past loop) (running : loop.returned = false)
    (foreign : round.Foreign bootSock) (valid : round.Foreign INVALID_SOCK)
    (open_ : ∀ sock ∈ (round.fds .errfds).socks, loop.udt.opened sock = true)
    (swept : Machine.sweep (fun loop sock => visit runtime epollFd round loop (.errfds, sock))
      returned (round.fds .errfds).socks loop = some (next, log)) :
    Sound bootSock (past ++ events log) next ∧
      (∀ sock, next.udt.opened sock = (loop.udt.opened sock && !closes bootSock round sock)) ∧
      next.state = ((round.fds .errfds).socks.getLast?.map (round.status .errfds)).or loop.state := by
  have start : Sound bootSock (past ++ events []) loop := by simpa [events] using sound
  have each := Machine.sweep_invariant (fun done _ more state =>
    Sound bootSock (past ++ events more) state ∧ state.returned = false ∧
      (∀ sock, state.udt.opened sock = true ↔ loop.udt.opened sock = true ∧
        (sock ∈ done → sock = bootSock)) ∧
      state.state = (done.getLast?.map (round.status .errfds)).or loop.state) swept
  obtain ⟨visited, rest, split, ended, kept, stays, opened, state⟩ :=
    each ⟨start, running, by simp, by simp⟩ <| by
      rintro done sock todo earlier state reached more split ⟨sound, running, opened, _⟩ _ visiting
      have here : state.udt.opened sock = true :=
        (opened sock).mpr ⟨open_ sock (by rw [split]; simp), fun member =>
          absurd member (FdSet.once split).1⟩
      have outcome := visit_outcome visiting
      have kept := (sound.examined (round.status .errfds sock)).visited foreign valid outcome
        (fun wrong => by cases wrong) (fun wrong => by cases wrong)
      rw [events_append, ← List.append_assoc]
      refine ⟨kept, ?_, ?_, ?_⟩
      · rw [(error_outcome outcome).1, examine_returned, running]
      · intro place
        rw [(error_outcome outcome).2, examine_udt, examine_bootSock, sound.boot, opened,
          List.mem_append, List.mem_singleton, or_imp, and_assoc]
      · rw [outcome.state, examine_opened here]
        simp
  have all : rest = [] := ended.resolve_right (by simp [stays])
  rw [all, List.append_nil] at split
  rw [← split] at opened state
  refine ⟨kept, fun sock => ?_, state⟩
  rw [Bool.eq_iff_iff, opened]
  simp [closes, imp_iff_not_or]

private theorem lastSeen_snoc {before : List UDTSOCKET} :
    lastSeen bootSock round (before ++ [sock]) =
      if closes bootSock round sock then lastSeen bootSock round before
      else some (round.status .writefds sock) := by
  unfold lastSeen
  rw [List.filter_append]
  cases closed : closes bootSock round sock with
  | true => simp [closed]
  | false =>
    rw [List.filter_cons_of_pos (by simp [closed]), List.filter_nil, List.getLast?_concat]
    simp

/-- A `boot_sock` that fails and cannot be connected again ends the thread. -/
private theorem write_givesUp (boot : sock = loop.bootSock)
    (outcome : Outcome runtime epollFd round loop sock .writefds next log)
    (failed : loop.failed = true) (fails : round.connects .writefds = false) :
    next.returned = true := by
  cases outcome with
  | lost peer => exact absurd boot peer
  | reconnected _ _ _ connects => simp [fails] at connects
  | gaveUp => rfl
  | announced _ succeeds => simp [failed] at succeeds
  | connected peer => exact absurd boot peer

/-- The write pass, when it has done some of its visits. -/
private structure Writing (bootSock : UDTSOCKET) (round : Round) (initial : Option UDTSTATUS)
    (done todo : List UDTSOCKET) (past : List (BootEvent × Effect)) (loop : BootLoop) : Prop where
  sound : Sound bootSock past loop
  opened : ∀ sock ∈ todo, loop.udt.opened sock = !closes bootSock round sock
  seen : loop.state = (lastSeen bootSock round done).or initial
  gaveUp : GivesUp bootSock round done → loop.returned = true

section Writing
variable {initial : Option UDTSTATUS} {done todo : List UDTSOCKET}

/-- A socket that it takes for connected is open: for a closed one, it goes by what it saw
last. -/
private theorem Writing.found
    (writing : Writing bootSock round initial done (sock :: todo) past loop)
    (sees : SeesFailure bootSock round) (split : (round.fds .writefds).socks = done ++ sock :: todo)
    (running : loop.returned = false)
    (succeeds : (loop.examine (round.status .writefds sock) sock).failed = false) :
    loop.udt.opened sock = true := by
  have here := writing.opened sock List.mem_cons_self
  cases closed : closes bootSock round sock with
  | false => rw [here, closed, Bool.not_false]
  | true =>
    rw [closed] at here
    have going : ¬ GivesUp bootSock round done := fun ended => by
      simp [writing.gaveUp ended] at running
    have last := sees done sock todo split closed going
    rw [examine_closed here, BootLoop.failed, writing.seen] at succeeds
    cases known : lastSeen bootSock round done with
    | none => simp [known] at last
    | some status => simp_all

private theorem Writing.visit
    (writing : Writing bootSock round initial done (sock :: todo) past loop)
    (foreign : round.Foreign bootSock) (valid : round.Foreign INVALID_SOCK)
    (sees : SeesFailure bootSock round) (split : (round.fds .writefds).socks = done ++ sock :: todo)
    (running : loop.returned = false)
    (visiting : visit runtime epollFd round loop (.writefds, sock) = some (next, log)) :
    Writing bootSock round initial (done ++ [sock]) todo (past ++ events log) next := by
  have outcome := visit_outcome visiting
  have here := writing.opened sock List.mem_cons_self
  refine ⟨?_, fun place member => ?_, ?_, ?_⟩
  · refine (writing.sound.examined _).visited foreign valid outcome ?_ (fun wrong => by cases wrong)
    intro _ _ succeeds
    rw [examine_udt]
    exact writing.found sees split running succeeds
  · have elsewhere : place ≠ sock := by
      rintro rfl
      exact (FdSet.once split).2 member
    rw [outcome.opened_other (by simp) elsewhere, examine_udt]
    exact writing.opened place (List.mem_cons_of_mem _ member)
  · rw [outcome.state, lastSeen_snoc]
    cases closed : closes bootSock round sock with
    | true => rw [examine_closed (by rw [here, closed]; rfl), if_pos rfl, writing.seen]
    | false => rw [examine_opened (by rw [here, closed]; rfl), if_neg (by simp), Option.some_or]
  · rintro ⟨member, failed, fails⟩
    rcases List.mem_append.mp member with before | last
    · rw [writing.gaveUp ⟨before, failed, fails⟩] at running
      cases running
    · obtain rfl := List.mem_singleton.mp last
      refine write_givesUp (by rw [examine_bootSock, writing.sound.boot]) outcome ?_ fails
      rw [BootLoop.failed, examine_opened writing.sound.connection, Option.any_some, failed]

/-- The write pass keeps track, if it sees failures where it has to. -/
private theorem Sound.writes (sound : Sound bootSock past loop)
    (foreign : round.Foreign bootSock) (valid : round.Foreign INVALID_SOCK)
    (opened : ∀ sock ∈ (round.fds .writefds).socks,
      loop.udt.opened sock = !closes bootSock round sock)
    (state : loop.state =
      ((round.fds .errfds).socks.getLast?.map (round.status .errfds)).or initial)
    (sees : SeesFailure bootSock round)
    (swept : Machine.sweep (fun loop sock => visit runtime epollFd round loop (.writefds, sock))
      returned (round.fds .writefds).socks loop = some (next, log)) :
    Sound bootSock (past ++ events log) next := by
  have start : Writing bootSock round initial [] (round.fds .writefds).socks (past ++ events []) loop :=
    ⟨by simpa [events] using sound, opened, state, by simp [GivesUp]⟩
  have each := Machine.sweep_invariant (fun done todo more =>
    Writing bootSock round initial done todo (past ++ events more)) swept start
  obtain ⟨_, _, _, _, writing⟩ := each <| by
    intro done sock todo earlier state reached more split writing running visiting
    rw [events_append, ← List.append_assoc]
    exact writing.visit foreign valid sees split running visiting
  exact writing.sound

end Writing

/-- The read pass keeps track: nothing is received from a closed socket. -/
private theorem Sound.reads (sound : Sound bootSock past loop) (foreign : round.Foreign bootSock)
    (valid : round.Foreign INVALID_SOCK) (fresh : FreshSockets (past ++ events log))
    (swept : Machine.sweep (fun loop sock => visit runtime epollFd round loop (.readfds, sock))
      returned (round.fds .readfds).socks loop = some (next, log)) :
    Sound bootSock (past ++ events log) next := by
  have start : Sound bootSock (past ++ events []) loop := by simpa [events] using sound
  have each := Machine.sweep_invariant (fun _ _ more state =>
    FreshSockets (past ++ events more) → Sound bootSock (past ++ events more) state) swept
  obtain ⟨_, _, _, _, kept⟩ := each (fun _ => start) <| by
    intro done sock todo earlier state reached more _ sound _ visiting fresh
    rw [events_append, ← List.append_assoc] at fresh ⊢
    exact ((sound fresh.past).examined (round.status .readfds sock)).visited foreign valid
      (visit_outcome visiting) (fun wrong => by cases wrong) fun _ => fresh
  exact kept fresh

theorem Sound.step (sound : Sound bootSock past loop) (reported : loop.Reported round)
    (foreign : round.Foreign bootSock) (valid : round.Foreign INVALID_SOCK)
    (fresh : FreshSockets (past ++ events log)) (sees : SeesFailure bootSock round)
    (taken : step runtime epollFd loop round = some (next, log)) :
    Sound bootSock (past ++ events log) next := by
  obtain ⟨running, errored, written, errors, writes, reads, first, second, last, rfl⟩ :=
    step_passes taken
  have open_ : ∀ pass, ∀ sock ∈ (round.fds pass).socks, loop.udt.opened sock = true :=
    fun pass sock member => sound.opened sock (reported pass sock member)
  obtain ⟨afterErrors, opened, state⟩ := sound.errors running foreign valid (open_ .errfds) first
  have afterWrites := afterErrors.writes foreign valid (fun sock member => by
    rw [opened, open_ .writefds sock member, Bool.true_and]) state sees second
  simp only [events_append, ← List.append_assoc] at fresh ⊢
  exact afterWrites.reads foreign valid fresh last

end Visits

/-! ### Runs -/

section Runs
variable {runtime : Runtime} {epollFd : Int} {round : Round} {loop next : BootLoop} {self : Node}
variable {bootSock : UDTSOCKET} {connects : Bool} {log : List BootAction}
variable {trace : List (Round × List BootAction)}

theorem sound_start : Sound bootSock [] (start self bootSock connects) where
  boot := rfl
  client := rfl
  tracks := by
    refine ⟨fun sock id => ?_, fun id node present => ?_⟩
    · constructor
      · intro recorded
        simp [start] at recorded
      · rintro ⟨past, event, effect, future, split, _⟩
        simp at split
    · simp [start] at present
  connection := by simp [start]
  opened sock watched := by
    by_cases here : sock = bootSock
    · simp [start, here]
    · simp [start, here] at watched
  known sock open_ := Or.inl (by simpa [start] using open_)

/-- While the write pass takes no closed socket for connected, the recorded sockets are just
those that `startPunch` returned and that are not closed. -/
theorem tracks_of_run
    (run : Machine.Run (step runtime epollFd) (start self bootSock connects) trace loop)
    (reported : StepsMeet (step runtime epollFd) Reported (start self bootSock connects) trace)
    (foreign : ∀ round log, (round, log) ∈ trace →
      round.Foreign bootSock ∧ round.Foreign INVALID_SOCK)
    (fresh : FreshSockets (events (history bootSock connects trace)))
    (sees : ∀ round log, (round, log) ∈ trace → SeesFailure bootSock round) :
    Tracks (events (history bootSock connects trace)) loop.engine := by
  have sound : Sound bootSock (events (history bootSock connects trace)) loop := by
    induction run with
    | start => simpa [history] using sound_start
    | @step trace state next round log before taken ih =>
      rw [history_snoc, events_append] at fresh ⊢
      have sound := ih reported.past
        (fun round log member => foreign round log (List.mem_append_left _ member)) fresh.past
        (fun round log member => sees round log (List.mem_append_left _ member))
      obtain ⟨own, valid⟩ := foreign round log (by simp)
      exact sound.step (reported trace round log [] rfl state before) own valid fresh
        (sees round log (by simp)) taken
  exact sound.tracks

end Runs

end BootLoop

/-! ### Two clients, one of which cannot be reached -/

namespace Sample
open NetEngine BootLoop

/-- The `REP` that lists two clients. They are punched towards on sockets 2 and 1. -/
def listing : Env where
  recv := some ((repMsg Wire.Reference.runtime { selfId := .zero }
    { ebcNodes := [{ id := (nodeId 7).bytes }, { id := (nodeId 8).bytes }] }).serializeWithCachedSizes
      Wire.Reference.runtime)
  peerName := ⟨0, 0⟩
  punch
    | 0 => .connects 2
    | 1 => .connects 1
    | _ => .socketFails
  memory := memory

def listedRound : Round :=
  { connectedRound with
    fds
      | .readfds => oneFd 5
      | _ => noFds
    env _ := listing }

/-- Socket 2 breaks, and others are writable. -/
def brokenPeer (writefds : FdSet) : Round :=
  { connectedRound with
    fds
      | .errfds => oneFd 2
      | .writefds => writefds
      | .readfds => noFds
    status
      | .errfds, _ => .BROKEN
      | _, _ => .CONNECTED }

theorem listing_made {turn : Nat} {made : UDTSOCKET} :
    (listing.punch turn).made = some made ↔ (turn = 0 ∧ made = 2) ∨ (turn = 1 ∧ made = 1) := by
  match turn with
  | 0 => simp [listing, PunchOutcome.made, eq_comm]
  | 1 => simp [listing, PunchOutcome.made, eq_comm]
  | turn + 2 => simp [listing, PunchOutcome.made]

theorem foreign_listing {round : Round} (from_ : ∀ sock, round.env sock = listing) {sock : UDTSOCKET}
    (other : sock ≠ 2 ∧ sock ≠ 1) : round.Foreign sock := by
  intro place turn made
  rw [from_, listing_made] at made
  rcases made with ⟨_, rfl⟩ | ⟨_, rfl⟩
  · exact other.1 rfl
  · exact other.2 rfl

/-- What the engine handles as a message comes of a socket in `readfds`. -/
theorem step_messages {runtime : Wire.Runtime} {epollFd : Int} {round : Round} {loop next : BootLoop}
    {log : List BootAction} (taken : step runtime epollFd loop round = some (next, log)) {env : Env}
    {sock : UDTSOCKET} {effect : Effect} (member : (.message env sock, effect) ∈ events log) :
    sock ∈ (round.fds .readfds).socks ∧ env.punch = (round.env sock).punch := by
  obtain ⟨_, swept⟩ := step_swept taken
  have each := Machine.sweep_invariant (fun _ _ more _ => ∀ env sock effect,
    (BootEvent.message env sock, effect) ∈ events more →
      sock ∈ (round.fds .readfds).socks ∧ env.punch = (round.env sock).punch) swept (by simp [events])
  obtain ⟨_, _, _, _, origin⟩ := each <| by
    rintro done ⟨pass, visited⟩ todo past state reached more split origin _ visiting env sock effect member
    rw [events_append] at member
    rcases List.mem_append.mp member with earlier | now
    · exact origin env sock effect earlier
    · have reported : (pass, visited) ∈ round.visits := by rw [split]; simp
      cases visit_outcome visiting with
      | received _ punch =>
        cases List.mem_singleton.mp now
        exact ⟨Round.mem_visits.mp reported, punch⟩
      | lost => cases List.mem_singleton.mp now
      | connected => cases List.mem_singleton.mp now
      | bootError => cases now
      | reconnected => cases now
      | gaveUp => cases now
      | announced => cases now
  exact origin env sock effect member

theorem FreshSockets.quiet {trace later : List (BootEvent × Effect)} (fresh : FreshSockets trace)
    (silent : ∀ env sock effect, (.message env sock, effect) ∉ later) :
    FreshSockets (trace ++ later) := by
  induction later using List.reverseRecOn with
  | nil => simpa using fresh
  | append_singleton front item ih =>
    rw [← List.append_assoc]
    refine FreshSockets.snoc (ih fun env sock effect member =>
      silent env sock effect (List.mem_append_left _ member)) ?_
    rintro env sock same
    exact silent env sock item.2 (by simp [← same])

theorem FreshSockets.listing {trace : List (BootEvent × Effect)} (single : trace.length ≤ 1)
    (from_ : ∀ env sock effect, (.message env sock, effect) ∈ trace → env.punch = listing.punch) :
    FreshSockets trace := by
  rintro past env sock effect future rfl turn made isMade
  have first : past = [] := by
    rw [List.length_append, List.length_cons] at single
    exact List.length_eq_zero_iff.mp (by omega)
  subst first
  have punch := from_ env sock effect (by simp)
  rw [punch, listing_made] at isMade
  refine ⟨?_, fun other different again => ?_⟩
  · rintro id ⟨before, event, other, rest, split, _⟩
    simp at split
  · rw [punch, listing_made] at again
    rcases isMade with ⟨rfl, rfl⟩ | ⟨rfl, rfl⟩
    · exact different (again.resolve_right (by simp)).1
    · exact different (again.resolve_left (by simp)).1

/-- The ids that the handler has recorded. -/
def recordedIds (trace : List (BootEvent × Effect)) : List NodeId :=
  trace.flatMap fun (_, effect) => effect.calls.filterMap fun made => made.recorded.map Prod.snd

/-- The client connects, and both others are listed to it. -/
theorem brokenPeer_run {writefds : FdSet} {place : Option NodeId}
    (check : ((step Wire.Reference.runtime 0 (start (Node.new memory) 5 true) connectedRound).bind
      fun (first, connected) => (step Wire.Reference.runtime 0 first listedRound).bind
        fun (second, listed) => (step Wire.Reference.runtime 0 second (brokenPeer writefds)).map
          fun (third, broken) => ([first.udt.watched 5, second.udt.watched 2, second.udt.watched 1],
            (events (connected ++ listed)).length,
            recordedIds (events (connected ++ listed) ++ events broken), third.engine.owner 2)) =
      some ([some .inErr, some .all, some .all], 1, [nodeId 7, nodeId 8], place))
    (within : ∀ sock ∈ writefds.socks, sock = 1 ∨ sock = 2) :
    ∃ trace loop, Machine.Run (step Wire.Reference.runtime 0) (start (Node.new memory) 5 true) trace
        loop ∧
      trace.map Prod.fst = [connectedRound, listedRound, brokenPeer writefds] ∧
      StepsMeet (step Wire.Reference.runtime 0) Reported (start (Node.new memory) 5 true) trace ∧
      FreshSockets (events (history 5 true trace)) ∧
      ¬ EverPunched (events (history 5 true trace)) .zero ∧ loop.engine.owner 2 = place := by
  obtain ⟨⟨first, connected⟩, firstStep, rest⟩ := Option.bind_eq_some_iff.mp check
  obtain ⟨⟨second, listed⟩, secondStep, rest⟩ := Option.bind_eq_some_iff.mp rest
  obtain ⟨⟨third, broken⟩, thirdStep, facts⟩ := Option.map_eq_some_iff.mp rest
  dsimp only at secondStep thirdStep facts
  obtain ⟨watched, facts⟩ := Prod.mk.inj facts
  simp only [List.cons.injEq, and_true] at watched
  obtain ⟨boot, two, one⟩ := watched
  obtain ⟨single, facts⟩ := Prod.mk.inj facts
  obtain ⟨ids, recorded⟩ := Prod.mk.inj facts
  have whole : events (history 5 true ([] ++ [(connectedRound, connected)] ++ [(listedRound, listed)] ++
      [(brokenPeer writefds, broken)])) = events (connected ++ listed) ++ events broken := by
    rw [history_snoc, history_snoc, history_snoc, events_append, history, List.flatMap_nil,
      List.append_nil, List.append_assoc, events_append, events_startLog, List.nil_append]
  have toFirst := Machine.Run.start.step firstStep
  have toSecond := toFirst.step secondStep
  refine ⟨_, third, toSecond.step thirdStep, rfl, ?_, ?_, ?_, recorded⟩
  · refine ((Machine.StepsMeet.nil.snoc .start ?_).snoc toFirst ?_).snoc toSecond ?_
    · intro pass sock member
      cases pass with
      | writefds => cases List.mem_singleton.mp member; rfl
      | _ => cases member
    · intro pass sock member
      cases pass with
      | readfds => cases List.mem_singleton.mp member; exact Option.isSome_of_eq_some boot
      | _ => cases member
    · intro pass sock member
      cases pass with
      | errfds => cases List.mem_singleton.mp member; exact Option.isSome_of_eq_some two
      | writefds =>
        rcases within sock member with rfl | rfl
        · exact Option.isSome_of_eq_some one
        · exact Option.isSome_of_eq_some two
      | readfds => cases member
  · rw [whole]
    refine FreshSockets.quiet (FreshSockets.listing (Nat.le_of_eq single) ?_) ?_
    · intro env sock effect member
      rw [events_append] at member
      rcases List.mem_append.mp member with before | now
      · cases (step_messages firstStep before).1
      · exact (step_messages secondStep now).2
    · intro env sock effect member
      cases (step_messages thirdStep member).1
  · rw [whole]
    rintro ⟨event, effect, member, memory, str, ip, portNat, sock, call, zero⟩
    have named : NodeId.zero ∈ [nodeId 7, nodeId 8] := by
      rw [← ids]
      exact List.mem_flatMap.mpr ⟨_, member, List.mem_filterMap.mpr ⟨_, call, congrArg some zero⟩⟩
    revert named
    decide

theorem brokenPeer_foreign {writefds : FdSet} {trace : List (Round × List BootAction)}
    (rounds : trace.map Prod.fst = [connectedRound, listedRound, brokenPeer writefds]) :
    ∀ round log, (round, log) ∈ trace → round.Foreign 5 ∧ round.Foreign INVALID_SOCK := by
  intro round log member
  have listed : round ∈ trace.map Prod.fst := List.mem_map_of_mem member
  rw [rounds] at listed
  simp only [List.mem_cons, List.not_mem_nil, or_false] at listed
  rcases listed with rfl | rfl | rfl
  · exact ⟨foreign_connectedRound 5, foreign_connectedRound INVALID_SOCK⟩
  · exact ⟨foreign_listing (fun _ => rfl) (by decide), foreign_listing (fun _ => rfl) (by decide)⟩
  · exact ⟨foreign_connectedRound 5, foreign_connectedRound INVALID_SOCK⟩

/-- Both passes see that socket 2 is broken. -/
theorem tracks_of_run_broken :
    ∃ trace loop, Machine.Run (step Wire.Reference.runtime 0) (start (Node.new memory) 5 true) trace
        loop ∧
      trace.map Prod.fst = [connectedRound, listedRound, brokenPeer (oneFd 2)] ∧
      Tracks (events (history 5 true trace)) loop.engine ∧ loop.engine.owner 2 = none := by
  obtain ⟨trace, loop, run, rounds, reported, fresh, _, closed⟩ :=
    @brokenPeer_run (oneFd 2) none (by decide +kernel) (by decide)
  refine ⟨trace, loop, run, rounds, ?_, closed⟩
  refine tracks_of_run run reported (brokenPeer_foreign rounds) fresh ?_
  intro round log member
  have listed : round ∈ trace.map Prod.fst := List.mem_map_of_mem member
  rw [rounds] at listed
  simp only [List.mem_cons, List.not_mem_nil, or_false] at listed
  rintro before sock after split closed
  rcases listed with rfl | rfl | rfl
  · cases closed
  · cases closed
  · cases before with
    | nil => exact fun _ => rfl
    | cons first before =>
      have length := congrArg List.length split
      simp [brokenPeer, oneFd] at length

/-- Socket 1 is found connected after the error pass has closed socket 2, which then counts as
connected too: a closed socket is recorded, for the id that is all zero. -/
theorem tracks_counterexample :
    ∃ trace loop, Machine.Run (step Wire.Reference.runtime 0) (start (Node.new memory) 5 true) trace
        loop ∧
      StepsMeet (step Wire.Reference.runtime 0) Reported (start (Node.new memory) 5 true) trace ∧
      (∀ round log, (round, log) ∈ trace → round.Foreign 5 ∧ round.Foreign INVALID_SOCK) ∧
      FreshSockets (events (history 5 true trace)) ∧
      trace.map Prod.fst = [connectedRound, listedRound, brokenPeer ⟨[1, 2], by decide⟩] ∧
      ¬ Tracks (events (history 5 true trace)) loop.engine := by
  obtain ⟨trace, loop, run, rounds, reported, fresh, never, recorded⟩ :=
    @brokenPeer_run ⟨[1, 2], by decide⟩ (some .zero) (by decide +kernel) (by decide)
  refine ⟨trace, loop, run, reported, brokenPeer_foreign rounds, fresh, rounds, ?_⟩
  intro tracks
  exact never ((tracks.recorded 2 .zero).mp recorded).ever

end Sample

end EbcNet
