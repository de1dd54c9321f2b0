import EbcNet.Network.Sockets

/-! What the clients of a network know, in every state that it can reach: whatever of its
messages a client has received, the rest of them is still on the way. -/

namespace EbcNet

open Wire (Runtime EbcNode)
open NetEngine (Effect BootEvent Proper)
open Machine (Guarded StepsMeet)

namespace Network

/-- The addresses that the client of a connection has punched towards. -/
def punchesAt (sock : UDTSOCKET) (trace : List (NetworkEvent × Effect)) : List SockAddrIn :=
  trace.flatMap fun item =>
    match item.1 with
    | .delivers place _ _ => if place = sock then item.2.actions.filterMap Action.punched else []
    | _ => []

/-- What each step of a network keeps of a client: of what it has received, of where it
has punched, and of its engine. -/
structure Keeps (runtime : Runtime) (epollFd : Int) (guard : Network → NetworkEvent → Prop)
    (holds : List Packed → List SockAddrIn → NetEngine → Prop) : Prop where
  connects : ∀ self, holds [] [] { self, isServer := false }
  delivers : ∀ {got punched engine reached effect net sock count env place},
    holds got punched engine → guard net (.delivers sock count env) →
    (net.down sock).take count ≠ [] →
    (∀ packed ∈ net.down sock, Proper runtime packed ∧ Lists runtime packed) →
    NetEngine.bootStep runtime epollFd engine
        (.message { env with
          recv := some (((net.down sock).take count).map Packed.sent).flatten } place) =
      some (reached, effect) →
    holds (got ++ (net.down sock).take count)
      (punched ++ effect.actions.filterMap Action.punched) reached
  reaches : ∀ {got punched engine memory made}, holds got punched engine →
    engine.FindsPeer (.connected memory made) → holds got punched (engine.peerConnected memory made)
  misses : ∀ {got punched engine net sock made}, holds got punched engine →
    guard net (.misses sock made) → holds got punched (engine.delPeerNode made)

/-- What the server sent to each client is what it has received, and what is on the way. -/
def Ledger (holds : List Packed → List SockAddrIn → NetEngine → Prop)
    (trace : List (NetworkEvent × Effect)) (history : History) (net : Network) : Prop :=
  ∀ sock, ∃ got, history.inbox sock = got ++ net.down sock ∧
    (net.client sock = none → got = [] ∧ punchesAt sock trace = []) ∧
    ∀ client, net.client sock = some client → holds got (punchesAt sock trace) client.engine

section Ledger
variable {runtime : Runtime} {epollFd : Int} {home : Node} {net next : Network}
variable {guard : Network → NetworkEvent → Prop} {history : History} {sock : UDTSOCKET}
variable {holds : List Packed → List SockAddrIn → NetEngine → Prop}
variable {trace : List (NetworkEvent × Effect)} {event : NetworkEvent} {effect : Effect}

theorem Ledger.mono {other : List Packed → List SockAddrIn → NetEngine → Prop}
    (ledger : Ledger holds trace history net)
    (weaker : ∀ {got punched engine}, holds got punched engine → other got punched engine) :
    Ledger other trace history net := by
  intro sock
  obtain ⟨got, whole, absent, known⟩ := ledger sock
  exact ⟨got, whole, absent, fun client present => weaker (known client present)⟩

theorem punchesAt_snoc (sock : UDTSOCKET) (trace : List (NetworkEvent × Effect))
    (item : NetworkEvent × Effect) :
    punchesAt sock (trace ++ [item]) = punchesAt sock trace ++ punchesAt sock [item] := by
  simp [punchesAt]

/-- Where the clients and their messages are left alone. -/
private theorem Ledger.still (ledger : Ledger holds trace history net)
    (silent : ∀ sock, punchesAt sock [(event, effect)] = [])
    (client : next.client = net.client) {more : History}
    (down : ∀ sock, next.down sock = net.down sock ++ more.inbox sock) :
    Ledger holds (trace ++ [(event, effect)]) (history ++ more) next := by
  intro sock
  obtain ⟨got, whole, absent, known⟩ := ledger sock
  refine ⟨got, ?_, ?_, ?_⟩
  · rw [History.inbox_append, whole, down, List.append_assoc]
  · rw [client, punchesAt_snoc, silent, List.append_nil]
    exact absent
  · rw [client, punchesAt_snoc, silent, List.append_nil]
    exact known

/-- Where one client takes a turn. -/
private theorem Ledger.turned {client : Client} {rest : List Packed} {got : List Packed}
    (ledger : Ledger holds trace history net) (whole : history.inbox sock = got ++ rest)
    (known : holds got (punchesAt sock (trace ++ [(event, effect)])) client.engine)
    (silent : ∀ place, place ≠ sock → punchesAt place [(event, effect)] = [])
    (clients : next.client = Function.update net.client sock (some client))
    (down : next.down = Function.update net.down sock rest) :
    Ledger holds (trace ++ [(event, effect)]) history next := by
  intro place
  rw [clients, down]
  by_cases here : place = sock
  · subst here
    refine ⟨got, ?_, ?_, ?_⟩
    · rw [Function.update_self, whole]
    · rw [Function.update_self]
      intro absent
      cases absent
    · rw [Function.update_self]
      intro other same
      cases same
      exact known
  · obtain ⟨got, whole, absent, known⟩ := ledger place
    refine ⟨got, ?_, ?_, ?_⟩
    · rw [Function.update_of_ne here, whole]
    · rw [Function.update_of_ne here, punchesAt_snoc, silent place here, List.append_nil]
      exact absent
    · rw [Function.update_of_ne here, punchesAt_snoc, silent place here, List.append_nil]
      exact known

/-- A turn of a client that leaves its messages alone. -/
private theorem Ledger.turn {turn : UDTSOCKET → BootEvent}
    (ledger : Ledger holds trace history net)
    (silent : ∀ place, punchesAt place [(event, effect)] = [])
    (known : ∀ {got punched client engine}, net.client sock = some client →
      holds got punched client.engine →
      NetEngine.bootStep runtime epollFd client.engine (turn client.bootSock) =
        some (engine, effect) → holds got punched engine)
    (taken : net.turn runtime epollFd sock turn = some (next, effect)) :
    Ledger holds (trace ++ [(event, effect)]) history next := by
  obtain ⟨client, engine, present, stepped, rfl⟩ := turn_eq_some taken
  obtain ⟨got, whole, _, kept⟩ := ledger sock
  refine ledger.turned whole ?_ (fun place _ => silent place) rfl (Function.update_eq_self ..).symm
  rw [punchesAt_snoc, silent, List.append_nil]
  exact known present (kept client present) stepped

/-- What a client makes of the messages that it receives. -/
theorem bootStep_delivered {sent : List Packed} {engine reached : NetEngine} {env : Env}
    {place : UDTSOCKET} (nonempty : sent ≠ [])
    (lists : ∀ packed ∈ sent, Lists runtime packed)
    (taken : NetEngine.bootStep runtime epollFd engine
      (.message { env with recv := some (sent.map Packed.sent).flatten } place) =
        some (reached, effect)) :
    (reached, effect.actions) = if (naming sent).length ≤ 1 then
      NetEngine.introduceAll { env with recv := some (sent.map Packed.sent).flatten } epollFd engine 0
        (sent.flatMap Packed.listing) else (engine, []) := by
  have stepped : NetEngine.step runtime engine
      (.message { env with recv := some (sent.map Packed.sent).flatten } place epollFd) =
        some (reached, effect) := taken
  obtain ⟨actions, done, rfl⟩ := NetEngine.step_message stepped
  rw [NetEngine.handleMsg_glued lists nonempty rfl] at done
  exact (Option.some.inj done).symm

/-- The messages that a client receives tell it of others, each for the first time. -/
private theorem recorded_delivered {got sent : List Packed} {engine reached : NetEngine}
    {env : Env} {place : UDTSOCKET} (recorded : engine.Recorded (namesOf got))
    (once : (namesOf (got ++ sent)).Nodup) (nonempty : sent ≠ [])
    (letters : ∀ packed ∈ sent, Proper runtime packed ∧ Lists runtime packed)
    (taken : NetEngine.bootStep runtime epollFd engine
      (.message { env with recv := some (sent.map Packed.sent).flatten } place) =
        some (reached, effect)) :
    reached.Recorded (namesOf (got ++ sent)) := by
  have done := bootStep_delivered nonempty (fun packed member => (letters packed member).2) taken
  have names : namesOf (got ++ sent) =
      namesOf got ++ (sent.flatMap Packed.listing).map EbcNode.id := by
    rw [NetEngine.namesOf_append, List.map_flatMap]
    rfl
  rw [names] at once ⊢
  split at done
  · obtain rfl : reached = _ := congrArg Prod.fst done
    refine recorded.introduced ?_ once
    intro node listed
    obtain ⟨packed, member, listedHere⟩ := List.mem_flatMap.mp listed
    exact (letters packed member).1.ids node listedHere
  · obtain rfl : reached = engine := congrArg Prod.fst done
    exact recorded.mono (List.subset_append_left _ _)

private theorem Keeps.delivered {count : Nat} {env : Env} {events : List NetworkEvent}
    (keeps : Keeps runtime epollFd guard holds) (linked : Linked runtime home events history net)
    (ledger : Ledger (fun got punched engine =>
      engine.Recorded (namesOf got) ∧ holds got punched engine) trace history net)
    (guarded : guard net (.delivers sock count env))
    (taken : step runtime epollFd net (.delivers sock count env) = some (next, effect)) :
    Ledger (fun got punched engine => engine.Recorded (namesOf got) ∧ holds got punched engine)
      (trace ++ [(.delivers sock count env, effect)]) history next := by
  obtain ⟨nonempty, reached, turned, rfl⟩ := delivers_eq_some taken
  obtain ⟨client, engine, present, stepped, rfl⟩ := turn_eq_some turned
  obtain ⟨got, whole, _, known⟩ := ledger sock
  obtain ⟨recorded, kept⟩ := known client present
  have letters : ∀ packed ∈ net.down sock, Proper runtime packed ∧ Lists runtime packed := by
    intro packed member
    have sent : packed ∈ history.inbox sock := by
      rw [whole]
      exact List.mem_append_right _ member
    exact ⟨(linked.run.inbox_proper sent).1, linked.lists sock packed sent⟩
  have split : history.inbox sock =
      (got ++ (net.down sock).take count) ++ (net.down sock).drop count := by
    rw [whole, List.append_assoc, List.take_append_drop]
  have once : (namesOf (got ++ (net.down sock).take count)).Nodup := by
    have all : (namesOf (history.inbox sock)).Nodup := linked.run.namesOf_nodup
    rw [split, NetEngine.namesOf_append] at all
    exact (List.nodup_append'.mp all).1
  have now := keeps.delivers kept guarded nonempty letters stepped
  refine ledger.turned split ⟨?_, ?_⟩ ?_ rfl rfl
  · exact recorded_delivered recorded once nonempty
      (fun packed member => letters packed (List.mem_of_mem_take member)) stepped
  · rw [punchesAt_snoc]
    simpa [punchesAt] using now
  · intro place elsewhere
    simp [punchesAt, Ne.symm elsewhere]

/-- In every state that a network reaches, its clients are those that the server has
heard of, and know what they have received. -/
private theorem Keeps.tracked (keeps : Keeps runtime epollFd guard holds)
    (run : Machine.Run (step runtime epollFd) (start home) trace net)
    (meets : StepsMeet (step runtime epollFd) (fun net event => net.Admits event ∧ guard net event)
      (start home) trace) :
    ∃ history, Linked runtime home (trace.map Prod.fst) history net ∧
      Ledger (fun got punched engine => engine.Recorded (namesOf got) ∧ holds got punched engine)
        trace history net := by
  induction run with
  | start =>
    refine ⟨[], linked_start home, fun sock => ⟨[], rfl, fun _ => ⟨rfl, rfl⟩, ?_⟩⟩
    intro client absent
    cases absent
  | @step trace net next event effect before taken ih =>
    obtain ⟨history, linked, ledger⟩ := ih meets.past
    obtain ⟨admits, guarded⟩ := meets _ _ _ [] rfl _ before
    rw [List.map_append]
    cases event with
    | connects self bootSock sock =>
      refine ⟨history, linked.connects admits taken, ?_⟩
      obtain ⟨absent, packed, _, rfl⟩ := connects_eq_some taken
      obtain ⟨got, whole, unknown, _⟩ := ledger sock
      obtain ⟨rfl, silent⟩ := unknown absent
      refine ledger.turned whole ?_ (fun _ _ => rfl) rfl (Function.update_eq_self ..).symm
      rw [punchesAt_snoc, silent]
      exact ⟨NetEngine.recorded_client self, keeps.connects self⟩
    | arrives sock env =>
      obtain ⟨id, linked, _, client, down⟩ := linked.arrives admits taken
      refine ⟨_, linked, ledger.still (fun _ => rfl) client fun place => ?_⟩
      rw [down, History.inbox, List.flatMap_singleton]
    | breaks sock =>
      obtain ⟨linked, silent⟩ := linked.breaks admits taken
      refine ⟨_, linked, ?_⟩
      cases taken
      exact ledger.still (fun _ => rfl) rfl fun place => by rw [silent, List.append_nil]
    | delivers sock count env =>
      have delivered := keeps.delivered linked ledger guarded taken
      obtain ⟨_, reached, turned, rfl⟩ := delivers_eq_some taken
      obtain ⟨selves, server, up, _⟩ := turn_selves turned
      exact ⟨history, linked.apart rfl selves server up, delivered⟩
    | reaches sock memory made =>
      have turned : net.turn runtime epollFd sock (fun _ => .connected memory made) =
        some (next, effect) := taken
      obtain ⟨selves, server, up, _⟩ := turn_selves turned
      refine ⟨history, linked.apart rfl selves server up, ledger.turn (fun _ => rfl) ?_ turned⟩
      intro got punched client engine present known stepped
      obtain ⟨recorded, kept⟩ := known
      cases stepped
      have owned := admits client present
      exact ⟨recorded.connected owned, keeps.reaches kept (recorded.finds owned)⟩
    | misses sock made =>
      have turned : net.turn runtime epollFd sock (fun _ => .lost made) =
        some (next, effect) := taken
      obtain ⟨selves, server, up, _⟩ := turn_selves turned
      refine ⟨history, linked.apart rfl selves server up, ledger.turn (fun _ => rfl) ?_ turned⟩
      intro got punched client engine present known stepped
      obtain ⟨recorded, kept⟩ := known
      cases stepped
      exact ⟨recorded.lost, keeps.misses kept guarded⟩

theorem Keeps.ledger (keeps : Keeps runtime epollFd guard holds)
    (run : Machine.Run (step runtime epollFd) (start home) trace net)
    (meets : StepsMeet (step runtime epollFd) (fun net event => net.Admits event ∧ guard net event)
      (start home) trace) :
    ∃ history, Linked runtime home (trace.map Prod.fst) history net ∧
      Ledger holds trace history net := by
  obtain ⟨history, linked, ledger⟩ := keeps.tracked run meets
  exact ⟨history, linked, ledger.mono And.right⟩

end Ledger

/-! ### Two clients to evaluate the model with -/

section Two
open Sample

/-- A client of an id connects. -/
def joins (id : NodeId) (sock : UDTSOCKET) : NetworkEvent :=
  .connects (Node.ofId memory id) 5 sock

/-- An address, and a `startPunch` that returns a socket. -/
def calmEnv (addr : SockAddrIn) : Env where
  recv := none
  peerName := addr
  punch _ := .connects 9
  memory := memory

/-- Two clients connect, and then both `GET_NODE`s arrive. -/
theorem two_clients :
    ∃ (trace : List (NetworkEvent × Effect)) (net : Network),
      trace.map Prod.fst = [joins (nodeId 7) 1, joins (nodeId 8) 2, .arrives 1 (calmEnv ⟨1, 2⟩),
        .arrives 2 (calmEnv ⟨1, 3⟩)] ∧
      Guarded (step Wire.Reference.runtime 1) Quiet (start (Node.new memory)) trace net ∧
      (∃ first, net.client 1 = some first ∧ first.engine.self.id = nodeId 7) ∧
      (∃ second, net.client 2 = some second ∧ second.engine.self.id = nodeId 8) ∧
      ((step Wire.Reference.runtime 1 net (.delivers 2 1 (calmEnv ⟨1, 3⟩))).bind fun taken =>
        (taken.1.client 2).map fun client => (client.engine.peers (nodeId 7)).isSome) =
          some true := by
  have check : ((step Wire.Reference.runtime 1 (start (Node.new memory))
      (joins (nodeId 7) 1)).bind fun first =>
        (step Wire.Reference.runtime 1 first.1 (joins (nodeId 8) 2)).bind fun second =>
          (step Wire.Reference.runtime 1 second.1 (.arrives 1 (calmEnv ⟨1, 2⟩))).bind fun third =>
            (step Wire.Reference.runtime 1 third.1 (.arrives 2 (calmEnv ⟨1, 3⟩))).map fun fourth =>
              (third.1.server.clientNode.size,
                (step Wire.Reference.runtime 1 fourth.1
                  (.delivers 2 1 (calmEnv ⟨1, 3⟩))).bind fun taken =>
                    (taken.1.client 2).map fun client =>
                      (client.engine.peers (nodeId 7)).isSome)) = some (1, some true) := by
    with_unfolding_all rfl
  obtain ⟨⟨one, oneEffect⟩, firstStep, rest⟩ := Option.bind_eq_some_iff.mp check
  obtain ⟨⟨two, twoEffect⟩, secondStep, rest⟩ := Option.bind_eq_some_iff.mp rest
  obtain ⟨⟨three, threeEffect⟩, thirdStep, rest⟩ := Option.bind_eq_some_iff.mp rest
  obtain ⟨⟨four, fourEffect⟩, fourthStep, facts⟩ := Option.map_eq_some_iff.mp rest
  obtain ⟨size, knows⟩ := Prod.mk.inj facts
  dsimp only at secondStep thirdStep fourthStep size knows
  obtain ⟨_, _, _, oneIs⟩ := connects_eq_some firstStep
  obtain ⟨_, _, _, twoIs⟩ := connects_eq_some secondStep
  obtain ⟨_, _, _, _, _, threeIs⟩ := arrives_eq_some thirdStep
  obtain ⟨_, _, _, _, _, fourIs⟩ := arrives_eq_some fourthStep
  have zeroQuiet : (start (Node.new memory)).Quiet (joins (nodeId 7) 1) := ⟨nofun, trivial⟩
  have oneQuiet : one.Quiet (joins (nodeId 8) 2) := by
    refine ⟨?_, trivial⟩
    rw [oneIs]
    intro place client present
    dsimp only at present
    rw [InverseIndex.update_eq_some] at present
    rcases present with ⟨_, now⟩ | ⟨_, absent⟩
    · cases now
      decide
    · cases absent
  have twoQuiet : two.Quiet (.arrives 1 (calmEnv ⟨1, 2⟩)) := by
    refine ⟨?_, trivial⟩
    rw [twoIs, oneIs]
    exact Nat.zero_le _
  have threeQuiet : three.Quiet (.arrives 2 (calmEnv ⟨1, 3⟩)) := by
    refine ⟨?_, trivial⟩
    change three.server.clientNode.size ≤ 150
    rw [size]
    decide
  have clients : four.client = two.client := by rw [fourIs, threeIs]
  refine ⟨[(joins (nodeId 7) 1, oneEffect), (joins (nodeId 8) 2, twoEffect),
    (.arrives 1 (calmEnv ⟨1, 2⟩), threeEffect), (.arrives 2 (calmEnv ⟨1, 3⟩), fourEffect)],
    four, rfl, ?_, ?_, ?_, knows⟩
  · exact (((Guarded.nil.step zeroQuiet firstStep).step oneQuiet secondStep).step twoQuiet
      thirdStep).step threeQuiet fourthStep
  · rw [clients, twoIs, oneIs]
    exact ⟨_, rfl, rfl⟩
  · rw [clients, twoIs, oneIs]
    exact ⟨_, rfl, rfl⟩

end Two

/-! ### Whom the clients know -/

/-- Where a client punches for a node. -/
def door (node : EbcNode) : SockAddrIn := ⟨node.ip, (parPort node.portNat).toUInt16⟩

/-- A client whose peers and punches come from what it has received. -/
structure Sane (got : List Packed) (punched : List SockAddrIn) (engine : NetEngine) : Prop where
  client : engine.isServer = false
  entries : ∀ id entry, engine.peers id = some entry → entry.id = id ∧
    ∃ node ∈ got.flatMap Packed.listing, node.id = id.bytes ∧
      entry.addr = ⟨.AF_INET, (door node).sinAddr, (door node).sinPort⟩
  punches : ∃ nodes : List EbcNode, nodes.Sublist (got.flatMap Packed.listing) ∧ punched = nodes.map door

section Sane
variable {runtime : Runtime} {epollFd : Int} {engine reached : NetEngine} {env : Env}
variable {got sent : List Packed} {punched : List SockAddrIn} {effect : Effect}
variable {place : UDTSOCKET}

private theorem Sane.received (sane : Sane got punched engine) (nonempty : sent ≠ [])
    (letters : ∀ packed ∈ sent, Proper runtime packed ∧ Lists runtime packed)
    (taken : NetEngine.bootStep runtime epollFd engine
      (.message { env with recv := some (sent.map Packed.sent).flatten } place) =
        some (reached, effect)) :
    Sane (got ++ sent) (punched ++ effect.actions.filterMap Action.punched) reached := by
  have role := NetEngine.bootStep_role taken
  have done := bootStep_delivered nonempty (fun packed member => (letters packed member).2) taken
  by_cases few : (naming sent).length ≤ 1
  · rw [if_pos few] at done
    obtain ⟨rfl, introduced⟩ := Prod.mk.inj done
    refine ⟨role.trans sane.client, ?_, ?_⟩
    · intro id entry present
      rw [List.flatMap_append]
      cases before : engine.peers id with
      | none =>
        obtain ⟨node, listed, named, _, rfl⟩ := NetEngine.introduceAll_peers before present
        obtain ⟨packed, member, listedHere⟩ := List.mem_flatMap.mp listed
        obtain ⟨own, same⟩ := (letters packed member).1.ids node listedHere
        rw [same, string2NodeId_id] at named
        exact ⟨rfl, node, List.mem_append_right _ listed, by rw [same, named], rfl⟩
      | some old =>
        rw [NetEngine.introduceAll_kept before] at present
        cases present
        obtain ⟨own, node, listed, found⟩ := sane.entries id _ before
        exact ⟨own, node, List.mem_append_left _ listed, found⟩
    · obtain ⟨nodes, part, rfl⟩ := sane.punches
      refine ⟨nodes ++ sent.flatMap Packed.listing, ?_, ?_⟩
      · rw [List.flatMap_append]
        exact part.append_right _
      · rw [introduced, NetEngine.introduceAll_punched, List.map_append]
        rfl
  · rw [if_neg few] at done
    obtain ⟨rfl, silent⟩ := Prod.mk.inj done
    rw [silent]
    refine ⟨sane.client, ?_, ?_⟩
    · intro id entry present
      obtain ⟨own, node, listed, found⟩ := sane.entries id entry present
      rw [List.flatMap_append]
      exact ⟨own, node, List.mem_append_left _ listed, found⟩
    · obtain ⟨nodes, part, rfl⟩ := sane.punches
      refine ⟨nodes, ?_, List.append_nil _⟩
      rw [List.flatMap_append]
      exact part.trans (List.sublist_append_left _ _)

private theorem keeps_sane : Keeps runtime epollFd (fun _ _ => True) Sane := by
  refine ⟨?_, ?_, ?_, ?_⟩
  · intro self
    exact ⟨rfl, by simp, [], List.nil_sublist _, rfl⟩
  · intro got punched engine reached effect net sock count env place sane _ nonempty letters taken
    exact sane.received nonempty (fun packed member => letters packed (List.mem_of_mem_take member)) taken
  · intro got punched engine memory made sane finds
    refine ⟨sane.client, ?_, sane.punches⟩
    intro id entry present
    obtain ⟨found, stored⟩ := Option.isSome_iff_exists.mp finds
    rw [NetEngine.peers_peerConnected, stored, InverseIndex.update_eq_some] at present
    rcases present with ⟨rfl, now⟩ | ⟨_, old⟩
    · cases now
      exact sane.entries _ found stored
    · exact sane.entries id entry old
  · intro got punched engine net sock made sane _
    refine ⟨?_, ?_, sane.punches⟩
    · rw [← sane.client]
      unfold NetEngine.delPeerNode
      split <;> rfl
    · intro id entry present
      rw [NetEngine.peers_delPeerNode, InverseIndex.eraseVia_eq_some] at present
      exact sane.entries id entry present.2

end Sane

/-- A client knows others only, each at the address that the server has seen it at, and
has punched towards each of them once at most. -/
structure Safe (trace : List (NetworkEvent × Effect)) (net : Network) (sock : UDTSOCKET)
    (client : Client) : Prop where
  peers : ∀ id entry, client.engine.peers id = some entry → entry.id = id ∧
    ∃ place other addr, place ≠ sock ∧ net.client place = some other ∧
      other.engine.self.id = id ∧ Seen (trace.map Prod.fst) place addr ∧
      entry.addr = ⟨.AF_INET, addr.sinAddr, addr.sinPort⟩
  punches : ∃ places : List UDTSOCKET, places.Nodup ∧ sock ∉ places ∧
    List.Forall₂ (Seen (trace.map Prod.fst)) places (punchesAt sock trace)

section Runs
variable {runtime : Runtime} {epollFd : Int} {home : Node} {net : Network} {sock : UDTSOCKET}
variable {trace : List (NetworkEvent × Effect)} {history : History} {events : List NetworkEvent}

/-- Whom a client is told of is another client. -/
theorem Linked.elsewhere (linked : Linked runtime home events history net) {id : NodeId}
    {place : UDTSOCKET} (joined : history.Joined id place)
    (told : id.bytes ∈ namesOf (history.inbox sock)) : place ≠ sock := by
  rintro rfl
  rcases linked.run.mem_namesOf_inbox.mp told with punch | rep
  · exact linked.run.notSelf joined (Or.inl rfl) punch
  · exact linked.run.notSelf joined (Or.inr rfl) rep

theorem Linked.safe (linked : Linked runtime home (trace.map Prod.fst) history net)
    (ledger : Ledger Sane trace history net) {client : Client}
    (present : net.client sock = some client) : Safe trace net sock client := by
  obtain ⟨got, whole, _, known⟩ := ledger sock
  have sane := known client present
  have inbox : ∀ node ∈ got.flatMap Packed.listing, node.id ∈ namesOf (history.inbox sock) ∧
      ∃ id place addr, node.id = id.bytes ∧ history.Joined id place ∧ place ≠ sock ∧
        Seen (trace.map Prod.fst) place addr ∧ door node = addr := by
    intro node listed
    obtain ⟨packed, member, listed⟩ := List.mem_flatMap.mp listed
    have sent : packed ∈ history.inbox sock := whole ▸ List.mem_append_left _ member
    have told : node.id ∈ namesOf (history.inbox sock) :=
      List.mem_flatMap.mpr ⟨packed, sent, List.mem_map.mpr ⟨node, listed, rfl⟩⟩
    obtain ⟨id, place, addr, named, joined, seen, carries⟩ :=
      linked.addressed sock packed sent node listed
    exact ⟨told, id, place, addr, named, joined, linked.elsewhere joined (named ▸ told), seen,
      carries.eq.symm⟩
  constructor
  · intro id entry stored
    obtain ⟨own, node, listed, named, addressed⟩ := sane.entries id entry stored
    obtain ⟨_, other, place, addr, same, joined, elsewhere, seen, rfl⟩ := inbox node listed
    obtain ⟨_, known, rfl⟩ := linked.joined other place joined
    obtain ⟨found, standing, rfl⟩ := Option.map_eq_some_iff.mp known
    exact ⟨own, place, found, _, elsewhere, standing, NodeId.ext (same.symm.trans named), seen,
      addressed⟩
  · obtain ⟨nodes, part, punches⟩ := sane.punches
    have distinct : (nodes.map EbcNode.id).Nodup := by
      have all : (namesOf (history.inbox sock)).Nodup := linked.run.namesOf_nodup
      rw [whole, namesOf, List.flatMap_append, ← List.map_flatMap] at all
      exact (List.nodup_append'.mp all).1.sublist (part.map _)
    have placed : ∀ node ∈ nodes, ∃ place, (∃ id, node.id = id.bytes ∧ history.Joined id place) ∧
        place ≠ sock ∧ Seen (trace.map Prod.fst) place (door node) := by
      intro node member
      obtain ⟨_, id, place, addr, named, joined, elsewhere, seen, rfl⟩ :=
        inbox node (part.subset member)
      exact ⟨place, ⟨id, named, joined⟩, elsewhere, seen⟩
    choose! spot joined elsewhere seen using placed
    refine ⟨nodes.map spot, ?_, ?_, ?_⟩
    · refine List.Nodup.map_on ?_ (List.Nodup.of_map _ distinct)
      intro first member second memberAgain same
      obtain ⟨id, named, here⟩ := joined first member
      obtain ⟨other, namedAgain, there⟩ := joined second memberAgain
      have ids := (linked.run.joined_unique here there).mpr same
      refine List.inj_on_of_nodup_map distinct member memberAgain ?_
      rw [named, namedAgain, ids]
    · intro member
      obtain ⟨node, listed, here⟩ := List.mem_map.mp member
      exact elsewhere node listed here
    · rw [punches, List.forall₂_map_left_iff, List.forall₂_map_right_iff, List.forall₂_same]
      exact seen

theorem known_of_run (run : Machine.Run (step runtime epollFd) (start home) trace net)
    (meets : StepsMeet (step runtime epollFd) Admits (start home) trace) :
    ∃ history, Linked runtime home (trace.map Prod.fst) history net ∧ Ledger Sane trace history net :=
  (@keeps_sane runtime epollFd).ledger run fun past event effect future split before reached =>
    ⟨meets past event effect future split before reached, trivial⟩

theorem recorded_of_run (run : Machine.Run (step runtime epollFd) (start home) trace net)
    (meets : StepsMeet (step runtime epollFd) Admits (start home) trace) {client : Client}
    (present : net.client sock = some client) : ∃ told, client.engine.Recorded told := by
  obtain ⟨_, _, ledger⟩ := (@keeps_sane runtime epollFd).tracked run
    fun past event effect future split before reached =>
      ⟨meets past event effect future split before reached, trivial⟩
  obtain ⟨got, _, _, known⟩ := ledger sock
  exact ⟨namesOf got, (known client present).1⟩

/-- Whatever the order of all events, the sockets that fail and the messages that come
together: every client of a network is safe. -/
theorem safe_of_run (run : Machine.Run (step runtime epollFd) (start home) trace net)
    (meets : StepsMeet (step runtime epollFd) Admits (start home) trace) {client : Client}
    (present : net.client sock = some client) : Safe trace net sock client := by
  obtain ⟨history, linked, ledger⟩ := known_of_run run meets
  exact linked.safe ledger present

end Runs

open Sample

/-- The second client is told of the first one. -/
theorem safe_of_run_two :
    ∃ (trace : List (NetworkEvent × Effect)) (net : Network) (client : Client),
      trace.map Prod.fst = [joins (nodeId 7) 1, joins (nodeId 8) 2, .arrives 1 (calmEnv ⟨1, 2⟩),
        .arrives 2 (calmEnv ⟨1, 3⟩), .delivers 2 1 (calmEnv ⟨1, 3⟩)] ∧
      net.client 2 = some client ∧ (client.engine.peers (nodeId 7)).isSome = true ∧
      Safe trace net 2 client := by
  obtain ⟨trace, net, events, guarded, _, _, knows⟩ := two_clients
  obtain ⟨⟨next, effect⟩, taken, known⟩ := Option.bind_eq_some_iff.mp knows
  obtain ⟨client, present, known⟩ := Option.map_eq_some_iff.mp known
  have admitted : Guarded (step Wire.Reference.runtime 1) Admits (start (Node.new memory)) trace net :=
    ⟨guarded.run, fun past event effect future split before reached =>
      (guarded.meets past event effect future split before reached).1⟩
  have admits : net.Admits (.delivers 2 1 (calmEnv ⟨1, 3⟩)) := trivial
  obtain ⟨run, meets⟩ := admitted.step admits taken
  refine ⟨_, next, client, ?_, present, known, safe_of_run run meets present⟩
  rw [List.map_append, events]
  rfl

end Network

end EbcNet
