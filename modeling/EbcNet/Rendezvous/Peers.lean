import EbcNet.Boot
import EbcNet.Rendezvous.Pairs

/-! What the clients make of their introductions, in whatever order these reach them. -/

namespace EbcNet

open Wire (Bytes Runtime MsgType EbcNode)

/-- The ids that messages name, and the addresses. -/
def namesOf (letters : List Packed) : List Bytes :=
  letters.flatMap fun packed => packed.listing.map EbcNode.id

def addressesOf (letters : List Packed) : List SockAddrIn :=
  letters.flatMap fun packed =>
    packed.listing.map fun node => ⟨node.ip, (parPort node.portNat).toUInt16⟩

namespace NetEngine

/-- What `UDT::recv` returned to a client. -/
def deliveries (trace : List (BootEvent × Effect)) : List Bytes :=
  trace.filterMap fun item =>
    match item.1 with
    | .message env _ => env.recv
    | _ => none

/-- The calls of `startPunch` of a client. -/
def punches (trace : List (BootEvent × Effect)) : List SockAddrIn :=
  trace.flatMap fun item => item.2.actions.filterMap Action.punched

/-- Nothing fails: every `startPunch` returns a socket, only such sockets connect, and
none of them is lost. -/
structure Calm (trace : List (BootEvent × Effect)) : Prop where
  succeeds : ∀ env sock effect, (.message env sock, effect) ∈ trace →
    ∀ turn, ∃ made, env.punch turn = .connects made ∧ made ≠ INVALID_SOCK
  returned : ∀ past memory sock effect future,
    trace = past ++ (.connected memory sock, effect) :: future → ∃ id, Punched past sock id
  kept : ∀ sock effect, (.lost sock, effect) ∉ trace

/-- A client that was handed each of its messages once, whole and in some order. -/
structure Handed (runtime : Runtime) (self : Node) (letters : List Packed)
    (trace : List (BootEvent × Effect)) (final : NetEngine) : Prop where
  run : ∃ epollFd, Machine.Run (bootStep runtime epollFd) { self, isServer := false } trace final
  delivered : ∃ order : List Packed, order.Perm letters ∧ deliveries trace = order.map Packed.sent
  calm : Calm trace

/-- A message of a server, about clients that it knows by proper ids. -/
structure Proper (runtime : Runtime) (packed : Packed) : Prop where
  letter : Letter runtime packed
  ids : ∀ node ∈ packed.listing, ∃ id : NodeId, node.id = id.bytes

/-! ### A client at work -/

section Client
variable {runtime : Runtime} {epollFd : Int} {engine next : NetEngine} {env : Env}
variable {trace : List (BootEvent × Effect)} {order : List Packed}

/-- Every recorded socket is one of a peer. -/
def Backed (engine : NetEngine) : Prop :=
  ∀ sock id, engine.owner sock = some id → (engine.peers id).isSome

theorem Calm.past {later : List (BootEvent × Effect)} (calm : Calm (trace ++ later)) :
    Calm trace := by
  refine ⟨?_, ?_, ?_⟩
  · intro env sock effect member
    exact calm.succeeds env sock effect (List.mem_append_left _ member)
  · intro past memory sock effect future split
    exact calm.returned past memory sock effect (future ++ later) (by simp [split])
  · intro sock effect member
    exact calm.kept sock effect (List.mem_append_left _ member)

/-- A new peer is added by each introduction, as none of them fails. -/
theorem introduceAll_keys {turn : Nat} {nodes : List EbcNode} {id : NodeId}
    (succeeds : ∀ turn, ∃ made, env.punch turn = .connects made ∧ made ≠ INVALID_SOCK) :
    ((introduceAll env epollFd engine turn nodes).1.peers id).isSome ↔
      (engine.peers id).isSome ∨ ∃ node ∈ nodes, string2NodeId env.memory node.id = id := by
  induction nodes generalizing engine turn with
  | nil => simp [introduceAll]
  | cons node nodes ih =>
    have now : ((introduce env epollFd engine turn node).1.peers id).isSome ↔
        (engine.peers id).isSome ∨ string2NodeId env.memory node.id = id := by
      obtain ⟨made, connects, valid⟩ := succeeds turn
      rw [introduce, connects]
      simp only [startPunch, valid, if_false, peers_addPeerNode, InverseIndex.store_isSome]
      exact or_congr_right eq_comm
    rw [introduceAll, ih, now]
    simp [or_assoc]

/-- Adding peers keeps every peer and every recorded socket, and records its own. -/
theorem addPeers_spec {calls : List Call} (backed : engine.Backed)
    (only : ∀ made ∈ calls, ∃ memory str ip portNat sock, made = .addPeer memory str ip portNat sock) :
    (calls.foldl call engine).Backed ∧
      (∀ sock, (engine.owner sock).isSome → ((calls.foldl call engine).owner sock).isSome) ∧
      ∀ memory str ip portNat sock, .addPeer memory str ip portNat sock ∈ calls →
        ((calls.foldl call engine).owner sock).isSome := by
  induction calls generalizing engine with
  | nil => exact ⟨backed, fun sock recorded => recorded, by simp⟩
  | cons made calls ih =>
    obtain ⟨memory, str, ip, portNat, sock, rfl⟩ := only made List.mem_cons_self
    have backedNow : (engine.call (.addPeer memory str ip portNat sock)).Backed := by
      intro place id owned
      rw [call, owner_addPeerNode, InverseIndex.update_eq_some] at owned
      rw [call, peers_addPeerNode, InverseIndex.store_isSome]
      rcases owned with ⟨_, named⟩ | ⟨_, owned⟩
      · exact Or.inr (Option.some.inj named).symm
      · exact Or.inl (backed place id owned)
    have recordedNow : ∀ place, (engine.owner place).isSome ∨ place = sock →
        ((engine.call (.addPeer memory str ip portNat sock)).owner place).isSome := by
      intro place known
      rw [call, owner_addPeerNode]
      by_cases here : place = sock
      · subst here
        rw [Function.update_self]
        rfl
      · rw [Function.update_of_ne here]
        exact known.resolve_right here
    obtain ⟨backedLast, kept, recorded⟩ := ih backedNow fun other member =>
      only other (List.mem_cons_of_mem _ member)
    refine ⟨backedLast, fun place known => kept place (recordedNow place (Or.inl known)), ?_⟩
    intro memory str ip portNat place member
    rcases List.mem_cons.mp member with now | later
    · cases now
      exact kept _ (recordedNow _ (Or.inr rfl))
    · exact recorded memory str ip portNat place later

/-- What a client has made of the messages that it was handed so far. -/
structure Serving (order : List Packed) (trace : List (BootEvent × Effect)) (engine : NetEngine) :
    Prop where
  client : engine.isServer = false
  punches : punches trace = addressesOf order
  keys : ∀ id : NodeId, (engine.peers id).isSome ↔ id.bytes ∈ namesOf order
  backed : engine.Backed
  recorded : ∀ event effect, (event, effect) ∈ trace → ∀ memory str ip portNat sock,
    .addPeer memory str ip portNat sock ∈ effect.calls → (engine.owner sock).isSome

theorem punches_snoc (item : BootEvent × Effect) :
    NetEngine.punches (trace ++ [item]) =
      NetEngine.punches trace ++ item.2.actions.filterMap Action.punched := by
  simp [NetEngine.punches]

/-- A message adds peers only. -/
theorem Serving.message {sock : UDTSOCKET} {effect : Effect} {last : List Packed}
    (serving : Serving order trace engine)
    (taken : bootStep runtime epollFd engine (.message env sock) = some (next, effect))
    (punches : effect.actions.filterMap Action.punched = addressesOf last)
    (keys : ∀ id : NodeId, (next.peers id).isSome ↔
      (engine.peers id).isSome ∨ id.bytes ∈ namesOf last) :
    Serving (order ++ last) (trace ++ [(.message env sock, effect)]) next := by
  have same : step runtime engine (.message env sock epollFd) = some (next, effect) := taken
  have calls := step_calls same
  obtain ⟨actions, done, rfl⟩ := step_message same
  obtain ⟨nodes, introduced, _⟩ := client_message serving.client done
  have only : ∀ made ∈ engine.calls runtime env sock,
      ∃ memory str ip portNat sock, made = .addPeer memory str ip portNat sock := by
    intro made member
    rw [introduced] at member
    obtain ⟨node, _, made, same⟩ := mem_introductions member
    exact ⟨_, _, _, _, made, same⟩
  obtain ⟨backed, kept, recorded⟩ := addPeers_spec serving.backed only
  rw [← calls] at backed kept recorded
  refine ⟨(bootStep_role taken).trans serving.client, ?_, ?_, backed, ?_⟩
  · rw [punches_snoc, serving.punches, punches]
    simp [addressesOf]
  · intro id
    rw [keys, serving.keys]
    simp [namesOf]
  · intro event other member memory str ip portNat place made
    rcases List.mem_append.mp member with earlier | now
    · exact kept place (serving.recorded event other earlier memory str ip portNat place made)
    · cases List.mem_singleton.mp now
      exact recorded memory str ip portNat place made

theorem Serving.deliver {sock : UDTSOCKET} {effect : Effect} {packed : Packed}
    (serving : Serving order trace engine) (proper : Proper runtime packed)
    (whole : env.recv = some packed.sent)
    (succeeds : ∀ turn, ∃ made, env.punch turn = .connects made ∧ made ≠ INVALID_SOCK)
    (taken : bootStep runtime epollFd engine (.message env sock) = some (next, effect)) :
    Serving (order ++ [packed]) (trace ++ [(.message env sock, effect)]) next := by
  obtain ⟨letter, ids⟩ := proper
  have same : step runtime engine (.message env sock epollFd) = some (next, effect) := taken
  obtain ⟨actions, done, rfl⟩ := step_message same
  rw [letter.introduces.handled (letter.introduces.gets letter.fits whole)] at done
  obtain rfl : _ = next := congrArg Prod.fst (Option.some.inj done)
  obtain rfl : _ = actions := congrArg Prod.snd (Option.some.inj done)
  refine serving.message taken ?_ ?_
  · rw [introduceAll_punched]
    simp [addressesOf]
  · intro id
    rw [introduceAll_keys succeeds]
    apply or_congr_right
    simp only [namesOf, List.flatMap_singleton, List.mem_map]
    apply exists_congr
    intro node
    apply and_congr_right
    intro member
    obtain ⟨own, named⟩ := ids node member
    rw [named, string2NodeId_id]
    exact ⟨fun same => by rw [same], fun same => NodeId.ext same⟩

/-- A `UDT::recv` that fails changes nothing. -/
theorem Serving.nothing {sock : UDTSOCKET} {effect : Effect} (serving : Serving order trace engine)
    (failed : env.recv = none)
    (taken : bootStep runtime epollFd engine (.message env sock) = some (next, effect)) :
    Serving order (trace ++ [(.message env sock, effect)]) next := by
  have silent : engine.received runtime env = none := by simp [received, failed]
  have same : step runtime engine (.message env sock epollFd) = some (next, effect) := taken
  obtain ⟨actions, done, rfl⟩ := step_message same
  rw [handleMsg, silent] at done
  cases done
  rw [← List.append_nil order]
  refine serving.message taken rfl ?_
  intro id
  simp [namesOf]

/-- A connect that succeeds finds its peer, and leaves the keys as they are. -/
theorem Serving.connected {memory : Memory} {sock : UDTSOCKET} {effect : Effect} {id : NodeId}
    (serving : Serving order trace engine) (returned : Punched trace sock id)
    (taken : bootStep runtime epollFd engine (.connected memory sock) = some (next, effect)) :
    Serving order (trace ++ [(.connected memory sock, effect)]) next := by
  cases taken
  obtain ⟨past, event, effect, future, split, ⟨made, str, ip, portNat, member, _⟩, _⟩ := returned
  have known := serving.recorded event effect (by simp [split]) made str ip portNat sock member
  obtain ⟨owner, owned⟩ := Option.isSome_iff_exists.mp known
  have owners : (engine.peerConnected memory sock).owner = engine.owner := by
    rw [owner_peerConnected, owned, Option.some_or, ← owned, Function.update_eq_self]
  have keys : ∀ other, ((engine.peerConnected memory sock).peers other).isSome ↔
      (engine.peers other).isSome := by
    intro other
    have found := serving.backed sock owner owned
    rw [peers_peerConnected, owned, Option.getD_some]
    by_cases same : other = owner
    · subst same
      rw [Function.update_self]
      exact ⟨fun _ => found, fun _ => rfl⟩
    · rw [Function.update_of_ne same]
  refine ⟨serving.client, ?_, ?_, ?_, ?_⟩
  · rw [punches_snoc, serving.punches]
    exact List.append_nil _
  · intro other
    rw [keys, serving.keys]
  · intro place other owned
    rw [owners] at owned
    rw [keys]
    exact serving.backed place other owned
  · intro event other member memory str ip portNat place made
    rw [owners]
    rcases List.mem_append.mp member with earlier | now
    · exact serving.recorded event other earlier memory str ip portNat place made
    · cases List.mem_singleton.mp now
      simp at made

theorem deliveries_snoc (item : BootEvent × Effect) :
    deliveries (trace ++ [item]) = deliveries trace ++ deliveries [item] := by
  simp [deliveries]

/-- A client that is handed proper messages punches towards all nodes in them, in their
order, and its peers are just these. -/
theorem serving_of_run {self : Node} {final : NetEngine}
    (run : Machine.Run (bootStep runtime epollFd) { self, isServer := false } trace final)
    (calm : Calm trace) (proper : ∀ packed ∈ order, Proper runtime packed)
    (delivered : deliveries trace = order.map Packed.sent) : Serving order trace final := by
  induction run generalizing order with
  | start =>
    have empty : order = [] := by
      cases order with
      | nil => rfl
      | cons first others => simp [deliveries] at delivered
    subst empty
    exact ⟨rfl, rfl, by simp [namesOf], by simp [Backed], by simp⟩
  | @step trace engine next event effect before taken ih =>
    rw [deliveries_snoc] at delivered
    cases event with
    | message env sock =>
      cases arrived : env.recv with
      | none =>
        have nothing : deliveries [((BootEvent.message env sock), effect)] = [] := by
          simp [deliveries, arrived]
        rw [nothing, List.append_nil] at delivered
        have serving := ih calm.past proper delivered
        exact serving.nothing arrived taken
      | some bytes =>
        have one : deliveries [((BootEvent.message env sock), effect)] = [bytes] := by
          simp [deliveries, arrived]
        rw [one] at delivered
        obtain ⟨front, last, rfl, earlier, now⟩ := List.map_eq_append_iff.mp delivered.symm
        obtain ⟨packed, rest, rfl, sent, none⟩ := List.map_eq_cons_iff.mp now
        obtain rfl := List.map_eq_nil_iff.mp none
        have serving := ih calm.past
          (fun other member => proper other (List.mem_append_left _ member)) earlier.symm
        exact serving.deliver (proper packed (by simp)) (by rw [arrived, sent])
          (calm.succeeds env sock effect (List.mem_append_right _ (List.mem_singleton_self _))) taken
    | connected memory sock =>
      have nothing : deliveries [((BootEvent.connected memory sock), effect)] = [] := by
        simp [deliveries]
      rw [nothing, List.append_nil] at delivered
      obtain ⟨id, returned⟩ := calm.returned trace memory sock effect [] rfl
      exact (ih calm.past proper delivered).connected returned taken
    | lost sock => exact absurd (List.mem_append_right _ List.mem_cons_self) (calm.kept sock effect)

end Client

end NetEngine

end EbcNet
