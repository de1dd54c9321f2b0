import EbcNet.Boot
import EbcNet.Wire.Merge
import EbcNet.Wire.Reference

/-! The hello thread: every few seconds it greets all peers, with one object and one buffer
for all of them. -/

namespace EbcNet

open Wire (Bytes Runtime MsgType MsgSubType EbcMsg Body intMax)
open NetEngine (Effect BootEvent)
open Machine (StepsMeet)

/-- `sprintf(hello_buf, "hello count = %d", count)` -/
def helloBuf (count : Nat) : Bytes :=
  (['h', 'e', 'l', 'l', 'o', ' ', 'c', 'o', 'u', 'n', 't', ' ', '=', ' '] ++
    Nat.toDigits 10 count).map Char.toUInt8

namespace NetEngine

/-- The loop over the peers. The object and the buffer are those that the last peer left. -/
def greet (runtime : Runtime) (text : Bytes) :
    MsgPack → Bytes → List Node → Option (List Action)
  | _, _, [] => some []
  | object, msgBuf, peer :: peers =>
    (object.pack runtime .REP (.text text) (some msgBuf) 1024 .DATA peer.id).bind fun packed =>
      (greet runtime text packed.object (packed.buf.getD []) peers).map fun later =>
        .send peer.sock packed :: later

/-- One round of `sendHello`. -/
def sendHello (runtime : Runtime) (engine : NetEngine) (count : Nat) : Option (List Action) :=
  greet runtime (helloBuf count) { selfId := engine.self.id } (List.replicate 1024 0)
    engine.peerList

end NetEngine

/-- A client with the count of its hello thread. -/
structure Greeter where
  engine : NetEngine
  count : Nat := 0

/-- The boot loop takes up something, or the hello thread wakes. -/
inductive GreeterEvent where
  | boot (event : BootEvent)
  | hello

/-- The count is an `int`, which must not overflow. -/
def Greeter.step (runtime : Runtime) (epollFd : Int) : Machine.Step Greeter GreeterEvent Effect
  | greeter, .boot event =>
    (NetEngine.bootStep runtime epollFd greeter.engine event).map fun taken =>
      ({ greeter with engine := taken.1 }, taken.2)
  | greeter, .hello =>
    if greeter.count < intMax then
      (greeter.engine.sendHello runtime greeter.count).map fun actions =>
        ({ greeter with count := greeter.count + 1 }, { actions, calls := [] })
    else none

/-! ### One hello -/

/-- The message of a hello, whatever the object was used for before. -/
def hello (selfId dstId : NodeId) (count : Nat) : EbcMsg where
  head := msgHead
  version := NET_VERSION
  srcId := selfId.bytes
  dstId := dstId.bytes
  type := MsgType.REP.toInt32
  subType := MsgSubType.DATA.toInt32
  length := UInt32.ofNat (helloBuf count).length
  body := .msg (helloBuf count)

section Text
variable {count other : Nat}

private theorem toUInt8_toNat {char : Char} (small : char.toNat < 128) :
    char.toUInt8.toNat = char.toNat := by
  have value : char.toUInt8.toNat = char.toNat % 256 := UInt32.toNat_toUInt8 char.val
  rw [value, Nat.mod_eq_of_lt (by omega)]

private theorem toDigits_small {digit : Char} (member : digit ∈ Nat.toDigits 10 count) :
    0 < digit.toNat ∧ digit.toNat < 128 := by
  have digits := Nat.isDigit_of_mem_toDigits (by decide) (by decide) member
  rw [Char.isDigit, Bool.and_eq_true, decide_eq_true_eq, decide_eq_true_eq] at digits
  have least : 48 ≤ digit.toNat := digits.1
  have most : digit.toNat ≤ 57 := digits.2
  omega

/-- A hello is ASCII, and ends where its buffer does. -/
theorem helloBuf_ascii : ∀ byte ∈ helloBuf count, byte ≠ 0 ∧ byte < 128 := by
  intro byte member
  obtain ⟨char, listed, rfl⟩ := List.mem_map.mp member
  have small : 0 < char.toNat ∧ char.toNat < 128 := by
    rcases List.mem_append.mp listed with fixed | digit
    · have all : ∀ char ∈ ['h', 'e', 'l', 'l', 'o', ' ', 'c', 'o', 'u', 'n', 't', ' ', '=', ' '],
          0 < char.toNat ∧ char.toNat < 128 := by simp
      exact all char fixed
    · exact toDigits_small digit
  have value := toUInt8_toNat small.2
  constructor
  · intro zero
    rw [zero] at value
    exact absurd small.1 (by rw [← value]; decide)
  · rw [UInt8.lt_iff_toNat_lt, value]
    exact small.2

/-- It fits `hello_buf`, with the zero behind it. -/
theorem helloBuf_length (small : count < intMax) :
    0 < (helloBuf count).length ∧ (helloBuf count).length < 64 := by
  have digits : (Nat.toDigits 10 count).length ≤ 10 := by
    rw [Nat.length_toDigits_le_iff (by decide) (by decide)]
    unfold intMax at small
    omega
  rw [helloBuf, List.length_map, List.length_append]
  simp only [List.length_cons, List.length_nil]
  omega

theorem helloBuf_inj : helloBuf count = helloBuf other ↔ count = other := by
  refine ⟨fun same => ?_, fun same => by rw [same]⟩
  have restored : ∀ count, ((Nat.toDigits 10 count).map Char.toUInt8).map
      (fun byte => Char.ofNat byte.toNat) = Nat.toDigits 10 count := by
    intro count
    rw [List.map_map]
    refine (List.map_congr_left fun digit member => ?_).trans (List.map_id _)
    rw [Function.comp_apply, toUInt8_toNat (toDigits_small member).2, Char.ofNat_toNat]
    rfl
  rw [helloBuf, helloBuf, List.map_append, List.map_append, List.append_cancel_left_eq] at same
  rw [← @Nat.ofDigitChars_ten_toDigits count, ← restored, same, restored,
    Nat.ofDigitChars_ten_toDigits]

end Text

section Hello
variable {runtime : Runtime} {selfId dstId : NodeId} {count : Nat}

theorem hello_fits (small : count < intMax) :
    (hello selfId dstId count).byteSizeLong runtime ≤ 1024 := by
  have size := (hello selfId dstId count).byteSizeLong_le runtime
  have text := (helloBuf_length small).2
  have counted := Wire.lengthDelimitedSize_le (helloBuf count).length
  have version : NET_VERSION.length = 6 := rfl
  simp only [hello, List.length_nil, selfId.length_eq, dstId.length_eq, idLength, version,
    Body.byteSizeLong] at size ⊢
  omega

theorem hello_sound : (hello selfId dstId count).Sound runtime :=
  ⟨rfl, MsgPack.version_valid, trivial, .nil⟩

theorem hello_observable : (hello selfId dstId count).observable runtime = hello selfId dstId count := by
  simp [EbcMsg.observable, hello, Body.observable, unknownFields_nil]

/-- What an object may have been used for before it packs a hello. -/
structure Bare (object : MsgPack) (selfId : NodeId) : Prop where
  selfId : object.selfId = selfId
  ttl : object.ebcMsg.ttl = 0
  id : object.ebcMsg.id = 0
  unknown : object.ebcMsg.unknown = []

theorem pack_hello {object : MsgPack} (bare : Bare object selfId) (msgBuf : Bytes)
    (small : count < intMax) :
    ∃ packed, object.pack runtime .REP (.text (helloBuf count)) (some msgBuf) 1024 .DATA dstId =
        some packed ∧ Bare packed.object selfId ∧
      packed.sent = (hello selfId dstId count).serializeWithCachedSizes runtime := by
  obtain ⟨packed, done⟩ : ∃ packed, object.pack runtime .REP (.text (helloBuf count))
    (some msgBuf) 1024 .DATA dstId = some packed := ⟨_, rfl⟩
  have whole : (helloBuf count).takeWhile (· ≠ 0) = helloBuf count := by
    rw [List.takeWhile_eq_self_iff]
    intro byte member
    exact decide_eq_true (helloBuf_ascii byte member).1
  have message : packed.object = { selfId, ebcMsg := hello selfId dstId count } := by
    obtain ⟨own, ttl, id, unknown⟩ := bare
    have assembled := (MsgPack.pack_eq done).1
    rw [MsgPack.assemble] at assembled
    dsimp only at assembled
    rw [whole] at assembled
    rw [← Option.some.inj assembled]
    simp [hello, EbcMsg.setMsg, own, ttl, id, unknown]
  refine ⟨packed, done, ?_, ?_⟩
  · rw [message]
    exact ⟨rfl, rfl, rfl, rfl⟩
  · have fits : packed.object.ebcMsg.byteSizeLong runtime ≤ (1024 : Int32).toInt := by
      rw [message]
      exact Int.ofNat_le.mpr (hello_fits small)
    rw [MsgPack.sent_eq done fits, message]

end Hello

/-! ### A round -/

/-- A peer is sent the hello that is addressed to it, whole. -/
def Greets (runtime : Runtime) (selfId : NodeId) (count : Nat) (peer : Node) (action : Action) :
    Prop :=
  ∃ packed, action = .send peer.sock packed ∧
    packed.sent = (hello selfId peer.id count).serializeWithCachedSizes runtime

namespace NetEngine

section Round
variable {runtime : Runtime} {engine : NetEngine} {count : Nat}

private theorem greet_spec {selfId : NodeId} {object : MsgPack} (bare : Bare object selfId)
    (msgBuf : Bytes) (small : count < intMax) (peers : List Node) :
    ∃ actions, greet runtime (helloBuf count) object msgBuf peers = some actions ∧
      List.Forall₂ (Greets runtime selfId count) peers actions := by
  induction peers generalizing object msgBuf with
  | nil => exact ⟨[], rfl, .nil⟩
  | cons peer peers ih =>
    obtain ⟨packed, done, bareStill, sent⟩ := pack_hello bare msgBuf small
    obtain ⟨later, rest, greeted⟩ := ih bareStill (packed.buf.getD [])
    refine ⟨.send peer.sock packed :: later, ?_, .cons ⟨packed, rfl, sent⟩ greeted⟩
    rw [greet, done, Option.bind_some, rest]
    rfl

theorem Keyed.peerList_pairwise (keyed : engine.Keyed) :
    engine.peerList.Pairwise fun first second => first.id ≠ second.id := by
  unfold peerList
  rw [List.pairwise_map]
  refine (Std.ExtTreeMap.distinct_keys_toList).imp_of_mem ?_
  intro first second firstMember secondMember distinct same
  have firstPresent := Std.ExtTreeMap.mem_toList_iff_getElem?_eq_some.mp firstMember
  have secondPresent := Std.ExtTreeMap.mem_toList_iff_getElem?_eq_some.mp secondMember
  rw [keyed.2 _ _ firstPresent, keyed.2 _ _ secondPresent] at same
  apply distinct
  rw [same]
  exact Std.ReflCmp.compare_self

theorem sendHello_spec (small : count < intMax) :
    ∃ actions, engine.sendHello runtime count = some actions ∧
      List.Forall₂ (Greets runtime engine.self.id count) engine.peerList actions :=
  greet_spec ⟨rfl, rfl, rfl, rfl⟩ _ small _

end Round

end NetEngine

/-! ### Rounds between the events of the boot loop -/

def GreeterEvent.isHello : GreeterEvent → Bool
  | .hello => true
  | _ => false

/-- What a hello round does: one hello for each peer of the registry, under its own id and
on its own socket, all with the number of this round. -/
structure HelloRound (runtime : Runtime) (selfId : NodeId) (past : List (GreeterEvent × Effect))
    (engine : NetEngine) (effect : Effect) : Prop where
  greets : List.Forall₂ (Greets runtime selfId (past.countP fun item => item.1.isHello))
    engine.peerList effect.actions
  peers : ∀ id node, engine.peers id = some node ↔ node.id = id ∧ node ∈ engine.peerList
  once : engine.peerList.Pairwise fun first second => first.id ≠ second.id

namespace Greeter

section Runs
variable {runtime : Runtime} {epollFd : Int} {self : Node} {greeter next : Greeter}
variable {trace : List (GreeterEvent × Effect)} {event : GreeterEvent} {effect : Effect}

/-- A connect-success finds the peer that it is about. -/
def FindsPeer (greeter : Greeter) : GreeterEvent → Prop
  | .boot event => greeter.engine.FindsPeer event
  | .hello => True

/-- A round greets all peers and only counts on. -/
theorem step_hello (taken : step runtime epollFd greeter .hello = some (next, effect)) :
    greeter.count < intMax ∧
      List.Forall₂ (Greets runtime greeter.engine.self.id greeter.count) greeter.engine.peerList
        effect.actions ∧
      next.engine = greeter.engine ∧ next.count = greeter.count + 1 := by
  dsimp only [step] at taken
  split at taken
  · obtain ⟨actions, sent, same⟩ := Option.map_eq_some_iff.mp taken
    cases same
    obtain ⟨again, sentAgain, greeted⟩ := NetEngine.sendHello_spec ‹_›
    rw [sent] at sentAgain
    cases sentAgain
    exact ⟨‹_›, greeted, rfl, rfl⟩
  · cases taken

private theorem step_count (taken : step runtime epollFd greeter event = some (next, effect)) :
    next.count = greeter.count + [(event, effect)].countP fun item => item.1.isHello := by
  cases event with
  | boot event =>
    obtain ⟨_, _, same⟩ := Option.map_eq_some_iff.mp taken
    cases same
    rfl
  | hello => exact (step_hello taken).2.2.2

/-- The count is that of the rounds. -/
theorem count_of_run
    (run : Machine.Run (step runtime epollFd) { engine := { self, isServer := false } } trace greeter) :
    greeter.count = trace.countP fun item => item.1.isHello := by
  induction run with
  | start => rfl
  | step before taken ih => rw [step_count taken, ih, List.countP_append]

/-- What holds of a greeter as long as each connect-success finds its peer. -/
structure Greeting (home : Node) (greeter : Greeter) : Prop where
  own : greeter.engine.self = home
  keyed : greeter.engine.Keyed

private theorem bootStep_keyed {engine reached : NetEngine} {event : BootEvent}
    (keyed : engine.Keyed) (finds : engine.FindsPeer event)
    (taken : NetEngine.bootStep runtime epollFd engine event = some (reached, effect)) :
    reached.Keyed := by
  cases event with
  | message env sock =>
    have same : NetEngine.step runtime engine (.message env sock epollFd) =
      some (reached, effect) := taken
    exact NetEngine.step_preserves NetEngine.Keyed.call keyed same
  | connected memory sock =>
    cases taken
    obtain ⟨found, stored⟩ := Option.isSome_iff_exists.mp finds
    refine ⟨keyed.1, ?_⟩
    intro id node present
    rw [NetEngine.peers_peerConnected, stored, InverseIndex.update_eq_some] at present
    rcases present with ⟨rfl, now⟩ | ⟨_, old⟩
    · cases now
      exact keyed.2 _ found stored
    · exact keyed.2 id node old
  | lost sock =>
    have same : NetEngine.step runtime engine (.peerLost sock) = some (reached, effect) := taken
    exact NetEngine.step_preserves NetEngine.Keyed.call keyed same

private theorem Greeting.step (greeting : Greeting self greeter) (finds : greeter.FindsPeer event)
    (taken : Greeter.step runtime epollFd greeter event = some (next, effect)) :
    Greeting self next := by
  cases event with
  | boot event =>
    obtain ⟨⟨engine, other⟩, stepped, same⟩ := Option.map_eq_some_iff.mp taken
    cases same
    exact ⟨(NetEngine.bootStep_self stepped).trans greeting.own,
      bootStep_keyed greeting.keyed finds stepped⟩
  | hello =>
    obtain ⟨_, _, engine, _⟩ := step_hello taken
    constructor
    · rw [engine]
      exact greeting.own
    · rw [engine]
      exact greeting.keyed

theorem greeting_of_run
    (run : Machine.Run (step runtime epollFd) { engine := { self, isServer := false } } trace greeter)
    (finds : StepsMeet (step runtime epollFd) FindsPeer { engine := { self, isServer := false } }
      trace) : Greeting self greeter :=
  run.guarded ⟨rfl, by simp [NetEngine.Keyed]⟩ Greeting.step finds

/-- Over any events between them in which each connect-success finds its peer, each round
of the hello thread greets just the peers that stand in the registry, once each, and leaves
them as they are. -/
theorem rounds_of_run
    (run : Machine.Run (step runtime epollFd) { engine := { self, isServer := false } } trace greeter)
    (finds : StepsMeet (step runtime epollFd) FindsPeer { engine := { self, isServer := false } }
      trace) :
    ∀ past effect future, trace = past ++ (.hello, effect) :: future → ∃ before after : Greeter,
      Machine.Run (step runtime epollFd) { engine := { self, isServer := false } } past before ∧
      Machine.Run (step runtime epollFd) after future greeter ∧ after.engine = before.engine ∧
      HelloRound runtime self.id past before.engine effect := by
  rintro past effect future rfl
  obtain ⟨before, after, reached, taken, rest⟩ := run.at
  obtain ⟨own, keyed⟩ := greeting_of_run reached finds.past
  obtain ⟨_, greeted, same, _⟩ := step_hello taken
  rw [own, count_of_run reached] at greeted
  refine ⟨before, after, reached, rest, same, greeted, ?_, keyed.peerList_pairwise⟩
  intro id node
  constructor
  · intro present
    exact ⟨keyed.2 id node present, NetEngine.mem_peerList.mpr ⟨id, present⟩⟩
  · rintro ⟨rfl, member⟩
    obtain ⟨id, present⟩ := NetEngine.mem_peerList.mp member
    rw [keyed.2 id node present]
    exact present

end Runs

open Sample NetEngine in
/-- A peer is announced, connects, and is greeted then. -/
theorem rounds_of_run_peer :
    ∃ (trace : List (GreeterEvent × Effect)) (greeter : Greeter) (effect : Effect),
      trace.map Prod.fst =
        [.boot (announced (nodeId 7) ⟨1, 2⟩ 1), .boot (.connected memory 1)] ∧
      greeter.engine.peerList.length = 1 ∧
      HelloRound Wire.Reference.runtime (Node.new memory).id trace greeter.engine effect := by
  have check : ((step Wire.Reference.runtime 0 { engine := client }
      (.boot (announced (nodeId 7) ⟨1, 2⟩ 1))).bind fun first =>
        (step Wire.Reference.runtime 0 first.1 (.boot (.connected memory 1))).bind fun second =>
          (step Wire.Reference.runtime 0 second.1 .hello).map fun third =>
            ((first.1.engine.peers ((first.1.engine.owner 1).getD .zero)).isSome,
              second.1.engine.peerList.length)) = some (true, 1) := by
    decide +kernel
  obtain ⟨⟨first, firstEffect⟩, firstStep, rest⟩ := Option.bind_eq_some_iff.mp check
  obtain ⟨⟨second, secondEffect⟩, secondStep, rest⟩ := Option.bind_eq_some_iff.mp rest
  obtain ⟨⟨third, thirdEffect⟩, thirdStep, facts⟩ := Option.map_eq_some_iff.mp rest
  obtain ⟨found, one⟩ := Prod.mk.inj facts
  have introduced := Machine.Run.start.step firstStep
  have reached := introduced.step secondStep
  have rounds := rounds_of_run (reached.step thirdStep)
    (((Machine.StepsMeet.nil.snoc .start trivial).snoc introduced found).snoc reached trivial)
  obtain ⟨before, _, again, _, _, round⟩ := rounds _ thirdEffect [] rfl
  rw [again.unique reached] at round
  exact ⟨_, second, thirdEffect, rfl, one, round⟩

end Greeter

/-! ### Hellos that come together -/

section Reception
variable {runtime : Runtime} {epollFd : Int} {packed last : Packed} {sent earlier : List Packed}
variable {number : Nat} {receiver : NetEngine} {env : Env} {sock : UDTSOCKET}

/-- In some run of a client, its hello thread sends the hello of a number. -/
def SendsHello (runtime : Runtime) (packed : Packed) (number : Nat) : Prop :=
  ∃ (epollFd : Int) (home : Node) (past : List (GreeterEvent × Effect)) (before after : Greeter)
    (effect : Effect) (sock : UDTSOCKET),
    Machine.Run (Greeter.step runtime epollFd) { engine := { self := home, isServer := false } }
      past before ∧
    Greeter.step runtime epollFd before .hello = some (after, effect) ∧
    .send sock packed ∈ effect.actions ∧ number = past.countP fun item => item.1.isHello

/-- The bytes are those of a hello. -/
def IsHello (runtime : Runtime) (packed : Packed) (number : Nat) (msg : EbcMsg) : Prop :=
  number < intMax ∧ packed.sent = msg.serializeWithCachedSizes runtime ∧
    ∃ selfId dstId, msg = hello selfId dstId number

theorem SendsHello.isHello (sends : SendsHello runtime packed number) :
    ∃ msg, IsHello runtime packed number msg := by
  obtain ⟨_, home, past, before, after, effect, sock, reached, taken, member, counted⟩ := sends
  have count := (Greeter.count_of_run reached).trans counted.symm
  obtain ⟨small, greeted, _⟩ := Greeter.step_hello taken
  obtain ⟨place, bound, here⟩ := List.getElem_of_mem member
  obtain ⟨other, same, bytes⟩ := greeted.get (by rwa [greeted.length_eq]) bound
  rw [List.get_eq_getElem, here] at same
  cases same
  subst count
  exact ⟨_, small, bytes, _, _, rfl⟩

/-- All that a hello tells takes the place of what was there. -/
private theorem mergeFrom_hello {msg : EbcMsg} {selfId dstId : NodeId} (small : number < intMax)
    (ttl : msg.ttl = 0) (id : msg.id = 0) (unknown : msg.unknown = []) :
    msg.mergeFrom (hello selfId dstId number) = hello selfId dstId number := by
  have text := helloBuf_length small
  have counted : UInt32.ofNat (helloBuf number).length ≠ 0 := by
    intro zero
    have same := congrArg UInt32.toNat zero
    rw [UInt32.toNat_ofNat_of_lt' (Nat.lt_trans text.2 (by decide))] at same
    exact absurd same (by simpa using text.1.ne')
  have headed : msgHead ≠ 0 := by decide
  have named : ∀ id : NodeId, id.bytes.length > 0 := by
    intro id
    rw [id.length_eq]
    decide
  have version : NET_VERSION.length > 0 := by decide
  have rep : MsgType.REP.toInt32 ≠ 0 := by decide
  have data : MsgSubType.DATA.toInt32 ≠ 0 := by decide
  rw [EbcMsg.mergeFrom_fields]
  simp [hello, counted, headed, named, version, rep, data, ttl, id, unknown, EbcMsg.mergeBody,
    EbcMsg.setMsg]

/-- Of hellos that come together the last one is read. -/
private theorem foldl_hello {messages : List EbcMsg} {msg : EbcMsg}
    (hellos : ∀ other ∈ messages ++ [msg], ∃ selfId dstId number, number < intMax ∧
      other = hello selfId dstId number) :
    (messages ++ [msg]).foldl EbcMsg.mergeFrom {} = msg := by
  induction messages using List.reverseRecOn generalizing msg with
  | nil =>
    obtain ⟨_, _, _, small, rfl⟩ := hellos msg (by simp)
    exact mergeFrom_hello small rfl rfl rfl
  | append_singleton messages before ih =>
    obtain ⟨_, _, _, small, rfl⟩ := hellos msg (by simp)
    rw [List.foldl_append, ih fun other member => hellos other (List.mem_append_left _ member)]
    obtain ⟨_, _, _, _, rfl⟩ := hellos before (by simp)
    exact mergeFrom_hello small rfl rfl rfl

theorem parse_hellos {messages : List EbcMsg} {msg : EbcMsg}
    (hellos : ∀ other ∈ messages ++ [msg], ∃ selfId dstId number, number < intMax ∧
      other = hello selfId dstId number) :
    EbcMsg.parseFromArray runtime
      ((messages ++ [msg]).flatMap (EbcMsg.serializeWithCachedSizes runtime)) = some msg := by
  rw [EbcMsg.parse_flatMap, foldl_hello hellos]
  · obtain ⟨_, _, _, _, rfl⟩ := hellos msg (by simp)
    rw [hello_observable]
  · intro other member
    obtain ⟨_, _, _, _, rfl⟩ := hellos other member
    exact hello_sound.valid
  · intro other member
    obtain ⟨_, _, _, small, rfl⟩ := hellos other member
    exact Nat.le_trans (hello_fits small) (by decide)

/-- Hellos of any clients that come together are read as the last one of them. -/
private theorem hellos_received
    (hellos : ∀ packed ∈ earlier ++ [last], ∃ number, SendsHello runtime packed number)
    (latest : SendsHello runtime last number)
    (together : env.recv = some ((earlier ++ [last]).map Packed.sent).flatten) :
    ∃ selfId dstId, receiver.received runtime env =
      some { selfId := receiver.self.id, ebcMsg := hello selfId dstId number } := by
  choose! numbers sends using hellos
  have messages : ∀ packed ∈ earlier, ∃ msg : EbcMsg,
      packed.sent = msg.serializeWithCachedSizes runtime ∧
        ∃ selfId dstId number, number < intMax ∧ msg = hello selfId dstId number := by
    intro packed member
    obtain ⟨msg, small, bytes, selfId, dstId, same⟩ :=
      (sends packed (List.mem_append_left _ member)).isHello
    exact ⟨msg, bytes, selfId, dstId, _, small, same⟩
  have : Nonempty EbcMsg := ⟨{}⟩
  choose! message bytes hellos using messages
  obtain ⟨msg, small, lastBytes, selfId, dstId, rfl⟩ := latest.isHello
  have written : ((earlier ++ [last]).map Packed.sent).flatten =
      (earlier.map message ++ [hello selfId dstId number]).flatMap
        (EbcMsg.serializeWithCachedSizes runtime) := by
    rw [List.map_append, List.flatten_append, List.flatMap_append, List.flatMap_map,
      List.flatMap_def, List.map_congr_left bytes]
    simp [lastBytes]
  refine ⟨selfId, dstId, ?_⟩
  rw [NetEngine.received, together, Option.bind_some, written, MsgPack.unpack_eq_some]
  have typed : MsgType.REP.toInt32 ≠ MsgType.EMPTY.toInt32 := by decide
  refine ⟨parse_hellos ?_, rfl, rfl, typed, ?_⟩
  · intro other member
    rcases List.mem_append.mp member with listed | only
    · obtain ⟨packed, sent, rfl⟩ := List.mem_map.mp listed
      exact hellos packed sent
    · rw [List.mem_singleton.mp only]
      exact ⟨_, _, _, small, rfl⟩
  · exact UInt32.toNat_ofNat_of_lt' (Nat.lt_trans (helloBuf_length small).2 (by decide))

private theorem hello_ignored {object : MsgPack} {selfId dstId : NodeId}
    (accepted : receiver.received runtime env = some object)
    (read : object.ebcMsg = hello selfId dstId number) :
    receiver.handleMsg runtime env sock epollFd = some (receiver, []) := by
  unfold NetEngine.handleMsg
  rw [accepted]
  dsimp only
  rw [read]
  rfl

/-- What comes from the other clients: nothing, or hellos. -/
def Greeted (runtime : Runtime) (env : Env) : Prop :=
  env.recv = none ∨ ∃ earlier last,
    (∀ packed ∈ earlier ++ [last], ∃ number, SendsHello runtime packed number) ∧
      env.recv = some ((earlier ++ [last]).map Packed.sent).flatten

theorem Greeted.ignored (greeted : Greeted runtime env) :
    receiver.handleMsg runtime env sock epollFd = some (receiver, []) := by
  rcases greeted with nothing | ⟨earlier, last, hellos, together⟩
  · unfold NetEngine.handleMsg NetEngine.received
    rw [nothing]
    rfl
  · obtain ⟨number, latest⟩ := hellos last (by simp)
    obtain ⟨selfId, dstId, accepted⟩ := @hellos_received _ _ _ _ receiver _ hellos latest together
    exact hello_ignored accepted rfl

/-- Hellos that come together tell the number of the last one and no other, and change
nothing. -/
theorem hellos_read
    (hellos : ∀ packed ∈ earlier ++ [last], ∃ number, SendsHello runtime packed number)
    (latest : SendsHello runtime last number)
    (together : env.recv = some ((earlier ++ [last]).map Packed.sent).flatten) :
    ∃ object, receiver.received runtime env = some object ∧
      (∀ other, object.ebcMsg.body = .msg (helloBuf other) ↔ other = number) ∧
      receiver.handleMsg runtime env sock epollFd = some (receiver, []) := by
  obtain ⟨selfId, dstId, accepted⟩ := @hellos_received _ _ _ _ receiver _ hellos latest together
  refine ⟨_, accepted, fun other => ?_, hello_ignored accepted rfl⟩
  simp [hello, helloBuf_inj, eq_comm]

/-- A hello is sent by each of two rounds. -/
private theorem two_hellos :
    ∃ first second, SendsHello Wire.Reference.runtime first 0 ∧
      SendsHello Wire.Reference.runtime second 1 := by
  have check : ((Greeter.step Wire.Reference.runtime 0 { engine := Sample.client }
      (.boot (Sample.announced (Sample.nodeId 7) ⟨1, 2⟩ 1))).bind fun one =>
        (Greeter.step Wire.Reference.runtime 0 one.1 .hello).bind fun two =>
          (Greeter.step Wire.Reference.runtime 0 two.1 .hello).map fun three =>
            (two.2.actions.length, three.2.actions.length)) = some (1, 1) := by
    decide +kernel
  obtain ⟨⟨one, oneEffect⟩, oneStep, rest⟩ := Option.bind_eq_some_iff.mp check
  obtain ⟨⟨two, twoEffect⟩, twoStep, rest⟩ := Option.bind_eq_some_iff.mp rest
  obtain ⟨⟨three, threeEffect⟩, threeStep, both⟩ := Option.map_eq_some_iff.mp rest
  obtain ⟨oneAction, twoAction⟩ := Prod.mk.inj both
  obtain ⟨_, twoGreets, _⟩ := Greeter.step_hello twoStep
  obtain ⟨_, threeGreets, _⟩ := Greeter.step_hello threeStep
  have reached := Machine.Run.start.step oneStep
  have sends : ∀ {peers actions id count},
      List.Forall₂ (Greets Wire.Reference.runtime id count) peers actions → actions.length = 1 →
        ∃ sock packed, .send sock packed ∈ actions := by
    intro peers actions id count greets single
    obtain ⟨action, rfl⟩ := List.length_eq_one_iff.mp single
    obtain ⟨peer, rfl⟩ := List.length_eq_one_iff.mp (greets.length_eq.trans single)
    cases greets with
    | cons greet =>
      obtain ⟨packed, rfl, _⟩ := greet
      exact ⟨_, packed, List.mem_singleton_self _⟩
  obtain ⟨firstSock, first, firstSent⟩ := sends twoGreets oneAction
  obtain ⟨secondSock, second, secondSent⟩ := sends threeGreets twoAction
  exact ⟨first, second, ⟨0, _, _, one, two, twoEffect, firstSock, reached, twoStep, firstSent, rfl⟩,
    ⟨0, _, _, two, three, threeEffect, secondSock, reached.step twoStep, threeStep, secondSent,
      rfl⟩⟩

/-- Two hellos of a client come together, and the second one is read. -/
theorem hellos_read_two :
    ∃ first second, SendsHello Wire.Reference.runtime first 0 ∧
      SendsHello Wire.Reference.runtime second 1 ∧ ∀ receiver : NetEngine, ∃ object,
        receiver.received Wire.Reference.runtime
            { recv := some (([first] ++ [second]).map Packed.sent).flatten, peerName := ⟨0, 0⟩,
              punch := fun _ => .socketFails, memory := Sample.memory } = some object ∧
          (∀ other, object.ebcMsg.body = .msg (helloBuf other) ↔ other = 1) ∧
          receiver.handleMsg Wire.Reference.runtime
            { recv := some (([first] ++ [second]).map Packed.sent).flatten, peerName := ⟨0, 0⟩,
              punch := fun _ => .socketFails, memory := Sample.memory } 3 4 =
            some (receiver, []) := by
  obtain ⟨first, second, firstSends, secondSends⟩ := two_hellos
  refine ⟨first, second, firstSends, secondSends, fun receiver => ?_⟩
  refine hellos_read ?_ secondSends rfl
  intro packed member
  rcases List.mem_pair.mp member with rfl | rfl
  · exact ⟨0, firstSends⟩
  · exact ⟨1, secondSends⟩

end Reception

end EbcNet
