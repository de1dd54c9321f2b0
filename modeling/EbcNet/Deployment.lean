import EbcNet.Boot.Registrations
import EbcNet.Hello
import EbcNet.Network.Introductions
import EbcNet.Server.Thread

/-! The threads of a server and of its clients, each at some place of a round, with the
messages between them. The threads take turns in any order, one visit at a time. -/

namespace EbcNet

open Wire (Runtime)
open NetEngine (bufSize)

/-- The boot thread of a client, with the visits of its round that are to come, and
whether its `GET_NODE` is sent. -/
structure ClientThread where
  loop : BootLoop
  todo : List (Pass × UDTSOCKET) := []
  announced : Bool := false

/-- The server thread, with the visits of its round that are to come, and the clients with
the messages that are on their way, by the sockets that the server has for them. -/
structure Deployment where
  server : ServerThread
  todo : List (ServerPass × UDTSOCKET) := []
  client : UDTSOCKET → Option ClientThread := fun _ => none
  up : UDTSOCKET → List Packed := fun _ => []
  down : UDTSOCKET → List Packed := fun _ => []

/-- A client starts, or a thread gets what `epoll_wait` returns or makes its next visit. A
visit to `boot_sock` may receive some messages together. -/
inductive DeploymentEvent where
  | starts (self : Node) (bootSock sock : UDTSOCKET) (connects : Bool)
  | serverWakes (round : ServerRound)
  | serverVisits (round : ServerRound)
  | clientWakes (sock : UDTSOCKET) (round : Round)
  | clientVisits (sock : UDTSOCKET) (round : Round) (count : Nat)

/-- What a thread of the deployment does. -/
inductive DeploymentAction where
  | server (action : ServerAction)
  | client (sock : UDTSOCKET) (action : BootAction)

/-- The message that the action sends to the server. -/
def BootAction.sent : BootAction → Option Packed
  | .send packed => some packed
  | _ => none

/-- The action receives something on the socket. -/
def BootAction.hears (sock : UDTSOCKET) : BootAction → Bool
  | .took (.message env place) _ => place = sock && env.recv.isSome
  | _ => false

/-- The messages to the server that an action leaves. -/
def ServerAction.leaves (up : UDTSOCKET → List Packed) : ServerAction → UDTSOCKET → List Packed
  | .took (.message _ sock) _ => Function.update up sock (up sock).tail
  | .took (.lost sock) _ => Function.update up sock []
  | _ => up

/-- The messages that an action of the server sends. -/
def ServerAction.sentTo (sock : UDTSOCKET) : ServerAction → List Packed
  | .took _ effect => EbcNet.sentTo sock effect.actions
  | _ => []

/-- The round, with what comes from the server. -/
def Round.hearing (round : Round) (bootSock : UDTSOCKET) (sent : List Packed) : Round :=
  { round with
    env := fun sock =>
      if sock = bootSock then
        { round.env sock with
          recv := if sent.isEmpty then none else some (sent.map Packed.sent).flatten }
      else round.env sock }

/-- The round, with what comes from the clients: the next message of each. -/
def ServerRound.hearing (round : ServerRound) (up : UDTSOCKET → List Packed) : ServerRound :=
  { round with
    env := fun sock => { round.env sock with recv := (up sock).head?.map Packed.sent } }

namespace Deployment

def start (self : Node) (srv : UDTSOCKET) (binds listens : Bool) : Deployment where
  server := ServerThread.start self srv binds listens

/-- After a visit of a client, with what it has done. -/
def clientDid (dep : Deployment) (sock : UDTSOCKET) (count : Nat) (thread : ClientThread)
    (todo : List (Pass × UDTSOCKET)) (loop : BootLoop) (log : List BootAction) : Deployment :=
  let posted := log.filterMap BootAction.sent
  let heard := log.any (BootAction.hears thread.loop.bootSock)
  { dep with
    client := Function.update dep.client sock
      (some { loop, todo, announced := thread.announced || !posted.isEmpty })
    up := Function.update dep.up sock (dep.up sock ++ posted)
    down := Function.update dep.down sock
      (if heard then (dep.down sock).drop count else dep.down sock) }

section Step
variable (runtime : Runtime) (serverFd epollFd : Int)

/-- The next visit of a client's thread. What a `recv` on `boot_sock` returns ends between
messages. -/
def clientVisit (dep : Deployment) (sock : UDTSOCKET) (round : Round) (count : Nat)
    (thread : ClientThread) : List (Pass × UDTSOCKET) → Option (Deployment × List BootAction)
  | [] => none
  | visited :: todo =>
    let sent := (dep.down sock).take count
    if thread.loop.returned || bufSize < (sent.map Packed.sent).flatten.length then none
    else
      (thread.loop.visit runtime epollFd (round.hearing thread.loop.bootSock sent) visited).map
        fun taken => (dep.clientDid sock count thread todo taken.1 taken.2, taken.2)

/-- The next visit of the server thread. -/
def serverVisit (dep : Deployment) (round : ServerRound) :
    List (ServerPass × UDTSOCKET) → Option (Deployment × List ServerAction)
  | [] => none
  | visited :: todo =>
    (dep.server.visit runtime serverFd (round.hearing dep.up) visited).map fun taken =>
      ({ dep with
          server := taken.1
          todo
          up := taken.2.foldl ServerAction.leaves dep.up
          down := fun place => dep.down place ++ taken.2.flatMap (ServerAction.sentTo place) },
        taken.2)

def step : Machine.Step Deployment DeploymentEvent (List DeploymentAction)
  | dep, .starts self bootSock sock connects =>
    match dep.client sock with
    | some _ => none
    | none =>
      some ({ dep with
          client := Function.update dep.client sock
            (some { loop := BootLoop.start self bootSock connects }) },
        (BootLoop.startLog bootSock connects).map (DeploymentAction.client sock))
  | dep, .serverWakes round =>
    if dep.server.returned || !dep.todo.isEmpty then none
    else if round.ret < 0 then some ({ dep with server := { dep.server with returned := true } }, [])
    else some ({ dep with todo := if round.ret = 0 then [] else round.visits }, [])
  | dep, .serverVisits round =>
    (dep.serverVisit runtime serverFd round dep.todo).map fun taken =>
      (taken.1, taken.2.map DeploymentAction.server)
  | dep, .clientWakes sock round =>
    (dep.client sock).bind fun thread =>
      if thread.loop.returned || !thread.todo.isEmpty then none
      else some ({ dep with
        client := Function.update dep.client sock (some { thread with todo := round.visits }) }, [])
  | dep, .clientVisits sock round count =>
    (dep.client sock).bind fun thread =>
      (dep.clientVisit runtime epollFd sock round count thread thread.todo).map fun taken =>
        (taken.1, taken.2.map (DeploymentAction.client sock))

end Step

/-- What a visit of a client can be like: `UDT::socket` does not make `boot_sock`, which is
connected again only before its `GET_NODE` is sent, a socket that is taken for connected is
open, and peers send hellos. -/
structure Fits (runtime : Runtime) (thread : ClientThread) (round : Round) (pass : Pass)
    (sock : UDTSOCKET) : Prop where
  foreign : round.Foreign thread.loop.bootSock
  valid : round.Foreign INVALID_SOCK
  once : sock = thread.loop.bootSock → thread.announced = true → pass ≠ .errfds →
    (thread.loop.examine (round.status pass sock) sock).failed = true → round.connects pass = false
  opened : sock ≠ thread.loop.bootSock → pass = .writefds →
    (thread.loop.examine (round.status pass sock) sock).failed = false →
    thread.loop.udt.opened sock = true
  greeted : sock ≠ thread.loop.bootSock → pass = .readfds → Greeted runtime (round.env sock)

/-- Every client has an id of its own, the server does not get more clients than a `REP`
can list, and `epoll_wait` reports sockets as writable that are watched for that. -/
def Allows (runtime : Runtime) (dep : Deployment) : DeploymentEvent → Prop
  | .starts self _ _ _ => ∀ place thread, dep.client place = some thread →
      thread.loop.engine.self.id ≠ self.id
  | .serverVisits _ => dep.server.engine.clientNode.size ≤ 150
  | .clientWakes sock round => ∀ thread, dep.client sock = some thread →
      thread.loop.Writable round
  | .clientVisits sock round _ => ∀ thread pass place todo, dep.client sock = some thread →
      thread.todo = (pass, place) :: todo → Fits runtime thread round pass place
  | _ => True

end Deployment

end EbcNet
