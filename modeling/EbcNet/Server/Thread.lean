import EbcNet.Boot.Loop
import EbcNet.ServerLoop

/-! The server thread, round by round. A round makes two passes over what `epoll_wait`
reports, and each socket is examined with a `state` variable of its own. -/

namespace EbcNet

open Wire (Runtime)
open NetEngine (Effect)

/-- `CLOSED == state || BROKEN == state` -/
def UDTSTATUS.gone (status : UDTSTATUS) : Bool :=
  status = .CLOSED || status = .BROKEN

inductive ServerPass where
  | errfds | readfds
  deriving DecidableEq

/-- What a round gets from outside: what `epoll_wait` returns and the sets that it fills,
the status of each socket where it is examined, the socket of `UDT::accept` unless that
fails, and what `handleMsg` gets. -/
structure ServerRound where
  ret : Int
  fds : ServerPass → FdSet
  status : ServerPass → UDTSOCKET → UDTSTATUS
  cli : Option UDTSOCKET
  env : UDTSOCKET → Env

def ServerRound.visits (round : ServerRound) : List (ServerPass × UDTSOCKET) :=
  (round.fds .errfds).socks.map (ServerPass.errfds, ·) ++
    (round.fds .readfds).socks.map (ServerPass.readfds, ·)

/-- What the thread does. -/
inductive ServerAction where
  | epollRemove (sock : UDTSOCKET)
  | close (sock : UDTSOCKET)
  | took (event : ServerEvent) (effect : Effect)

/-- What the engine and the epoll take up of it. -/
def ServerAction.taken : ServerAction → Option (ServerEvent × Effect)
  | .took event effect => some (event, effect)
  | _ => none

/-- The server thread, with the socket that it listens on. -/
structure ServerThread where
  engine : NetEngine
  srv : UDTSOCKET
  udt : Udt
  returned : Bool := false

namespace ServerThread

/-- What `getsockopt(sock, 0, UDT_STATE, &state, &len)` finds. It leaves a new `state` of 0,
which is no status, when the socket is closed. -/
def gone (thread : ServerThread) (status : UDTSTATUS) (sock : UDTSOCKET) : Bool :=
  thread.udt.opened sock && status.gone

section Visits
variable (runtime : Runtime) (epollFd : Int)

def lose (thread : ServerThread) (sock : UDTSOCKET) : Option (ServerThread × List ServerAction) :=
  (NetEngine.step runtime thread.engine (.clientLost sock)).map fun taken =>
    ({ thread with
        engine := taken.1
        udt := (thread.udt.epollRemove sock).close sock },
      [.epollRemove sock, .close sock, .took (.lost sock) taken.2])

/-- Take a connection. `UDT::accept` fails on a closed socket. -/
def accept (thread : ServerThread) (cli : Option UDTSOCKET) : ServerThread × List ServerAction :=
  match cli with
  | none => (thread, [])
  | some cli =>
    if thread.udt.opened thread.srv then
      let udt := { thread.udt with opened := Function.update thread.udt.opened cli true }
      ({ thread with udt := udt.epollAdd cli .inErr },
        [.took (.accepted cli) { actions := [.epollAdd epollFd cli], calls := [] }])
    else (thread, [])

/-- `handleMsg`, with its default epoll. Nothing is received from a closed socket. -/
def receive (thread : ServerThread) (sock : UDTSOCKET) (env : Env) :
    Option (ServerThread × List ServerAction) :=
  let opened := thread.udt.opened sock
  let env := if opened then env else { env with recv := none }
  (NetEngine.step runtime thread.engine (.message env sock ServerLoop.defaultEpollFd)).map
    fun taken =>
      ({ thread with
          engine := taken.1
          udt := taken.2.actions.foldl (Udt.act epollFd) thread.udt },
        if opened then [.took (.message env sock) taken.2] else [])

def visit (round : ServerRound) :
    Machine.Step ServerThread (ServerPass × UDTSOCKET) (List ServerAction)
  | thread, (pass, sock) =>
    match pass with
    | .errfds =>
      if thread.gone (round.status pass sock) sock then thread.lose runtime sock
      else some (thread, [])
    | .readfds =>
      if sock = thread.srv then some (thread.accept epollFd round.cli)
      else if thread.gone (round.status pass sock) sock then thread.lose runtime sock
      else thread.receive runtime epollFd sock (round.env sock)

/-- One turn of the loop. The thread returns when `epoll_wait` fails. -/
def step : Machine.Step ServerThread ServerRound (List ServerAction) := fun thread round =>
  if thread.returned then none
  else if round.ret < 0 then some ({ thread with returned := true }, [])
  else if round.ret = 0 then some (thread, [])
  else Machine.sweep (visit runtime epollFd round) ServerThread.returned round.visits thread

end Visits

/-- The thread before its loop. It returns when `UDT::bind` or `UDT::listen` fails. -/
def start (self : Node) (srv : UDTSOCKET) (binds listens : Bool) : ServerThread where
  engine := { self, isServer := true }
  srv
  udt :=
    { opened sock := sock = srv
      watched sock := if binds && listens && sock = srv then some .inErr else none }
  returned := !(binds && listens)

end ServerThread

end EbcNet
