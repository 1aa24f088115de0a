import LoopGauge.Proofs.Datagram.Client
import LoopGauge.Proofs.Datagram.Echo

/-!
# A network between client and server

A network of datagrams that may lose, delay, repeat, reorder and even shorten them: whatever was
ever sent can be delivered at any time, any number of times or never, to the socket it was sent to.
Others may send to either socket, but not in the name of client or server. A socket may fail at any
time and the clocks of both parties may show anything, so a reception may end without data at any
time.

For every datagram it is kept why it was sent, and for every reception of the client in which round
it was. What happens does not depend on that.

## Main definitions

* `Exchange`: client and server, and what the rounds are to be like.
* `Net`: the parties, and what was ever sent.
* `Exchange.Step`: what can happen next.
* `Exchange.Reachable`: what can happen at all.
-/

namespace LoopGauge.Engine

/-- Why a datagram was sent. -/
inductive Origin where
  /-- The client has sent it in a round. -/
  | message (round : Nat)
  /-- The server has sent it in answer to another. -/
  | echo (answered : Origin)
  /-- Somebody else has sent it. -/
  | stranger
deriving DecidableEq, Repr

/-- A datagram on its way. -/
structure Datagram where
  source : Address
  target : Address
  data : ByteArray
  origin : Origin

/-- Client and server, and what the rounds are to be like. -/
structure Exchange where
  client : Address
  server : Address
  distinct : client ≠ server
  /-- The bytes of a message. -/
  size : Nat
  /-- How many samples there are to be. -/
  cap : Nat
  deadline : Nat

/-- Client, server and all that was ever sent. -/
structure Net where
  client : Client
  server : Echo
  air : List Datagram := []
  /-- Why the datagram was sent that the server has received last. -/
  answering : Origin := .stranger
  /-- How many datagrams the client has sent. -/
  sent : Nat := 0
  /-- What the client has received, the latest first, with the number of its round. -/
  heard : List (Nat × Datagram) := []

namespace Exchange

variable (x : Exchange)

/-- What a client asks. -/
def clientView (c : Client) : Option Client.View := c.view x.server x.size x.cap x.deadline

/-- What a server asks. -/
def serverView (e : Echo) : Option Echo.View := e.view x.size

/-- Whether a question does not concern the socket. -/
def isPrivate : Wire → Bool
  | .send _ _ | .receive _ _ => false
  | .clock | .write _ _ | .read _ _ => true

/-- Whether a question of the client does not concern its socket. -/
def clientKeeps : Request → Bool
  | .host (.wire w) => isPrivate w
  | _ => true

/-- Whether a question of the server does not concern its socket. -/
def serverKeeps : Duty → Bool
  | .wire w => isPrivate w
  | _ => true

/-- What is received of a datagram that is cut to a size. -/
def arrival (d : Datagram) (size : Nat) : Timed (ByteArray × Address) :=
  .ready (d.data.extract 0 size, d.source)

/-- Whether a reception brings nothing. -/
def isVain : Timed (ByteArray × Address) → Bool
  | .ready _ => false
  | .failed _ | .expired => true

/-- The client receives a datagram. -/
inductive Hears : Net → Datagram → Net → Prop where
  | intro {n : Net} {d : Datagram} {size limit : Nat}
      {next : (Request.host (.wire (.receive size limit))).Answer → Client}
      (asks : x.clientView n.client = some ⟨.host (.wire (.receive size limit)), next⟩)
      (sent : d ∈ n.air) (addressed : d.target = x.client) :
      Hears n d { n with
        client := next (arrival d size)
        heard := (n.client.round, d) :: n.heard }

/-- What can happen next. -/
inductive Step : Net → Net → Prop where
  | clientAsks {n : Net} {q : Request} {next : q.Answer → Client} (answer : q.Answer)
      (asks : x.clientView n.client = some ⟨q, next⟩) (keeps : clientKeeps q) :
      Step n { n with client := next answer }
  | clientSends {n : Net} {data : ByteArray} {peer : Address}
      {next : (Request.host (.wire (.send data peer))).Answer → Client}
      (answer : Except String Nat)
      (asks : x.clientView n.client = some ⟨.host (.wire (.send data peer)), next⟩) :
      Step n { n with
        client := next answer
        air := ⟨x.client, peer, data, .message n.client.round⟩ :: n.air
        sent := n.sent + 1 }
  | clientHears {n n' : Net} {d : Datagram} (hears : x.Hears n d n') : Step n n'
  | clientWaits {n : Net} {size limit : Nat}
      {next : (Request.host (.wire (.receive size limit))).Answer → Client}
      (reception : Timed (ByteArray × Address))
      (asks : x.clientView n.client = some ⟨.host (.wire (.receive size limit)), next⟩)
      (vain : isVain reception) :
      Step n { n with client := next reception }
  | serverAsks {n : Net} {q : Duty} {next : q.Answer → Echo} (answer : q.Answer)
      (asks : x.serverView n.server = some ⟨q, next⟩) (keeps : serverKeeps q) :
      Step n { n with server := next answer }
  | serverSends {n : Net} {data : ByteArray} {peer : Address}
      {next : (Duty.wire (.send data peer)).Answer → Echo} (answer : Except String Nat)
      (asks : x.serverView n.server = some ⟨.wire (.send data peer), next⟩) :
      Step n { n with
        server := next answer
        air := ⟨x.server, peer, data, .echo n.answering⟩ :: n.air }
  | serverHears {n : Net} {d : Datagram} {size limit : Nat}
      {next : (Duty.wire (.receive size limit)).Answer → Echo}
      (asks : x.serverView n.server = some ⟨.wire (.receive size limit), next⟩)
      (sent : d ∈ n.air) (addressed : d.target = x.server) :
      Step n { n with server := next (arrival d size), answering := d.origin }
  | serverWaits {n : Net} {size limit : Nat}
      {next : (Duty.wire (.receive size limit)).Answer → Echo}
      (reception : Timed (ByteArray × Address))
      (asks : x.serverView n.server = some ⟨.wire (.receive size limit), next⟩)
      (vain : isVain reception) :
      Step n { n with server := next reception }
  | strangerSends {n : Net} (source target : Address) (data : ByteArray)
      (notClient : source ≠ x.client) (notServer : source ≠ x.server) :
      Step n { n with air := ⟨source, target, data, .stranger⟩ :: n.air }
  | shortens {n : Net} {d : Datagram} (length : Nat) (sent : d ∈ n.air) :
      Step n { n with air := { d with data := d.data.extract 0 length } :: n.air }

/-- The network before the rounds. -/
def initial : Net := { client := .start x.cap, server := .start }

/-- What can happen at all. -/
inductive Reachable : Net → Prop where
  | initial : Reachable x.initial
  | step {n n' : Net} (before : Reachable n) (happens : x.Step n n') : Reachable n'

end Exchange

end LoopGauge.Engine
