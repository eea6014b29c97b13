/-!
# Connections of the gateway

How many connections are served at the same time, and how the gateway stops. Connections come from
streams, each of which is served by a call; all calls share the permits of one server. A connection
that is served has a task of its own.

Who has to wait for whom is a matter of what they hold. A task holds a permit, a sender of its call
and a receiver of the request to stop, and gives them back in this order when its connection has
ended. A call holds a sender as long as it takes connections, and a receiver until it returns.

* `Server.poll` and `Server.acquire` are how a call takes a connection, `Server.verdict` is what becomes
  of it.
* `Server.settle` lets a call return when no sender is left, `Server.settleStop` lets a request to
  stop return when no receiver is left.
* `Server.step` is what an event does to a server.
-/

namespace Hypermedia.Admission

/-- What becomes of a connection that arrives. -/
inductive Verdict where
  /-- It is served. -/
  | served
  /-- It is told that there are too many. -/
  | overloaded
  /-- It is not taken. -/
  | ignored
  deriving DecidableEq, Repr

/-! ## The answer beyond the limit -/

/-- The body of the answer to a connection beyond the limit. -/
def overloadBody : String :=
  "Too many connections!\n"

/-- The header fields of that answer. -/
def overloadFields : List (String × String) :=
  [("Content-Type", "text/plain;charset=utf-8"),
    ("Content-Length", toString overloadBody.utf8ByteSize)]

/-- The answer to a connection beyond the limit; its requests are not read. -/
def overloadText : String :=
  let fields := overloadFields.map fun (name, value) => name ++ ": " ++ value ++ "\r\n"
  "HTTP/1.1 503 Service Unavailable\r\n" ++ String.join fields ++ "\r\n" ++ overloadBody

/-! ## Calls -/

/-- Where a call is. -/
inductive Call.Stage where
  /-- It waits for the next connection of its stream, or for the request to stop. -/
  | accepting
  /-- It has taken a connection and asks for a permit. -/
  | admitting
  /-- It sends an answer to a connection for which there was no permit. -/
  | refusing (answer : String)
  /-- It takes no more connections and waits for those that are left. -/
  | draining
  /-- It has returned. -/
  | returned
  /-- It was given up before it returned. -/
  | dropped
  deriving DecidableEq, Repr

/-- A stream of connections that is being served. -/
structure Call where
  /-- Where the call is. -/
  stage : Call.Stage
  /-- The connections that were taken from the stream. -/
  taken : Nat
  /-- The senders of the call that are left. -/
  senders : Nat
  deriving DecidableEq, Repr

namespace Call

/-- The call of a new stream. -/
def start : Call :=
  ⟨.accepting, 0, 1⟩

/-- Whether the call may take connections; then it holds a sender of its own. -/
def isTaking (call : Call) : Bool :=
  match call.stage with
  | .accepting => true
  | .admitting => true
  | .refusing _ => true
  | .draining => false
  | .returned => false
  | .dropped => false

/-- Whether the call has neither returned nor was given up; then it holds a receiver. -/
def isRunning (call : Call) : Bool :=
  match call.stage with
  | .accepting => true
  | .admitting => true
  | .refusing _ => true
  | .draining => true
  | .returned => false
  | .dropped => false

/-- Takes a connection from the stream. -/
def take (call : Call) : Call :=
  { call with stage := .admitting, taken := call.taken + 1 }

/-- Hands the connection over to a task, which gets a sender. -/
def handOver (call : Call) : Call :=
  { call with stage := .accepting, senders := call.senders + 1 }

/-- Begins to tell the connection that there are too many. -/
def refuse (call : Call) : Call :=
  { call with stage := .refusing overloadText }

/-- Turns to the next connection. -/
def resume (call : Call) : Call :=
  { call with stage := .accepting }

/-- Turns away from the stream, and gives its own sender back. -/
def leave (call : Call) : Call :=
  { call with stage := .draining, senders := call.senders - 1 }

/-- Returns. -/
def finish (call : Call) : Call :=
  { call with stage := .returned }

/-- Is given up, with the sender that it may hold. -/
def drop (call : Call) : Call :=
  { call with
    stage := .dropped
    senders := if call.isTaking then call.senders - 1 else call.senders }

/-- Loses the sender of a task. -/
def loseSender (call : Call) : Call :=
  { call with senders := call.senders - 1 }

end Call

/-! ## Tasks -/

/-- Where a task is. -/
inductive Task.Stage where
  /-- It serves its connection, with a permit. -/
  | serving
  /-- Its connection has ended, and the permit is given back. -/
  | released
  /-- The sender is given back too. -/
  | detached
  /-- Everything is given back. -/
  | gone
  deriving DecidableEq, Repr

/-- What serves one connection. -/
structure Task where
  /-- The call that took the connection. -/
  call : Nat
  /-- Where the task is. -/
  stage : Task.Stage
  deriving DecidableEq, Repr

namespace Task

/-- Whether the task serves its connection; then it holds a permit. -/
def isServing (task : Task) : Bool :=
  task.stage = .serving

/-- Whether the task holds a sender of a call. -/
def isAttached (call : Nat) (task : Task) : Bool :=
  task.call = call && (task.stage = .serving || task.stage = .released)

/-- Whether the task holds a receiver. -/
def isLeft (task : Task) : Bool :=
  task.stage ≠ .gone

end Task

/-! ## Servers -/

/-- A server. -/
structure Server where
  /-- The permits that are not taken. -/
  free : Nat
  /-- Whether the server has been asked to stop. -/
  stopping : Bool
  /-- The receivers that are left. -/
  receivers : Nat
  /-- The calls, in the order they began. -/
  calls : List Call
  /-- The tasks, in the order they began. -/
  tasks : List Task
  /-- Whether each request to stop has returned. -/
  stops : List Bool
  deriving DecidableEq, Repr

/-- What a stream has when it is asked for the next connection. -/
inductive Next where
  /-- Nothing yet. -/
  | pending
  /-- A connection. -/
  | connection
  /-- An error instead of a connection. -/
  | failure
  /-- No more connections. -/
  | exhausted
  deriving DecidableEq, Repr

/-- What happens to a server. Calls, tasks and requests to stop are numbered. -/
inductive Event where
  /-- Another stream is served. -/
  | serve
  /-- A call that waits looks whether it is to stop, and then what its stream has. -/
  | poll (call : Nat) (next : Next)
  /-- A call that took a connection asks for a permit. -/
  | acquire (call : Nat)
  /-- An answer to a connection beyond the limit is sent, or took too long. -/
  | resume (call : Nat)
  /-- A call looks whether any sender is left. -/
  | settle (call : Nat)
  /-- A call is given up. -/
  | drop (call : Nat)
  /-- A task gives back the next thing that it holds. -/
  | part (task : Nat)
  /-- The server is asked to stop. -/
  | stop
  /-- A request to stop looks whether any receiver is left. -/
  | settleStop (request : Nat)
  deriving DecidableEq, Repr

namespace Server

/-- A new server. -/
def start (maxConnections : Nat) : Server :=
  ⟨maxConnections, false, 0, [], [], []⟩

/-- The connections that are being served. -/
def serving (server : Server) : Nat :=
  server.tasks.countP Task.isServing

/-- The connections that were taken from the stream of a call. -/
def takenFrom (server : Server) (call : Nat) : Nat :=
  (server.calls[call]?.map (·.taken)).getD 0

/-- Puts a call in the place of one. -/
def put (server : Server) (call : Nat) (new : Call) : Server :=
  { server with calls := server.calls.set call new }

/-- Does something with a call, if there is one of that number. -/
def withCall (server : Server) (call : Nat) (action : Call → Server) : Server :=
  match server.calls[call]? with
  | none => server
  | some found => action found

/-- Begins to serve a stream. -/
def serve (server : Server) : Server :=
  { server with
    receivers := server.receivers + 1
    calls := server.calls ++ [.start] }

/-- What becomes of a connection that arrives at a call. -/
def verdict (server : Server) (call : Nat) : Verdict :=
  match server.calls[call]? with
  | none => .ignored
  | some found =>
    if found.stage ≠ .accepting || server.stopping then .ignored
    else if server.free = 0 then .overloaded
    else .served

/-- A call that waits turns away from its stream if it is to stop. Otherwise it takes what its stream
has. -/
def poll (server : Server) (call : Nat) (next : Next) : Server :=
  server.withCall call fun found =>
    if found.stage = .accepting then
      if server.stopping then server.put call found.leave
      else
        match next with
        | .pending => server
        | .connection => server.put call found.take
        | .failure => server
        | .exhausted => server.put call found.leave
    else server

/-- Serves a connection, with a task of its own. -/
def accept (server : Server) (call : Nat) (found : Call) : Server :=
  { server.put call found.handOver with
    free := server.free - 1
    receivers := server.receivers + 1
    tasks := server.tasks ++ [⟨call, .serving⟩] }

/-- A call that took a connection serves it if there is a permit, and refuses it otherwise. -/
def acquire (server : Server) (call : Nat) : Server :=
  server.withCall call fun found =>
    if found.stage = .admitting then
      if server.free = 0 then server.put call found.refuse else server.accept call found
    else server

/-- A call that refused a connection turns to the next one. -/
def resume (server : Server) (call : Nat) : Server :=
  server.withCall call fun found =>
    match found.stage with
    | .refusing _ => server.put call found.resume
    | _ => server

/-- A call that takes no more connections returns when no sender is left. -/
def settle (server : Server) (call : Nat) : Server :=
  server.withCall call fun found =>
    if found.stage = .draining && found.senders = 0 then
      { server.put call found.finish with receivers := server.receivers - 1 }
    else server

/-- Gives a call up. -/
def drop (server : Server) (call : Nat) : Server :=
  server.withCall call fun found =>
    if found.isRunning then
      { server.put call found.drop with receivers := server.receivers - 1 }
    else server

/-- Puts a task in the place of one. -/
def replace (server : Server) (task : Nat) (new : Task) : Server :=
  { server with tasks := server.tasks.set task new }

/-- A task gives back the next thing that it holds: its permit, its sender, its receiver. -/
def part (server : Server) (task : Nat) : Server :=
  match server.tasks[task]? with
  | none => server
  | some found =>
    match found.stage with
    | .serving =>
      { server.replace task { found with stage := .released } with free := server.free + 1 }
    | .released =>
      server.withCall found.call fun call =>
        (server.put found.call call.loseSender).replace task { found with stage := .detached }
    | .detached =>
      { server.replace task { found with stage := .gone } with receivers := server.receivers - 1 }
    | .gone => server

/-- Asks the server to stop. -/
def stop (server : Server) : Server :=
  { server with stopping := true, stops := server.stops ++ [false] }

/-- A request to stop returns when no receiver is left. -/
def settleStop (server : Server) (request : Nat) : Server :=
  if server.receivers = 0 then { server with stops := server.stops.set request true } else server

/-- The server after an event. -/
def step (server : Server) : Event → Server
  | .serve => server.serve
  | .poll call next => server.poll call next
  | .acquire call => server.acquire call
  | .resume call => server.resume call
  | .settle call => server.settle call
  | .drop call => server.drop call
  | .part task => server.part task
  | .stop => server.stop
  | .settleStop request => server.settleStop request

/-- The server after events. -/
def run (server : Server) (events : List Event) : Server :=
  events.foldl step server

end Server

end Hypermedia.Admission
