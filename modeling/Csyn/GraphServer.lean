import Csyn.Graph
import Csyn.ContractWarning
import Csyn.Lib.Automaton

set_option autoImplicit false

/- The threads of rust/src/graph.rs: the observer, the admin poller and one thread for each
connection. Each touches the state under its mutex only, so its turn there is one step. A panic
under the mutex poisons it, and every later `lock().expect(..)` panics. -/
namespace Csyn

/-- A sample as the observer receives it. -/
structure TrafficSample where
  key : Str
  encoding : Str
  payload : List UInt8

inductive Traffic where
  | sample (sample : TrafficSample)
  | nothing
  | failed (error : Str)

/-- What the observer brings to the mutex. -/
inductive Finding where
  | sample (topic : Str) (payloadLen : Nat) (rootType : Option Str)
  | error (text : Str)

def Finding.event (now : UInt64) : Finding → GraphEvent
  | .sample topic payloadLen rootType => .observe topic payloadLen rootType now
  | .error text => .observerError text

/-- Where the thread of `spawn_observer` is. `reporting` waits for the mutex; the thread ends after
an error of its start. -/
inductive ObserverPc where
  | connecting
  | subscribing
  | listening
  | reporting (finding : Finding) (ends : Bool)
  | gone

/-- What `recv_timeout` returns on the replies of a query. -/
inductive PollReply where
  | entry (key payload : Str)
  | error (text : Str)
  | done
  | failed (error : Str)

/-- Where the thread of `spawn_admin_poller` is. The `entries` are kept in the order they were
inserted. -/
inductive PollerPc where
  | connecting
  | polling
  | collecting (entries : List (Str × Str))
  | storing (entries : List (Str × Str))
  | failing (error : Str) (ends : Bool)
  | sleeping
  | gone

/-- What `handle_connection` does with the request line. -/
inductive Route where
  | refused
  | page
  | script
  | graph
  | unknown
  deriving DecidableEq

inductive HttpBody where
  | text (text : Str)
  | html
  | js
  | graph (snap : GraphSnapshot)

structure HttpResponse where
  status : Str
  contentType : Str
  body : HttpBody

def questionMark : UInt8 := 63

def route (method path : Str) : Route :=
  if method ≠ str "GET" then .refused
  else
    let resource := (path.splitOn questionMark).head?.getD (str "/")
    if resource = str "/" then .page
    else if resource = str "/app.js" then .script
    else if resource = str "/api/graph" then .graph
    else .unknown

/-- The responses that do not need the state. -/
def Route.fixed : Route → Option HttpResponse
  | .refused => some ⟨str "405 Method Not Allowed", str "text/plain; charset=utf-8",
      .text (str "method not allowed")⟩
  | .page => some ⟨str "200 OK", str "text/html; charset=utf-8", .html⟩
  | .script => some ⟨str "200 OK", str "application/javascript; charset=utf-8", .js⟩
  | .unknown => some ⟨str "404 Not Found", str "text/plain; charset=utf-8",
      .text (str "not found")⟩
  | .graph => none

/-- A request that a connection thread dealt with. There is no response where the thread
panicked. -/
structure Handled where
  route : Route
  response : Option HttpResponse

/-- The threads around the mutex. `elapsed` is the time since `GraphState::new` in nanoseconds.
`log`, `received`, `polls` and `handled` are history variables: what was done to the state, the
samples that the observer received, the polls that were completed, and the requests. -/
structure GraphServer where
  state : GraphState
  poisoned : Bool
  shutdown : Bool
  elapsed : Nat
  observer : ObserverPc
  warnings : ContractWarningThrottle
  stderr : List Str
  poller : PollerPc
  log : List GraphEvent
  received : List TrafficSample
  polls : List (List (Str × Str))
  handled : List Handled

inductive ServerAction where
  | pass (ns : Nat)
  | shutdown
  | observerConnected (result : Except Str Unit)
  | observerSubscribed (result : Except Str Unit)
  | traffic (traffic : Traffic)
  | observerReports
  | observerLeaves
  | pollerConnected (result : Except Str Unit)
  | queried (result : Except Str Unit)
  | replied (reply : PollReply)
  | pollerReports
  | pollerWakes
  | pollerLeaves
  | request (method path : Str)

def GraphServer.boot (connect keyexpr : Str) : GraphServer where
  state := .new connect keyexpr
  poisoned := false
  shutdown := false
  elapsed := 0
  observer := .connecting
  warnings := .default
  stderr := []
  poller := .connecting
  log := []
  received := []
  polls := []
  handled := []

/-- `elapsed.as_millis() as u64` -/
def asMillis (elapsed : Nat) : UInt64 := UInt64.ofNat (elapsed / 10 ^ 6)

/-- What a thread does to the state while it holds the mutex. -/
def GraphServer.record (s : GraphServer) (event : GraphEvent) : GraphServer :=
  { s with state := s.state.step event, log := s.log ++ [event] }

section

variable (fbs : SynapseFbs)

/-- The contract of a sample, read while the mutex is free. -/
def TrafficSample.finding (sample : TrafficSample) : Finding :=
  match TopicType.fromValueEncoding fbs sample.encoding with
  | .ok known => .sample sample.key sample.payload.length (some known.topic.wireType)
  | .error error => .error (str "rejecting " ++ sample.key ++ str ": " ++ error)

/-- The warning about a rejected sample. -/
def GraphServer.warn (s : GraphServer) (sample : TrafficSample) : GraphServer :=
  match TopicType.fromValueEncoding fbs sample.encoding with
  | .ok _ => s
  | .error error =>
      let (line, warnings) := s.warnings.warn sample.key error s.elapsed
      { s with warnings := warnings, stderr := s.stderr ++ line.toList }

/-- The loop of `spawn_observer`, up to the mutex. -/
def GraphServer.observe (s : GraphServer) : Traffic → GraphServer
  | .nothing => s
  | .failed error =>
      { s with
        observer := .reporting (.error (str "traffic observer receive error: " ++ error)) false }
  | .sample sample =>
      { s.warn fbs sample with
        observer := .reporting (sample.finding fbs) false
        received := s.received ++ [sample] }

/-- The loop of `spawn_admin_poller` over the replies of a query. -/
def GraphServer.reply (s : GraphServer) (entries : List (Str × Str)) : PollReply → GraphServer
  | .entry key payload => { s with poller := .collecting (entries ++ [(key, payload)]) }
  | .error text => { s with poller := .collecting (entries ++ [(str "@error/reply", text)]) }
  | .done => { s with poller := .storing entries, polls := s.polls ++ [entries] }
  | .failed error =>
      let entries := entries ++ [(str "@error/recv", error)]
      { s with poller := .storing entries, polls := s.polls ++ [entries] }

variable (fromStr : Str → Option JsonValue)

/-- A connection thread deals with a request. -/
def GraphServer.handle (s : GraphServer) (route : Route) (response : Option HttpResponse) :
    GraphServer :=
  { s with handled := s.handled ++ [⟨route, response⟩] }

/-- `handle_connection` on a request line. -/
def GraphServer.handleConnection (s : GraphServer) (method path : Str) : GraphServer :=
  let route := route method path
  match route.fixed with
  | some response => s.handle route (some response)
  | none =>
      if s.poisoned then s.handle route none
      else
        match s.state.snapshot fromStr (asMillis s.elapsed) with
        | none => { s.handle route none with poisoned := true }
        | some snap => s.handle route (some ⟨str "200 OK", str "application/json", .graph snap⟩)

def GraphServer.step (s : GraphServer) : ServerAction → Option GraphServer
  | .pass ns => some { s with elapsed := s.elapsed + ns }
  | .shutdown => some { s with shutdown := true }
  | .observerConnected result =>
      match s.observer, result with
      | .connecting, .ok () => some { s with observer := .subscribing }
      | .connecting, .error error =>
          some { s with
            observer := .reporting
              (.error (str "traffic observer failed to connect: " ++ error)) true }
      | _, _ => none
  | .observerSubscribed result =>
      match s.observer, result with
      | .subscribing, .ok () => some { s with observer := .listening }
      | .subscribing, .error error =>
          some { s with
            observer := .reporting
              (.error (str "traffic observer failed to subscribe: " ++ error)) true }
      | _, _ => none
  | .traffic traffic =>
      match s.observer with
      | .listening => some (s.observe fbs traffic)
      | _ => none
  | .observerReports =>
      match s.observer with
      | .reporting finding ends =>
          if s.poisoned then some { s with observer := .gone }
          else
            some { s.record (finding.event (asMillis s.elapsed)) with
              observer := if ends then .gone else .listening }
      | _ => none
  | .observerLeaves =>
      match s.observer with
      | .listening => if s.shutdown then some { s with observer := .gone } else none
      | _ => none
  | .pollerConnected result =>
      match s.poller, result with
      | .connecting, .ok () => some { s with poller := .polling }
      | .connecting, .error error =>
          some { s with
            poller := .failing (str "admin poller failed to connect: " ++ error) true }
      | _, _ => none
  | .queried result =>
      match s.poller, result with
      | .polling, .ok () => some { s with poller := .collecting [] }
      | .polling, .error error =>
          some { s with poller := .failing (str "admin query failed: " ++ error) false }
      | _, _ => none
  | .replied reply =>
      match s.poller with
      | .collecting entries => some (s.reply entries reply)
      | _ => none
  | .pollerReports =>
      match s.poller with
      | .storing entries =>
          if s.poisoned then some { s with poller := .gone }
          else
            some { s.record (.adminPoll entries (asMillis s.elapsed)) with poller := .sleeping }
      | .failing error ends =>
          if s.poisoned then some { s with poller := .gone }
          else
            some { s.record (.adminFailed error) with
              poller := if ends then .gone else .sleeping }
      | _ => none
  | .pollerWakes =>
      match s.poller with
      | .sleeping => some { s with poller := .polling }
      | _ => none
  | .pollerLeaves =>
      match s.poller with
      | .polling => if s.shutdown then some { s with poller := .gone } else none
      | _ => none
  | .request method path => some (s.handleConnection fromStr method path)

end

end Csyn
