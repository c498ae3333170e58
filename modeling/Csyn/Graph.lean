import Csyn.HostTypes

set_option autoImplicit false

/- rust/src/graph.rs: the state behind the graph server and its snapshot. The parser of
serde_json is a parameter. Times are the milliseconds since the start, rates the exact quotients
that the `f64` fields round. -/
namespace Csyn

/-- `serde_json::Value`; the keys of an object are distinct. -/
inductive JsonValue where
  | null
  | bool (value : Bool)
  | number (text : Str)
  | string (text : Str)
  | array (items : List JsonValue)
  | object (fields : List (Str × JsonValue))

/-- `Map<String, Value>` -/
abbrev JsonObject : Type := List (Str × JsonValue)

/-- `Value::as_str` -/
def JsonValue.asStr : JsonValue → Option Str
  | .string text => some text
  | _ => none

/-- `Value::as_array` -/
def JsonValue.asArray : JsonValue → Option (List JsonValue)
  | .array items => some items
  | _ => none

/-- `Value::as_object` -/
def JsonValue.asObject : JsonValue → Option JsonObject
  | .object fields => some fields
  | _ => none

/-- `string_field` -/
def stringField (object : JsonObject) (field : Str) : Option Str :=
  (object.lookup field).bind JsonValue.asStr

/-- `object.get(field).and_then(Value::as_array)` -/
def arrayField (object : JsonObject) (field : Str) : Option (List JsonValue) :=
  (object.lookup field).bind JsonValue.asArray

/-- `str::is_char_boundary`: the end of the text, or a byte that continues no character. -/
def isCharBoundary (value : Str) (index : Nat) : Bool :=
  index == 0 ||
    match value[index]? with
    | none => index == value.length
    | some byte => byte < 128 || 192 ≤ byte

/-- `&value[..index]`, `none` for the panic. -/
def sliceTo (value : Str) (index : Nat) : Option Str :=
  if isCharBoundary value index then some (value.take index) else none

/-- `shorten` -/
def shorten (value : Str) (limit : Nat) : Option Str :=
  if value.length ≤ limit then some value else (sliceTo value limit).map (· ++ str "...")

/-- `u64::saturating_sub` -/
def saturatingSub (a b : UInt64) : UInt64 := if b ≤ a then a - b else 0

structure TopicStats where
  topic : Str
  rootType : Option Str
  messages : UInt64
  bytes : UInt64
  lastPayloadBytes : UInt64
  lastSeenMs : UInt64
  recent : List UInt64

structure GraphNode where
  id : Str
  label : Str
  kind : Str
  detail : Str
  messages : UInt64
  bytes : UInt64
  rateHz : Rat
  stale : Bool

structure GraphLink where
  source : Str
  target : Str
  label : Str
  kind : Str

/-- The `nodes` and `links` that `snapshot` fills. A `BTreeMap` is ordered by bytes. -/
structure GraphTopology where
  nodes : Std.TreeMap Str GraphNode
  links : List GraphLink

structure AdminEntity where
  zid : Str
  mode : Str
  kind : Str
  expr : Str

/-- One key of `parse_admin_entities`. -/
def parseAdminEntity (key : Str) : Option AdminEntity :=
  let parts := key.splitOn slash
  if parts.length < 6 ∨ parts.head? ≠ some (str "@") then none
  else
    parts[1]?.bind fun zid => parts[2]?.bind fun mode => parts[3]?.bind fun kind =>
      parts.getLast?.bind fun last =>
        if last ≠ kind then none
        else
          let expr := [slash].intercalate ((parts.take (parts.length - 1)).drop 4)
          if expr = [] then none else some ⟨zid, mode, kind, expr⟩

/-- `parse_admin_entities` -/
def parseAdminEntities (entries : Std.TreeMap Str Str) : List AdminEntity :=
  entries.keys.filterMap parseAdminEntity

/-- `admin_kind` -/
def adminKind (mode : Str) : Str :=
  if mode = str "router" ∨ mode = str "peer" ∨ mode = str "client" then mode else str "other"

/-- `admin_node_id` -/
def adminNodeId (mode zid : Str) : Str := adminKind mode ++ str ":" ++ zid

/-- A node without traffic. -/
def quietNode (id label kind detail : Str) (stale : Bool) : GraphNode :=
  { id := id, label := label, kind := kind, detail := detail
    messages := 0, bytes := 0, rateHz := 0, stale := stale }

/-- `insert_admin_node`: the node is made only when the id is vacant. -/
def insertAdminNode (graph : GraphTopology) (id mode zid detail : Str) : Option GraphTopology :=
  if graph.nodes.contains id then some graph
  else
    (shorten zid 8).map fun short =>
      { graph with
        nodes := graph.nodes.insert id
          (quietNode id (adminKind mode ++ str " " ++ short) (adminKind mode) detail false) }

/-- `nodes.entry(id).or_insert_with(..)` -/
def GraphTopology.orInsert (graph : GraphTopology) (node : GraphNode) : GraphTopology :=
  { graph with nodes := graph.nodes.insertIfNew node.id node }

/-- `links.push` -/
def GraphTopology.pushLink (graph : GraphTopology) (link : GraphLink) : GraphTopology :=
  { graph with links := graph.links ++ [link] }

/-- `session_links` -/
def sessionLinks (session : JsonObject) : Option Str :=
  (arrayField session (str "links")).bind fun links =>
    let rendered := (links.filterMap JsonValue.asObject).filterMap fun link =>
      (stringField link (str "src")).bind fun src =>
        (stringField link (str "dst")).map fun dst => src ++ str " -> " ++ dst
    if rendered = [] then none else some ((str ", ").intercalate rendered)

/-- The loops of `add_admin_topology` over `routers`, `peers` and `clients`. -/
def addAdminList (object : JsonObject) (field mode : Str) (graph : GraphTopology) :
    Option GraphTopology :=
  (((arrayField object field).getD []).filterMap JsonValue.asStr).foldlM
    (fun graph zid => insertAdminNode graph (adminNodeId mode zid) mode zid zid) graph

/-- One session in `add_admin_topology`. -/
def addAdminSession (routerId : Str) (graph : GraphTopology) (session : JsonObject) :
    Option GraphTopology :=
  match stringField session (str "peer") with
  | none => some graph
  | some peerZid =>
      let mode := (stringField session (str "whatami")).getD (str "client")
      let nodeId := adminNodeId mode peerZid
      let region := (stringField session (str "region")).getD []
      let detail :=
        match sessionLinks session with
        | some links => if region = [] then links else region ++ str "; " ++ links
        | none => if region = [] then peerZid else region
      (insertAdminNode graph nodeId mode peerZid detail).map fun graph =>
        graph.pushLink
          ⟨routerId, nodeId, if region = [] then str "session" else region, str "admin"⟩

/-- The `zid` and `whatami` of an object in `add_admin_topology`. -/
def addAdminSelf (object : JsonObject) (graph : GraphTopology) : Option GraphTopology :=
  match stringField object (str "zid"), stringField object (str "whatami") with
  | some zid, some whatami => insertAdminNode graph (adminNodeId whatami zid) whatami zid zid
  | _, _ => some graph

/-- The end of `add_admin_topology`: a router and its sessions. -/
def addAdminSessions (object : JsonObject) (graph : GraphTopology) : Option GraphTopology :=
  match stringField object (str "zid") with
  | none => some graph
  | some routerZid =>
      match arrayField object (str "sessions") with
      | none => some graph
      | some sessions =>
          let routerId := adminNodeId (str "router") routerZid
          (insertAdminNode graph routerId (str "router") routerZid routerZid).bind fun graph =>
            (sessions.filterMap JsonValue.asObject).foldlM (addAdminSession routerId) graph

/-- One object of `add_admin_topology`. -/
def addAdminObject (object : JsonObject) (graph : GraphTopology) : Option GraphTopology :=
  (addAdminSelf object graph).bind fun graph =>
    (addAdminList object (str "routers") (str "router") graph).bind fun graph =>
      (addAdminList object (str "peers") (str "peer") graph).bind fun graph =>
        (addAdminList object (str "clients") (str "client") graph).bind fun graph =>
          addAdminSessions object graph

section

variable (fromStr : Str → Option JsonValue)

/-- The objects that `add_admin_topology` reads: the payloads that parse to one, by key. -/
def adminObjects (entries : Std.TreeMap Str Str) : List JsonObject :=
  entries.values.filterMap fun payload => (fromStr payload).bind JsonValue.asObject

/-- `add_admin_topology` -/
def addAdminTopology (entries : Std.TreeMap Str Str) (graph : GraphTopology) :
    Option GraphTopology :=
  (adminObjects fromStr entries).foldlM (fun graph object => addAdminObject object graph) graph

end

/-- The loop of `snapshot` over the declared entities. -/
def addAdminEntity (graph : GraphTopology) (entity : AdminEntity) : Option GraphTopology :=
  let routerId := adminNodeId entity.mode entity.zid
  (insertAdminNode graph routerId entity.mode entity.zid entity.zid).map fun graph =>
    let entityId := str "admin:" ++ entity.kind ++ str ":" ++ entity.zid ++ str ":" ++
      entity.expr.map fun byte => if byte = slash then 95 else byte
    let graph := graph.orInsert (quietNode entityId entity.kind entity.kind entity.expr false)
    let graph := graph.pushLink ⟨routerId, entityId, str "admin", str "admin"⟩
    if entity.kind = str "publisher" ∨ entity.kind = str "subscriber" then
      let topicId := str "topic:" ++ entity.expr
      let graph := graph.orInsert (quietNode topicId entity.expr (str "topic")
        (str "declared in Zenoh admin space") true)
      graph.pushLink
        (if entity.kind = str "publisher" then ⟨entityId, topicId, entity.kind, entity.kind⟩
        else ⟨topicId, entityId, entity.kind, entity.kind⟩)
    else graph

/-- The loop of `snapshot` over the observed topics. -/
def addTopic (nowMs : UInt64) (graph : GraphTopology) (topic : TopicStats) : GraphTopology :=
  let topicId := str "topic:" ++ topic.topic
  let node : GraphNode :=
    { id := topicId
      label := topic.topic
      kind := str "topic"
      detail := topic.rootType.getD (str "unknown payload")
      messages := topic.messages
      bytes := topic.bytes
      rateHz := (topic.recent.length : Rat) / 5
      stale := saturatingSub nowMs topic.lastSeenMs > 5000 }
  GraphTopology.pushLink { graph with nodes := graph.nodes.insert topicId node }
    ⟨str "zenoh", topicId, decimal topic.messages.toNat ++ str " msg", str "traffic"⟩

structure GraphState where
  connect : Str
  keyexpr : Str
  topics : Std.TreeMap Str TopicStats
  adminEntries : Std.TreeMap Str Str
  lastAdminPollMs : UInt64
  lastError : Option Str
  adminError : Option Str

/-- `GraphState::new` -/
def GraphState.new (connect keyexpr : Str) : GraphState where
  connect := connect
  keyexpr := keyexpr
  topics := ∅
  adminEntries := ∅
  lastAdminPollMs := 0
  lastError := none
  adminError := none

/-- `GraphState::observe_topic` -/
def GraphState.observeTopic (s : GraphState) (topic : Str) (payloadLen : Nat)
    (rootType : Option Str) (now : UInt64) : GraphState :=
  let stats := (s.topics.get? topic).getD
    { topic := topic, rootType := rootType, messages := 0, bytes := 0, lastPayloadBytes := 0
      lastSeenMs := now, recent := [] }
  { s with
    topics := s.topics.insert topic
      { stats with
        rootType := stats.rootType.or rootType
        messages := stats.messages + 1
        bytes := stats.bytes + UInt64.ofNat payloadLen
        lastPayloadBytes := UInt64.ofNat payloadLen
        lastSeenMs := now
        recent := (stats.recent ++ [now]).dropWhile fun oldest =>
          saturatingSub now oldest > 5000 } }

structure TopicSnapshot where
  topic : Str
  rootType : Option Str
  messages : UInt64
  bytes : UInt64
  lastPayloadBytes : UInt64
  ageMs : UInt64
  rateHz5s : Rat

structure GraphSnapshot where
  uptimeMs : UInt64
  connect : Str
  observedKeyexpr : Str
  adminEntries : Nat
  lastAdminPollMs : UInt64
  lastError : Option Str
  adminError : Option Str
  nodes : List GraphNode
  links : List GraphLink
  topics : List TopicSnapshot

/-- The graph before anything from the admin space is added. -/
def GraphState.traffic (s : GraphState) (nowMs : UInt64) : GraphTopology :=
  s.topics.values.foldl (addTopic nowMs)
    ⟨(∅ : Std.TreeMap Str GraphNode).insert (str "zenoh")
      (quietNode (str "zenoh") (str "Zenoh") (str "transport") s.connect false), []⟩

/-- `GraphState::snapshot`, `none` when it panics. -/
def GraphState.snapshot (fromStr : Str → Option JsonValue) (s : GraphState) (nowMs : UInt64) :
    Option GraphSnapshot :=
  (addAdminTopology fromStr s.adminEntries (s.traffic nowMs)).bind fun graph =>
    ((parseAdminEntities s.adminEntries).foldlM addAdminEntity graph).map fun graph =>
      { uptimeMs := nowMs
        connect := s.connect
        observedKeyexpr := s.keyexpr
        adminEntries := s.adminEntries.size
        lastAdminPollMs := s.lastAdminPollMs
        lastError := s.lastError
        adminError := s.adminError
        nodes := graph.nodes.values
        links := graph.links
        topics := s.topics.values.map fun topic =>
          { topic := topic.topic
            rootType := topic.rootType
            messages := topic.messages
            bytes := topic.bytes
            lastPayloadBytes := topic.lastPayloadBytes
            ageMs := saturatingSub nowMs topic.lastSeenMs
            rateHz5s := (topic.recent.length : Rat) / 5 } }

/-- What the observer and the admin poller do to the state, each under its lock. -/
inductive GraphEvent where
  | observe (topic : Str) (payloadLen : Nat) (rootType : Option Str) (now : UInt64)
  | observerError (error : Str)
  | adminPoll (replies : List (Str × Str)) (now : UInt64)
  | adminFailed (error : Str)

/-- The `entries` of a poll; a later reply replaces an earlier one with its key. -/
def collectReplies (replies : List (Str × Str)) : Std.TreeMap Str Str :=
  replies.foldl (fun entries reply => entries.insert reply.1 reply.2) ∅

def GraphState.step (s : GraphState) : GraphEvent → GraphState
  | .observe topic payloadLen rootType now => s.observeTopic topic payloadLen rootType now
  | .observerError error => { s with lastError := some error }
  | .adminPoll replies now =>
      { s with
        adminError := none
        adminEntries := collectReplies replies
        lastAdminPollMs := now }
  | .adminFailed error => { s with adminError := some error }

def GraphState.run (s : GraphState) (events : List GraphEvent) : GraphState :=
  events.foldl GraphState.step s

end Csyn
