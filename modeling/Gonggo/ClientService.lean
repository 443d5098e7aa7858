import Gonggo.ClientReply

/-! # Client requests and closed connections

clientservice.c: `client_service_route` as a verdict on the message followed by its effects, and
`client_service_drop_conn` with its two loops. Waking the channel threads does not touch the store.
-/

namespace Gonggo

/-- What the chain of checks in `client_service_route` decides about a parsed message. -/
inductive RouteVerdict
  | refused (rid : Option Rid) (status : ServiceStatus)
  | test (rid : Rid)
  | responseDump (rid dumpRid : Rid) (start size : Int)
  | proxyRequest (rid : Rid) (proxyName : ProxyName) (serviceName : String) (payload : Option CJson)
      (timeout : Time)

def gonggoServiceVerdict (rid : Rid) (serviceName : String) (payload : Option CJson) : RouteVerdict :=
  if serviceName = "test" then .test rid
  else if serviceName = "responseDump" then
    match payload with
    | none => .refused (some rid) .requestParseStatusPayloadMissing
    | some payload =>
        let start := ((payload.getObjectItem "start").map CJson.valueint).getD 0
        let size := ((payload.getObjectItem "size").map CJson.valueint).getD 0
        match payload.stringOf serviceRidKey with
        | none => .refused (some rid) .requestParseStatusPayloadInvalid
        | some dumpRid =>
            if dumpRid.utf8ByteSize < 1 ∨ start < 1 ∨ size < 1 then
              .refused (some rid) .requestParseStatusPayloadInvalid
            else .responseDump rid dumpRid start size
  else .refused (some rid) .requestParseStatusGonggoServiceInvalid

def proxyServiceVerdict (headers : CJson) (rid : Rid) (proxyName : ProxyName) (serviceName : String)
    (payload : Option CJson) : RouteVerdict :=
  match headers.getObjectItem clientReplyTimeoutKey with
  | none => .refused (some rid) .requestParseStatusTimeoutMissing
  | some item =>
      let timeout : Time := item.valuedouble.toSigned 64
      if timeout < 1 then .refused (some rid) .requestParseStatusTimeoutInvalid
      else .proxyRequest rid proxyName serviceName payload timeout

def clientServiceRouteVerdict (root : CJson) : RouteVerdict :=
  match root.getObjectItem serviceHeadersKey with
  | none => .refused none .requestParseStatusHeadersMissing
  | some headers =>
      match headers.stringOf serviceRidKey with
      | none => .refused none .requestParseStatusRidMissing
      | some rid =>
          if rid.utf8ByteSize < 1 then .refused none .requestParseStatusRidMissing
          else if uuidBufLen - 1 < rid.utf8ByteSize then
            .refused (some rid) .requestParseStatusRidOverlength
          else
            match headers.stringOf serviceServiceKey with
            | none => .refused (some rid) .requestParseStatusServiceMissing
            | some serviceName =>
                if serviceName.utf8ByteSize < 1 then
                  .refused (some rid) .requestParseStatusServiceMissing
                else if serviceName = gonggoServiceRequestDrop then
                  .refused (some rid) .requestParseStatusServiceReserved
                else
                  match headers.stringOf serviceProxyKey with
                  | none => gonggoServiceVerdict rid serviceName (root.getObjectItem servicePayloadKey)
                  | some proxyName =>
                      proxyServiceVerdict headers rid proxyName serviceName
                        (root.getObjectItem servicePayloadKey)

/-- A request that is passed on to a proxy has an id, a service that is not the reserved one and a
timeout of a second at least. -/
theorem checks_of_proxyRequest {root : CJson} {rid : Rid} {proxyName : ProxyName}
    {serviceName : String} {payload : Option CJson} {timeout : Time}
    (h : clientServiceRouteVerdict root = .proxyRequest rid proxyName serviceName payload timeout) :
    0 < rid.utf8ByteSize ∧ serviceName ≠ gonggoServiceRequestDrop ∧ 1 ≤ timeout ∧ timeout < 2 ^ 63 := by
  unfold clientServiceRouteVerdict at h
  split at h
  · cases h
  split at h
  · cases h
  split at h
  · cases h
  rename_i hNamed
  split at h
  · cases h
  split at h
  · cases h
  split at h
  · cases h
  split at h
  · cases h
  rename_i hReserved
  split at h
  · unfold gonggoServiceVerdict at h
    split at h
    · cases h
    split at h
    · split at h
      · cases h
      · simp only at h
        split at h
        · cases h
        · split at h <;> cases h
    · cases h
  · unfold proxyServiceVerdict at h
    split at h
    · cases h
    · simp only at h
      split at h
      · cases h
      · rename_i hTimeout
        cases h
        exact ⟨by omega, hReserved, not_lt.mp hTimeout, Double.toSigned_lt _⟩

structure RespondQueryResult where
  respond : List String
  stop : Int
  more : Int

/-- What `client_service_route` reads besides the message and the tables. -/
structure RouteContext where
  json : JsonLibrary
  gonggoPath : Option String
  aliveProxies : List ProxyName
  respondQuery : Rid → Int → Int → Option RespondQueryResult
  now : Time

def gonggoTest (ctx : RouteContext) (d : Dispatcher) (conn : Conn) (rid : Rid) : Dispatcher :=
  clientServiceReply ctx.json d (some conn) rid
    (.object [(clientReplyServiceStatusKey, .ofInt gonggoTestSuccess)])
    (some (.object [("services", .array [.string "test", .string "responseDump"]),
      ("proxies", .array (ctx.aliveProxies.map .string))]))
    true

def gonggoResponseDump (ctx : RouteContext) (d : Dispatcher) (conn : Conn) (rid dumpRid : Rid)
    (start size : Int) : Dispatcher :=
  match ctx.respondQuery dumpRid start size with
  | some r =>
      clientServiceReply ctx.json d (some conn) rid
        (.object [(clientReplyServiceStatusKey, .ofInt gonggoResponseDumpSuccess)])
        (some (.object [("responses", .array (r.respond.filterMap ctx.json.parse)),
          ("stop", .ofInt r.stop), ("more", .ofInt r.more)]))
        false
  | none =>
      clientServiceReply ctx.json d (some conn) rid
        (.object [(clientReplyServiceStatusKey, .ofInt gonggoResponseDumpDbError)])
        (some (.object [])) false

@[simp] theorem store_gonggoTest (ctx : RouteContext) (d : Dispatcher) (conn : Conn) (rid : Rid) :
    (gonggoTest ctx d conn rid).store = d.store :=
  store_clientServiceReply ..

@[simp] theorem store_gonggoResponseDump (ctx : RouteContext) (d : Dispatcher) (conn : Conn)
    (rid dumpRid : Rid) (start size : Int) :
    (gonggoResponseDump ctx d conn rid dumpRid start size).store = d.store := by
  unfold gonggoResponseDump
  split <;> exact store_clientServiceReply ..

/-- The four table updates of an acknowledged proxy request. -/
def RequestStore.saveRequest (store : RequestStore) (print : Printer) (conn : Conn) (rid : Rid)
    (proxyName : ProxyName) (serviceName : String) (payload : Option CJson) (timeout now : Time) :
    RequestStore where
  requests := clientRequestTableSet store.requests rid conn timeout now
  connections := clientConnectionTableSet store.connections conn rid
  services := clientServiceTableSet store.services rid
    (clientServiceTableServicePayloadCreate print serviceName payload)
  proxynames := clientProxynameTableSet store.proxynames proxyName rid

def clientServiceRoute (ctx : RouteContext) (d : Dispatcher) (uri data : String) (conn : Conn) :
    Dispatcher :=
  if ctx.gonggoPath ≠ some uri then d
  else
    match ctx.json.parse data with
    | none => d
    | some root =>
        match clientServiceRouteVerdict root with
        | .refused rid status => clientParsingStatusReply ctx.json d conn rid status
        | .test rid =>
            gonggoTest ctx
              (clientParsingStatusReply ctx.json d conn (some rid) .requestParseStatusAcknowledged)
              conn rid
        | .responseDump rid dumpRid start size =>
            gonggoResponseDump ctx
              (clientParsingStatusReply ctx.json d conn (some rid) .requestParseStatusAcknowledged)
              conn rid dumpRid start size
        | .proxyRequest rid proxyName serviceName payload timeout =>
            { clientParsingStatusReply ctx.json d conn (some rid) .requestParseStatusAcknowledged with
              store := d.store.saveRequest ctx.json.print conn rid proxyName serviceName payload
                timeout ctx.now }

/-- The id of the proxy request that a message is acknowledged as. -/
def clientServiceRoutedRid (ctx : RouteContext) (uri data : String) : Option Rid :=
  if ctx.gonggoPath ≠ some uri then none
  else
    match (ctx.json.parse data).map clientServiceRouteVerdict with
    | some (.proxyRequest rid _ _ _ _) => some rid
    | _ => none

theorem store_clientServiceRoute_of_none {ctx : RouteContext} {uri data : String}
    (h : clientServiceRoutedRid ctx uri data = none) (d : Dispatcher) (conn : Conn) :
    (clientServiceRoute ctx d uri data conn).store = d.store := by
  unfold clientServiceRoutedRid at h
  unfold clientServiceRoute
  split
  · rfl
  · rename_i hUri
    rw [if_neg hUri] at h
    cases hParse : ctx.json.parse data with
    | none => rfl
    | some root =>
      cases hVerdict : clientServiceRouteVerdict root with
      | refused rid status => simp [hVerdict]
      | test rid => simp [hVerdict]
      | responseDump rid dumpRid start size => simp [hVerdict]
      | proxyRequest rid proxyName serviceName payload timeout => simp [hParse, hVerdict] at h

theorem store_clientServiceRoute_of_some {ctx : RouteContext} {uri data : String} {rid : Rid}
    (h : clientServiceRoutedRid ctx uri data = some rid) (d : Dispatcher) (conn : Conn) :
    ∃ proxyName serviceName payload timeout,
      (clientServiceRoute ctx d uri data conn).store =
        d.store.saveRequest ctx.json.print conn rid proxyName serviceName payload timeout ctx.now := by
  unfold clientServiceRoutedRid at h
  unfold clientServiceRoute
  split at h
  · cases h
  · rename_i hUri
    rw [if_neg hUri]
    cases hParse : ctx.json.parse data with
    | none => simp [hParse] at h
    | some root =>
      simp only [hParse, Option.map_some] at h
      cases hVerdict : clientServiceRouteVerdict root with
      | proxyRequest rid' proxyName serviceName payload timeout =>
        simp only [hVerdict, Option.some.injEq] at h
        subst h
        exact ⟨proxyName, serviceName, payload, timeout, by simp [hVerdict]⟩
      | refused => simp [hVerdict] at h
      | test => simp [hVerdict] at h
      | responseDump => simp [hVerdict] at h

/-- What `client_service_drop_conn` reads besides the connection and the tables: the proxies with a
registered channel, the generated ids in the order they are drawn and the iteration orders. -/
structure DropConnContext where
  print : Printer
  registered : ProxyName → Bool
  uuidGenerate : Nat → Rid
  nameOrder : Rid → Traversal ProxyName
  dropOrder : Rid → Traversal ProxyName
  localOrder : Traversal ProxyName

/-- The three removals that the close, purge and expiry paths share. -/
def RequestStore.removeRequest (store : RequestStore) (order : Traversal ProxyName) (rid : Rid) :
    RequestStore :=
  { store with
    requests := clientRequestTableRemove store.requests rid
    services := clientServiceTableRemove store.services rid
    proxynames := clientProxynameTableDropAll store.proxynames order rid }

/-- First loop: group the ids of the connection by proxy in a local table, removing each from the
tables on the way. -/
def dropConnCollect (ctx : DropConnContext) (store : RequestStore) (grouped : ClientProxynameTable) :
    List Rid → RequestStore × ClientProxynameTable
  | [] => (store, grouped)
  | rid :: rest =>
      dropConnCollect ctx (store.removeRequest (ctx.dropOrder rid) rid)
        (match clientProxynameTableProxyNameDup store.proxynames (ctx.nameOrder rid) rid with
          | some proxyName => clientProxynameTableSet grouped proxyName rid
          | none => grouped)
        rest

/-- The pairs that the second loop visits: every id grouped under a proxy with a channel. -/
def dropConnTargets (ctx : DropConnContext) (grouped : ClientProxynameTable) :
    List (ProxyName × Rid) :=
  ((ctx.localOrder.visit grouped.keys).filter ctx.registered).flatMap fun proxyName =>
    match grouped.lookup proxyName with
    | some value => value.requestUuids.uuids.map fun rid => (proxyName, rid)
    | none => []

def requestDropPayload (requestUuid : Rid) : CJson := .object [(serviceRidKey, .string requestUuid)]

/-- The envelope of a request that tells a proxy to drop one of its requests. -/
def requestDropText (print : Printer) (requestUuid : Rid) : String :=
  clientServiceTableServicePayloadCreate print gonggoServiceRequestDrop
    (some (requestDropPayload requestUuid))

/-- The item has the reserved service, and a payload that names the request. -/
structure AsksDrop (item : CJson) (requestUuid : Rid) : Prop where
  service : item.path ["service"] = some (.string "gonggorequestdrop")
  payload : item.path ["payload"] = some (.object [("rid", .string requestUuid)])
  members : item.members.map Prod.fst = ["service", "payload"]

/-- The text is such an item. -/
def DropText (print : Printer) (text : String) (requestUuid : Rid) : Prop :=
  ∃ item, text = print item ∧ AsksDrop item requestUuid

theorem dropText_requestDropText (print : Printer) (requestUuid : Rid) :
    DropText print (requestDropText print requestUuid) requestUuid :=
  ⟨_, rfl, rfl, rfl, rfl⟩

/-- The members and their values leave one item only. -/
theorem AsksDrop.eq {item : CJson} {requestUuid : Rid} (h : AsksDrop item requestUuid) :
    item = .object [(serviceServiceKey, .string gonggoServiceRequestDrop),
      (servicePayloadKey, requestDropPayload requestUuid)] := by
  obtain ⟨hService, hPayload, hMembers⟩ := h
  cases item with
  | object members =>
    obtain ⟨⟨name, service⟩, ⟨other, payload⟩, rfl⟩ : ∃ first second, members = [first, second] := by
      have hLength : members.length = 2 := by simpa [CJson.members] using congrArg List.length hMembers
      exact List.length_eq_two.mp hLength
    obtain ⟨rfl, rfl⟩ : name = "service" ∧ other = "payload" := by simpa [CJson.members] using hMembers
    cases hService
    cases hPayload
    rfl
  | _ => cases hMembers

theorem dropText_iff {print : Printer} {text : String} {requestUuid : Rid} :
    DropText print text requestUuid ↔ text = requestDropText print requestUuid := by
  constructor
  · rintro ⟨item, rfl, hAsks⟩
    rw [hAsks.eq]
    rfl
  · rintro rfl
    exact dropText_requestDropText print requestUuid

def RequestStore.saveRequestDrop (store : RequestStore) (print : Printer) (proxyName : ProxyName)
    (rid requestUuid : Rid) : RequestStore :=
  { store with
    services := clientServiceTableSet store.services rid
      (clientServiceTableServicePayloadCreate print gonggoServiceRequestDrop
        (some (requestDropPayload requestUuid)))
    proxynames := clientProxynameTableSet store.proxynames proxyName rid }

/-- Second loop: a drop request under a fresh id for every target, `drawn` ids being used up. -/
def dropConnCreate (ctx : DropConnContext) (store : RequestStore) (drawn : Nat) :
    List (ProxyName × Rid) → RequestStore
  | [] => store
  | (proxyName, requestUuid) :: rest =>
      dropConnCreate ctx
        (store.saveRequestDrop ctx.print proxyName (ctx.uuidGenerate drawn) requestUuid)
        (drawn + 1) rest

def dropConnCollected (ctx : DropConnContext) (store : RequestStore) (uuids : List Rid) :
    RequestStore × ClientProxynameTable :=
  dropConnCollect ctx store HashTable.empty uuids

/-- The ids drawn while the connection is dropped. -/
def dropConnDrawn (ctx : DropConnContext) (store : RequestStore) (conn : Conn) : List Rid :=
  match clientConnectionTableRequestDup store.connections conn with
  | none => []
  | some uuids =>
      (List.range (dropConnTargets ctx (dropConnCollected ctx store uuids).2).length).map
        ctx.uuidGenerate

def clientServiceDropConn (ctx : DropConnContext) (store : RequestStore) (conn : Conn) :
    RequestStore :=
  match clientConnectionTableRequestDup store.connections conn with
  | none => store
  | some uuids =>
      let collected := dropConnCollected ctx store uuids
      let created := dropConnCreate ctx collected.1 0 (dropConnTargets ctx collected.2)
      { created with connections := clientConnectionTableRemove created.connections conn }

/-! ## A sample request -/

/-- The request of a service of a proxy, with a timeout of five seconds. -/
def sampleRequest (rid : Rid) (proxyName : ProxyName) (serviceName : String) : CJson :=
  .object [(serviceHeadersKey, .object [(serviceRidKey, .string rid), (serviceProxyKey, .string proxyName),
    (serviceServiceKey, .string serviceName), (clientReplyTimeoutKey, .ofInt 5)])]

/-- A library that knows the text of one item. -/
def sampleJson (item : CJson) : JsonLibrary where
  print := printUnformatted
  parse text := if text = printUnformatted item then some item else none

def sampleRouteContext (item : CJson) (now : Time) : RouteContext where
  json := sampleJson item
  gonggoPath := some "/gonggo"
  aliveProxies := []
  respondQuery _ _ _ := none
  now := now

def sampleDropConnContext (generated : Rid) : DropConnContext where
  print := printUnformatted
  registered _ := true
  uuidGenerate n := generated ++ toString n
  nameOrder _ := .inOrder
  dropOrder _ := .inOrder
  localOrder := .inOrder

end Gonggo
