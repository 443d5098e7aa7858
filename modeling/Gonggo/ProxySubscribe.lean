import Gonggo.ClientService

/-! # Answers of a proxy and expired requests

proxysubscribe.c and the loop of clienttimeout.c. A `NULL` request id faults in the string hash of
the tables; the exchange yields `none` there.
-/

namespace Gonggo

inductive ProxySubscribeState
  | subscribeInit
  | subscribeIdle
  | subscribeAnswer
  | subscribeFailed
  | subscribeDone
  | subscribeTermination
  deriving DecidableEq, Repr

/-- What the proxy posts: the fields of the shared memory and the text of the segment it names,
`none` when that segment cannot be opened. -/
structure SubscribeAnswer where
  payloadBuffLength : Nat
  segment : Option String
  removeRequest : Bool

/-- The JSON library, the clock at each reply and the iteration order of the purge. -/
structure SubscribeContext where
  json : JsonLibrary
  clock : Nat → Time
  purgeOrder : Traversal ProxyName

def dropFromConnection (table : ClientConnectionTable) (conn : Option Conn) (rid : Rid) :
    ClientConnectionTable :=
  match conn with
  | some conn => clientConnectionTableDrop table conn rid
  | none => table

/-- The removing lookup reads no clock. -/
def proxySubscribePurgeRid (order : Traversal ProxyName) (store : RequestStore) (rid : Rid) :
    RequestStore where
  requests := (clientRequestTableGetConn store.requests rid false true 0).2
  connections := dropFromConnection store.connections
    (clientRequestTableGetConn store.requests rid false true 0).1 rid
  services := clientServiceTableRemove store.services rid
  proxynames := clientProxynameTableDropAll store.proxynames order rid

/-- The table updates of `proxy_subscribe_reply`. -/
def RequestStore.answerRequest (store : RequestStore) (proxyName : ProxyName) (rid : Rid)
    (removeRequest : Bool) (now : Time) : RequestStore :=
  let found := clientRequestTableGetConn store.requests rid true removeRequest now
  if removeRequest then
    { requests := found.2
      connections := dropFromConnection store.connections found.1 rid
      services := clientServiceTableRemove store.services rid
      proxynames := (clientProxynameTableDrop store.proxynames proxyName rid).2 }
  else { store with requests := found.2 }

def proxySubscribeReply (json : JsonLibrary) (d : Dispatcher) (proxyName : ProxyName)
    (rid : Option Rid) (headers : CJson) (payload : Option CJson) (removeRequest : Bool)
    (now : Time) : Option Dispatcher :=
  match rid with
  | none => none
  | some rid =>
      some (clientServiceReply json
        { d with store := d.store.answerRequest proxyName rid removeRequest now }
        (clientRequestTableGetConn d.store.requests rid true removeRequest now).1
        rid headers payload true)

/-- The fan-out loop, `sent` replies being done. -/
def proxySubscribeFanOut (ctx : SubscribeContext) (proxyName : ProxyName) (headers : CJson)
    (payload : Option CJson) (removeRequest : Bool) (d : Dispatcher) (sent : Nat) :
    List CJson → Option Dispatcher
  | [] => some d
  | item :: rest =>
      match proxySubscribeReply ctx.json d proxyName item.valuestring headers payload removeRequest
          (ctx.clock sent) with
      | none => none
      | some d => proxySubscribeFanOut ctx proxyName headers payload removeRequest d (sent + 1) rest

/-- The items that the answer is fanned out to: those of an array, or the one string. -/
def answeredItems : CJson → Option (List CJson)
  | .array items => some items
  | .string rid => some [.string rid]
  | _ => none

/-- The id that a clear answer purges; the outer option says whether it is a clear answer, which
then forwards no payload. -/
def clearedRid (headers : CJson) (payload : Option CJson) : Option (Option Rid) :=
  match payload with
  | none => none
  | some payload =>
      match headers.getObjectItem clientReplyServiceStatusKey with
      | none => none
      | some item =>
          if item.getNumberValue = proxyServiceStatusMultirespondClearSuccess then
            some (payload.stringOf serviceRidKey)
          else none

def purgeCleared (ctx : SubscribeContext) (d : Dispatcher) (cleared : Option (Option Rid)) :
    Dispatcher :=
  match cleared.join with
  | some rid => { d with store := proxySubscribePurgeRid ctx.purgeOrder d.store rid }
  | none => d

/-- The answer as parsed: its items, headers and optional payload, when all checks pass. -/
def parsedAnswer (json : JsonLibrary) (answer : SubscribeAnswer) :
    Option (List CJson × CJson × Option CJson) :=
  if answer.payloadBuffLength < 1 then none
  else
    match answer.segment.bind json.parse with
    | none => none
    | some root =>
        match root.getObjectItem clientReplyServiceRidKey with
        | none => none
        | some ridItem =>
            match answeredItems ridItem with
            | none => none
            | some items =>
                match root.getObjectItem clientReplyHeadersKey with
                | none => none
                | some headers => some (items, headers, root.getObjectItem clientReplyPayloadKey)

def proxySubscribeExchange (ctx : SubscribeContext) (d : Dispatcher) (proxyName : ProxyName)
    (answer : SubscribeAnswer) : Option (ProxySubscribeState × Dispatcher) :=
  match parsedAnswer ctx.json answer with
  | none => some (.subscribeFailed, d)
  | some (items, headers, payload) =>
      let cleared := clearedRid headers payload
      (proxySubscribeFanOut ctx proxyName headers (if cleared.isSome then none else payload)
        answer.removeRequest (purgeCleared ctx d cleared) 0 items).map
          fun d => (.subscribeDone, d)

/-! ## The client timeout pass -/

structure TimeoutContext where
  json : JsonLibrary
  now : Time
  expiredOrder : Traversal Rid
  dropOrder : Rid → Traversal ProxyName

/-- The body of the loop for one expired request. -/
def clientTimeoutRequest (ctx : TimeoutContext) (d : Dispatcher) (rid : Rid) : Dispatcher :=
  let conn := (clientRequestTableGetConn d.store.requests rid false false ctx.now).1
  let noticed := clientServiceExpiredReply ctx.json d conn rid true
  { noticed with
    store :=
      { requests := clientRequestTableRemove d.store.requests rid
        connections := dropFromConnection d.store.connections conn rid
        services := clientServiceTableRemove d.store.services rid
        proxynames := clientProxynameTableDropAll d.store.proxynames (ctx.dropOrder rid) rid } }

/-- One pass over the snapshot of expired requests. -/
def clientTimeoutPass (ctx : TimeoutContext) (d : Dispatcher) : Dispatcher :=
  (clientRequestTableExpired d.store.requests ctx.expiredOrder ctx.now).foldl
    (clientTimeoutRequest ctx) d

end Gonggo
