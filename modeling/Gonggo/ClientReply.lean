import Gonggo.ClientProxynameTable

/-! # The request store and the replies to clients

clientreply.c. The four tables form the request store; what a reply adds to the response database
and what it writes to a websocket is kept as two logs beside them. No reply touches the store.
-/

namespace Gonggo

structure RequestStore where
  requests : ClientRequestTable
  connections : ClientConnectionTable
  services : ClientServiceTable
  proxynames : ClientProxynameTable

def RequestStore.empty : RequestStore :=
  ⟨HashTable.empty, HashTable.empty, HashTable.empty, HashTable.empty⟩

/-- The tables, the responses that `db_respond_insert` was called with and the messages written. -/
structure Dispatcher where
  store : RequestStore
  respondRows : List (Rid × String)
  written : List (Conn × String)

/-- The JSON library the dispatcher is linked with. -/
structure JsonLibrary where
  print : Printer
  parse : String → Option CJson

namespace Dispatcher

def empty : Dispatcher := ⟨RequestStore.empty, [], []⟩

def dbRespondInsert (d : Dispatcher) (rid : Rid) (respond : String) : Dispatcher :=
  { d with respondRows := d.respondRows ++ [(rid, respond)] }

def mgWebsocketWrite (d : Dispatcher) (conn : Conn) (text : String) : Dispatcher :=
  { d with written := d.written ++ [(conn, text)] }

/-- The tail shared by the replies: a row when asked for, then a write to a known connection. -/
def deliver (d : Dispatcher) (conn : Option Conn) (rid : Rid) (text : String) (dbSave : Bool) :
    Dispatcher :=
  let saved := if dbSave ∧ 0 < rid.utf8ByteSize then d.dbRespondInsert rid text else d
  match conn with
  | some conn => saved.mgWebsocketWrite conn text
  | none => saved

@[simp] theorem store_deliver (d : Dispatcher) (conn : Option Conn) (rid : Rid) (text : String)
    (dbSave : Bool) : (d.deliver conn rid text dbSave).store = d.store := by
  unfold deliver
  cases conn <;> dsimp only <;> split <;> rfl

theorem written_deliver (d : Dispatcher) (conn : Option Conn) (rid : Rid) (text : String) (dbSave : Bool) :
    (d.deliver conn rid text dbSave).written = d.written ++ conn.toList.map fun conn => (conn, text) := by
  unfold deliver
  cases conn <;> dsimp only <;> split <;> simp [mgWebsocketWrite, dbRespondInsert]

end Dispatcher

variable (json : JsonLibrary)

def parsingStatusText (rid : Option Rid) (status : ServiceStatus) : CJson :=
  .object [(clientReplyHeadersKey, .object
    [(clientReplyServiceRidKey, .string (rid.getD "")),
      (clientReplyRequestStatusKey, .ofInt status.code)])]

def clientParsingStatusReply (d : Dispatcher) (conn : Conn) (rid : Option Rid)
    (status : ServiceStatus) : Dispatcher :=
  d.mgWebsocketWrite conn (json.print (parsingStatusText rid status))

/-- The headers of a reply: the dispatcher's own two members, then each member of the proxy's
headers under its name with the value that a lookup by that name finds. -/
def mergeHeaders (rid : Rid) (proxyHeaders : CJson) : CJson :=
  proxyHeaders.members.foldl
    (fun headers child =>
      match proxyHeaders.getObjectItem child.1 with
      | some value => headers.addItemToObject child.1 value
      | none => headers)
    (.object [(clientReplyServiceRidKey, .string rid),
      (clientReplyRequestStatusKey, .ofInt ServiceStatus.requestStatusAnswered.code)])

def serviceReplyText (rid : Rid) (proxyHeaders : CJson) (proxyPayload : Option CJson) : CJson :=
  let reply := CJson.object [(clientReplyHeadersKey, mergeHeaders rid proxyHeaders)]
  match proxyPayload with
  | some payload => reply.addItemToObject clientReplyPayloadKey payload
  | none => reply

def clientServiceReply (d : Dispatcher) (conn : Option Conn) (rid : Rid) (proxyHeaders : CJson)
    (proxyPayload : Option CJson) (dbSave : Bool) : Dispatcher :=
  d.deliver conn rid (json.print (serviceReplyText rid proxyHeaders proxyPayload)) dbSave

def expiredReplyText (rid : Rid) : CJson :=
  .object [(clientReplyHeadersKey, .object
    [(clientReplyServiceRidKey, .string rid),
      (clientReplyRequestStatusKey, .ofInt ServiceStatus.requestStatusExpired.code)])]

/-- The item is the notice that the request has expired. -/
structure NoticesExpiry (item : CJson) (rid : Rid) : Prop where
  headers : item.path ["headers"] =
    some (.object [("rid", .string rid),
      ("requestStatus", .ofInt ServiceStatus.requestStatusExpired.code)])
  members : item.members.map Prod.fst = ["headers"]

theorem noticesExpiry_expiredReplyText (rid : Rid) : NoticesExpiry (expiredReplyText rid) rid :=
  ⟨rfl, rfl⟩

def clientServiceExpiredReply (d : Dispatcher) (conn : Option Conn) (rid : Rid) (dbSave : Bool) :
    Dispatcher :=
  d.deliver conn rid (json.print (expiredReplyText rid)) dbSave

def aliveNotificationText (proxyName : ProxyName) (requestUuids : List Rid) (started : Bool) : CJson :=
  .object [
    (clientReplyHeadersKey, .object
      [(clientReplyRequestStatusKey, .ofInt ServiceStatus.requestStatusProxyAliveNotification.code),
        (clientReplyServiceStatusKey, .ofInt
          (if started then proxyServiceStatusAliveStart else proxyServiceStatusAliveTermination))]),
    (clientReplyPayloadKey, .object
      [(clientReplyServiceProxyKey, .string proxyName),
        (clientReplyServiceRidKey, .array (requestUuids.map .string))])]

/-- The item tells that the proxy has started or terminated, and names the requests. -/
structure Announces (item : CJson) (proxyName : ProxyName) (started : Bool) (requestUuids : List Rid) :
    Prop where
  requestStatus : item.path ["headers", "requestStatus"] =
    some (.ofInt ServiceStatus.requestStatusProxyAliveNotification.code)
  serviceStatus : item.path ["headers", "serviceStatus"] = some (.ofInt
    (if started then proxyServiceStatusAliveStart else proxyServiceStatusAliveTermination))
  proxy : item.path ["payload", "proxy"] = some (.string proxyName)
  rid : item.path ["payload", "rid"] = some (.array (requestUuids.map .string))

theorem announces_aliveNotificationText (proxyName : ProxyName) (requestUuids : List Rid)
    (started : Bool) :
    Announces (aliveNotificationText proxyName requestUuids started) proxyName started requestUuids :=
  ⟨rfl, rfl, rfl, rfl⟩

def clientProxyAliveNotificationDo (d : Dispatcher) (conn : Conn) (proxyName : ProxyName)
    (requestUuids : List Rid) (started : Bool) : Dispatcher :=
  d.mgWebsocketWrite conn (json.print (aliveNotificationText proxyName requestUuids started))

@[simp] theorem store_clientParsingStatusReply (d : Dispatcher) (conn : Conn) (rid : Option Rid)
    (status : ServiceStatus) : (clientParsingStatusReply json d conn rid status).store = d.store := rfl

@[simp] theorem store_clientServiceReply (d : Dispatcher) (conn : Option Conn) (rid : Rid)
    (headers : CJson) (payload : Option CJson) (dbSave : Bool) :
    (clientServiceReply json d conn rid headers payload dbSave).store = d.store :=
  Dispatcher.store_deliver ..

@[simp] theorem store_clientServiceExpiredReply (d : Dispatcher) (conn : Option Conn) (rid : Rid)
    (dbSave : Bool) : (clientServiceExpiredReply json d conn rid dbSave).store = d.store :=
  Dispatcher.store_deliver ..

end Gonggo
