import Gonggo.RestHandler
import Gonggo.StoreSteps

/-! # Requests on their way to the proxies

The channel threads of all proxies beside the threads on the request store, and the REST requests of
the web server. An exchange makes a payload segment, posts its request over the channel, and unlinks
the segment once the lock of the channel is released. A REST request holds the lock of the table of
the channel threads until it is answered.
-/

namespace Gonggo

/-! ## Names of shared memory segments -/

def payloadPath (rid : Rid) : String := "/" ++ rid

def proxyActivatorGonggoPath (gonggoName : String) : String := "/" ++ gonggoName

def aliveMutexPath (gonggoName : String) : String := "/" ++ gonggoName ++ "_alive"

def proxyChannelPath (proxyName : ProxyName) : String := "/" ++ proxyName ++ "_channel"

def proxySubscribePath (proxyName : ProxyName) : String := "/" ++ proxyName ++ "_subscribe"

def proxyHeartbeatPath (proxyName : ProxyName) : String := "/" ++ proxyName ++ "_alive"

/-! ## Threads -/

/-- From the creation of the payload segment to its removal. -/
inductive ExchangeStage
  | creating
  | posted
  | unlinking
  deriving DecidableEq

structure Exchange where
  rid : Rid
  text : String
  stage : ExchangeStage
  deriving DecidableEq

/-- `proxy_channel_exchange`, with the requests that are still to do. -/
inductive ChannelPassPc
  | asleep
  | passing (pending : List Rid)
  | waiting (rid : Rid) (text : String) (pending : List Rid)
  | exchanging (x : Exchange) (pending : List Rid)

/-- `proxy_channel_rest`, for the one REST request that holds the table of the channel threads. -/
inductive RestPc
  | idle
  | waiting (proxyName : ProxyName) (endpoint : String) (payload : Option CJson)
  | exchanging (proxyName : ProxyName) (x : Exchange)

/-- What a channel answers to one step of an exchange: whether the proxy is still there, whether the
payload segment can be made, and whether the request is acknowledged or refused. -/
structure ChannelReply where
  alive : Bool
  created : Bool
  answered : Bool

/-- A drop request that `client_service_drop_conn` has made: its id, the request it names and the
connection that is closed. -/
structure RequestDrop where
  rid : Rid
  requestUuid : Rid
  conn : Conn

structure ProxyTraffic where
  threads : StoreThreads
  active : List ProxyName
  registered : List ProxyName
  passes : ProxyName → ChannelPassPc
  rest : RestPc
  drops : List RequestDrop
  handedOver : List (ProxyName × Rid × String)

inductive TrafficEvent
  | store (e : StoreStep)
  | activate (proxyName : ProxyName)
  | register (proxyName : ProxyName)
  | unsent (proxyName : ProxyName)
  | terminate (proxyName : ProxyName)
  | pass (proxyName : ProxyName)
  | channel (proxyName : ProxyName) (reply : ChannelReply)
  | rest (request : RestRequest)
  | worker (generated : Rid) (reply : ChannelReply)

def ChannelPassPc.isAsleep : ChannelPassPc → Bool
  | .asleep => true
  | _ => false

def RestPc.isIdle : RestPc → Bool
  | .idle => true
  | _ => false

/-- The exchange that the pass is in. -/
def ChannelPassPc.exchange : ChannelPassPc → Option Exchange
  | .exchanging x _ => some x
  | _ => none

def RestPc.exchange : RestPc → Option (ProxyName × Exchange)
  | .exchanging proxyName x => some (proxyName, x)
  | _ => none

def RestPc.proxyName : RestPc → Option ProxyName
  | .idle => none
  | .waiting proxyName _ _ | .exchanging proxyName _ => some proxyName

namespace ProxyTraffic

variable (json : JsonLibrary) (gonggoName : String) (s : ProxyTraffic)

def started : ProxyTraffic where
  threads := .started
  active := []
  registered := []
  passes _ := .asleep
  rest := .idle
  drops := []
  handedOver := []

def setThreads (threads : StoreThreads) : ProxyTraffic := { s with threads := threads }

def setPass (proxyName : ProxyName) (pc : ChannelPassPc) : ProxyTraffic :=
  { s with passes := Function.update s.passes proxyName pc }

def setRest (pc : RestPc) : ProxyTraffic := { s with rest := pc }

def handOver (proxyName : ProxyName) (x : Exchange) : ProxyTraffic :=
  { s with handedOver := s.handedOver ++ [(proxyName, x.rid, x.text)] }

/-- The program has one JSON library, and its close handlers look up the registered channels. -/
def stepOf (e : StoreStep) : StoreStep :=
  { e with
    ctx :=
      { e.ctx with
        json := json
        drop :=
          { e.ctx.drop with
            print := json.print
            registered := fun proxyName => decide (proxyName ∈ s.registered) } } }

/-- The drop request that the step stores. -/
def dropsOf (e : StoreStep) : List RequestDrop :=
  match e.action with
  | .conn conn =>
      match s.threads.conns conn with
      | .dropServiceSetting ((_, requestUuid) :: _) drawn =>
          [⟨e.ctx.drop.uuidGenerate drawn, requestUuid, conn⟩]
      | _ => []
  | _ => []

def storeEffect (e : StoreStep) : ProxyTraffic :=
  { s with
    threads := (s.stepOf json e).effect s.threads
    drops := s.drops ++ s.dropsOf e }

/-- One step of the channel thread of the proxy, which gives up when the proxy is gone. -/
def channelEffect (proxyName : ProxyName) (reply : ChannelReply) : ProxyTraffic :=
  match s.passes proxyName with
  | .asleep => s
  | .passing [] => s.setPass proxyName .asleep
  | .passing (rid :: pending) =>
      s.setPass proxyName (match clientServiceTableDup s.threads.services rid with
        | none => .passing pending
        | some text => .waiting rid text pending)
  | .waiting rid text pending =>
      s.setPass proxyName
        (if reply.alive then .exchanging ⟨rid, text, .creating⟩ pending else .passing [])
  | .exchanging ⟨rid, text, .creating⟩ pending =>
      if reply.created then
        (s.handOver proxyName ⟨rid, text, .creating⟩).setPass proxyName
          (.exchanging ⟨rid, text, .posted⟩ pending)
      else s.setPass proxyName (.passing pending)
  | .exchanging ⟨rid, text, .posted⟩ pending =>
      (if reply.alive && reply.answered then
        s.setThreads (s.threads.withProxynames
          (clientProxynameTableRequestSent s.threads.proxynames proxyName rid))
      else s).setPass proxyName
        (.exchanging ⟨rid, text, .unlinking⟩ (if reply.alive then pending else []))
  | .exchanging ⟨_, _, .unlinking⟩ pending => s.setPass proxyName (.passing pending)

/-- The checks of `rest_handler`; a refused request leaves no trace. -/
def restEffect (request : RestRequest) : ProxyTraffic :=
  match restHandlerVerdict json gonggoName (fun proxyName => decide (proxyName ∈ s.registered)) request with
  | .error _ _ => s
  | .call proxyName endpoint payload => s.setRest (.waiting proxyName endpoint payload)

/-- One step of the call of `proxy_channel_rest`. -/
def workerEffect (generated : Rid) (reply : ChannelReply) : ProxyTraffic :=
  match s.rest with
  | .idle => s
  | .waiting proxyName endpoint payload =>
      s.setRest
        (if reply.alive then
          .exchanging proxyName
            ⟨generated, clientServiceTableServicePayloadCreate json.print endpoint payload, .creating⟩
        else .idle)
  | .exchanging proxyName ⟨rid, text, .creating⟩ =>
      if reply.created then
        (s.handOver proxyName ⟨rid, text, .creating⟩).setRest
          (.exchanging proxyName ⟨rid, text, .posted⟩)
      else s.setRest .idle
  | .exchanging proxyName ⟨rid, text, .posted⟩ =>
      s.setRest (.exchanging proxyName ⟨rid, text, .unlinking⟩)
  | .exchanging _ ⟨_, _, .unlinking⟩ => s.setRest .idle

/-- The channel thread of a proxy runs while the proxy is active, and is joined at its end. -/
def guard : TrafficEvent → Prop
  | .store e => (s.stepOf json e).guard s.threads
  | .activate proxyName => proxyName ∉ s.active
  | .register proxyName => proxyName ∈ s.active
  | .unsent _ => True
  | .terminate proxyName =>
      (s.passes proxyName).isAsleep = true ∧ s.rest.proxyName ≠ some proxyName
  | .pass proxyName => proxyName ∈ s.active ∧ (s.passes proxyName).isAsleep = true
  | .channel proxyName _ => (s.passes proxyName).isAsleep = false
  | .rest _ => s.rest.isIdle = true
  | .worker _ _ => s.rest.isIdle = false

def effect : TrafficEvent → ProxyTraffic
  | .store e => s.storeEffect json e
  | .activate proxyName => { s with active := proxyName :: s.active }
  | .register proxyName => { s with registered := proxyName :: s.registered }
  | .unsent proxyName =>
      s.setThreads (s.threads.withProxynames
        (clientProxynameTableRequestUnsent s.threads.proxynames proxyName))
  | .terminate proxyName =>
      { s with
        active := s.active.filter (· ≠ proxyName)
        registered := s.registered.filter (· ≠ proxyName) }
  | .pass proxyName =>
      s.setPass proxyName
        (.passing ((clientProxynameTableRequestDup s.threads.proxynames proxyName true).getD []))
  | .channel proxyName reply => s.channelEffect proxyName reply
  | .rest request => s.restEffect json gonggoName request
  | .worker generated reply => s.workerEffect json generated reply

end ProxyTraffic

def proxyTrafficSystem (json : JsonLibrary) (gonggoName : String) :
    TransitionSystem ProxyTraffic TrafficEvent where
  init s := s = .started
  guard s e := s.guard json e
  effect s e := s.effect json gonggoName e

instance decidableTrafficGuard (json : JsonLibrary) (gonggoName : String) (s : ProxyTraffic) :
    ∀ e, Decidable ((proxyTrafficSystem json gonggoName).guard s e)
  | .store e => StoreStep.decidableGuard s.threads (s.stepOf json e)
  | .activate _ | .register _ | .terminate _ | .pass _ | .channel _ _ | .rest _ | .worker _ _ =>
      by unfold proxyTrafficSystem ProxyTraffic.guard; infer_instance
  | .unsent _ => inferInstanceAs (Decidable True)

/-! ## Sample runs -/

/-- A client sends the request of a proxy, and its route steps are done. -/
def sampleRoute (item : CJson) (conn : Conn) : List TrafficEvent :=
  [.receive conn "/gonggo" (printUnformatted item), .conn conn, .conn conn, .conn conn, .conn conn].map
    fun action =>
      .store ⟨⟨sampleRouteContext item 0, sampleDropConnContext "u", .inOrder, .inOrder, .inOrder⟩, action⟩

/-- The proxy does its part. -/
def sampleReply : ChannelReply := ⟨true, true, true⟩

def sampleRestRequest (proxyName endpoint : String) : RestRequest where
  localUri := "/gonggo/" ++ proxyName ++ "/" ++ endpoint
  requestMethod := "GET"
  httpHeaders := []
  queryString := none
  bodyPieces := []

end Gonggo
