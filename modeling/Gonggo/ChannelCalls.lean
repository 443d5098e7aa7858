import Gonggo.ClientReply
import Gonggo.Library.LockTrace
import Gonggo.ProxyChannel

/-! # The calls of proxychannel.c on the lock of the segment

Each call runs to its end against whatever the lock, the conditions and the proxy come up with: a
run says what every blocking call on `shm->lock` returned and which channel state was found then.
A call results in its value and in what the calling thread did to the lock.
-/

namespace Gonggo

inductive LockResult
  | zero
  | ownerDead
  deriving DecidableEq, Repr

/-- The return of `pthread_mutex_lock` or `pthread_cond_wait`, and the channel state after it. -/
structure Reacquired where
  result : LockResult
  state : ProxyChannelState
  deriving DecidableEq, Repr

structure IdleWaitRun where
  locked : Reacquired
  woken : Reacquired
  deriving DecidableEq, Repr

def proxyChannelIdleWait (run : IdleWaitRun) : Bool × List LockAction :=
  if run.locked.result = .ownerDead then (false, [.lock])
  else if run.locked.state = .channelTermination then (false, [.lock])
  else if run.locked.state ≠ .channelIdle then
    if run.woken.result = .ownerDead then (false, [.lock, .wait])
    else if run.woken.state = .channelTermination then (false, [.lock, .wait])
    else (true, [.lock, .wait])
  else (true, [.lock])

/-- One request of `proxy_channel_exchange`: the copy of its service and payload, and whether the
payload segment could be made. -/
structure RequestRun where
  servicePayload : Option String
  idle : IdleWaitRun
  created : Bool
  answered : Reacquired
  deriving DecidableEq, Repr

/-- The value says whether the proxy is still taken to be alive. -/
def RequestRun.exchange (run : RequestRun) : Bool × List LockAction :=
  match run.servicePayload with
  | none => (true, [])
  | some _ =>
      let idle := proxyChannelIdleWait run.idle
      if idle.1 then
        if run.created then
          (!(run.answered.result = .ownerDead || run.answered.state = .channelTermination),
            idle.2 ++ [.wait, .unlock])
        else (true, idle.2 ++ [.unlock])
      else (false, idle.2)

def proxyChannelExchange : List RequestRun → Bool × List LockAction
  | [] => (true, [])
  | run :: rest =>
      if run.exchange.1 then
        ((proxyChannelExchange rest).1, run.exchange.2 ++ (proxyChannelExchange rest).2)
      else run.exchange

/-- One round of the channel thread, entered with `ctx->stop` unset. -/
structure RoundRun where
  terminating : Bool
  idle : IdleWaitRun
  requests : List RequestRun

/-- The channel thread from its start to its exit; after the last round it finds `ctx->stop` set. -/
def proxyChannel : List RoundRun → List LockAction
  | [] => []
  | run :: rest =>
      if run.terminating then
        let idle := proxyChannelIdleWait run.idle
        if idle.1 then idle.2 ++ [.unlock] else idle.2
      else
        let exchange := proxyChannelExchange run.requests
        if exchange.1 then exchange.2 ++ proxyChannel rest else exchange.2

/-! ## REST calls -/

structure RestRespond where
  code : Int
  err : Option String
  json : Option String
  deriving DecidableEq, Repr

def RestRespond.failed (err : String) : RestRespond := { code := 500, err := some err, json := none }

/-- One REST call; `answer` is the text in the answer segment, if that can be opened. -/
structure RestRun where
  idle : IdleWaitRun
  created : Bool
  answered : Reacquired
  answer : Option String

/-- The response made of the answer: `none` where the source passes `NULL` to `strdup`. A text that
is no JSON has no members, and its missing code is the `int` that NaN converts to. -/
def restRespondOf (print : Printer) (answer : Option CJson) : Option RestRespond :=
  let member := fun name => answer.bind fun item => item.getObjectItem name
  let code := ((member "code").map CJson.getNumberValue).getD (CJson.getNumberValue .null)
  match member "err" with
  | none => some { code := code, err := none, json := (member "json").map print }
  | some err =>
      err.valuestring.map fun text =>
        { code := code, err := some text, json := (member "json").map print }

/-- What `proxy_channel_rest` leaves when it returns. -/
structure RestReturn where
  respond : RestRespond
  trace : List LockAction

def proxyChannelRest (library : JsonLibrary) (run : RestRun) : Option RestReturn :=
  let idle := proxyChannelIdleWait run.idle
  if idle.1 then
    if run.created then
      if run.answered.result = .ownerDead then
        some ⟨.failed "proxy is out of order", idle.2 ++ [.wait, .unlock]⟩
      else if run.answered.state = .channelRestRespond then
        match run.answer with
        | none => some ⟨.failed "proxy is out of order", idle.2 ++ [.wait, .unlock]⟩
        | some text =>
            (restRespondOf library.print (library.parse text)).map fun respond =>
              ⟨respond, idle.2 ++ [.wait, .unlock]⟩
      else some ⟨{ code := 0, err := none, json := none }, idle.2 ++ [.wait, .unlock]⟩
    else some ⟨.failed "proxy is out of order", idle.2 ++ [.unlock]⟩
  else some ⟨.failed "proxy is out of service", idle.2⟩

/-! ## What the wait for the idle channel does -/

/-- The wait for the idle channel gives up: the proxy died with the lock, or the channel is
terminated. -/
def IdleWaitRun.Refuses (run : IdleWaitRun) : Prop :=
  run.locked.result = .ownerDead ∨ run.locked.state = .channelTermination ∨
    run.locked.state ≠ .channelIdle ∧
      (run.woken.result = .ownerDead ∨ run.woken.state = .channelTermination)

instance (run : IdleWaitRun) : Decidable run.Refuses := inferInstanceAs (Decidable (_ ∨ _ ∨ _))

theorem proxyChannelIdleWait_iff (run : IdleWaitRun) :
    (proxyChannelIdleWait run).1 = true ↔ ¬ run.Refuses := by
  unfold proxyChannelIdleWait IdleWaitRun.Refuses
  by_cases hDead : run.locked.result = .ownerDead
  · simp [hDead]
  by_cases hTerminated : run.locked.state = .channelTermination
  · simp [hTerminated]
  by_cases hIdle : run.locked.state = .channelIdle
  · simp [hDead, hIdle]
  by_cases hWokenDead : run.woken.result = .ownerDead
  · simp [hDead, hTerminated, hIdle, hWokenDead]
  by_cases hWokenTerminated : run.woken.state = .channelTermination
  · simp [hDead, hTerminated, hIdle, hWokenTerminated]
  · simp [hDead, hTerminated, hIdle, hWokenDead, hWokenTerminated]

/-- Whatever it returns, it returns with the lock held. -/
theorem leaks_proxyChannelIdleWait (run : IdleWaitRun) :
    LockAction.Leaks (proxyChannelIdleWait run).2 := by
  unfold proxyChannelIdleWait
  repeat' split
  all_goals rfl

end Gonggo
