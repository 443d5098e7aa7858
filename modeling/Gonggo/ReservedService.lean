import Gonggo.ProxyTraffic

/-! # The reserved service

The envelopes with the reserved service are those that the close handlers make, and each names a
request of a connection that is closed. The route refuses the reserved service, a REST request may
name it.
-/

namespace Gonggo

/-- A request under the id was acknowledged to the connection. -/
def UseHistory.Uses (history : UseHistory) (conn : Conn) (rid : Rid) : Prop :=
  ∃ k < history.count, history.conn k = conn ∧ history.rid k = rid

/-- The same, on a connection that is being or has been closed. -/
def UseHistory.ClosedUse (history : UseHistory) (conn : Conn) (rid : Rid) : Prop :=
  ∃ k < history.count, history.conn k = conn ∧ history.rid k = rid ∧ history.closed k = true

/-- The text of an envelope tells its service. -/
def KeepsService (print : Printer) : Prop :=
  ∀ serviceName payload serviceName' payload',
    clientServiceTableServicePayloadCreate print serviceName payload =
      clientServiceTableServicePayloadCreate print serviceName' payload' → serviceName = serviceName'

/-! ## Close handlers drop requests of their connection -/

namespace UseHistory

variable {history history' : UseHistory} {conn : Conn} {rid : Rid}

theorem Kept.uses (hKept : history.Kept history') (h : history.Uses conn rid) : history'.Uses conn rid := by
  obtain ⟨k, hk, hConn, hRid⟩ := h
  exact ⟨k, by rwa [hKept.count], by rwa [hKept.conn], by rwa [hKept.rid]⟩

theorem Kept.closedUse (hKept : history.Kept history') (h : history.ClosedUse conn rid) :
    history'.ClosedUse conn rid := by
  obtain ⟨k, hk, hConn, hRid, hClosed⟩ := h
  exact ⟨k, by rwa [hKept.count], by rwa [hKept.conn], by rwa [hKept.rid], hKept.closed k hClosed⟩

theorem Uses.acknowledge (h : history.Uses conn rid) (worker : Conn) (other : Rid) :
    (history.acknowledge worker other).Uses conn rid := by
  obtain ⟨k, hk, hConn, hRid⟩ := h
  obtain ⟨hConn', hRid', -⟩ := history.acknowledge_of_lt worker other hk
  exact ⟨k, Nat.lt_succ_of_lt hk, hConn'.trans hConn, hRid'.trans hRid⟩

theorem ClosedUse.acknowledge (h : history.ClosedUse conn rid) (worker : Conn) (other : Rid) :
    (history.acknowledge worker other).ClosedUse conn rid := by
  obtain ⟨k, hk, hConn, hRid, hClosed⟩ := h
  obtain ⟨hConn', hRid', -, -, -, hClosed', -⟩ := history.acknowledge_of_lt worker other hk
  exact ⟨k, Nat.lt_succ_of_lt hk, hConn'.trans hConn, hRid'.trans hRid, hClosed'.trans hClosed⟩

theorem kept_close (history : UseHistory) (conn : Conn) : history.Kept (history.close conn) :=
  ⟨rfl, rfl, rfl, fun k hClosed => by simp [close, hClosed]⟩

end UseHistory

namespace StoreThreads

variable {s s' : StoreThreads} {e : StoreStep} {conn : Conn}

/-- What a worker saves, what the table lists for a connection and what a close handler deals with
are requests of the connection; once its handler runs they are closed. -/
structure ClosesOwn (s : StoreThreads) : Prop where
  request : ∀ conn req k, (s.conns conn).request = some (req, k) →
    k < s.history.count ∧ s.history.conn k = conn ∧ s.history.rid k = req.rid
  listed : ∀ conn rid, ListedIn s.connections conn rid → s.history.Uses conn rid
  drops : ∀ conn rid, (s.conns conn).Drops rid → s.history.Uses conn rid
  closing : ∀ conn, (s.conns conn).isClosing = true → ∀ k < s.history.count, s.history.conn k = conn →
    s.history.closed k = true

namespace ClosesOwn

theorem of_aside (h : s.ClosesOwn) (hAside : s.Aside s') : s'.ClosesOwn := by
  obtain ⟨hConns, hKept, hConnections⟩ := hAside
  refine ⟨fun conn req k hReq => ?_, fun conn rid hListed => ?_, fun conn rid hDrops => ?_,
    fun conn hClosing k hk hConn => ?_⟩
  · rw [hConns] at hReq
    rw [hKept.count, hKept.conn, hKept.rid]
    exact h.request conn req k hReq
  · exact hKept.uses (h.listed conn rid (hConnections conn rid hListed))
  · rw [hConns] at hDrops
    exact hKept.uses (h.drops conn rid hDrops)
  · rw [hConns] at hClosing
    rw [hKept.count] at hk
    rw [hKept.conn] at hConn
    exact hKept.closed k (h.closing conn hClosing k hk hConn)

theorem of_works {worker : Conn} (h : s.ClosesOwn) (hWorks : s.Works s' worker) : s'.ClosesOwn := by
  have hKept := hWorks.history
  refine ⟨fun conn req k hReq => ?_, fun conn rid hListed => ?_, fun conn rid hDrops => ?_,
    fun conn hClosing k hk hConn => ?_⟩
  · rw [hKept.count, hKept.conn, hKept.rid]
    by_cases hWorker : conn = worker
    · subst hWorker
      exact h.request conn req k (hWorks.request req k hReq)
    · rw [hWorks.conns conn hWorker] at hReq
      exact h.request conn req k hReq
  · rcases hWorks.connections conn rid hListed with hOld | ⟨rfl, req, k, hReq, rfl⟩
    · exact hKept.uses (h.listed conn rid hOld)
    · exact hKept.uses ⟨k, h.request conn req k hReq⟩
  · by_cases hWorker : conn = worker
    · subst hWorker
      rcases hWorks.drops rid hDrops with hOld | hListed
      · exact hKept.uses (h.drops conn rid hOld)
      · exact hKept.uses (h.listed conn rid hListed)
    · rw [hWorks.conns conn hWorker] at hDrops
      exact hKept.uses (h.drops conn rid hDrops)
  · rw [hKept.count] at hk
    rw [hKept.conn] at hConn
    refine hKept.closed k ?_
    by_cases hWorker : conn = worker
    · subst hWorker
      exact h.closing conn (hWorks.closing hClosing) k hk hConn
    · rw [hWorks.conns conn hWorker] at hClosing
      exact h.closing conn hClosing k hk hConn

/-- The request of the message that the worker acknowledges is a new one of its connection. -/
theorem acknowledge {worker : Conn} {req : ProxyRequest} {d : Dispatcher} (h : s.ClosesOwn)
    (hReady : (s.conns worker).isReady = true) (hStore : d.store = s.dispatcher.store) :
    (((s.withDispatcher d).withHistory (s.history.acknowledge worker req.rid)).setConn worker
      (.requestSetting req s.history.count)).ClosesOwn := by
  refine ⟨fun conn req' k hReq => ?_, fun conn rid hListed => ?_, fun conn rid hDrops => ?_,
    fun conn hClosing k hk hConn => ?_⟩
  · by_cases hWorker : conn = worker
    · subst hWorker
      rw [setConn_self] at hReq
      cases hReq
      exact ⟨Nat.lt_succ_self _, Function.update_self .., Function.update_self ..⟩
    · rw [setConn_ne _ hWorker] at hReq
      obtain ⟨hk, hConn, hRid⟩ := h.request conn req' k hReq
      obtain ⟨hConn', hRid', -⟩ := s.history.acknowledge_of_lt worker req.rid hk
      exact ⟨Nat.lt_succ_of_lt hk, hConn'.trans hConn, hRid'.trans hRid⟩
  · refine UseHistory.Uses.acknowledge (h.listed conn rid ?_) worker req.rid
    simpa [connections, setConn, withHistory, withDispatcher, hStore] using hListed
  · refine UseHistory.Uses.acknowledge (h.drops conn rid ?_) worker req.rid
    by_cases hWorker : conn = worker
    · subst hWorker
      rw [setConn_self] at hDrops
      exact hDrops.elim
    · rwa [setConn_ne _ hWorker] at hDrops
  · by_cases hWorker : conn = worker
    · subst hWorker
      rw [setConn_self] at hClosing
      cases hClosing
    · rw [setConn_ne _ hWorker] at hClosing
      have hNe : k ≠ s.history.count := by
        rintro rfl
        exact hWorker (hConn.symm.trans (Function.update_self ..))
      have hLt : k < s.history.count := Nat.lt_of_le_of_ne (Nat.le_of_lt_succ hk) hNe
      obtain ⟨hConn', -, -, -, -, hClosed', -⟩ := s.history.acknowledge_of_lt worker req.rid hLt
      exact hClosed'.trans (h.closing conn hClosing k hLt (hConn'.symm.trans hConn))

theorem close {worker : Conn} (h : s.ClosesOwn) :
    ((s.withHistory (s.history.close worker)).setConn worker .closing).ClosesOwn := by
  have hKept := s.history.kept_close worker
  refine ⟨fun conn req k hReq => ?_, fun conn rid hListed => hKept.uses (h.listed conn rid hListed),
    fun conn rid hDrops => ?_, fun conn hClosing k hk hConn => ?_⟩
  · by_cases hWorker : conn = worker
    · subst hWorker
      rw [setConn_self] at hReq
      cases hReq
    · rw [setConn_ne _ hWorker] at hReq
      exact h.request conn req k hReq
  · by_cases hWorker : conn = worker
    · subst hWorker
      rw [setConn_self] at hDrops
      exact hDrops.elim
    · rw [setConn_ne _ hWorker] at hDrops
      exact hKept.uses (h.drops conn rid hDrops)
  · by_cases hWorker : conn = worker
    · subst hWorker
      exact Bool.or_eq_true_iff.mpr (.inr (decide_eq_true hConn))
    · rw [setConn_ne _ hWorker] at hClosing
      exact hKept.closed k (h.closing conn hClosing k hk hConn)

theorem of_same (h : s.ClosesOwn) (hConns : s'.conns = s.conns) (hHistory : s'.history = s.history)
    (hConnections : s'.connections = s.connections) : s'.ClosesOwn :=
  h.of_aside (.same hConns (by rw [hHistory]; exact .refl _) hConnections)

theorem effect (h : s.ClosesOwn) (hGuard : e.guard s) : (e.effect s).ClosesOwn := by
  obtain ⟨ctx, action⟩ := e
  cases action with
  | receive worker uri data =>
    rcases receive_cases s ctx worker uri data with ⟨hWorks, -⟩ | ⟨req, -, d, hStore, hEq⟩
    · exact h.of_works hWorks
    · simp only [StoreStep.effect, hEq]
      exact h.acknowledge hGuard hStore
  | close worker => exact h.close
  | conn worker => exact h.of_works (works_connEffect ctx worker)
  | _ => exact h.of_aside (aside_effect rfl)

end ClosesOwn

theorem closedUse_effect {rid : Rid} (h : s.history.ClosedUse conn rid) :
    (e.effect s).history.ClosedUse conn rid := by
  obtain ⟨ctx, action⟩ := e
  cases action with
  | receive worker uri data =>
    rcases receive_cases s ctx worker uri data with ⟨hWorks, -⟩ | ⟨req, -, d, -, hEq⟩
    · exact hWorks.history.closedUse h
    · simp only [StoreStep.effect, hEq]
      exact h.acknowledge worker req.rid
  | close worker => exact (s.history.kept_close worker).closedUse h
  | conn worker => exact (works_connEffect ctx worker).history.closedUse h
  | answer | subscriber | pass | timeout | notify | notifier =>
    exact (aside_effect rfl).history.closedUse h

/-- A request that a worker saves is one that it saved before, or that it received. -/
theorem request_effect {req : ProxyRequest} {k : Nat}
    (h : ((e.effect s).conns conn).request = some (req, k)) :
    (s.conns conn).request = some (req, k) ∨ e.Receives conn req := by
  by_cases hWorker : e.action.worker = some conn
  · obtain ⟨ctx, action⟩ := e
    cases action with
    | receive worker uri data =>
      cases hWorker
      rcases receive_cases s ctx conn uri data with ⟨hWorks, -⟩ | ⟨req', hReceives, d, -, hEq⟩
      · exact .inl (hWorks.request req k h)
      · simp only [StoreStep.effect, hEq, setConn_self] at h
        cases h
        exact .inr hReceives
    | close worker =>
      cases hWorker
      simp [StoreStep.effect, ConnPc.request] at h
    | conn worker =>
      cases hWorker
      exact .inl ((works_connEffect ctx conn).request req k h)
    | _ => cases hWorker
  · rw [conns_effect_ne hWorker] at h
    exact .inl h

end StoreThreads

/-! ## Envelopes on their way -/

/-- The envelope that the pass has in hand. -/
def ChannelPassPc.inHand : ChannelPassPc → List (Rid × String)
  | .waiting rid text _ => [(rid, text)]
  | .exchanging x _ => [(x.rid, x.text)]
  | _ => []

namespace ProxyTraffic

variable (json : JsonLibrary) (gonggoName : String) (s : ProxyTraffic)

/-- The close handler of a connection made the drop request, which names a request of it. -/
def DropMade (rid : Rid) (text : String) : Prop :=
  ∃ drop ∈ s.drops, drop.rid = rid ∧ DropText json.print text drop.requestUuid ∧
    s.threads.history.ClosedUse drop.conn drop.requestUuid

/-- Every envelope with the reserved service that was handed to a proxy is such a drop request. -/
def ReservedDrops : Prop :=
  ∀ proxyName rid text payload, (proxyName, rid, text) ∈ s.handedOver →
    text = clientServiceTableServicePayloadCreate json.print gonggoServiceRequestDrop payload →
    s.DropMade json rid text

/-- A REST request for the reserved service is refused, for whatever reason. -/
def RefusesReserved : TrafficEvent → Prop
  | .rest request => (restPath request.localUri).endpoint = some gonggoServiceRequestDrop →
      (restHandlerVerdict json gonggoName (fun proxyName => decide (proxyName ∈ s.registered))
        request).isError = true
  | _ => True

/-- The text has a service that is not reserved, or is a drop request. -/
def Enveloped (rid : Rid) (text : String) : Prop :=
  (∃ serviceName payload, serviceName ≠ gonggoServiceRequestDrop ∧
    text = clientServiceTableServicePayloadCreate json.print serviceName payload) ∨ s.DropMade json rid text

structure AllEnveloped : Prop where
  owned : s.threads.ClosesOwn
  request : ∀ conn req k, (s.threads.conns conn).request = some (req, k) →
    ∃ serviceName payload, serviceName ≠ gonggoServiceRequestDrop ∧
      req.servicePayload = clientServiceTableServicePayloadCreate json.print serviceName payload
  services : ∀ rid text, s.threads.services.lookup rid = some text → s.Enveloped json rid text
  pass : ∀ proxyName rid text, (rid, text) ∈ (s.passes proxyName).inHand → s.Enveloped json rid text
  restWaiting : ∀ proxyName endpoint payload, s.rest = .waiting proxyName endpoint payload →
    endpoint ≠ gonggoServiceRequestDrop
  rest : ∀ proxyName x, s.rest.exchange = some (proxyName, x) → s.Enveloped json x.rid x.text
  handedOver : ∀ proxyName rid text, (proxyName, rid, text) ∈ s.handedOver → s.Enveloped json rid text

variable {json gonggoName s} {s' : ProxyTraffic} {e : TrafficEvent} {rid : Rid} {text : String}

theorem Enveloped.mono (h : s.Enveloped json rid text) (hDrops : ∀ drop ∈ s.drops, drop ∈ s'.drops)
    (hHistory : ∀ conn rid, s.threads.history.ClosedUse conn rid → s'.threads.history.ClosedUse conn rid) :
    s'.Enveloped json rid text := by
  rcases h with hOther | ⟨drop, hMem, hRid, hText, hClosed⟩
  · exact .inl hOther
  · exact .inr ⟨drop, hDrops drop hMem, hRid, hText, hHistory _ _ hClosed⟩

namespace AllEnveloped

theorem of_other (h : s.AllEnveloped json) (hConns : s'.threads.conns = s.threads.conns)
    (hServices : s'.threads.services = s.threads.services)
    (hConnections : s'.threads.connections = s.threads.connections)
    (hHistory : s'.threads.history = s.threads.history) (hDrops : s'.drops = s.drops)
    (hPass : ∀ proxyName rid text, (rid, text) ∈ (s'.passes proxyName).inHand → s.Enveloped json rid text)
    (hWaiting : ∀ proxyName endpoint payload, s'.rest = .waiting proxyName endpoint payload →
      endpoint ≠ gonggoServiceRequestDrop)
    (hRest : ∀ proxyName x, s'.rest.exchange = some (proxyName, x) → s.Enveloped json x.rid x.text)
    (hHandedOver : ∀ proxyName rid text, (proxyName, rid, text) ∈ s'.handedOver →
      s.Enveloped json rid text) : s'.AllEnveloped json := by
  have hMono {rid : Rid} {text : String} (hText : s.Enveloped json rid text) : s'.Enveloped json rid text :=
    hText.mono (fun drop hMem => by rwa [hDrops]) (fun conn rid hClosed => by rwa [hHistory])
  refine ⟨h.owned.of_same hConns hHistory hConnections, fun conn req k hReq => ?_,
    fun rid text hText => hMono ?_, fun proxyName rid text hMem => hMono (hPass proxyName rid text hMem),
    hWaiting, fun proxyName x hX => hMono (hRest proxyName x hX),
    fun proxyName rid text hMem => hMono (hHandedOver proxyName rid text hMem)⟩
  · rw [hConns] at hReq
    exact h.request conn req k hReq
  · rw [hServices] at hText
    exact h.services rid text hText

theorem of_pass (h : s.AllEnveloped json) {name : ProxyName} {pc : ChannelPassPc}
    (hConns : s'.threads.conns = s.threads.conns) (hServices : s'.threads.services = s.threads.services)
    (hConnections : s'.threads.connections = s.threads.connections)
    (hHistory : s'.threads.history = s.threads.history) (hDrops : s'.drops = s.drops)
    (hRest : s'.rest = s.rest) (hPasses : s'.passes = Function.update s.passes name pc)
    (hInHand : ∀ rid text, (rid, text) ∈ pc.inHand → s.Enveloped json rid text)
    (hHandedOver : ∀ proxyName rid text, (proxyName, rid, text) ∈ s'.handedOver →
      s.Enveloped json rid text) : s'.AllEnveloped json := by
  refine h.of_other hConns hServices hConnections hHistory hDrops (fun proxyName rid text hMem => ?_) ?_ ?_
    hHandedOver
  · rw [hPasses] at hMem
    by_cases hName : proxyName = name
    · subst hName
      rw [Function.update_self] at hMem
      exact hInHand rid text hMem
    · rw [Function.update_of_ne hName] at hMem
      exact h.pass proxyName rid text hMem
  · rw [hRest]
    exact h.restWaiting
  · rw [hRest]
    exact h.rest

theorem channelEffect (h : s.AllEnveloped json) (name : ProxyName) (reply : ChannelReply) :
    (s.channelEffect name reply).AllEnveloped json := by
  have hAt {pc : ChannelPassPc} (hPc : s.passes name = pc) :
      ∀ rid text, (rid, text) ∈ pc.inHand → s.Enveloped json rid text :=
    fun rid text hMem => h.pass name rid text (by rwa [hPc])
  unfold ProxyTraffic.channelEffect
  cases hPc : s.passes name with
  | asleep => exact h
  | passing pending =>
    cases pending with
    | nil => exact h.of_pass rfl rfl rfl rfl rfl rfl rfl (fun _ _ hMem => by cases hMem) h.handedOver
    | cons first pending =>
      refine h.of_pass rfl rfl rfl rfl rfl rfl rfl (fun rid text hMem => ?_) h.handedOver
      cases hDup : clientServiceTableDup s.threads.services first with
      | none =>
        rw [hDup] at hMem
        cases hMem
      | some stored =>
        rw [hDup] at hMem
        cases List.mem_singleton.mp hMem
        exact h.services _ _ hDup
  | waiting first text pending =>
    refine h.of_pass rfl rfl rfl rfl rfl rfl rfl ?_ h.handedOver
    cases reply.alive with
    | true => exact fun rid text hMem => hAt hPc rid text hMem
    | false => exact fun _ _ hMem => by cases hMem
  | exchanging x pending =>
    obtain ⟨first, text, stage⟩ := x
    cases stage with
    | creating =>
      dsimp only
      split
      · refine h.of_pass rfl rfl rfl rfl rfl rfl rfl (fun rid text hMem => hAt hPc rid text hMem)
          fun proxyName rid text hMem => ?_
        rcases List.mem_append.mp hMem with hOld | hNew
        · exact h.handedOver proxyName rid text hOld
        · cases List.mem_singleton.mp hNew
          exact hAt hPc _ _ (List.mem_singleton_self _)
      · exact h.of_pass rfl rfl rfl rfl rfl rfl rfl (fun _ _ hMem => by cases hMem) h.handedOver
    | posted =>
      dsimp only
      split <;> exact h.of_pass rfl rfl rfl rfl rfl rfl rfl (fun rid text hMem => hAt hPc rid text hMem)
        h.handedOver
    | unlinking =>
      exact h.of_pass rfl rfl rfl rfl rfl rfl rfl (fun _ _ hMem => by cases hMem) h.handedOver

theorem of_rest (h : s.AllEnveloped json) (hThreads : s'.threads = s.threads) (hDrops : s'.drops = s.drops)
    (hPasses : s'.passes = s.passes)
    (hWaiting : ∀ proxyName endpoint payload, s'.rest = .waiting proxyName endpoint payload →
      endpoint ≠ gonggoServiceRequestDrop)
    (hRest : ∀ proxyName x, s'.rest.exchange = some (proxyName, x) → s.Enveloped json x.rid x.text)
    (hHandedOver : ∀ proxyName rid text, (proxyName, rid, text) ∈ s'.handedOver →
      s.Enveloped json rid text) : s'.AllEnveloped json := by
  refine h.of_other ?_ ?_ ?_ ?_ hDrops ?_ hWaiting hRest hHandedOver
  · rw [hThreads]
  · rw [hThreads]
  · rw [hThreads]
  · rw [hThreads]
  · rw [hPasses]
    exact h.pass

theorem workerEffect (h : s.AllEnveloped json) (generated : Rid) (reply : ChannelReply) :
    (s.workerEffect json generated reply).AllEnveloped json := by
  unfold ProxyTraffic.workerEffect
  cases hPc : s.rest with
  | idle => exact h
  | waiting name endpoint payload =>
    dsimp only
    split
    · refine h.of_rest rfl rfl rfl (fun _ _ _ hEq => by cases hEq) (fun proxyName x hX => ?_) h.handedOver
      cases hX
      exact .inl ⟨endpoint, payload, h.restWaiting name endpoint payload hPc, rfl⟩
    · exact h.of_rest rfl rfl rfl (fun _ _ _ hEq => by cases hEq) (fun _ _ hX => by cases hX) h.handedOver
  | exchanging name x =>
    have hAt : s.Enveloped json x.rid x.text := h.rest name x (by rw [hPc, RestPc.exchange])
    obtain ⟨first, text, stage⟩ := x
    cases stage with
    | creating =>
      dsimp only
      split
      · refine h.of_rest rfl rfl rfl (fun _ _ _ hEq => by cases hEq) (fun proxyName x hX => ?_)
          fun proxyName rid text hMem => ?_
        · cases hX
          exact hAt
        · rcases List.mem_append.mp hMem with hOld | hNew
          · exact h.handedOver proxyName rid text hOld
          · cases List.mem_singleton.mp hNew
            exact hAt
      · exact h.of_rest rfl rfl rfl (fun _ _ _ hEq => by cases hEq) (fun _ _ hX => by cases hX)
          h.handedOver
    | posted =>
      refine h.of_rest rfl rfl rfl (fun _ _ _ hEq => by cases hEq) (fun proxyName x hX => ?_) h.handedOver
      cases hX
      exact hAt
    | unlinking =>
      exact h.of_rest rfl rfl rfl (fun _ _ _ hEq => by cases hEq) (fun _ _ hX => by cases hX) h.handedOver

theorem storeEffect {e : StoreStep} (h : s.AllEnveloped json) (hGuard : (s.stepOf json e).guard s.threads) :
    (s.storeEffect json e).AllEnveloped json := by
  have hMono {rid : Rid} {text : String} (hText : s.Enveloped json rid text) :
      (s.storeEffect json e).Enveloped json rid text :=
    hText.mono (fun drop hMem => List.mem_append_left _ hMem)
      fun conn rid hClosed => StoreThreads.closedUse_effect hClosed
  refine ⟨h.owned.effect hGuard, fun conn req k hReq => ?_, fun rid text hText => ?_,
    fun proxyName rid text hMem => hMono (h.pass proxyName rid text hMem), h.restWaiting,
    fun proxyName x hX => hMono (h.rest proxyName x hX),
    fun proxyName rid text hMem => hMono (h.handedOver proxyName rid text hMem)⟩
  · rcases StoreThreads.request_effect hReq with hOld | hReceives
    · exact h.request conn req k hOld
    · obtain ⟨uri, data, root, serviceName, payload, -, -, -, hVerdict, hText⟩ := hReceives
      exact ⟨serviceName, payload, (checks_of_proxyRequest hVerdict).2.1, hText⟩
  · simp only [ProxyTraffic.storeEffect] at hText
    rw [(StoreThreads.actsOnTables_effect s.threads (s.stepOf json e)).1] at hText
    rcases TableAction.lookup_services hText with hOld | hNew
    · exact hMono (h.services rid text hOld)
    · obtain ⟨worker, hAction, ⟨req, k, hPc, rfl, rfl⟩ |
        ⟨proxyName, requestUuid, targets, drawn, hPc, rfl, rfl⟩⟩ := StoreThreads.worker_of_stores hNew
      · exact .inl (h.request worker req k (by rw [hPc, ConnPc.request]))
      · -- the close handler of the worker still deals with the request
        have hUses := h.owned.drops worker requestUuid (by rw [hPc]; exact ⟨proxyName, List.mem_cons_self⟩)
        have hClosing := h.owned.closing worker (by rw [hPc]; rfl)
        obtain ⟨k, hk, hConn, hRid⟩ := hUses
        have hClosed : s.threads.history.ClosedUse worker requestUuid :=
          ⟨k, hk, hConn, hRid, hClosing k hk hConn⟩
        obtain ⟨ctx, action⟩ := e
        simp only [stepOf] at hAction
        subst hAction
        have hDrop : (⟨ctx.drop.uuidGenerate drawn, requestUuid, worker⟩ : RequestDrop) ∈
            s.dropsOf ⟨ctx, .conn worker⟩ := by
          simp [dropsOf, hPc]
        exact .inr ⟨_, List.mem_append_right _ hDrop, rfl, dropText_requestDropText json.print requestUuid,
          StoreThreads.closedUse_effect hClosed⟩

theorem effect (h : s.AllEnveloped json) (hGuard : s.guard json e)
    (hRefuses : s.RefusesReserved json gonggoName e) :
    (s.effect json gonggoName e).AllEnveloped json := by
  cases e with
  | store e => exact h.storeEffect hGuard
  | activate | register | terminate =>
    exact h.of_rest rfl rfl rfl h.restWaiting h.rest h.handedOver
  | unsent =>
    exact h.of_other rfl rfl rfl rfl rfl h.pass h.restWaiting h.rest h.handedOver
  | pass name =>
    exact h.of_pass rfl rfl rfl rfl rfl rfl rfl (fun _ _ hMem => by cases hMem) h.handedOver
  | channel name reply => exact h.channelEffect name reply
  | rest request =>
    show (s.restEffect json gonggoName request).AllEnveloped json
    unfold restEffect
    cases hVerdict : restHandlerVerdict json gonggoName
        (fun proxyName => decide (proxyName ∈ s.registered)) request with
    | error code message => exact h
    | call proxyName endpoint payload =>
      refine h.of_rest rfl rfl rfl (fun name endpoint' payload' hPc => ?_) (fun _ _ hX => by cases hX)
        h.handedOver
      cases hPc
      rintro rfl
      have hRefused := hRefuses (by rw [(restPath_of_call hVerdict).1])
      rw [hVerdict] at hRefused
      cases hRefused
  | worker generated reply => exact h.workerEffect generated reply

end AllEnveloped

theorem allEnveloped_started : started.AllEnveloped json where
  owned :=
    { request := fun _ _ _ h => by cases h
      listed := fun _ _ ⟨arr, hArr, _⟩ => by cases hArr
      drops := fun _ _ h => h.elim
      closing := fun _ h => by cases h }
  request _ _ _ h := by cases h
  services _ _ h := by cases h
  pass _ _ _ h := by cases h
  restWaiting _ _ _ h := by cases h
  rest _ _ h := by cases h
  handedOver _ _ _ h := by cases h

/-- In a run whose REST requests for the reserved service are refused, the envelopes with that service
are the drop requests of the close handlers. -/
theorem reservedDrops_of_reachable (hPrint : KeepsService json.print)
    (h : (proxyTrafficSystem json gonggoName).ReachableWhen (RefusesReserved json gonggoName) s) :
    s.ReservedDrops json := by
  have hAll : s.AllEnveloped json := by
    refine h.invariant (AllEnveloped json) ?_ fun s e hEnveloped hGuard hRefuses =>
      hEnveloped.effect hGuard hRefuses
    rintro s rfl
    exact allEnveloped_started
  intro proxyName rid text payload hMem hText
  rcases hAll.handedOver proxyName rid text hMem with ⟨serviceName, payload', hNe, hOther⟩ | hDrop
  · exact (hNe (hPrint _ _ _ _ (hOther.symm.trans hText))).elim
  · exact hDrop

end ProxyTraffic

/-! ## Sample runs -/

/-- The text of an envelope goes on with its service and a quote. -/
theorem toList_servicePayloadCreate (serviceName : String) (payload : Option CJson) : ∃ rest,
    (clientServiceTableServicePayloadCreate printEscaped serviceName payload).toList =
      "\x7b\"service\":\"".toList ++ (serviceName.toList.flatMap escapeChar ++ '"' :: rest) := by
  have hService : escapeString "service" = "service" := by decide
  have hPayload : escapeString "payload" = "payload" := by decide
  cases payload with
  | none =>
    refine ⟨['\x7d'], ?_⟩
    simp [clientServiceTableServicePayloadCreate, CJson.addItemToObject, printEscaped, escapeStrings,
      escapeMembers, printUnformatted, printMembers, serviceServiceKey, hService, toList_escapeString]
  | some item =>
    refine ⟨(",\"payload\":" ++ printUnformatted (escapeStrings item) ++ "\x7d").toList, ?_⟩
    simp [clientServiceTableServicePayloadCreate, CJson.addItemToObject, printEscaped, escapeStrings,
      escapeMembers, printUnformatted, printMembers, serviceServiceKey, servicePayloadKey, hService,
      hPayload, toList_escapeString]

theorem keepsService_printEscaped : KeepsService printEscaped := by
  intro serviceName payload serviceName' payload' h
  obtain ⟨rest, hText⟩ := toList_servicePayloadCreate serviceName payload
  obtain ⟨rest', hText'⟩ := toList_servicePayloadCreate serviceName' payload'
  have hBoth := congrArg String.toList h
  rw [hText, hText', List.append_cancel_left_eq] at hBoth
  exact String.toList_injective (eq_of_escapeChar hBoth)

/-- A library that escapes and knows the text of one item. -/
def sampleEscapedJson (item : CJson) : JsonLibrary where
  print := printEscaped
  parse text := if text = printEscaped item then some item else none

namespace ProxyTraffic

instance decidableRefusesReserved (json : JsonLibrary) (gonggoName : String) (s : ProxyTraffic) :
    ∀ e, Decidable (s.RefusesReserved json gonggoName e)
  | .rest _ => inferInstanceAs (Decidable (_ = _ → _ = _))
  | .store _ | .activate _ | .register _ | .unsent _ | .terminate _ | .pass _ | .channel _ _
  | .worker _ _ => inferInstanceAs (Decidable True)

/-- The connection of a listed request is closed, and the drop request handed over. -/
def sampleDropTraffic : List TrafficEvent :=
  [.activate "weather", .register "weather"] ++ sampleRoute (sampleRequest "r" "weather" "today") 0 ++
    (StoreAction.close 0 :: List.replicate 11 (.conn 0)).map (fun action =>
      .store ⟨⟨sampleRouteContext .null 0, sampleDropConnContext "u", .inOrder, .inOrder, .inOrder⟩, action⟩) ++
    .pass "weather" :: List.replicate 4 (.channel "weather" sampleReply)

set_option maxRecDepth 4000 in
theorem reservedDrops_of_reachable_sampleDropTraffic :
    ((proxyTrafficSystem (sampleEscapedJson (sampleRequest "r" "weather" "today")) "gonggo").run started
      sampleDropTraffic).ReservedDrops (sampleEscapedJson (sampleRequest "r" "weather" "today")) :=
  reservedDrops_of_reachable keepsService_printEscaped (.run (.init rfl) sampleDropTraffic (by decide))

/-- A REST request names the reserved service as its endpoint, and its envelope is handed over without
any close handler. -/
theorem not_reservedDrops : ¬ ∀ (json : JsonLibrary) (gonggoName : String) (s : ProxyTraffic),
    KeepsService json.print → (proxyTrafficSystem json gonggoName).Reachable s → s.ReservedDrops json := by
  intro h
  let M := proxyTrafficSystem (sampleEscapedJson .null) "gonggo"
  have hStart : M.Reachable started := .init rfl
  have hReach := hStart.run
    [.activate "weather", .register "weather", .rest (sampleRestRequest "weather" "gonggorequestdrop"),
      .worker "u" sampleReply, .worker "u" sampleReply] (by decide)
  have hHandedOver : ("weather", "u", clientServiceTableServicePayloadCreate printEscaped
      gonggoServiceRequestDrop none) ∈ (M.run started [.activate "weather", .register "weather",
        .rest (sampleRestRequest "weather" "gonggorequestdrop"), .worker "u" sampleReply,
        .worker "u" sampleReply]).handedOver := by decide +kernel
  obtain ⟨drop, hMem, -⟩ := h _ _ _ keepsService_printEscaped hReach _ _ _ none hHandedOver rfl
  cases hMem

end ProxyTraffic

end Gonggo
