import Gonggo.ProxyTraffic

/-! # Names of shared memory segments

The id of a request names its payload segment. A request is at work from its acknowledgement to the
removal of its segment, and its name has to differ from the control segments and from the requests
at work for other proxies.
-/

namespace Gonggo

def proxyPaths (proxyName : ProxyName) : List String :=
  [proxyChannelPath proxyName, proxySubscribePath proxyName, proxyHeartbeatPath proxyName]

def TrafficEvent.activated : TrafficEvent → Option ProxyName
  | .activate proxyName => some proxyName
  | _ => none

/-- The ids that the pass has in hand. -/
def ChannelPassPc.rids : ChannelPassPc → List Rid
  | .asleep => []
  | .passing pending => pending
  | .waiting rid _ pending => rid :: pending
  | .exchanging x pending => x.rid :: pending

namespace ProxyTraffic

variable (json : JsonLibrary) (gonggoName : String) (s : ProxyTraffic)

/-- The segments of the dispatcher and of the active proxies. -/
def controlPaths : List String :=
  proxyActivatorGonggoPath gonggoName :: aliveMutexPath gonggoName :: s.active.flatMap proxyPaths

/-- An exchange with the proxy is making, using or removing the payload segment of the id. -/
def Uses (proxyName : ProxyName) (rid : Rid) : Prop :=
  ∃ x : Exchange, x.rid = rid ∧
    ((s.passes proxyName).exchange = some x ∨ s.rest.exchange = some (proxyName, x))

/-- The payload segments in use are no control segments, and exchanges with two proxies use two. -/
structure NamesApart : Prop where
  control : ∀ proxyName rid, s.Uses proxyName rid → payloadPath rid ∉ s.controlPaths gonggoName
  proxies : ∀ proxyName other rid rid', s.Uses proxyName rid → s.Uses other rid' → proxyName ≠ other →
    payloadPath rid ≠ payloadPath rid'

/-- The id is at work for the proxy: in the hand of a worker, listed, or in an exchange. -/
inductive AtWork (proxyName : ProxyName) (rid : Rid) : Prop
  | worker (conn : Conn) (h : (s.threads.conns conn).listing = some (proxyName, rid))
  | listed (h : ListedUnder s.threads.proxynames proxyName rid)
  | pass (h : rid ∈ (s.passes proxyName).rids)
  | rest (x : Exchange) (h : s.rest.exchange = some (proxyName, x)) (hRid : x.rid = rid)

/-- The id that comes to work in a step, with its proxy. -/
def brings : TrafficEvent → Option (ProxyName × Rid)
  | .store ⟨ctx, .receive _ uri data⟩ =>
      if ctx.gonggoPath ≠ some uri then none
      else
        match (json.parse data).map clientServiceRouteVerdict with
        | some (.proxyRequest rid proxyName _ _ _) => some (proxyName, rid)
        | _ => none
  | .store ⟨ctx, .conn conn⟩ =>
      match s.threads.conns conn with
      | .dropServiceSetting ((proxyName, _) :: _) drawn => some (proxyName, ctx.drop.uuidGenerate drawn)
      | _ => none
  | .worker generated reply =>
      match s.rest with
      | .waiting proxyName _ _ => if reply.alive then some (proxyName, generated) else none
      | _ => none
  | _ => none

/-- The segment of an id that comes to work is no control segment, and the id is not at work for
another proxy; the segments of a proxy that becomes active belong to no id at work. -/
structure Distinct (e : TrafficEvent) : Prop where
  brings : ∀ proxyName rid, s.brings json e = some (proxyName, rid) →
    payloadPath rid ∉ s.controlPaths gonggoName ∧ ∀ other, s.AtWork other rid → other = proxyName
  activate : ∀ proxyName, e = .activate proxyName → ∀ other rid, s.AtWork other rid →
    payloadPath rid ∉ proxyPaths proxyName

variable {json gonggoName s} {e : TrafficEvent} {proxyName : ProxyName} {rid : Rid}

theorem brings_of_receives {e : StoreStep} {conn : Conn} {req : ProxyRequest}
    (h : (s.stepOf json e).Receives conn req) :
    s.brings json (.store e) = some (req.proxyName, req.rid) := by
  obtain ⟨uri, data, root, serviceName, payload, hAction, hPath, hParse, hVerdict, -⟩ := h
  obtain ⟨ctx, action⟩ := e
  simp only [stepOf] at hAction hPath hParse
  subst hAction
  simp [brings, hPath, hParse, hVerdict]

theorem atWork_of_uses (h : s.Uses proxyName rid) : s.AtWork proxyName rid := by
  obtain ⟨x, hRid, hPass | hRest⟩ := h
  · refine .pass ?_
    cases hPc : s.passes proxyName with
    | exchanging x' pending =>
      rw [hPc] at hPass
      cases hPass
      rw [← hRid]
      exact List.mem_cons_self
    | _ =>
      rw [hPc] at hPass
      cases hPass
  · exact .rest x hRest hRid

/-! ## Ids come to work in one way -/

theorem atWork_storeEffect {e : StoreStep} (h : (s.storeEffect json e).AtWork proxyName rid) :
    s.AtWork proxyName rid ∨ s.brings json (.store e) = some (proxyName, rid) := by
  cases h with
  | worker conn hListing =>
    rcases StoreThreads.listing_effect hListing with hOld | ⟨req, hReceives, rfl, rfl⟩ |
      ⟨requestUuid, targets, drawn, hAction, hPc, hRid⟩
    · exact .inl (.worker conn hOld)
    · exact .inr (brings_of_receives hReceives)
    · obtain ⟨ctx, action⟩ := e
      simp only [stepOf] at hAction hRid
      subst hAction
      exact .inr (by simp only [brings, hPc, hRid])
  | listed hListed =>
    rcases StoreThreads.listedUnder_effect hListed with hOld | ⟨conn, hListing⟩
    · exact .inl (.listed hOld)
    · exact .inl (.worker conn hListing)
  | pass hMem => exact .inl (.pass hMem)
  | rest x hRest hRid => exact .inl (.rest x hRest hRid)

theorem AtWork.of_pass {s' : ProxyTraffic} {name : ProxyName} {pc : ChannelPassPc}
    (h : s'.AtWork proxyName rid) (hConns : s'.threads.conns = s.threads.conns)
    (hListed : ∀ other rid, ListedUnder s'.threads.proxynames other rid →
      ListedUnder s.threads.proxynames other rid)
    (hRest : s'.rest = s.rest) (hPasses : s'.passes = Function.update s.passes name pc)
    (hRids : ∀ rid ∈ pc.rids, s.AtWork name rid) : s.AtWork proxyName rid := by
  cases h with
  | worker conn hListing => exact .worker conn (by rwa [hConns] at hListing)
  | listed hOld => exact .listed (hListed _ _ hOld)
  | pass hMem =>
    rw [hPasses] at hMem
    by_cases hName : proxyName = name
    · subst hName
      rw [Function.update_self] at hMem
      exact hRids rid hMem
    · rw [Function.update_of_ne hName] at hMem
      exact .pass hMem
  | rest x hX hRid => exact .rest x (by rwa [hRest] at hX) hRid

theorem atWork_channelEffect {name : ProxyName} {reply : ChannelReply}
    (h : (s.channelEffect name reply).AtWork proxyName rid) : s.AtWork proxyName rid := by
  have hIn {rids : List Rid} (hRids : (s.passes name).rids = rids) : ∀ rid ∈ rids, s.AtWork name rid :=
    fun rid hMem => .pass (by rwa [hRids])
  unfold channelEffect at h
  cases hPc : s.passes name with
  | asleep => rwa [hPc] at h
  | passing pending =>
    have hPending := hIn (congrArg ChannelPassPc.rids hPc)
    cases pending with
    | nil =>
      simp only [hPc] at h
      exact h.of_pass rfl (fun _ _ => id) rfl rfl fun _ hMem => by cases hMem
    | cons first pending =>
      simp only [hPc] at h
      refine h.of_pass rfl (fun _ _ => id) rfl rfl ?_
      cases clientServiceTableDup s.threads.services first with
      | none => exact fun rid hMem => hPending rid (List.mem_cons_of_mem _ hMem)
      | some text => exact hPending
  | waiting first text pending =>
    have hPending := hIn (congrArg ChannelPassPc.rids hPc)
    simp only [hPc] at h
    refine h.of_pass rfl (fun _ _ => id) rfl rfl ?_
    cases reply.alive with
    | false => exact fun rid hMem => by cases hMem
    | true => exact hPending
  | exchanging x pending =>
    have hPending := hIn (congrArg ChannelPassPc.rids hPc)
    obtain ⟨first, text, stage⟩ := x
    cases stage with
    | creating =>
      simp only [hPc] at h
      split at h
      · exact h.of_pass rfl (fun _ _ => id) rfl rfl hPending
      · exact h.of_pass rfl (fun _ _ => id) rfl rfl
          fun rid hMem => hPending rid (List.mem_cons_of_mem _ hMem)
    | posted =>
      simp only [hPc] at h
      have hRids : ∀ rid ∈ (ChannelPassPc.exchanging ⟨first, text, .unlinking⟩
          (if reply.alive then pending else [])).rids, s.AtWork name rid := by
        intro rid hMem
        refine hPending rid ?_
        cases hAlive : reply.alive with
        | true => rwa [hAlive] at hMem
        | false =>
          rw [hAlive] at hMem
          rcases List.mem_cons.mp hMem with rfl | hNil
          · exact List.mem_cons_self
          · cases hNil
      split at h
      · exact h.of_pass rfl
          (fun _ _ hListed => (listedUnder_clientProxynameTableRequestSent ..).mp hListed) rfl rfl hRids
      · exact h.of_pass rfl (fun _ _ => id) rfl rfl hRids
    | unlinking =>
      simp only [hPc] at h
      exact h.of_pass rfl (fun _ _ => id) rfl rfl
        fun rid hMem => hPending rid (List.mem_cons_of_mem _ hMem)

theorem AtWork.of_rest {s' : ProxyTraffic} (h : s'.AtWork proxyName rid)
    (hThreads : s'.threads = s.threads) (hPasses : s'.passes = s.passes)
    (hRest : ∀ x, s'.rest.exchange = some (proxyName, x) → x.rid = rid →
      s.AtWork proxyName rid ∨ s.brings json e = some (proxyName, rid)) :
    s.AtWork proxyName rid ∨ s.brings json e = some (proxyName, rid) := by
  cases h with
  | worker conn hListing => exact .inl (.worker conn (by rwa [hThreads] at hListing))
  | listed hListed => exact .inl (.listed (by rwa [hThreads] at hListed))
  | pass hMem => exact .inl (.pass (by rwa [hPasses] at hMem))
  | rest x hX hRid => exact hRest x hX hRid

theorem atWork_workerEffect {generated : Rid} {reply : ChannelReply}
    (h : (s.workerEffect json generated reply).AtWork proxyName rid) :
    s.AtWork proxyName rid ∨ s.brings json (.worker generated reply) = some (proxyName, rid) := by
  unfold workerEffect at h
  cases hPc : s.rest with
  | idle =>
    rw [hPc] at h
    exact .inl h
  | waiting name endpoint payload =>
    simp only [hPc] at h
    refine h.of_rest rfl rfl fun x hX hRid => ?_
    cases hAlive : reply.alive with
    | false =>
      simp only [setRest, hAlive] at hX
      cases hX
    | true =>
      simp only [setRest, hAlive] at hX
      cases hX
      exact .inr (by simp [brings, hPc, hAlive, ← hRid])
  | exchanging name x =>
    have hAt : s.AtWork name x.rid := .rest x (by rw [hPc, RestPc.exchange]) rfl
    obtain ⟨first, text, stage⟩ := x
    cases stage with
    | creating =>
      simp only [hPc] at h
      split at h
      · refine h.of_rest rfl rfl fun x hX hRid => ?_
        cases hX
        rw [← hRid]
        exact .inl hAt
      · exact h.of_rest rfl rfl fun x hX hRid => by cases hX
    | posted =>
      simp only [hPc] at h
      refine h.of_rest rfl rfl fun x hX hRid => ?_
      cases hX
      rw [← hRid]
      exact .inl hAt
    | unlinking =>
      simp only [hPc] at h
      exact h.of_rest rfl rfl fun x hX hRid => by cases hX

theorem atWork_effect (h : (s.effect json gonggoName e).AtWork proxyName rid) :
    s.AtWork proxyName rid ∨ s.brings json e = some (proxyName, rid) := by
  cases e with
  | store e => exact atWork_storeEffect h
  | activate | register | terminate => exact h.of_rest rfl rfl fun x hX hRid => .inl (.rest x hX hRid)
  | unsent name =>
    cases h with
    | worker conn hListing => exact .inl (.worker conn hListing)
    | listed hListed => exact .inl (.listed ((listedUnder_clientProxynameTableRequestUnsent ..).mp hListed))
    | pass hMem => exact .inl (.pass hMem)
    | rest x hX hRid => exact .inl (.rest x hX hRid)
  | pass name =>
    refine .inl (h.of_pass rfl (fun _ _ => id) rfl rfl fun rid hMem => .listed ?_)
    obtain ⟨rids, hDup, hMem⟩ : ∃ rids,
        clientProxynameTableRequestDup s.threads.proxynames name true = some rids ∧ rid ∈ rids := by
      cases hDup : clientProxynameTableRequestDup s.threads.proxynames name true with
      | none => simp [ChannelPassPc.rids, hDup] at hMem
      | some rids => exact ⟨rids, rfl, by simpa [ChannelPassPc.rids, hDup] using hMem⟩
    exact ⟨false, mem_clientProxynameTableRequestDup.mp ⟨rids, hDup, hMem⟩⟩
  | channel name reply => exact .inl (atWork_channelEffect h)
  | rest request =>
    change (s.restEffect json gonggoName request).AtWork proxyName rid at h
    unfold restEffect at h
    split at h
    · exact .inl h
    · exact h.of_rest rfl rfl fun x hX hRid => by cases hX
  | worker generated reply => exact atWork_workerEffect h

theorem active_channelEffect (name : ProxyName) (reply : ChannelReply) :
    (s.channelEffect name reply).active = s.active := by
  unfold channelEffect
  split
  · rfl
  · rfl
  · rfl
  · rfl
  · split <;> rfl
  · split <;> rfl
  · rfl

theorem active_workerEffect (generated : Rid) (reply : ChannelReply) :
    (s.workerEffect json generated reply).active = s.active := by
  unfold workerEffect
  split
  · rfl
  · rfl
  · split <;> rfl
  · rfl
  · rfl

/-- The control segments of a step are the old ones and those of a proxy that becomes active. -/
theorem mem_controlPaths_effect {path : String}
    (h : path ∈ (s.effect json gonggoName e).controlPaths gonggoName) :
    path ∈ s.controlPaths gonggoName ∨ ∃ proxyName, e = .activate proxyName ∧ path ∈ proxyPaths proxyName := by
  cases e with
  | activate proxyName =>
    simp only [controlPaths, effect, List.flatMap_cons, List.mem_cons, List.mem_append] at h ⊢
    rcases h with hGonggo | hAlive | hProxy | hActive
    · exact .inl (.inl hGonggo)
    · exact .inl (.inr (.inl hAlive))
    · exact .inr ⟨proxyName, rfl, hProxy⟩
    · exact .inl (.inr (.inr hActive))
  | terminate proxyName =>
    simp only [controlPaths, effect, List.mem_cons, List.mem_flatMap] at h ⊢
    refine .inl (h.imp_right (.imp_right ?_))
    rintro ⟨name, hActive, hPath⟩
    exact ⟨name, (List.mem_filter.mp hActive).1, hPath⟩
  | channel name reply =>
    simp only [controlPaths, effect, active_channelEffect] at h
    exact .inl h
  | rest request =>
    change path ∈ (s.restEffect json gonggoName request).controlPaths gonggoName at h
    unfold restEffect at h
    split at h <;> exact .inl h
  | worker generated reply =>
    simp only [controlPaths, effect, active_workerEffect] at h
    exact .inl h
  | store | register | unsent | pass => exact .inl h

/-! ## Names stay apart -/

/-- The ids at work name no control segment, and each is at work for one proxy. -/
structure Apart (gonggoName : String) (s : ProxyTraffic) : Prop where
  control : ∀ proxyName rid, s.AtWork proxyName rid → payloadPath rid ∉ s.controlPaths gonggoName
  unique : ∀ proxyName other rid, s.AtWork proxyName rid → s.AtWork other rid → proxyName = other

theorem not_atWork_of_quiet (hThreads : s.threads = .started) (hPasses : ∀ name, s.passes name = .asleep)
    (hRest : s.rest.exchange = none) (proxyName : ProxyName) (rid : Rid) : ¬ s.AtWork proxyName rid := by
  rintro (⟨conn, h⟩ | h | h | ⟨x, h, hRid⟩)
  · rw [hThreads] at h
    cases h
  · rw [hThreads] at h
    exact not_listedUnder_empty proxyName rid h
  · rw [hPasses] at h
    cases h
  · rw [hRest] at h
    cases h

theorem Apart.effect (h : s.Apart gonggoName) (hDistinct : s.Distinct json gonggoName e) :
    (s.effect json gonggoName e).Apart gonggoName := by
  refine ⟨fun proxyName rid hWork hMem => ?_, fun proxyName other rid hWork hOther => ?_⟩
  · rcases atWork_effect hWork, mem_controlPaths_effect hMem with ⟨hOld | hNew, hPath | ⟨name, rfl, hPath⟩⟩
    · exact h.control proxyName rid hOld hPath
    · exact hDistinct.activate name rfl proxyName rid hOld hPath
    · exact (hDistinct.brings proxyName rid hNew).1 hPath
    · cases hNew
  · rcases atWork_effect hWork, atWork_effect hOther with ⟨hOld | hNew, hOld' | hNew'⟩
    · exact h.unique proxyName other rid hOld hOld'
    · exact (hDistinct.brings other rid hNew').2 proxyName hOld
    · exact ((hDistinct.brings proxyName rid hNew).2 other hOld').symm
    · rw [hNew] at hNew'
      cases hNew'
      rfl

theorem Apart.namesApart (h : s.Apart gonggoName) : s.NamesApart gonggoName where
  control proxyName rid hUses := h.control proxyName rid (atWork_of_uses hUses)
  proxies proxyName other rid rid' hUses hOther hNe hPath := by
    obtain rfl : rid = rid' := (String.append_right_inj "/").mp hPath
    exact hNe (h.unique proxyName other rid (atWork_of_uses hUses) (atWork_of_uses hOther))

/-- In a run that brings distinct ids to work the names of the payload segments never collide. -/
theorem namesApart_of_reachable
    (h : (proxyTrafficSystem json gonggoName).ReachableWhen (Distinct json gonggoName) s) :
    s.NamesApart gonggoName := by
  refine Apart.namesApart (h.invariant (Apart gonggoName) ?_ ?_)
  · rintro s rfl
    have hQuiet := not_atWork_of_quiet (s := started) rfl (fun _ => rfl) rfl
    exact ⟨fun proxyName rid hWork => (hQuiet proxyName rid hWork).elim,
      fun proxyName other rid hWork => (hQuiet proxyName rid hWork).elim⟩
  · exact fun s e hApart _ hDistinct => hApart.effect hDistinct

/-- A check of a run: every id that comes to work names a segment apart from the control segments of then,
and is known under its proxy only; `known` are the ids that came before. -/
def ChecksDistinct (json : JsonLibrary) (gonggoName : String) :
    ProxyTraffic → List (ProxyName × Rid) → List TrafficEvent → Prop
  | _, _, [] => True
  | s, known, e :: events =>
      (proxyTrafficSystem json gonggoName).guard s e ∧
      (∀ pair ∈ s.brings json e, payloadPath pair.2 ∉ s.controlPaths gonggoName ∧
        ∀ other ∈ known, other.2 = pair.2 → other.1 = pair.1) ∧
      (∀ proxyName ∈ e.activated, ∀ path ∈ proxyPaths proxyName, ∀ other ∈ known,
        payloadPath other.2 ≠ path) ∧
      ChecksDistinct json gonggoName (s.effect json gonggoName e) (known ++ (s.brings json e).toList) events

instance decidableChecksDistinct (json : JsonLibrary) (gonggoName : String) :
    ∀ (s : ProxyTraffic) (known : List (ProxyName × Rid)) (events : List TrafficEvent),
      Decidable (ChecksDistinct json gonggoName s known events)
  | _, _, [] => inferInstanceAs (Decidable True)
  | s, known, e :: events =>
      have := decidableChecksDistinct json gonggoName (s.effect json gonggoName e)
        (known ++ (s.brings json e).toList) events
      inferInstanceAs (Decidable (_ ∧ _ ∧ _ ∧ _))

theorem admits_of_checksDistinct {events : List TrafficEvent} {known : List (ProxyName × Rid)}
    (hKnown : ∀ proxyName rid, s.AtWork proxyName rid → (proxyName, rid) ∈ known)
    (h : ChecksDistinct json gonggoName s known events) :
    (proxyTrafficSystem json gonggoName).Admits (Distinct json gonggoName) s events := by
  induction events generalizing s known with
  | nil => trivial
  | cons e events ih =>
    obtain ⟨hGuard, hBrings, hActivate, hRest⟩ := h
    refine ⟨hGuard, ⟨fun proxyName rid hBrought => ?_, fun proxyName hEq other rid hWork hPath => ?_⟩,
      ih (fun proxyName rid hWork => ?_) hRest⟩
    · obtain ⟨hControl, hOne⟩ := hBrings (proxyName, rid) hBrought
      exact ⟨hControl, fun other hWork => hOne (other, rid) (hKnown other rid hWork) rfl⟩
    · subst hEq
      exact hActivate proxyName rfl _ hPath (other, rid) (hKnown other rid hWork) rfl
    · rcases atWork_effect hWork with hOld | hNew
      · exact List.mem_append_left _ (hKnown proxyName rid hOld)
      · exact List.mem_append_right _ (Option.mem_toList.mpr hNew)

/-- The payload segments of a client's request to "weather" and of a REST request to "lamp" are in use. -/
def sampleTwoExchanges : List TrafficEvent :=
  [.activate "weather", .register "weather", .activate "lamp", .register "lamp"] ++
    sampleRoute (sampleRequest "r" "weather" "today") 0 ++
    .pass "weather" :: List.replicate 3 (.channel "weather" sampleReply) ++
    [.rest (sampleRestRequest "lamp" "on"), .worker "u" sampleReply, .worker "u" sampleReply]

set_option maxRecDepth 4000 in
theorem namesApart_of_reachable_sampleTwoExchanges :
    ((proxyTrafficSystem (sampleJson (sampleRequest "r" "weather" "today")) "gonggo").run started
      sampleTwoExchanges).NamesApart "gonggo" := by
  have hQuiet : ∀ proxyName rid, started.AtWork proxyName rid → (proxyName, rid) ∈ [] :=
    fun proxyName rid hWork => (not_atWork_of_quiet rfl (fun _ => rfl) rfl proxyName rid hWork).elim
  exact namesApart_of_reachable (.run (.init rfl) sampleTwoExchanges
    (admits_of_checksDistinct hQuiet (by decide)))

/-- A client picks the name of the dispatcher as its request id, and its payload segment is the one
over which proxies ask to be activated. -/
theorem not_namesApart : ¬ ∀ (json : JsonLibrary) (gonggoName : String) (s : ProxyTraffic),
    (proxyTrafficSystem json gonggoName).Reachable s → s.NamesApart gonggoName := by
  intro h
  let M := proxyTrafficSystem (sampleJson (sampleRequest "gonggo" "weather" "today")) "gonggo"
  have hStart : M.Reachable started := .init rfl
  have hReach := hStart.run
    (.activate "weather" :: sampleRoute (sampleRequest "gonggo" "weather" "today") 0 ++
      [.pass "weather", .channel "weather" sampleReply, .channel "weather" sampleReply]) (by decide)
  have hApart := h _ _ _ hReach
  refine hApart.control "weather" "gonggo" ⟨⟨"gonggo", _, .creating⟩, rfl, .inl rfl⟩ ?_
  exact List.mem_cons_self

end ProxyTraffic

end Gonggo
