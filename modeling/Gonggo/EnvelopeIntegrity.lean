import Gonggo.ReservedService
import Gonggo.SegmentContents

/-! # Envelopes reach the proxies they were addressed to

An envelope is accepted once: from a client that names the proxy, from a close handler, or from a
REST request. The table of the texts knows no proxies and the table of the proxies knows no texts, and
the channel threads put the two together again by the id, which names the segment the proxy reads. As
long as the accepted ids name segments of their own, a proxy is handed and reads only envelopes that were
accepted for it, with the text they were accepted with.
-/

namespace Gonggo

/-- The proxy an envelope is for, its id and its text. -/
abbrev Envelope := ProxyName × Rid × String

namespace ProxyTraffic

/-- The envelope that is accepted in a step. -/
def enters (json : JsonLibrary) (s : ProxyTraffic) : TrafficEvent → Option Envelope
  | .store ⟨ctx, .receive _ uri data⟩ =>
      if ctx.gonggoPath ≠ some uri then none
      else
        match (json.parse data).map clientServiceRouteVerdict with
        | some (.proxyRequest rid proxyName serviceName payload _) =>
            some (proxyName, rid, clientServiceTableServicePayloadCreate json.print serviceName payload)
        | _ => none
  | .store ⟨ctx, .conn conn⟩ =>
      match s.threads.conns conn with
      | .dropServiceSetting ((proxyName, requestUuid) :: _) drawn =>
          some (proxyName, ctx.drop.uuidGenerate drawn, requestDropText json.print requestUuid)
      | _ => none
  | .worker generated reply =>
      match s.rest with
      | .waiting proxyName endpoint payload =>
          if reply.alive then
            some (proxyName, generated, clientServiceTableServicePayloadCreate json.print endpoint payload)
          else none
      | _ => none
  | _ => none

variable {json : JsonLibrary} {gonggoName : String} {s : ProxyTraffic} {e : TrafficEvent}
  {proxyName : ProxyName} {rid : Rid} {text : String}

theorem enters_of_brings (h : s.brings json e = some (proxyName, rid)) :
    ∃ text, s.enters json e = some (proxyName, rid, text) := by
  cases e with
  | store e =>
    obtain ⟨ctx, action⟩ := e
    cases action with
    | receive worker uri data =>
      simp only [brings] at h
      split at h
      · cases h
      · rename_i hPath
        split at h
        · rename_i hVerdict
          cases h
          simp only [enters, if_neg hPath, hVerdict]
          exact ⟨_, rfl⟩
        · cases h
    | conn worker =>
      simp only [brings] at h
      split at h
      · rename_i hPc
        cases h
        simp only [enters, hPc]
        exact ⟨_, rfl⟩
      · cases h
    | answer | close | subscriber | pass | timeout | notify | notifier => cases h
  | worker generated reply =>
    simp only [brings] at h
    split at h
    · rename_i hPc
      split at h
      · rename_i hAlive
        cases h
        simp only [enters, hPc, if_pos hAlive]
        exact ⟨_, rfl⟩
      · cases h
    · cases h
  | activate | register | unsent | terminate | pass | channel | rest => cases h

theorem enters_of_receives {e : StoreStep} {conn : Conn} {req : ProxyRequest}
    (h : (s.stepOf json e).Receives conn req) :
    s.enters json (.store e) = some (req.proxyName, req.rid, req.servicePayload) := by
  obtain ⟨uri, data, root, serviceName, payload, hAction, hPath, hParse, hVerdict, hText⟩ := h
  obtain ⟨ctx, action⟩ := e
  simp only [stepOf] at hAction hPath hParse hText
  subst hAction
  simp [enters, hPath, hParse, hVerdict, hText]

/-! ## What a step takes further -/

/-- The channel threads and the REST requests leave the texts and the workers alone. -/
theorem threads_effect (hStore : ∀ e', e ≠ .store e') :
    (s.effect json gonggoName e).threads.conns = s.threads.conns ∧
      (s.effect json gonggoName e).threads.services = s.threads.services := by
  cases e with
  | store e => exact (hStore e rfl).elim
  | channel name reply =>
    simp only [effect, channelEffect]
    split
    any_goals exact ⟨rfl, rfl⟩
    all_goals split <;> exact ⟨rfl, rfl⟩
  | rest request =>
    simp only [effect, restEffect]
    split <;> exact ⟨rfl, rfl⟩
  | worker generated reply =>
    simp only [effect, workerEffect]
    split
    any_goals exact ⟨rfl, rfl⟩
    split <;> exact ⟨rfl, rfl⟩
  | activate | register | unsent | terminate | pass => exact ⟨rfl, rfl⟩

theorem request_effect {conn : Conn} {req : ProxyRequest} {k : Nat}
    (h : ((s.effect json gonggoName e).threads.conns conn).request = some (req, k)) :
    (s.threads.conns conn).request = some (req, k) ∨
      s.enters json e = some (req.proxyName, req.rid, req.servicePayload) := by
  by_cases hStore : ∃ e', e = .store e'
  · obtain ⟨e, rfl⟩ := hStore
    exact (StoreThreads.request_effect h).imp_right enters_of_receives
  · rw [(threads_effect fun e' hEq => hStore ⟨e', hEq⟩).1] at h
    exact .inl h

theorem lookup_services_effect (h : (s.effect json gonggoName e).threads.services.lookup rid = some text) :
    s.threads.services.lookup rid = some text ∨
      (∃ conn req k, (s.threads.conns conn).request = some (req, k) ∧ rid = req.rid ∧
        text = req.servicePayload) ∨
      ∃ proxyName, s.enters json e = some (proxyName, rid, text) := by
  by_cases hStore : ∃ e', e = .store e'
  · obtain ⟨e, rfl⟩ := hStore
    simp only [effect, storeEffect] at h
    rw [(StoreThreads.actsOnTables_effect s.threads (s.stepOf json e)).1] at h
    rcases TableAction.lookup_services h with hOld | hNew
    · exact .inl hOld
    · obtain ⟨worker, hAction, ⟨req, k, hPc, hRid, hText⟩ |
        ⟨proxyName, requestUuid, targets, drawn, hPc, hRid, hText⟩⟩ := StoreThreads.worker_of_stores hNew
      · exact .inr (.inl ⟨worker, req, k, by rw [hPc, ConnPc.request], hRid, hText⟩)
      · obtain ⟨ctx, action⟩ := e
        simp only [stepOf] at hAction hRid hText
        subst hAction
        exact .inr (.inr ⟨proxyName, by simp only [enters, hPc, hRid, hText]⟩)
  · rw [(threads_effect fun e' hEq => hStore ⟨e', hEq⟩).2] at h
    exact .inl h

/-- The pass of a channel thread takes its texts from the table. -/
theorem inHand_effect (h : (rid, text) ∈ ((s.effect json gonggoName e).passes proxyName).inHand) :
    (rid, text) ∈ (s.passes proxyName).inHand ∨ s.threads.services.lookup rid = some text := by
  have hSet {name : ProxyName} {pc : ChannelPassPc}
      (hMem : (rid, text) ∈ (Function.update s.passes name pc proxyName).inHand)
      (hPc : (rid, text) ∈ pc.inHand → (rid, text) ∈ (s.passes name).inHand ∨
        s.threads.services.lookup rid = some text) :
      (rid, text) ∈ (s.passes proxyName).inHand ∨ s.threads.services.lookup rid = some text := by
    by_cases hName : proxyName = name
    · subst hName
      rw [Function.update_self] at hMem
      exact hPc hMem
    · rw [Function.update_of_ne hName] at hMem
      exact .inl hMem
  cases e with
  | pass name => exact hSet h fun hMem => by cases hMem
  | channel name reply =>
    simp only [effect, channelEffect] at h
    split at h
    · exact .inl h
    · exact hSet h fun hMem => by cases hMem
    · refine hSet h fun hMem => ?_
      split at hMem
      · cases hMem
      · rename_i hDup
        cases List.mem_singleton.mp hMem
        exact .inr hDup
    · rename_i hPc
      refine hSet h fun hMem => ?_
      split at hMem
      · exact .inl (by rwa [hPc])
      · cases hMem
    · rename_i hPc
      split at h
      · exact hSet h fun hMem => .inl (by rwa [hPc])
      · exact hSet h fun hMem => by cases hMem
    · rename_i hPc
      split at h <;> exact hSet h fun hMem => .inl (by rwa [hPc])
    · exact hSet h fun hMem => by cases hMem
  | rest request =>
    simp only [effect, restEffect] at h
    split at h <;> exact .inl h
  | worker generated reply =>
    simp only [effect, workerEffect] at h
    split at h
    · exact .inl h
    · exact .inl h
    · split at h <;> exact .inl h
    · exact .inl h
    · exact .inl h
  | store | activate | register | unsent | terminate => exact .inl h

/-- The exchange of a REST request keeps its envelope. -/
theorem restExchange_effect {x : Exchange} (h : (s.effect json gonggoName e).rest.exchange = some (proxyName, x)) :
    (∃ x', s.rest.exchange = some (proxyName, x') ∧ x'.rid = x.rid ∧ x'.text = x.text) ∨
      s.enters json e = some (proxyName, x.rid, x.text) := by
  cases e with
  | channel name reply =>
    refine .inl ⟨x, ?_, rfl, rfl⟩
    simp only [effect, channelEffect] at h
    split at h
    any_goals exact h
    all_goals split at h <;> exact h
  | rest request =>
    simp only [effect, restEffect] at h
    split at h
    · exact .inl ⟨x, h, rfl, rfl⟩
    · cases h
  | worker generated reply =>
    simp only [effect, workerEffect] at h
    split at h
    · exact .inl ⟨x, h, rfl, rfl⟩
    · rename_i hPc
      simp only [setRest] at h
      split at h
      · rename_i hAlive
        cases h
        exact .inr (by simp only [enters, hPc, if_pos hAlive])
      · cases h
    · rename_i hPc
      split at h
      · cases h
        exact .inl ⟨_, congrArg RestPc.exchange hPc, rfl, rfl⟩
      · cases h
    · rename_i hPc
      cases h
      exact .inl ⟨_, congrArg RestPc.exchange hPc, rfl, rfl⟩
    · cases h
  | store | activate | register | unsent | terminate | pass => exact .inl ⟨x, h, rfl, rfl⟩

/-- What is handed over was in the hand of the channel thread, or in the exchange of a REST request. -/
theorem handedOver_effect (h : (proxyName, rid, text) ∈ (s.effect json gonggoName e).handedOver) :
    (proxyName, rid, text) ∈ s.handedOver ∨ (rid, text) ∈ (s.passes proxyName).inHand ∨
      ∃ x, s.rest.exchange = some (proxyName, x) ∧ x.rid = rid ∧ x.text = text := by
  cases e with
  | channel name reply =>
    simp only [effect, channelEffect] at h
    split at h
    · exact .inl h
    · exact .inl h
    · exact .inl h
    · exact .inl h
    · rename_i hPc
      split at h
      · rcases List.mem_append.mp h with hOld | hNew
        · exact .inl hOld
        · cases List.mem_singleton.mp hNew
          exact .inr (.inl (by rw [hPc]; exact List.mem_singleton_self _))
      · exact .inl h
    · split at h <;> exact .inl h
    · exact .inl h
  | rest request =>
    simp only [effect, restEffect] at h
    split at h <;> exact .inl h
  | worker generated reply =>
    simp only [effect, workerEffect] at h
    split at h
    · exact .inl h
    · exact .inl h
    · rename_i hPc
      split at h
      · rcases List.mem_append.mp h with hOld | hNew
        · exact .inl hOld
        · cases List.mem_singleton.mp hNew
          exact .inr (.inr ⟨_, congrArg RestPc.exchange hPc, rfl, rfl⟩)
      · exact .inl h
    · exact .inl h
    · exact .inl h
  | store | activate | register | unsent | terminate | pass => exact .inl h

theorem atWork_of_inHand (h : (rid, text) ∈ (s.passes proxyName).inHand) : s.AtWork proxyName rid := by
  refine .pass ?_
  cases hPc : s.passes proxyName with
  | asleep | passing =>
    rw [hPc] at h
    cases h
  | waiting | exchanging =>
    rw [hPc] at h
    cases List.mem_singleton.mp h
    exact List.mem_cons_self

end ProxyTraffic

/-- The traffic with the list of the envelopes that were accepted so far and the contents of the
shared memory segments. -/
structure EnvelopeTraffic where
  traffic : ProxyTraffic
  accepted : List Envelope
  contents : String → Option String

namespace EnvelopeTraffic

def started : EnvelopeTraffic where
  traffic := .started
  accepted := []
  contents _ := none

end EnvelopeTraffic

/-- `segment` is the segment that the C library opens for a path. -/
def envelopeTrafficSystem (json : JsonLibrary) (gonggoName : String) (segment : String → String) :
    TransitionSystem EnvelopeTraffic TrafficEvent where
  init t := t = .started
  guard t e := t.traffic.guard json e
  effect t e :=
    { traffic := t.traffic.effect json gonggoName e
      accepted := t.accepted ++ (t.traffic.enters json e).toList
      contents := writeSegments segment t.contents (t.traffic.segmentWrites e) }

instance (json : JsonLibrary) (gonggoName : String) (segment : String → String) (t : EnvelopeTraffic)
    (e : TrafficEvent) : Decidable ((envelopeTrafficSystem json gonggoName segment).guard t e) :=
  decidableTrafficGuard json gonggoName t.traffic e

namespace EnvelopeTraffic

variable (json : JsonLibrary) (gonggoName : String) (segment : String → String) (t : EnvelopeTraffic)

/-- The segments of the accepted ids. -/
def acceptedSegments : List String := t.accepted.map fun envelope => segment (payloadPath envelope.2.1)

/-- The id of an envelope that is accepted names a segment that no accepted id and no control segment
has, and the segments of a proxy that becomes active are those of no accepted id. -/
structure FreshId (e : TrafficEvent) : Prop where
  enters : ∀ envelope ∈ t.traffic.enters json e,
    segment (payloadPath envelope.2.1) ∉
      t.acceptedSegments segment ++ (t.traffic.controlPaths gonggoName).map segment
  activate : ∀ proxyName ∈ e.activated, ∀ path ∈ proxyPaths proxyName,
    segment path ∉ t.acceptedSegments segment

instance (e : TrafficEvent) : Decidable (t.FreshId json gonggoName segment e) :=
  decidable_of_iff
    ((∀ envelope ∈ t.traffic.enters json e,
        segment (payloadPath envelope.2.1) ∉
          t.acceptedSegments segment ++ (t.traffic.controlPaths gonggoName).map segment) ∧
      ∀ proxyName ∈ e.activated, ∀ path ∈ proxyPaths proxyName, segment path ∉ t.acceptedSegments segment)
    ⟨fun h => ⟨h.1, h.2⟩, fun h => ⟨h.enters, h.activate⟩⟩

/-- Some envelope with the id was accepted for the proxy. -/
def AcceptedFor (proxyName : ProxyName) (rid : Rid) : Prop := ∃ text, (proxyName, rid, text) ∈ t.accepted

/-- Some envelope with the id and the text was accepted. -/
def AcceptedAs (rid : Rid) (text : String) : Prop := ∃ proxyName, (proxyName, rid, text) ∈ t.accepted

/-- Whatever is under way was accepted, for its proxy and with its text. -/
structure Carried : Prop where
  distinct : (t.accepted.map fun envelope => envelope.2.1).Nodup
  atWork : ∀ proxyName rid, t.traffic.AtWork proxyName rid → t.AcceptedFor proxyName rid
  request : ∀ conn req k, (t.traffic.threads.conns conn).request = some (req, k) →
    t.AcceptedAs req.rid req.servicePayload
  services : ∀ rid text, t.traffic.threads.services.lookup rid = some text → t.AcceptedAs rid text
  pass : ∀ proxyName rid text, (rid, text) ∈ (t.traffic.passes proxyName).inHand → t.AcceptedAs rid text
  rest : ∀ proxyName x, t.traffic.rest.exchange = some (proxyName, x) → t.AcceptedAs x.rid x.text
  handedOver : ∀ proxyName rid text, (proxyName, rid, text) ∈ t.traffic.handedOver →
    t.AcceptedFor proxyName rid ∧ t.AcceptedAs rid text

variable {json gonggoName segment t} {e : TrafficEvent} {proxyName : ProxyName} {rid : Rid} {text : String}

theorem AcceptedFor.mono {t' : EnvelopeTraffic} (h : t.AcceptedFor proxyName rid)
    (hMore : ∀ envelope ∈ t.accepted, envelope ∈ t'.accepted) : t'.AcceptedFor proxyName rid :=
  h.imp fun _ => hMore _

theorem AcceptedAs.mono {t' : EnvelopeTraffic} (h : t.AcceptedAs rid text)
    (hMore : ∀ envelope ∈ t.accepted, envelope ∈ t'.accepted) : t'.AcceptedAs rid text :=
  h.imp fun _ => hMore _

theorem carried_started : Carried .started where
  distinct := List.nodup_nil
  atWork proxyName rid h := (ProxyTraffic.not_atWork_of_quiet rfl (fun _ => rfl) rfl proxyName rid h).elim
  request _ _ _ h := by cases h
  services _ _ h := by cases h
  pass _ _ _ h := by cases h
  rest _ _ h := by cases h
  handedOver _ _ _ h := by cases h

theorem mem_accepted_effect {envelope : Envelope} (h : envelope ∈ t.accepted) :
    envelope ∈ ((envelopeTrafficSystem json gonggoName segment).effect t e).accepted :=
  List.mem_append_left _ h

theorem mem_accepted_of_enters {envelope : Envelope} (h : t.traffic.enters json e = some envelope) :
    envelope ∈ ((envelopeTrafficSystem json gonggoName segment).effect t e).accepted :=
  List.mem_append_right _ (Option.mem_toList.mpr h)

theorem FreshId.not_mem_accepted {envelope : Envelope} (h : t.FreshId json gonggoName segment e)
    (hEnters : t.traffic.enters json e = some envelope) :
    envelope.2.1 ∉ t.accepted.map fun other => other.2.1 := by
  intro hMem
  obtain ⟨other, hOther, hRid⟩ := List.mem_map.mp hMem
  refine h.enters envelope hEnters (List.mem_append_left _ ?_)
  exact List.mem_map.mpr ⟨other, hOther, by rw [hRid]⟩

theorem Carried.effect (h : t.Carried) (hFresh : t.FreshId json gonggoName segment e) :
    ((envelopeTrafficSystem json gonggoName segment).effect t e).Carried := by
  have hMore : ∀ envelope ∈ t.accepted,
      envelope ∈ ((envelopeTrafficSystem json gonggoName segment).effect t e).accepted :=
    fun _ => mem_accepted_effect
  have hEnters {envelope : Envelope} (hEnters : t.traffic.enters json e = some envelope) :
      envelope ∈ ((envelopeTrafficSystem json gonggoName segment).effect t e).accepted :=
    mem_accepted_of_enters hEnters
  refine ⟨?_, fun proxyName rid hWork => ?_, fun conn req k hReq => ?_, fun rid text hText => ?_,
    fun proxyName rid text hMem => ?_, fun proxyName x hX => ?_, fun proxyName rid text hMem => ?_⟩
  · simp only [envelopeTrafficSystem, List.map_append]
    cases hEnvelope : t.traffic.enters json e with
    | none => simpa using h.distinct
    | some envelope =>
      refine List.Nodup.append h.distinct (List.nodup_singleton _) ?_
      rintro rid hOld hNew
      cases List.mem_singleton.mp hNew
      exact hFresh.not_mem_accepted hEnvelope hOld
  · rcases ProxyTraffic.atWork_effect hWork with hOld | hBrings
    · exact (h.atWork proxyName rid hOld).mono hMore
    · exact (ProxyTraffic.enters_of_brings hBrings).imp fun _ => hEnters
  · rcases ProxyTraffic.request_effect hReq with hOld | hNew
    · exact (h.request conn req k hOld).mono hMore
    · exact ⟨_, hEnters hNew⟩
  · rcases ProxyTraffic.lookup_services_effect hText with hOld | ⟨conn, req, k, hReq, rfl, rfl⟩ | ⟨_, hNew⟩
    · exact (h.services rid text hOld).mono hMore
    · exact (h.request conn req k hReq).mono hMore
    · exact ⟨_, hEnters hNew⟩
  · rcases ProxyTraffic.inHand_effect hMem with hOld | hStored
    · exact (h.pass proxyName rid text hOld).mono hMore
    · exact (h.services rid text hStored).mono hMore
  · rcases ProxyTraffic.restExchange_effect hX with ⟨x', hOld, hRid, hText⟩ | hNew
    · rw [← hRid, ← hText]
      exact (h.rest proxyName x' hOld).mono hMore
    · exact ⟨_, hEnters hNew⟩
  · rcases ProxyTraffic.handedOver_effect hMem with hOld | hInHand | ⟨x, hX, rfl, rfl⟩
    · exact (h.handedOver proxyName rid text hOld).imp (.mono · hMore) (.mono · hMore)
    · exact ⟨(h.atWork proxyName rid (ProxyTraffic.atWork_of_inHand hInHand)).mono hMore,
        (h.pass proxyName rid text hInHand).mono hMore⟩
    · exact ⟨(h.atWork proxyName x.rid (.rest x hX rfl)).mono hMore, (h.rest proxyName x hX).mono hMore⟩

/-- The proxy and the text that go with an id come from one envelope. -/
theorem Carried.mem_accepted (h : t.Carried) (hMem : (proxyName, rid, text) ∈ t.traffic.handedOver) :
    (proxyName, rid, text) ∈ t.accepted := by
  obtain ⟨⟨text', hFor⟩, ⟨other, hAs⟩⟩ := h.handedOver proxyName rid text hMem
  have hEq : (proxyName, rid, text') = (other, rid, text) :=
    List.inj_on_of_nodup_map h.distinct hFor hAs rfl
  cases hEq
  exact hFor

/-! ## The segments -/

theorem Carried.accepted_of_exchangeAt (h : t.Carried) {thread : ExchangeThread} {x : Exchange}
    (hExchange : t.traffic.exchangeAt thread = some (proxyName, x)) : (proxyName, x.rid, x.text) ∈ t.accepted := by
  obtain ⟨text, hFor⟩ := h.atWork proxyName x.rid (ProxyTraffic.atWork_of_exchangeAt hExchange)
  obtain ⟨other, hAs⟩ : t.AcceptedAs x.rid x.text := by
    cases thread with
    | channel name =>
      obtain ⟨x', hPass, hEq⟩ := Option.map_eq_some_iff.mp hExchange
      cases hEq
      refine h.pass proxyName x.rid x.text ?_
      cases hPc : t.traffic.passes proxyName with
      | exchanging x' pending =>
        rw [hPc] at hPass
        cases hPass
        exact List.mem_singleton_self _
      | asleep | passing | waiting =>
        rw [hPc] at hPass
        cases hPass
    | rest => exact h.rest proxyName x hExchange
  have hEq : (proxyName, x.rid, text) = (other, x.rid, x.text) :=
    List.inj_on_of_nodup_map h.distinct hFor hAs rfl
  cases hEq
  exact hFor

/-- The accepted ids have segments of their own, the REST request has its id for itself, and the
segment of an exchange that is posted holds its text. -/
structure Separate (gonggoName : String) (segment : String → String) (t : EnvelopeTraffic) : Prop where
  segments : (t.acceptedSegments segment).Nodup
  control : ∀ path ∈ t.traffic.controlPaths gonggoName, segment path ∉ t.acceptedSegments segment
  rest : ∀ proxyName other x, t.traffic.AtWorkOutside proxyName x.rid →
    t.traffic.rest.exchange ≠ some (other, x)
  holds : ∀ thread proxyName x, t.traffic.exchangeAt thread = some (proxyName, x) →
    x.stage ≠ .creating → t.contents (segment (payloadPath x.rid)) = some x.text

theorem separate_started : Separate gonggoName segment .started where
  segments := List.nodup_nil
  control _ _ h := by cases h
  rest proxyName other x _ h := by cases h
  holds thread proxyName x h := by cases thread <;> cases h

theorem mem_acceptedSegments {envelope : Envelope} (h : envelope ∈ t.accepted) :
    segment (payloadPath envelope.2.1) ∈ t.acceptedSegments segment :=
  List.mem_map.mpr ⟨envelope, h, rfl⟩

theorem acceptedSegments_effect :
    ((envelopeTrafficSystem json gonggoName segment).effect t e).acceptedSegments segment =
      t.acceptedSegments segment ++
        (t.traffic.enters json e).toList.map fun envelope => segment (payloadPath envelope.2.1) :=
  List.map_append

namespace Separate

/-- Two threads never use one segment. -/
theorem thread_eq (h : t.Separate gonggoName segment) (hCarried : t.Carried) {thread thread' : ExchangeThread}
    {y y' : ProxyName × Exchange} (hExchange : t.traffic.exchangeAt thread = some y)
    (hExchange' : t.traffic.exchangeAt thread' = some y')
    (hSegment : segment (payloadPath y.2.rid) = segment (payloadPath y'.2.rid)) : thread = thread' := by
  have hEq : (y.1, y.2.rid, y.2.text) = (y'.1, y'.2.rid, y'.2.text) :=
    List.inj_on_of_nodup_map h.segments (hCarried.accepted_of_exchangeAt hExchange)
      (hCarried.accepted_of_exchangeAt hExchange') hSegment
  obtain ⟨hName, hRid, -⟩ : y.1 = y'.1 ∧ y.2.rid = y'.2.rid ∧ y.2.text = y'.2.text := by
    simpa only [Prod.mk.injEq] using hEq
  cases thread with
  | channel name =>
    have hOutside := ProxyTraffic.atWorkOutside_of_exchangeAt hExchange
    cases thread' with
    | channel name' =>
      rw [ProxyTraffic.eq_of_exchangeAt_channel hExchange, ProxyTraffic.eq_of_exchangeAt_channel hExchange', hName]
    | rest => exact (h.rest y.1 y'.1 y'.2 (hRid ▸ hOutside) hExchange').elim
  | rest =>
    cases thread' with
    | channel name' =>
      have hOutside := ProxyTraffic.atWorkOutside_of_exchangeAt hExchange'
      exact (h.rest y'.1 y.1 y.2 (hRid ▸ hOutside) hExchange).elim
    | rest => rfl

theorem segments_effect (h : t.Separate gonggoName segment) (hFresh : t.FreshId json gonggoName segment e) :
    (((envelopeTrafficSystem json gonggoName segment).effect t e).acceptedSegments segment).Nodup := by
  rw [acceptedSegments_effect]
  cases hEnters : t.traffic.enters json e with
  | none => simpa using h.segments
  | some envelope =>
    refine List.Nodup.append h.segments (List.nodup_singleton _) ?_
    rintro name hOld hNew
    cases List.mem_singleton.mp hNew
    exact hFresh.enters envelope hEnters (List.mem_append_left _ hOld)

theorem control_effect (h : t.Separate gonggoName segment) (hFresh : t.FreshId json gonggoName segment e)
    {path : String}
    (hPath : path ∈ ((envelopeTrafficSystem json gonggoName segment).effect t e).traffic.controlPaths gonggoName) :
    segment path ∉ ((envelopeTrafficSystem json gonggoName segment).effect t e).acceptedSegments segment := by
  rw [acceptedSegments_effect]
  intro hMem
  rcases List.mem_append.mp hMem with hOld | hNew
  · rcases ProxyTraffic.mem_controlPaths_effect hPath with hControl | ⟨proxyName, rfl, hProxy⟩
    · exact h.control path hControl hOld
    · exact hFresh.activate proxyName rfl path hProxy hOld
  · obtain ⟨envelope, hEnters, hSegment⟩ := List.mem_map.mp hNew
    rcases ProxyTraffic.mem_controlPaths_effect hPath with hControl | ⟨proxyName, rfl, hProxy⟩
    · refine hFresh.enters envelope (Option.mem_toList.mp hEnters) (List.mem_append_right _ ?_)
      rw [hSegment]
      exact List.mem_map_of_mem hControl
    · cases hEnters

theorem rest_effect (h : t.Separate gonggoName segment) (hCarried : t.Carried)
    (hFresh : t.FreshId json gonggoName segment e) {other : ProxyName} {x : Exchange}
    (hOutside : (t.traffic.effect json gonggoName e).AtWorkOutside proxyName x.rid) :
    (t.traffic.effect json gonggoName e).rest.exchange ≠ some (other, x) := by
  intro hRest
  have hKnown {name : ProxyName} {rid : Rid} {text : String} (hEnters : t.traffic.enters json e = some (name, rid, text))
      {envelope : Envelope} (hMem : envelope ∈ t.accepted) (hRid : envelope.2.1 = rid) : False :=
    hFresh.not_mem_accepted hEnters (List.mem_map.mpr ⟨envelope, hMem, hRid⟩)
  rcases ProxyTraffic.atWorkOutside_effect hOutside with hOld | ⟨hBrings, hMoves⟩
  · rcases ProxyTraffic.restExchange_effect hRest with ⟨x', hRest', hRid, -⟩ | hEnters
    · exact h.rest proxyName other x' (hRid ▸ hOld) hRest'
    · obtain ⟨text, hMem⟩ := hCarried.atWork proxyName x.rid hOld.atWork
      exact hKnown hEnters hMem rfl
  · obtain ⟨text, hEnters⟩ := ProxyTraffic.enters_of_brings hBrings
    have hExchange : t.traffic.exchangeAt .rest = some (other, x) :=
      ProxyTraffic.exchangeAt_effect_of_rest hMoves hRest
    exact hKnown hEnters (hCarried.accepted_of_exchangeAt hExchange) rfl

/-- A step writes no segment of an exchange that it does not take further. -/
theorem segment_ne_of_write (h : t.Separate gonggoName segment) (hCarried : t.Carried)
    (hFresh : t.FreshId json gonggoName segment e) {thread : ExchangeThread} {y : ProxyName × Exchange}
    (hExchange : t.traffic.exchangeAt thread = some y)
    (hMoves : ∀ reply, ProxyTraffic.moves e ≠ some (thread, reply)) {write : SegmentWrite}
    (hWrite : write ∈ t.traffic.segmentWrites e) : segment write.1 ≠ segment (payloadPath y.2.rid) := by
  intro hSegment
  have hMem : segment write.1 ∈ t.acceptedSegments segment :=
    hSegment ▸ mem_acceptedSegments (hCarried.accepted_of_exchangeAt hExchange)
  rcases ProxyTraffic.mem_segmentWrites hWrite with
    ⟨proxyName, rfl | ⟨rfl, hActive⟩, hPath⟩ | ⟨thread', reply, y', hMoves', hExchange', hPath⟩
  · exact hFresh.activate proxyName rfl write.1 hPath hMem
  · refine h.control write.1 (List.mem_cons_of_mem _ (List.mem_cons_of_mem _ ?_)) hMem
    exact List.mem_flatMap.mpr ⟨proxyName, hActive, hPath⟩
  · rw [hPath] at hSegment
    obtain rfl := h.thread_eq hCarried hExchange' hExchange hSegment
    exact hMoves reply hMoves'

theorem holds_effect (h : t.Separate gonggoName segment) (hCarried : t.Carried)
    (hGuard : t.traffic.guard json e) (hFresh : t.FreshId json gonggoName segment e)
    {thread : ExchangeThread} {x : Exchange}
    (hExchange : (t.traffic.effect json gonggoName e).exchangeAt thread = some (proxyName, x))
    (hStage : x.stage ≠ .creating) :
    ((envelopeTrafficSystem json gonggoName segment).effect t e).contents (segment (payloadPath x.rid)) =
      some x.text := by
  by_cases hMoves : ∃ reply, ProxyTraffic.moves e = some (thread, reply)
  · obtain ⟨reply, hMoves⟩ := hMoves
    cases ProxyTraffic.continues_effect hGuard hMoves hExchange with
    | begun rid text => exact (hStage rfl).elim
    | posted rid text hOld hCreated =>
      simp [envelopeTrafficSystem, ProxyTraffic.segmentWrites_of_moves hMoves hOld, Exchange.writes,
        hCreated, writeSegments]
    | answered rid text hOld =>
      simp only [envelopeTrafficSystem, ProxyTraffic.segmentWrites_of_moves hMoves hOld, Exchange.writes]
      exact h.holds thread proxyName ⟨rid, text, .posted⟩ hOld fun hEq => by cases hEq
  · have hMoves : ∀ reply, ProxyTraffic.moves e ≠ some (thread, reply) := fun reply hEq => hMoves ⟨reply, hEq⟩
    have hOld := ProxyTraffic.exchangeAt_effect_of_rest hMoves hExchange
    calc
      ((envelopeTrafficSystem json gonggoName segment).effect t e).contents (segment (payloadPath x.rid)) =
          t.contents (segment (payloadPath x.rid)) :=
        writeSegments_of_ne fun write hWrite => h.segment_ne_of_write hCarried hFresh hOld hMoves hWrite
      _ = some x.text := h.holds thread proxyName x hOld hStage

theorem effect (h : t.Separate gonggoName segment) (hCarried : t.Carried)
    (hGuard : t.traffic.guard json e) (hFresh : t.FreshId json gonggoName segment e) :
    ((envelopeTrafficSystem json gonggoName segment).effect t e).Separate gonggoName segment where
  segments := h.segments_effect hFresh
  control _ hPath := h.control_effect hFresh hPath
  rest _ _ _ hOutside := h.rest_effect hCarried hFresh hOutside
  holds _ _ _ hExchange hStage := h.holds_effect hCarried hGuard hFresh hExchange hStage

end Separate

/-! ## What the proxies read -/

/-- The exchange is posted for the proxy, which may open its segment now. -/
def Posted (t : EnvelopeTraffic) (proxyName : ProxyName) (x : Exchange) : Prop :=
  x.stage = .posted ∧ ∃ thread, t.traffic.exchangeAt thread = some (proxyName, x)

/-- What the proxies were handed was accepted for them, under that id and with that text. While an
exchange is posted the segment that its id names is no control segment and holds the text accepted for
the proxy under that id. -/
structure Intact (gonggoName : String) (segment : String → String) (t : EnvelopeTraffic) : Prop where
  accepted : ∀ envelope ∈ t.traffic.handedOver, envelope ∈ t.accepted
  unique : ∀ envelope ∈ t.traffic.handedOver, ∀ other ∈ t.traffic.handedOver,
    envelope.2.1 = other.2.1 → envelope = other
  readable : ∀ proxyName x, t.Posted proxyName x →
    ∃ text, t.contents (segment (payloadPath x.rid)) = some text ∧ (proxyName, x.rid, text) ∈ t.accepted
  apart : ∀ proxyName x, t.Posted proxyName x → ∀ path ∈ t.traffic.controlPaths gonggoName,
    segment path ≠ segment (payloadPath x.rid)

theorem carried_of_reachable
    (h : (envelopeTrafficSystem json gonggoName segment).ReachableWhen
      (fun t e => t.FreshId json gonggoName segment e) t) :
    t.Carried ∧ t.Separate gonggoName segment := by
  refine h.invariant (fun t => t.Carried ∧ t.Separate gonggoName segment) ?_ ?_
  · rintro t rfl
    exact ⟨carried_started, separate_started⟩
  · rintro t e ⟨hCarried, hSeparate⟩ hGuard hFresh
    exact ⟨hCarried.effect hFresh, hSeparate.effect hCarried hGuard hFresh⟩

/-- In a run in which every accepted id names a segment of its own, a proxy is handed an envelope, and
reads one, only if it was accepted for that proxy, under that id and with that text. -/
theorem intact_of_reachable
    (h : (envelopeTrafficSystem json gonggoName segment).ReachableWhen
      (fun t e => t.FreshId json gonggoName segment e) t) :
    t.Intact gonggoName segment := by
  obtain ⟨hCarried, hSeparate⟩ := carried_of_reachable h
  have hMem : ∀ envelope ∈ t.traffic.handedOver, envelope ∈ t.accepted :=
    fun envelope hHanded => hCarried.mem_accepted hHanded
  refine ⟨hMem, fun envelope hHanded other hOther hRid => ?_, fun proxyName x hPosted => ?_,
    fun proxyName x hPosted path hPath hSegment => ?_⟩
  · exact List.inj_on_of_nodup_map hCarried.distinct (hMem envelope hHanded) (hMem other hOther) hRid
  · obtain ⟨hStage, thread, hExchange⟩ := hPosted
    refine ⟨x.text, hSeparate.holds thread proxyName x hExchange ?_, hCarried.accepted_of_exchangeAt hExchange⟩
    rw [hStage]
    decide
  · obtain ⟨-, thread, hExchange⟩ := hPosted
    refine hSeparate.control path hPath ?_
    rw [hSegment]
    exact mem_acceptedSegments (hCarried.accepted_of_exchangeAt hExchange)

/-- A close handler takes the one request back, and the drop request is posted. -/
def samplePostedDrop : EnvelopeTraffic :=
  (envelopeTrafficSystem (sampleEscapedJson (sampleRequest "r" "weather" "today")) "gonggo" shmName).run
    .started ProxyTraffic.sampleDropTraffic.dropLast

set_option maxRecDepth 4000 in
theorem intact_of_reachable_samplePostedDrop :
    samplePostedDrop.Intact "gonggo" shmName ∧
      ∃ x, samplePostedDrop.Posted "weather" x ∧ x.rid = "u0" ∧ samplePostedDrop.contents "u0" = some x.text :=
  ⟨intact_of_reachable (.run (.init rfl) ProxyTraffic.sampleDropTraffic.dropLast (by decide)),
    ⟨"u0", requestDropText printUnformatted "r", .posted⟩,
    ⟨rfl, .channel "weather", by decide +kernel⟩, rfl, by decide +kernel⟩

/-- A library that knows the texts of two items. -/
def sampleJsonOfTwo (item other : CJson) : JsonLibrary where
  print := printUnformatted
  parse text :=
    if text = printUnformatted item then some item
    else if text = printUnformatted other then some other
    else none

set_option maxRecDepth 4000 in
/-- Two clients take ids that differ in a slash in front, and the one proxy reads what was meant for the
other. -/
theorem not_intact_of_distinct : ¬ ∀ (json : JsonLibrary) (gonggoName : String) (t : EnvelopeTraffic),
    (envelopeTrafficSystem json gonggoName shmName).Reachable t →
      (t.accepted.map fun envelope => envelope.2.1).Nodup → t.Intact gonggoName shmName := by
  intro h
  let item := sampleRequest "r" "weather" "today"
  let other := sampleRequest "/r" "lamp" "on"
  let M := envelopeTrafficSystem (sampleJsonOfTwo item other) "gonggo" shmName
  let events := [.activate "weather", .register "weather", .activate "lamp", .register "lamp"] ++
    sampleRoute item 0 ++ sampleRoute other 1 ++
      .pass "weather" :: List.replicate 3 (.channel "weather" sampleReply) ++
      .pass "lamp" :: List.replicate 3 (.channel "lamp" sampleReply)
  have hReach : M.Reachable (M.run .started events) := (.init rfl : M.Reachable .started).run events (by decide)
  have hPosted : (M.run .started events).Posted "weather" ⟨"r", "\x7b\"service\":\"today\"\x7d", .posted⟩ :=
    ⟨rfl, .channel "weather", by decide +kernel⟩
  obtain ⟨text, hText, hMem⟩ := (h _ _ _ hReach (by decide +kernel)).readable _ _ hPosted
  have hOther : (M.run .started events).contents (shmName (payloadPath "r")) =
      some "\x7b\"service\":\"on\"\x7d" := by decide +kernel
  cases hOther.symm.trans hText
  exact absurd hMem (by decide +kernel)

end EnvelopeTraffic

end Gonggo
