import Gonggo.ClientIsolation

/-! # Isolation between proxies

What an answer of one proxy can do to the requests of another one. An answer is fanned out to the
ids it names, and the tables are keyed by them alone, so a proxy reaches exactly the requests that
its answer names.
-/

namespace Gonggo

/-- The request is unchanged in all four tables. -/
structure SameRequestRows (rid : Rid) (store store' : RequestStore) : Prop
    extends SameRequest rid store store' where
  connections : ∀ conn, ListedIn store'.connections conn rid ↔ ListedIn store.connections conn rid

namespace SameRequestRows

variable {rid : Rid} {store store₁ store₂ : RequestStore}

theorem refl (rid : Rid) (store : RequestStore) : SameRequestRows rid store store :=
  ⟨.refl rid store, fun _ => .rfl⟩

theorem trans (h : SameRequestRows rid store store₁) (h' : SameRequestRows rid store₁ store₂) :
    SameRequestRows rid store store₂ :=
  ⟨h.toSameRequest.trans h'.toSameRequest,
    fun conn => (h'.connections conn).trans (h.connections conn)⟩

theorem listedIn_dropFromConnection_ne (table : ClientConnectionTable) (owner : Option Conn)
    {dropped : Rid} (h : rid ≠ dropped) (conn : Conn) :
    ListedIn (dropFromConnection table owner dropped) conn rid ↔ ListedIn table conn rid := by
  cases owner with
  | none => rfl
  | some owner =>
    rw [dropFromConnection, listedIn_clientConnectionTableDrop]
    exact and_iff_left fun hEq => h hEq.2

/-- An answer to one request leaves the other requests alone, under whatever proxy. -/
theorem answerRequest (store : RequestStore) (proxyName : ProxyName) {other : Rid} (h : rid ≠ other)
    (removeRequest : Bool) (now : Time) :
    SameRequestRows rid store (store.answerRequest proxyName other removeRequest now) := by
  have hRequests := lookup_clientRequestTableGetConn_ne store.requests true removeRequest now h
  cases removeRequest with
  | false => exact ⟨⟨hRequests, rfl, fun _ _ => .rfl⟩, fun _ => .rfl⟩
  | true =>
    refine ⟨⟨hRequests, HashTable.lookup_remove_ne _ h, fun name sent => ?_⟩,
      listedIn_dropFromConnection_ne _ _ h⟩
    rw [RequestStore.answerRequest, if_pos rfl, entryOf_clientProxynameTableDrop]
    exact and_iff_left fun hEq => h hEq.2

end SameRequestRows

/-! ## The rows of an answer -/

/-- The connection that a request came from. -/
def ownerOf (store : RequestStore) (rid : Rid) : Option Conn :=
  (store.requests.lookup rid).map ClientRequestTableContext.conn

theorem SameRequestRows.ownerOf_eq {rid : Rid} {store store' : RequestStore}
    (h : SameRequestRows rid store store') : ownerOf store' rid = ownerOf store rid := by
  rw [ownerOf, h.requests]
  rfl

theorem lookup_requests_answerRequest_keep (store : RequestStore) (proxyName : ProxyName)
    (rid other : Rid) (now : Time) :
    (store.answerRequest proxyName rid false now).requests.lookup other =
      if other = rid then (store.requests.lookup rid).map fun row => { row with timestamp := now }
      else store.requests.lookup other := by
  split
  · rename_i hEq
    subst hEq
    cases hRow : store.requests.lookup other with
    | none => simp [RequestStore.answerRequest, clientRequestTableGetConn, hRow]
    | some row => simp [RequestStore.answerRequest, clientRequestTableGetConn, hRow]
  · rename_i hNe
    exact lookup_clientRequestTableGetConn_ne store.requests true false now hNe

theorem listedIn_dropFromConnection_self (table : ClientConnectionTable) (owner : Option Conn)
    (dropped : Rid) (conn : Conn) :
    ListedIn (dropFromConnection table owner dropped) conn dropped ↔
      ListedIn table conn dropped ∧ owner ≠ some conn := by
  cases owner with
  | none => simp [dropFromConnection]
  | some owner =>
    rw [dropFromConnection, listedIn_clientConnectionTableDrop]
    simp [eq_comm]

/-- What an answer of the proxy does to the tables. It changes the requests it names alone, and no
list of another proxy. A named request gets the time of a reply and keeps the rest, or it leaves
the tables and the lists of its own connection and of the answering proxy. -/
structure AnsweredRows (proxyName : ProxyName) (removeRequest : Bool) (clock : Nat → Time)
    (named : List Rid) (store store' : RequestStore) : Prop where
  unnamed : ∀ rid ∉ named, SameRequestRows rid store store'
  otherLists : ∀ other, other ≠ proxyName →
    store'.proxynames.lookup other = store.proxynames.lookup other
  keptTables : removeRequest = false → store'.connections = store.connections ∧
    store'.services = store.services ∧ store'.proxynames = store.proxynames
  keptRows : removeRequest = false → ∀ rid ∈ named, ∃ i,
    store'.requests.lookup rid =
      (store.requests.lookup rid).map fun row => { row with timestamp := clock i }
  removedRows : removeRequest = true → ∀ rid ∈ named,
    store'.requests.lookup rid = none ∧ store'.services.lookup rid = none
  removedFromConnection : removeRequest = true → ∀ rid ∈ named, ∀ conn,
    ListedIn store'.connections conn rid ↔
      ListedIn store.connections conn rid ∧ ownerOf store rid ≠ some conn
  removedFromProxy : removeRequest = true → pairsUnder store'.proxynames proxyName =
    (pairsUnder store.proxynames proxyName).filter fun entry => entry.1 ∉ named

namespace AnsweredRows

variable {proxyName : ProxyName} {removeRequest : Bool} {clock : Nat → Time}
  {store store₁ store₂ : RequestStore}

theorem refl (store : RequestStore) :
    AnsweredRows proxyName removeRequest clock [] store store where
  unnamed rid _ := .refl rid store
  otherLists _ _ := rfl
  keptTables _ := ⟨rfl, rfl, rfl⟩
  keptRows _ := by simp
  removedRows _ := by simp
  removedFromConnection _ := by simp
  removedFromProxy _ := by simp

/-- One answer after another: a request that both name has left the tables, or has the later time. -/
theorem trans {first rest : List Rid}
    (h : AnsweredRows proxyName removeRequest clock first store store₁)
    (h' : AnsweredRows proxyName removeRequest clock rest store₁ store₂) :
    AnsweredRows proxyName removeRequest clock (first ++ rest) store store₂ where
  unnamed rid hNot := by
    rw [List.mem_append, not_or] at hNot
    exact (h.unnamed rid hNot.1).trans (h'.unnamed rid hNot.2)
  otherLists other hOther := (h'.otherLists other hOther).trans (h.otherLists other hOther)
  keptTables hKeep := by
    obtain ⟨hConnections, hServices, hProxynames⟩ := h.keptTables hKeep
    obtain ⟨hConnections', hServices', hProxynames'⟩ := h'.keptTables hKeep
    exact ⟨hConnections'.trans hConnections, hServices'.trans hServices,
      hProxynames'.trans hProxynames⟩
  keptRows hKeep rid hMem := by
    by_cases hRest : rid ∈ rest
    · obtain ⟨i, hRow⟩ := h'.keptRows hKeep rid hRest
      refine ⟨i, hRow.trans ?_⟩
      by_cases hFirst : rid ∈ first
      · obtain ⟨j, hEarlier⟩ := h.keptRows hKeep rid hFirst
        rw [hEarlier, Option.map_map]
        rfl
      · rw [(h.unnamed rid hFirst).requests]
    · obtain ⟨i, hRow⟩ := h.keptRows hKeep rid ((List.mem_append.mp hMem).resolve_right hRest)
      exact ⟨i, (h'.unnamed rid hRest).requests.trans hRow⟩
  removedRows hRemove rid hMem := by
    by_cases hRest : rid ∈ rest
    · exact h'.removedRows hRemove rid hRest
    · have hFirst := (List.mem_append.mp hMem).resolve_right hRest
      obtain ⟨hRequest, hService⟩ := h.removedRows hRemove rid hFirst
      have hSame := h'.unnamed rid hRest
      exact ⟨hSame.requests.trans hRequest, hSame.services.trans hService⟩
  removedFromConnection hRemove rid hMem conn := by
    by_cases hFirst : rid ∈ first
    · refine Iff.trans ?_ (h.removedFromConnection hRemove rid hFirst conn)
      by_cases hRest : rid ∈ rest
      · -- the row went with the first answer, so the second one finds no connection
        have hNone : ownerOf store₁ rid = none := by
          rw [ownerOf, (h.removedRows hRemove rid hFirst).1]
          rfl
        rw [h'.removedFromConnection hRemove rid hRest conn, hNone]
        exact and_iff_left nofun
      · exact (h'.unnamed rid hRest).connections conn
    · have hRest := (List.mem_append.mp hMem).resolve_left hFirst
      have hSame := h.unnamed rid hFirst
      rw [h'.removedFromConnection hRemove rid hRest conn, hSame.connections conn, hSame.ownerOf_eq]
  removedFromProxy hRemove := by
    rw [h'.removedFromProxy hRemove, h.removedFromProxy hRemove, List.filter_filter]
    apply List.filter_congr
    intro entry _
    simp [Bool.and_comm]

/-- The reply to one id. -/
theorem answerRequest (store : RequestStore) (proxyName : ProxyName) (rid : Rid)
    (removeRequest : Bool) (clock : Nat → Time) (sent : Nat) :
    AnsweredRows proxyName removeRequest clock [rid] store
      (store.answerRequest proxyName rid removeRequest (clock sent)) where
  unnamed other hNot :=
    SameRequestRows.answerRequest store proxyName (by simpa using hNot) removeRequest _
  otherLists other hOther := by
    cases removeRequest with
    | false => rfl
    | true => exact lookup_clientProxynameTableDrop_ne store.proxynames rid hOther
  keptTables hKeep := by
    subst hKeep
    exact ⟨rfl, rfl, rfl⟩
  keptRows hKeep other hMem := by
    subst hKeep
    obtain rfl := List.mem_singleton.mp hMem
    exact ⟨sent, (lookup_requests_answerRequest_keep ..).trans (if_pos rfl)⟩
  removedRows hRemove other hMem := by
    subst hRemove
    obtain rfl := List.mem_singleton.mp hMem
    exact ⟨(lookup_clientRequestTableGetConn_remove ..).trans (if_pos rfl),
      HashTable.lookup_remove_self ..⟩
  removedFromConnection hRemove other hMem conn := by
    subst hRemove
    obtain rfl := List.mem_singleton.mp hMem
    rw [RequestStore.answerRequest, if_pos rfl, clientRequestTableGetConn_conn]
    exact listedIn_dropFromConnection_self ..
  removedFromProxy hRemove := by
    subst hRemove
    refine (pairsUnder_clientProxynameTableDrop ..).trans ((if_pos rfl).trans ?_)
    apply List.filter_congr
    intro entry _
    simp

end AnsweredRows

/-- The store after the ids are answered in their order. -/
def RequestStore.answerAll (store : RequestStore) (proxyName : ProxyName) (removeRequest : Bool)
    (clock : Nat → Time) (sent : Nat) : List Rid → RequestStore
  | [] => store
  | rid :: rest =>
      (store.answerRequest proxyName rid removeRequest (clock sent)).answerAll proxyName removeRequest
        clock (sent + 1) rest

theorem AnsweredRows.answerAll (store : RequestStore) (proxyName : ProxyName) (removeRequest : Bool)
    (clock : Nat → Time) (sent : Nat) (rids : List Rid) :
    AnsweredRows proxyName removeRequest clock rids store
      (store.answerAll proxyName removeRequest clock sent rids) := by
  induction rids generalizing store sent with
  | nil => exact .refl store
  | cons rid rest ih =>
    exact (AnsweredRows.answerRequest store proxyName rid removeRequest clock sent).trans
      (ih (store.answerRequest proxyName rid removeRequest (clock sent)) (sent + 1))

/-! ## The replies of an answer -/

/-- The text of the reply to one id. -/
def replyText (json : JsonLibrary) (headers : CJson) (payload : Option CJson) (rid : Rid) : String :=
  json.print (serviceReplyText rid headers payload)

/-- The writes that replies to the ids make: one to the connection of each that has one. -/
def writtenReplies (store : RequestStore) (text : Rid → String) (rids : List Rid) :
    List (Conn × String) :=
  rids.flatMap fun rid => (ownerOf store rid).toList.map fun conn => (conn, text rid)

theorem writtenReplies_cons (store : RequestStore) (text : Rid → String) (rid : Rid) (rest : List Rid) :
    writtenReplies store text (rid :: rest) =
      writtenReplies store text [rid] ++ writtenReplies store text rest := by
  rw [writtenReplies, ← List.singleton_append, List.flatMap_append]
  rfl

theorem mem_writtenReplies {store : RequestStore} {text : Rid → String} {rids : List Rid}
    {reply : Conn × String} :
    reply ∈ writtenReplies store text rids ↔
      ∃ rid ∈ rids, ownerOf store rid = some reply.1 ∧ reply.2 = text rid := by
  simp only [writtenReplies, List.mem_flatMap, List.mem_map, Option.mem_toList]
  constructor
  · rintro ⟨rid, hMem, conn, hConn, rfl⟩
    exact ⟨rid, hMem, hConn, rfl⟩
  · rintro ⟨rid, hMem, hConn, hText⟩
    exact ⟨rid, hMem, reply.1, hConn, Prod.ext rfl hText.symm⟩

theorem ownerOf_answerRequest (store : RequestStore) (proxyName : ProxyName) (other rid : Rid)
    (removeRequest : Bool) (now : Time) :
    ownerOf (store.answerRequest proxyName other removeRequest now) rid =
      if removeRequest = true ∧ rid = other then none else ownerOf store rid := by
  cases removeRequest with
  | false => exact conn_clientRequestTableGetConn_keep store.requests other rid true now
  | true =>
    rw [ownerOf, RequestStore.answerRequest, if_pos rfl, lookup_clientRequestTableGetConn_remove]
    by_cases hEq : rid = other
    · simp [hEq]
    · simp [hEq, ownerOf]

theorem writtenReplies_answerRequest_sublist (store : RequestStore) (proxyName : ProxyName) (other : Rid)
    (removeRequest : Bool) (now : Time) (text : Rid → String) (rids : List Rid) :
    (writtenReplies (store.answerRequest proxyName other removeRequest now) text rids).Sublist
      (writtenReplies store text rids) := by
  induction rids with
  | nil => exact .slnil
  | cons rid rest ih =>
    rw [writtenReplies_cons, writtenReplies_cons store]
    refine List.Sublist.append ?_ ih
    simp only [writtenReplies, List.flatMap_cons, List.flatMap_nil, List.append_nil,
      ownerOf_answerRequest]
    split
    · exact List.nil_sublist _
    · exact .refl _

/-- The written replies: to named requests, in the order in which they are named. An answer that
keeps the requests repeats the reply to an id that it repeats. -/
structure AnsweredReplies (removeRequest : Bool) (text : Rid → String) (named : List Rid)
    (store : RequestStore) (replies : List (Conn × String)) : Prop where
  inOrder : replies.Sublist (writtenReplies store text named)
  kept : removeRequest = false → replies = writtenReplies store text named
  each : ∀ rid ∈ named, ∀ conn, ownerOf store rid = some conn → (conn, text rid) ∈ replies

theorem AnsweredReplies.cons {proxyName : ProxyName} {removeRequest : Bool} {now : Time}
    {text : Rid → String} {rid : Rid} {rest : List Rid} {store : RequestStore}
    {replies : List (Conn × String)}
    (h : AnsweredReplies removeRequest text rest
      (store.answerRequest proxyName rid removeRequest now) replies) :
    AnsweredReplies removeRequest text (rid :: rest) store
      (writtenReplies store text [rid] ++ replies) where
  inOrder := by
    rw [writtenReplies_cons store text rid rest]
    exact (List.Sublist.refl _).append
      (h.inOrder.trans (writtenReplies_answerRequest_sublist ..))
  kept hKeep := by
    rw [writtenReplies_cons store text rid rest, h.kept hKeep]
    congr 1
    apply List.flatMap_congr
    intro other _
    rw [ownerOf_answerRequest, if_neg fun hRemove => by simp [hKeep] at hRemove]
  each other hMem conn hOwner := by
    by_cases hEq : other = rid
    · exact List.mem_append_left _
        (mem_writtenReplies.mpr ⟨other, List.mem_singleton.mpr hEq, hOwner, rfl⟩)
    · refine List.mem_append_right _ (h.each other ((List.mem_cons.mp hMem).resolve_left hEq) conn ?_)
      rw [ownerOf_answerRequest, if_neg fun hRemove => hEq hRemove.2]
      exact hOwner

theorem proxySubscribeReply_eq {json : JsonLibrary} {d d' : Dispatcher} {proxyName : ProxyName}
    {rid : Rid} {headers : CJson} {payload : Option CJson} {removeRequest : Bool} {now : Time}
    (h : proxySubscribeReply json d proxyName (some rid) headers payload removeRequest now = some d') :
    d'.store = d.store.answerRequest proxyName rid removeRequest now ∧
      d'.written = d.written ++ writtenReplies d.store (replyText json headers payload) [rid] := by
  rw [proxySubscribeReply, Option.some.injEq] at h
  subst h
  refine ⟨store_clientServiceReply .., ?_⟩
  rw [clientServiceReply, Dispatcher.written_deliver, clientRequestTableGetConn_conn, writtenReplies,
    List.flatMap_cons, List.flatMap_nil, List.append_nil]
  rfl

theorem rows_and_replies_fanOut {ctx : SubscribeContext} {proxyName : ProxyName} {headers : CJson}
    {payload : Option CJson} {removeRequest : Bool} {d d' : Dispatcher} {sent : Nat} {items : List CJson}
    (h : proxySubscribeFanOut ctx proxyName headers payload removeRequest d sent items = some d') :
    d'.store = d.store.answerAll proxyName removeRequest ctx.clock sent
        (items.filterMap CJson.valuestring) ∧
      ∃ replies, d'.written = d.written ++ replies ∧
        AnsweredReplies removeRequest (replyText ctx.json headers payload)
          (items.filterMap CJson.valuestring) d.store replies := by
  induction items generalizing d sent with
  | nil =>
    rw [proxySubscribeFanOut, Option.some.injEq] at h
    subst h
    exact ⟨rfl, [], (List.append_nil _).symm, .slnil, fun _ => rfl, by simp⟩
  | cons item rest ih =>
    rw [proxySubscribeFanOut] at h
    cases hRid : item.valuestring with
    | none => simp [hRid, proxySubscribeReply] at h
    | some rid =>
      rw [List.filterMap_cons_some hRid]
      rw [hRid] at h
      cases hReply : proxySubscribeReply ctx.json d proxyName (some rid) headers payload removeRequest
          (ctx.clock sent) with
      | none => simp [hReply] at h
      | some next =>
        simp only [hReply] at h
        obtain ⟨hStore, hWritten⟩ := proxySubscribeReply_eq hReply
        obtain ⟨hRows, replies, hMore, hReplies⟩ := ih h
        rw [hStore] at hRows hReplies
        refine ⟨hRows, _, ?_, hReplies.cons⟩
        rw [hMore, hWritten, List.append_assoc]

/-- The answer has a payload and the status by which a proxy clears a request. -/
def ClearsRequest (headers : CJson) (payload : Option CJson) : Prop :=
  ∃ body item, payload = some body ∧ headers.getObjectItem clientReplyServiceStatusKey = some item ∧
    item.getNumberValue = proxyServiceStatusMultirespondClearSuccess

theorem clearedRid_of_not_clears {headers : CJson} {payload : Option CJson}
    (h : ¬ ClearsRequest headers payload) : clearedRid headers payload = none := by
  unfold clearedRid
  cases payload with
  | none => rfl
  | some body =>
    cases hItem : headers.getObjectItem clientReplyServiceStatusKey with
    | none => rfl
    | some item => exact if_neg fun hStatus => h ⟨body, item, rfl, hItem, hStatus⟩

/-- The answer carries the clear status, by which a proxy asks for a purge. -/
def Clears (json : JsonLibrary) (posted : SubscribeAnswer) : Prop :=
  ∃ items headers payload item, parsedAnswer json posted = some (items, headers, payload) ∧
    headers.getObjectItem clientReplyServiceStatusKey = some item ∧
    item.getNumberValue = proxyServiceStatusMultirespondClearSuccess

theorem clearedRid_eq_none {json : JsonLibrary} {posted : SubscribeAnswer} {items : List CJson}
    {headers : CJson} {payload : Option CJson} (h : ¬ Clears json posted)
    (hParsed : parsedAnswer json posted = some (items, headers, payload)) :
    clearedRid headers payload = none := by
  apply clearedRid_of_not_clears
  rintro ⟨body, item, -, hItem, hClear⟩
  exact h ⟨items, headers, payload, item, hParsed, hItem, hClear⟩

/-- The request is under some other proxy and not under this one. -/
def OnlyUnderOthers (store : RequestStore) (proxyName : ProxyName) (rid : Rid) : Prop :=
  (∃ other, other ≠ proxyName ∧ ListedUnder store.proxynames other rid) ∧
    ¬ ListedUnder store.proxynames proxyName rid

/-- No answer of a proxy, other than a clear, affects a request that is only under other proxies. -/
def ProxiesIsolated (s : StoreRun) : Prop :=
  ∀ (ctx : SubscribeContext) (proxyName : ProxyName) (posted : SubscribeAnswer)
    (state : ProxySubscribeState) (d' : Dispatcher) (rid : Rid), ¬ Clears ctx.json posted →
    proxySubscribeExchange ctx s.dispatcher proxyName posted = some (state, d') →
    OnlyUnderOthers s.store proxyName rid →
    SameRequestRows rid s.store d'.store ∧
      ∃ replies, d'.written = s.dispatcher.written ++ replies ∧
        ∀ reply ∈ replies, ownerOf s.store rid ≠ some reply.1

/-- An answer of "q" that names the request of another proxy. -/
def foreignAnswer : CJson :=
  .object [(clientReplyServiceRidKey, .string "r1"), (clientReplyHeadersKey, .object [])]

def foreignContext : SubscribeContext where
  json := sampleJson foreignAnswer
  clock _ := 200
  purgeOrder := .inOrder

def foreignPosted : SubscribeAnswer := ⟨1, some (printUnformatted foreignAnswer), true⟩

theorem not_clears_foreignPosted : ¬ Clears foreignContext.json foreignPosted := by
  rintro ⟨items, headers, payload, item, hParsed, hItem, -⟩
  have hKnown : parsedAnswer foreignContext.json foreignPosted =
      some ([.string "r1"], .object [], none) := rfl
  obtain ⟨rfl, rfl, rfl⟩ : [CJson.string "r1"] = items ∧ CJson.object [] = headers ∧ none = payload := by
    simpa using hKnown.symm.trans hParsed
  cases hItem

theorem onlyUnderOthers_sampleSubmitted : OnlyUnderOthers sampleSubmitted.store "q" "r1" := by
  constructor
  · exact ⟨"weather", by decide, by decide⟩
  · decide

/-- A proxy answers under an id that is listed under another one, and the request is gone. -/
theorem not_proxiesIsolated : ¬ ∀ s, storeSystem.Reachable s → ProxiesIsolated s := by
  intro h
  cases hExchange : proxySubscribeExchange foreignContext sampleSubmitted.dispatcher "q" foreignPosted with
  | none => exact absurd hExchange (by decide)
  | some answered =>
    obtain ⟨hRows, -⟩ := h sampleSubmitted sampleSubmitted_reachable foreignContext "q" foreignPosted
      answered.1 answered.2 "r1" not_clears_foreignPosted hExchange onlyUnderOthers_sampleSubmitted
    have hGone : (proxySubscribeExchange foreignContext sampleSubmitted.dispatcher "q"
        foreignPosted).map (fun answered => answered.2.store.requests.lookup "r1") = some none := by
      decide
    rw [hExchange, Option.map_some, Option.some.injEq] at hGone
    exact absurd (hRows.requests.symm.trans hGone) (by decide)

/-- An answer that is no clear changes the requests it names and no others, and no list of another
proxy. What it writes are replies with its own headers and payload, to the named requests. -/
theorem answer_affects_named {ctx : SubscribeContext} {d d' : Dispatcher} {proxyName : ProxyName}
    {posted : SubscribeAnswer} {state : ProxySubscribeState} (hClear : ¬ Clears ctx.json posted)
    (hExchange : proxySubscribeExchange ctx d proxyName posted = some (state, d')) :
    AnsweredRows proxyName posted.removeRequest ctx.clock (answeredRids ctx.json posted)
        d.store d'.store ∧
      (parsedAnswer ctx.json posted = none → d' = d) ∧
      ∀ items headers payload, parsedAnswer ctx.json posted = some (items, headers, payload) →
        ∃ replies, d'.written = d.written ++ replies ∧
          AnsweredReplies posted.removeRequest (replyText ctx.json headers payload)
            (answeredRids ctx.json posted) d.store replies := by
  unfold answeredRids
  unfold proxySubscribeExchange at hExchange
  cases hParsed : parsedAnswer ctx.json posted with
  | none =>
    simp only [hParsed, Option.some.injEq, Prod.mk.injEq] at hExchange
    obtain ⟨-, rfl⟩ := hExchange
    exact ⟨.refl _, fun _ => rfl, by simp⟩
  | some answer =>
    obtain ⟨items, headers, payload⟩ := answer
    have hNone := clearedRid_eq_none hClear hParsed
    simp only [hParsed, hNone, Option.map_eq_some_iff, Prod.mk.injEq] at hExchange
    obtain ⟨_, hFanOut, -, rfl⟩ := hExchange
    obtain ⟨hStore, hReplies⟩ := rows_and_replies_fanOut hFanOut
    refine ⟨?_, (by simp), ?_⟩
    · rw [hStore]
      exact .answerAll ..
    · intro items' headers' payload' hSame
      rw [Option.some.injEq, Prod.mk.injEq, Prod.mk.injEq] at hSame
      obtain ⟨rfl, rfl, rfl⟩ := hSame
      exact hReplies

/-- The foreign answer replies to the connection 2 and takes the row of `r1`, which keeps its place
under "weather". -/
theorem answer_affects_named_foreignPosted :
    ∃ d' : Dispatcher, d'.store.requests.lookup "r1" = none ∧
      pairsUnder d'.store.proxynames "weather" = [("r1", false)] ∧
      (2, replyText foreignContext.json (.object []) none "r1") ∈ d'.written := by
  cases hExchange : proxySubscribeExchange foreignContext sampleSubmitted.dispatcher "q" foreignPosted with
  | none => exact absurd hExchange (by decide)
  | some answered =>
    obtain ⟨hRows, -, hReplies⟩ := answer_affects_named not_clears_foreignPosted hExchange
    obtain ⟨replies, hWritten, hEach⟩ := hReplies [.string "r1"] (.object []) none rfl
    have hLists : pairsUnder answered.2.store.proxynames "weather" =
        pairsUnder sampleSubmitted.store.proxynames "weather" :=
      congrArg (fun value => (value.map ClientProxynameTableValue.pairs).getD [])
        (hRows.otherLists "weather" (by decide))
    refine ⟨answered.2, (hRows.removedRows rfl "r1" (by decide)).1, hLists.trans (by decide), ?_⟩
    rw [hWritten]
    exact List.mem_append_right _ (hEach.each "r1" (by decide) 2 (by decide))

end Gonggo
