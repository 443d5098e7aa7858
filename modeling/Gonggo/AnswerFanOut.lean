import Gonggo.ProxyIsolation
import Gonggo.RequestRemoval

/-! # The effect of an answer

`proxy_subscribe_exchange` on a store whose tables agree: the purge, the replies in the order of the
ids, and what becomes of the answered requests. And on every posted text: an answer is refused as a
whole, fanned out as a whole, or passes a missing id on.
-/

namespace Gonggo

open KeyedList

variable {store : RequestStore}

/-! ## The removals of an answer -/

theorem RequestStore.Agreement.removed_purge (hAgree : store.Agreement) (order : Traversal ProxyName)
    (rid : Rid) : store.Removed [rid] (proxySubscribePurgeRid order store rid) := by
  refine hAgree.removed_one (fun other => lookup_clientRequestTableGetConn_remove ..) rfl
    (entriesUnder_clientProxynameTableDropAll hAgree.proxyname_unique order rid) ?_
  rw [proxySubscribePurgeRid, clientRequestTableGetConn_conn]

theorem RequestStore.Agreement.removed_answerRequest (hAgree : store.Agreement) {proxyName : ProxyName}
    {rid : Rid} (hOwn : ∀ other, ListedUnder store.proxynames other rid → other = proxyName) (now : Time) :
    store.Removed [rid] (store.answerRequest proxyName rid true now) := by
  refine hAgree.removed_one (fun other => ?_) rfl (fun other => ?_) ?_
  · rw [answerRequest, if_pos rfl, lookup_clientRequestTableGetConn_remove]
  · rw [answerRequest, if_pos rfl, entriesUnder_clientProxynameTableDrop]
    split
    · rfl
    · rename_i hOther
      refine (kept_of_not_listedUnder fun listed hListed hUnder => ?_).symm
      rw [List.mem_singleton] at hListed
      exact hOther (hOwn other (hListed ▸ hUnder))
  · rw [answerRequest, if_pos rfl, clientRequestTableGetConn_conn]

/-- The timestamps of the ids are the clock readings at their replies, and nothing else changes. -/
structure RequestStore.Refreshed (clock : Nat → Time) (rids : List Rid)
    (store store' : RequestStore) : Prop where
  refreshed : ∀ i (h : i < rids.length), store'.requests.lookup rids[i] =
    (store.requests.lookup rids[i]).map fun row => { row with timestamp := clock i }
  others : ∀ rid ∉ rids, store'.requests.lookup rid = store.requests.lookup rid
  connections : store'.connections = store.connections
  services : store'.services = store.services
  proxynames : store'.proxynames = store.proxynames

/-! ## The replies of an answer -/

theorem RequestStore.Agreement.removed_answerAll (hAgree : store.Agreement) {proxyName : ProxyName}
    {rids : List Rid} (hOwn : ∀ rid ∈ rids, ∀ other, ListedUnder store.proxynames other rid →
      other = proxyName) (clock : Nat → Time) (sent : Nat) :
    store.Removed rids (store.answerAll proxyName true clock sent rids) := by
  induction rids generalizing store sent with
  | nil => exact .refl store
  | cons rid rest ih =>
    rw [List.forall_mem_cons] at hOwn
    have hFirst := hAgree.removed_answerRequest hOwn.1 (clock sent)
    refine hFirst.trans (ih (hAgree.removed hFirst) ?_ (sent + 1))
    intro other hOther name hListed
    exact hOwn.2 other hOther name ((hFirst.listedUnder_iff name other).mp hListed).1

theorem RequestStore.refreshed_answerAll (store : RequestStore) (proxyName : ProxyName)
    {rids : List Rid} (hNodup : rids.Nodup) (clock : Nat → Time) (sent : Nat) :
    store.Refreshed (fun i => clock (sent + i)) rids (store.answerAll proxyName false clock sent rids) := by
  induction rids generalizing store sent with
  | nil => exact ⟨fun i h => absurd h (Nat.not_lt_zero i), fun _ _ => rfl, rfl, rfl, rfl⟩
  | cons rid rest ih =>
    obtain ⟨hNot, hRest⟩ := List.nodup_cons.mp hNodup
    have h := ih (store.answerRequest proxyName rid false (clock sent)) hRest (sent + 1)
    have hRow := lookup_requests_answerRequest_keep store proxyName rid
    refine ⟨fun i hi => ?_, fun other hOther => ?_, h.connections, h.services, h.proxynames⟩
    · cases i with
      | zero => exact (h.others rid hNot).trans ((hRow rid (clock sent)).trans (if_pos rfl))
      | succ i =>
        have hIn : i < rest.length := Nat.lt_of_succ_lt_succ hi
        have hNe : rest[i] ≠ rid := ne_of_mem_of_not_mem (List.getElem_mem hIn) hNot
        have hClock : sent + 1 + i = sent + (i + 1) := by omega
        rw [answerAll, List.getElem_cons_succ, h.refreshed i hIn, hRow, if_neg hNe, hClock]
    · rw [List.mem_cons, not_or] at hOther
      exact (h.others other hOther.2).trans ((hRow other (clock sent)).trans (if_neg hOther.1))

/-- The rows that replies to the ids store, when some ids get one. -/
def storedReplies (stored : Rid → Bool) (text : Rid → String) (rids : List Rid) : List (Rid × String) :=
  (rids.filter stored).map fun rid => (rid, text rid)

/-- `client_service_reply` stores no row under the empty id. -/
def savedRid (rid : Rid) : Bool := decide (0 < rid.utf8ByteSize)

theorem storedReplies_cons (stored : Rid → Bool) (text : Rid → String) (rid : Rid) (rest : List Rid) :
    storedReplies stored text (rid :: rest) =
      storedReplies stored text [rid] ++ storedReplies stored text rest := by
  rw [storedReplies, ← List.singleton_append, List.filter_append, List.map_append]
  rfl

theorem deliver_saved (d : Dispatcher) (conn : Option Conn) (rid : Rid) (text : Rid → String) :
    d.deliver conn rid (text rid) true =
      { d with
        respondRows := d.respondRows ++ storedReplies savedRid text [rid]
        written := d.written ++ conn.toList.map fun conn => (conn, text rid) } := by
  unfold Dispatcher.deliver storedReplies savedRid
  by_cases h : 0 < rid.utf8ByteSize
  · cases conn <;> simp [h, Dispatcher.mgWebsocketWrite, Dispatcher.dbRespondInsert]
  · cases conn <;> simp [h, Dispatcher.mgWebsocketWrite]

theorem proxySubscribeReply_some (json : JsonLibrary) (d : Dispatcher) (proxyName : ProxyName)
    (rid : Rid) (headers : CJson) (payload : Option CJson) (removeRequest : Bool) (now : Time) :
    proxySubscribeReply json d proxyName (some rid) headers payload removeRequest now =
      some { store := d.store.answerRequest proxyName rid removeRequest now
             respondRows :=
               d.respondRows ++ storedReplies savedRid (replyText json headers payload) [rid]
             written := d.written ++ writtenReplies d.store (replyText json headers payload) [rid] } := by
  rw [proxySubscribeReply, clientServiceReply, clientRequestTableGetConn_conn, Option.some.injEq]
  refine (deliver_saved _ _ rid (replyText json headers payload)).trans ?_
  rw [writtenReplies, List.flatMap_cons, List.flatMap_nil, List.append_nil]
  rfl

theorem fanOut_strings (ctx : SubscribeContext) (proxyName : ProxyName) (headers : CJson)
    (payload : Option CJson) (removeRequest : Bool) (d : Dispatcher) (sent : Nat) {rids : List Rid}
    (hNodup : rids.Nodup) :
    proxySubscribeFanOut ctx proxyName headers payload removeRequest d sent (rids.map .string) =
      some { store := d.store.answerAll proxyName removeRequest ctx.clock sent rids
             respondRows :=
               d.respondRows ++ storedReplies savedRid (replyText ctx.json headers payload) rids
             written := d.written ++ writtenReplies d.store (replyText ctx.json headers payload) rids } := by
  induction rids generalizing d sent with
  | nil => simp [proxySubscribeFanOut, RequestStore.answerAll, storedReplies, writtenReplies]
  | cons rid rest ih =>
    obtain ⟨hNot, hRest⟩ := List.nodup_cons.mp hNodup
    have hOwners : writtenReplies (d.store.answerRequest proxyName rid removeRequest (ctx.clock sent))
        (replyText ctx.json headers payload) rest =
        writtenReplies d.store (replyText ctx.json headers payload) rest := by
      apply List.flatMap_congr
      intro other hOther
      rw [ownerOf_answerRequest, if_neg fun hSame => ne_of_mem_of_not_mem hOther hNot hSame.2]
    rw [storedReplies_cons, writtenReplies_cons, ← List.append_assoc, ← List.append_assoc, ← hOwners]
    simp only [List.map_cons, proxySubscribeFanOut, CJson.valuestring, proxySubscribeReply_some]
    exact ih _ _ hRest

/-! ## The whole exchange -/

/-- The request id that a payload names, if any. -/
def namedRid (payload : Option CJson) : Option Rid := payload.bind fun body => body.stringOf serviceRidKey

theorem clearedRid_of_clears {headers : CJson} {payload : Option CJson}
    (h : ClearsRequest headers payload) : clearedRid headers payload = some (namedRid payload) := by
  obtain ⟨body, item, rfl, hItem, hStatus⟩ := h
  simp only [clearedRid, hItem, if_pos hStatus]
  rfl

/-- What an answer to the ids does: the purge, then a row and a write for each id in their order, with
the payload left out of a clear answer, then the removals or the new timestamps. -/
structure FannedOut (ctx : SubscribeContext) (d : Dispatcher) (headers : CJson) (payload : Option CJson)
    (removeRequest : Bool) (stored : Rid → Bool) (rids : List Rid)
    (purged : RequestStore) (forwarded : Option CJson) (d' : Dispatcher) : Prop where
  clears : ClearsRequest headers payload →
    forwarded = none ∧ d.store.Removed (namedRid payload).toList purged
  keeps : ¬ ClearsRequest headers payload → forwarded = payload ∧ purged = d.store
  rows : d'.respondRows =
    d.respondRows ++ storedReplies stored (replyText ctx.json headers forwarded) rids
  writes : d'.written = d.written ++ writtenReplies purged (replyText ctx.json headers forwarded) rids
  removed : removeRequest = true → purged.Removed rids d'.store
  refreshed : removeRequest = false → purged.Refreshed ctx.clock rids d'.store

/-- A request under the empty id, which no client can submit. -/
def emptyRidStore : RequestStore :=
  RequestStore.empty.saveRequest printUnformatted 1 "" "weather" "today" none 5 100

theorem agreement_emptyRidStore : emptyRidStore.Agreement :=
  (RequestStore.represents_empty.saveRequest printUnformatted 1 "" "weather" "today" none 5 100
    rfl).agreement

def emptyRidAnswer : CJson :=
  .object [(clientReplyServiceRidKey, .string ""), (clientReplyHeadersKey, .object [])]

def emptyRidContext : SubscribeContext where
  json := sampleJson emptyRidAnswer
  clock _ := 200
  purgeOrder := .inOrder

/-- An answer to the empty id stores no row. -/
theorem not_exchange_storesAll :
    ¬ ∀ (ctx : SubscribeContext) (d : Dispatcher) (proxyName : ProxyName) (posted : SubscribeAnswer)
      (headers : CJson) (payload : Option CJson) (rids : List Rid), d.store.Agreement →
      parsedAnswer ctx.json posted = some (rids.map .string, headers, payload) → rids.Nodup →
      (∀ rid ∈ rids, ListedUnder d.store.proxynames proxyName rid) →
      ∃ purged forwarded d', proxySubscribeExchange ctx d proxyName posted = some (.subscribeDone, d') ∧
        FannedOut ctx d headers payload posted.removeRequest (fun _ => true) rids purged forwarded d' := by
  intro h
  obtain ⟨purged, forwarded, d', hExchange, hFanned⟩ := h emptyRidContext ⟨emptyRidStore, [], []⟩
    "weather" ⟨1, some (printUnformatted emptyRidAnswer), true⟩ (.object []) none [""]
    agreement_emptyRidStore rfl (List.nodup_singleton "") (by decide)
  have hRows : (proxySubscribeExchange emptyRidContext ⟨emptyRidStore, [], []⟩ "weather"
      ⟨1, some (printUnformatted emptyRidAnswer), true⟩).map (fun answered => answered.2.respondRows) =
      some [] := by
    decide
  rw [hExchange, Option.map_some, Option.some.injEq, hFanned.rows] at hRows
  cases hRows

theorem removed_purgeCleared {d : Dispatcher} (hAgree : d.store.Agreement) (ctx : SubscribeContext)
    {headers : CJson} {payload : Option CJson} (h : ClearsRequest headers payload) :
    d.store.Removed (namedRid payload).toList
      (purgeCleared ctx d (clearedRid headers payload)).store := by
  rw [clearedRid_of_clears h]
  cases hNamed : namedRid payload with
  | none => exact .refl d.store
  | some rid => exact hAgree.removed_purge ctx.purgeOrder rid

theorem purgeCleared_of_not_clears (ctx : SubscribeContext) (d : Dispatcher) {headers : CJson}
    {payload : Option CJson} (h : ¬ ClearsRequest headers payload) :
    purgeCleared ctx d (clearedRid headers payload) = d := by
  rw [clearedRid_of_not_clears h]
  rfl

theorem exchange_strings (ctx : SubscribeContext) (d : Dispatcher) (proxyName : ProxyName)
    {posted : SubscribeAnswer} {headers : CJson} {payload : Option CJson} {rids : List Rid}
    (hParsed : parsedAnswer ctx.json posted = some (rids.map .string, headers, payload))
    (hNodup : rids.Nodup) :
    proxySubscribeExchange ctx d proxyName posted =
      some (.subscribeDone,
        { store := (purgeCleared ctx d (clearedRid headers payload)).store.answerAll proxyName
            posted.removeRequest ctx.clock 0 rids
          respondRows := d.respondRows ++ storedReplies savedRid (replyText ctx.json headers
            (if (clearedRid headers payload).isSome then none else payload)) rids
          written := d.written ++ writtenReplies
            (purgeCleared ctx d (clearedRid headers payload)).store (replyText ctx.json headers
              (if (clearedRid headers payload).isSome then none else payload)) rids }) := by
  have hLogs : (purgeCleared ctx d (clearedRid headers payload)).respondRows = d.respondRows ∧
      (purgeCleared ctx d (clearedRid headers payload)).written = d.written := by
    unfold purgeCleared
    cases (clearedRid headers payload).join <;> exact ⟨rfl, rfl⟩
  simp only [proxySubscribeExchange, hParsed]
  rw [fanOut_strings _ _ _ _ _ _ _ hNodup, Option.map_some, hLogs.1, hLogs.2]

/-- An answer to distinct ids of the proxy is fanned out to all of them, whatever it purges first. -/
theorem exchange_fansOut (ctx : SubscribeContext) (d : Dispatcher) (proxyName : ProxyName)
    (posted : SubscribeAnswer) {headers : CJson} {payload : Option CJson} {rids : List Rid}
    (hAgree : d.store.Agreement)
    (hParsed : parsedAnswer ctx.json posted = some (rids.map .string, headers, payload))
    (hNodup : rids.Nodup) (hListed : ∀ rid ∈ rids, ListedUnder d.store.proxynames proxyName rid) :
    ∃ purged forwarded d', proxySubscribeExchange ctx d proxyName posted = some (.subscribeDone, d') ∧
      FannedOut ctx d headers payload posted.removeRequest savedRid rids purged forwarded d' := by
  have hClears := @removed_purgeCleared d hAgree ctx headers payload
  have hKeeps := @purgeCleared_of_not_clears ctx d headers payload
  set purged := (purgeCleared ctx d (clearedRid headers payload)).store with hPurged
  -- the purge only takes requests out, so the ids are still under this proxy or nowhere
  have hGone : ∃ gone, d.store.Removed gone purged := by
    by_cases hClear : ClearsRequest headers payload
    · exact ⟨_, hClears hClear⟩
    · exact ⟨[], by rw [hPurged, hKeeps hClear]; exact .refl d.store⟩
  obtain ⟨gone, hGone⟩ := hGone
  have hOwn : ∀ rid ∈ rids, ∀ other, ListedUnder purged.proxynames other rid → other = proxyName := by
    intro rid hRid other hOther
    exact hAgree.proxyname_unique rid other proxyName ((hGone.listedUnder_iff other rid).mp hOther).1
      (hListed rid hRid)
  refine ⟨purged, _, _, exchange_strings ctx d proxyName hParsed hNodup, ?_, ?_, rfl, rfl, ?_, ?_⟩
  · intro hClear
    rw [clearedRid_of_clears hClear]
    exact ⟨rfl, hClears hClear⟩
  · intro hClear
    rw [clearedRid_of_not_clears hClear]
    exact ⟨rfl, congrArg Dispatcher.store (hKeeps hClear)⟩
  · intro hRemove
    simp only [hRemove]
    exact (hAgree.removed hGone).removed_answerAll hOwn ctx.clock 0
  · intro hKeep
    simp only [hKeep]
    have h := purged.refreshed_answerAll proxyName hNodup ctx.clock 0
    simpa only [Nat.zero_add] using h

/-- The answer "r3 is cleared" to the requests "r1" and "r2". -/
def clearingAnswer : CJson :=
  .object [(clientReplyServiceRidKey, .array [.string "r1", .string "r2"]),
    (clientReplyHeadersKey,
      .object [(clientReplyServiceStatusKey, .ofInt proxyServiceStatusMultirespondClearSuccess)]),
    (clientReplyPayloadKey, .object [(serviceRidKey, .string "r3")])]

def clearingContext : SubscribeContext where
  json := sampleJson clearingAnswer
  clock _ := 200
  purgeOrder := .inOrder

/-- The proxy "weather" purges "r3", and answers its two requests and takes them out. -/
theorem exchange_fansOut_clearingAnswer :
    ∃ purged forwarded d', proxySubscribeExchange clearingContext sampleTwoClients.dispatcher "weather"
        ⟨1, some (printUnformatted clearingAnswer), true⟩ = some (.subscribeDone, d') ∧
      d'.written.map Prod.fst = sampleTwoClients.dispatcher.written.map Prod.fst ++ [2, 1] ∧
      FannedOut clearingContext sampleTwoClients.dispatcher
        (.object [(clientReplyServiceStatusKey, .ofInt proxyServiceStatusMultirespondClearSuccess)])
        (some (.object [(serviceRidKey, .string "r3")])) true savedRid ["r1", "r2"] purged forwarded d' := by
  have hListed : ∀ rid ∈ ["r1", "r2"],
      ListedUnder sampleTwoClients.dispatcher.store.proxynames "weather" rid := by
    decide
  have hWritten : (proxySubscribeExchange clearingContext sampleTwoClients.dispatcher "weather"
      ⟨1, some (printUnformatted clearingAnswer), true⟩).map (fun answered => answered.2.written.map Prod.fst) =
      some (sampleTwoClients.dispatcher.written.map Prod.fst ++ [2, 1]) := by
    decide
  have hParsed : parsedAnswer clearingContext.json ⟨1, some (printUnformatted clearingAnswer), true⟩ =
      some (["r1", "r2"].map .string,
        .object [(clientReplyServiceStatusKey, .ofInt proxyServiceStatusMultirespondClearSuccess)],
        some (.object [(serviceRidKey, .string "r3")])) := rfl
  obtain ⟨purged, forwarded, d', hExchange, hFanned⟩ := exchange_fansOut clearingContext
    sampleTwoClients.dispatcher "weather" ⟨1, some (printUnformatted clearingAnswer), true⟩
    agreement_sampleTwoClients hParsed (by decide) hListed
  rw [hExchange, Option.map_some, Option.some.injEq] at hWritten
  exact ⟨purged, forwarded, d', hExchange, hWritten, hFanned⟩

/-! ## Any posted text -/

/-- The answer has headers and a list of ids with an element that is no string. -/
def NamesNonString (json : JsonLibrary) (posted : SubscribeAnswer) : Prop :=
  1 ≤ posted.payloadBuffLength ∧ ∃ root items headers, posted.segment.bind json.parse = some root ∧
    root.getObjectItem clientReplyServiceRidKey = some (.array items) ∧
    root.getObjectItem clientReplyHeadersKey = some headers ∧
    ∃ item ∈ items, item.valuestring = none

/-- The exchange returns without passing a missing id on, and a refused answer has no effect. -/
def HarmlessExchange (ctx : SubscribeContext) (d : Dispatcher) (proxyName : ProxyName)
    (posted : SubscribeAnswer) : Prop :=
  ∃ state d', proxySubscribeExchange ctx d proxyName posted = some (state, d') ∧
    (state = .subscribeFailed ∧ d' = d ∨ state = .subscribeDone)

theorem fanOut_eq_none_iff (ctx : SubscribeContext) (proxyName : ProxyName) (headers : CJson)
    (payload : Option CJson) (removeRequest : Bool) (d : Dispatcher) (sent : Nat) (items : List CJson) :
    proxySubscribeFanOut ctx proxyName headers payload removeRequest d sent items = none ↔
      ∃ item ∈ items, item.valuestring = none := by
  induction items generalizing d sent with
  | nil => simp [proxySubscribeFanOut]
  | cons item rest ih =>
    simp only [proxySubscribeFanOut, List.mem_cons, exists_eq_or_imp]
    cases hRid : item.valuestring with
    | none => simp [proxySubscribeReply]
    | some rid =>
      rw [proxySubscribeReply_some]
      simpa using ih _ _

theorem exists_parsedAnswer_iff {json : JsonLibrary} {posted : SubscribeAnswer} :
    (∃ items headers payload, parsedAnswer json posted = some (items, headers, payload) ∧
      ∃ item ∈ items, item.valuestring = none) ↔ NamesNonString json posted := by
  unfold parsedAnswer NamesNonString
  constructor
  · rintro ⟨items, headers, payload, hParsed, item, hItem, hNone⟩
    split at hParsed
    · cases hParsed
    rename_i hLength
    refine ⟨by omega, ?_⟩
    cases hRoot : posted.segment.bind json.parse with
    | none => simp [hRoot] at hParsed
    | some root =>
      simp only [hRoot] at hParsed
      cases hRid : root.getObjectItem clientReplyServiceRidKey with
      | none => simp [hRid] at hParsed
      | some ridItem =>
        simp only [hRid] at hParsed
        cases hHeaders : root.getObjectItem clientReplyHeadersKey with
        | none => cases ridItem <;> simp [answeredItems, hHeaders] at hParsed
        | some found =>
          cases ridItem with
          | array elements =>
            simp only [answeredItems, hHeaders, Option.some.injEq, Prod.mk.injEq] at hParsed
            obtain ⟨rfl, rfl, -⟩ := hParsed
            exact ⟨root, _, found, rfl, hRid, hHeaders, item, hItem, hNone⟩
          | string rid =>
            -- the one string is its own value
            simp only [answeredItems, hHeaders, Option.some.injEq, Prod.mk.injEq] at hParsed
            obtain ⟨rfl, -, -⟩ := hParsed
            rw [List.mem_singleton] at hItem
            subst hItem
            cases hNone
          | null => simp [answeredItems] at hParsed
          | bool value => simp [answeredItems] at hParsed
          | number value => simp [answeredItems] at hParsed
          | object members => simp [answeredItems] at hParsed
  · rintro ⟨hLength, root, items, headers, hRoot, hRid, hHeaders, item, hItem, hNone⟩
    refine ⟨items, headers, root.getObjectItem clientReplyPayloadKey, ?_, item, hItem, hNone⟩
    rw [if_neg (by omega)]
    simp only [hRoot, hRid, hHeaders, answeredItems]

/-- An answer whose list of ids holds a number. -/
def numberRidAnswer : CJson :=
  .object [(clientReplyServiceRidKey, .array [.ofInt 1]), (clientReplyHeadersKey, .object [])]

def numberRidContext : SubscribeContext where
  json := sampleJson numberRidAnswer
  clock _ := 200
  purgeOrder := .inOrder

/-- The value of an element that is no string is passed on as a missing id. -/
theorem not_exchange_harmless :
    ¬ ∀ (ctx : SubscribeContext) (d : Dispatcher) (proxyName : ProxyName) (posted : SubscribeAnswer),
      HarmlessExchange ctx d proxyName posted := by
  intro h
  obtain ⟨state, d', hExchange, -⟩ := h numberRidContext Dispatcher.empty "weather"
    ⟨1, some (printUnformatted numberRidAnswer), true⟩
  have hNone : (proxySubscribeExchange numberRidContext Dispatcher.empty "weather"
      ⟨1, some (printUnformatted numberRidAnswer), true⟩).isNone = true := by
    decide
  rw [hExchange] at hNone
  cases hNone

/-- An exchange is harmless exactly when the ids of a list are strings. -/
theorem exchange_harmless_iff (ctx : SubscribeContext) (d : Dispatcher) (proxyName : ProxyName)
    (posted : SubscribeAnswer) :
    HarmlessExchange ctx d proxyName posted ↔ ¬ NamesNonString ctx.json posted := by
  rw [← exists_parsedAnswer_iff]
  unfold HarmlessExchange proxySubscribeExchange
  cases hParsed : parsedAnswer ctx.json posted with
  | none => simp
  | some parsed =>
    obtain ⟨items, headers, payload⟩ := parsed
    simp only [Option.map_eq_some_iff, Prod.mk.injEq, Option.some.injEq]
    cases hFanOut : proxySubscribeFanOut ctx proxyName headers
        (if (clearedRid headers payload).isSome then none else payload) posted.removeRequest
        (purgeCleared ctx d (clearedRid headers payload)) 0 items with
    | none =>
      have hItem := (fanOut_eq_none_iff ..).mp hFanOut
      refine iff_of_false ?_ fun h => h ⟨items, headers, payload, ⟨rfl, rfl, rfl⟩, hItem⟩
      rintro ⟨state, d', ⟨_, hNone, -⟩, -⟩
      cases hNone
    | some done =>
      refine iff_of_true ⟨.subscribeDone, done, ⟨done, rfl, rfl, rfl⟩, .inr rfl⟩ ?_
      rintro ⟨_, _, _, ⟨rfl, rfl, rfl⟩, hItem⟩
      rw [(fanOut_eq_none_iff ..).mpr hItem] at hFanOut
      cases hFanOut

end Gonggo
