import Gonggo.AnswerFanOut

/-! # The expiry of requests

One pass of the client timeout loop. The deadline of a request is the sum of two `time_t` values; the
pass is exact as long as the sum fits, and a sum that wraps lies in the past.
-/

namespace Gonggo

open KeyedList

/-! ## The rows that requests are stored with -/

/-- The clock shows a time up to `2 ^ 40`. -/
def ClockInRange (now : Time) : Prop := 0 ≤ now ∧ now ≤ 2 ^ 40

instance decidableClockInRange (now : Time) : Decidable (ClockInRange now) :=
  inferInstanceAs (Decidable (_ ∧ _))

/-- A row under an id and with a timeout that `client_service_route` accepts. -/
structure AcceptedRow (rid : Rid) (row : ClientRequestTableContext) : Prop where
  named : 0 < rid.utf8ByteSize
  positive : 1 ≤ row.timeoutsec
  bounded : row.timeoutsec < 2 ^ 63
  clock : ClockInRange row.timestamp

def AcceptedRows (table : ClientRequestTable) : Prop :=
  ∀ rid row, table.lookup rid = some row → AcceptedRow rid row

theorem AcceptedRows.remove {table : ClientRequestTable} (h : AcceptedRows table) (rid : Rid) :
    AcceptedRows (table.remove rid) := by
  intro other row hRow
  rw [HashTable.lookup_remove] at hRow
  split at hRow
  · cases hRow
  · exact h other row hRow

theorem AcceptedRows.set {table : ClientRequestTable} (h : AcceptedRows table) {rid : Rid} {conn : Conn}
    {timeout now : Time} (hRow : AcceptedRow rid ⟨conn, now, timeout⟩) :
    AcceptedRows (clientRequestTableSet table rid conn timeout now) := by
  intro other row hLookup
  rw [lookup_clientRequestTableSet] at hLookup
  split at hLookup
  · rename_i hEq
    cases hLookup
    exact hEq ▸ hRow
  · exact h other row hLookup

theorem AcceptedRows.getConn {table : ClientRequestTable} (h : AcceptedRows table) (rid : Rid)
    (updateTime removeRequest : Bool) {now : Time} (hNow : ClockInRange now) :
    AcceptedRows (clientRequestTableGetConn table rid updateTime removeRequest now).2 := by
  unfold clientRequestTableGetConn
  cases hRow : table.lookup rid with
  | none => exact h
  | some row =>
    have hAccepted := h rid row hRow
    cases removeRequest with
    | true => exact h.remove rid
    | false =>
      cases updateTime with
      | false => exact h
      | true =>
        intro other row' hLookup
        simp only [Bool.false_eq_true, if_false, if_true, HashTable.lookup_insert] at hLookup
        split at hLookup
        · rename_i hEq
          cases hLookup
          exact ⟨hEq ▸ hAccepted.named, hAccepted.positive, hAccepted.bounded, hNow⟩
        · exact h other row' hLookup

variable {d : Dispatcher}

theorem acceptedRows_clientServiceRoute (ctx : RouteContext) (hNow : ClockInRange ctx.now)
    (h : AcceptedRows d.store.requests) (uri data : String) (conn : Conn) :
    AcceptedRows (clientServiceRoute ctx d uri data conn).store.requests := by
  unfold clientServiceRoute
  split
  · exact h
  cases ctx.json.parse data with
  | none => exact h
  | some root =>
    cases hVerdict : clientServiceRouteVerdict root with
    | refused rid status => simpa [hVerdict] using h
    | test rid => simpa [hVerdict] using h
    | responseDump rid dumpRid start size => simpa [hVerdict] using h
    | proxyRequest rid proxyName serviceName payload timeout =>
      obtain ⟨hNamed, -, hPositive, hBounded⟩ := checks_of_proxyRequest hVerdict
      simp only [hVerdict]
      exact h.set ⟨hNamed, hPositive, hBounded, hNow⟩

theorem acceptedRows_clientServiceDropConn (ctx : DropConnContext) {store : RequestStore}
    (h : AcceptedRows store.requests) (conn : Conn) :
    AcceptedRows (clientServiceDropConn ctx store conn).requests := by
  unfold clientServiceDropConn
  cases clientConnectionTableRequestDup store.connections conn with
  | none => exact h
  | some uuids =>
    intro rid row hRow
    simp only [lookup_requests_dropConnCreate, dropConnCollected, lookup_requests_dropConnCollect] at hRow
    split at hRow
    · cases hRow
    · exact h rid row hRow

theorem acceptedRows_fanOut {ctx : SubscribeContext} (hClock : ∀ sent, ClockInRange (ctx.clock sent))
    {proxyName : ProxyName} {headers : CJson} {payload : Option CJson} {removeRequest : Bool}
    {d' : Dispatcher} {sent : Nat} {items : List CJson} (h : AcceptedRows d.store.requests)
    (hFanOut : proxySubscribeFanOut ctx proxyName headers payload removeRequest d sent items = some d') :
    AcceptedRows d'.store.requests := by
  induction items generalizing d sent with
  | nil =>
    rw [proxySubscribeFanOut, Option.some.injEq] at hFanOut
    exact hFanOut ▸ h
  | cons item rest ih =>
    rw [proxySubscribeFanOut] at hFanOut
    cases hRid : item.valuestring with
    | none => simp [hRid, proxySubscribeReply] at hFanOut
    | some rid =>
      simp only [hRid, proxySubscribeReply_some] at hFanOut
      refine ih ?_ hFanOut
      have hFound := h.getConn rid true removeRequest (hClock sent)
      cases removeRequest <;> exact hFound

theorem acceptedRows_exchange {ctx : SubscribeContext} (hClock : ∀ sent, ClockInRange (ctx.clock sent))
    {proxyName : ProxyName} {posted : SubscribeAnswer} {state : ProxySubscribeState} {d' : Dispatcher}
    (h : AcceptedRows d.store.requests)
    (hExchange : proxySubscribeExchange ctx d proxyName posted = some (state, d')) :
    AcceptedRows d'.store.requests := by
  unfold proxySubscribeExchange at hExchange
  cases hParsed : parsedAnswer ctx.json posted with
  | none =>
    simp only [hParsed, Option.some.injEq, Prod.mk.injEq] at hExchange
    exact hExchange.2 ▸ h
  | some parsed =>
    obtain ⟨items, headers, payload⟩ := parsed
    simp only [hParsed, Option.map_eq_some_iff, Prod.mk.injEq] at hExchange
    obtain ⟨_, hFanOut, -, rfl⟩ := hExchange
    refine acceptedRows_fanOut hClock ?_ hFanOut
    unfold purgeCleared
    cases (clearedRid headers payload).join with
    | none => exact h
    | some rid => exact h.getConn rid false true (by decide)

theorem acceptedRows_clientTimeoutPass (ctx : TimeoutContext) (h : AcceptedRows d.store.requests) :
    AcceptedRows (clientTimeoutPass ctx d).store.requests := by
  unfold clientTimeoutPass
  generalize clientRequestTableExpired d.store.requests ctx.expiredOrder ctx.now = expired
  induction expired generalizing d with
  | nil => exact h
  | cons rid rest ih => exact ih (h.remove rid)

/-- The clock readings that an operation stores are in range. -/
def StoreEvent.ClocksInRange : StoreEvent → Prop
  | .route ctx _ _ _ => ClockInRange ctx.now
  | .answer ctx _ _ => ∀ sent, ClockInRange (ctx.clock sent)
  | _ => True

/-- In every run with such clocks, requests are stored under ids and with timeouts that
`client_service_route` accepts. -/
theorem acceptedRows_of_reachable {s : StoreRun}
    (h : storeSystem.ReachableWhen (fun _ e => e.ClocksInRange) s) : AcceptedRows s.store.requests := by
  refine h.invariant (fun s => AcceptedRows s.store.requests) ?_ ?_
  · rintro s rfl rid row hRow
    cases hRow
  · intro s e hs hGuard hClocks
    cases e with
    | route ctx uri data conn => exact acceptedRows_clientServiceRoute ctx hClocks hs uri data conn
    | dropConn ctx conn => exact acceptedRows_clientServiceDropConn ctx hs conn
    | answer ctx proxyName posted =>
      obtain ⟨⟨state, d'⟩, hExchange⟩ := Option.isSome_iff_exists.mp hGuard
      have hAfter : AcceptedRows d'.store.requests := acceptedRows_exchange hClocks hs hExchange
      simpa [storeSystem, StoreEvent.effect, StoreRun.store, hExchange] using hAfter
    | timeoutPass ctx => exact acceptedRows_clientTimeoutPass ctx hs
    | requestSent proxyName rid => exact hs
    | requestUnsent proxyName => exact hs

/-! ## One pass -/

def noticeText (json : JsonLibrary) (rid : Rid) : String := json.print (expiredReplyText rid)

theorem removed_clientTimeoutRequest (ctx : TimeoutContext) (hAgree : d.store.Agreement) (rid : Rid) :
    d.store.Removed [rid] (clientTimeoutRequest ctx d rid).store := by
  refine hAgree.removed_one (HashTable.lookup_remove d.store.requests rid) rfl
    (entriesUnder_clientProxynameTableDropAll hAgree.proxyname_unique (ctx.dropOrder rid) rid) ?_
  rw [clientTimeoutRequest, clientRequestTableGetConn_conn]

theorem logs_clientTimeoutRequest (ctx : TimeoutContext) (d : Dispatcher) (rid : Rid) :
    (clientTimeoutRequest ctx d rid).respondRows =
        d.respondRows ++ storedReplies savedRid (noticeText ctx.json) [rid] ∧
      (clientTimeoutRequest ctx d rid).written =
        d.written ++ writtenReplies d.store (noticeText ctx.json) [rid] := by
  have hDeliver := deliver_saved d (ownerOf d.store rid) rid (noticeText ctx.json)
  simp only [clientTimeoutRequest, clientServiceExpiredReply, clientRequestTableGetConn_conn]
  rw [writtenReplies, List.flatMap_cons, List.flatMap_nil, List.append_nil]
  exact ⟨congrArg Dispatcher.respondRows hDeliver, congrArg Dispatcher.written hDeliver⟩

/-- The loop over distinct ids: a notice for each in its order, and each is taken out. -/
theorem clientTimeoutRequests_spec (ctx : TimeoutContext) (hAgree : d.store.Agreement)
    {expired : List Rid} (hNodup : expired.Nodup) :
    d.store.Removed expired (expired.foldl (clientTimeoutRequest ctx) d).store ∧
      (expired.foldl (clientTimeoutRequest ctx) d).respondRows =
        d.respondRows ++ storedReplies savedRid (noticeText ctx.json) expired ∧
      (expired.foldl (clientTimeoutRequest ctx) d).written =
        d.written ++ writtenReplies d.store (noticeText ctx.json) expired := by
  induction expired generalizing d with
  | nil => exact ⟨.refl d.store, (List.append_nil _).symm, (List.append_nil _).symm⟩
  | cons rid rest ih =>
    obtain ⟨hNot, hRest⟩ := List.nodup_cons.mp hNodup
    have hFirst := removed_clientTimeoutRequest ctx hAgree rid
    obtain ⟨hRows, hWritten⟩ := logs_clientTimeoutRequest ctx d rid
    obtain ⟨hRemoved, hRestRows, hRestWritten⟩ := ih (hAgree.removed hFirst) hRest
    have hOwners : writtenReplies (clientTimeoutRequest ctx d rid).store (noticeText ctx.json) rest =
        writtenReplies d.store (noticeText ctx.json) rest := by
      apply List.flatMap_congr
      intro other hOther
      have hNe : other ∉ [rid] := by
        rw [List.mem_singleton]
        exact ne_of_mem_of_not_mem hOther hNot
      rw [ownerOf, hFirst.requests, if_neg hNe]
      rfl
    rw [storedReplies_cons, writtenReplies_cons, ← List.append_assoc, ← List.append_assoc, ← hRows,
      ← hWritten, ← hOwners]
    exact ⟨hFirst.trans hRemoved, hRestRows, hRestWritten⟩

/-! ## The deadline -/

theorem timeAdd_of_lt {a b : Int} (ha : 0 ≤ a) (hb : 1 ≤ b) (h : a + b < 2 ^ 63) :
    timeAdd a b = a + b := by
  unfold timeAdd
  apply Int.bmod_eq_of_le <;> omega

theorem timeAdd_neg {a b : Int} (ha : a ≤ 2 ^ 40) (hb : b < 2 ^ 63) (h : 2 ^ 63 ≤ a + b) :
    timeAdd a b < 0 := by
  show (a + b).bmod (2 ^ 64) < (0 : Int)
  rw [Int.bmod_def]
  split <;> omega

/-- A row whose deadline fits in `time_t` is overdue when the deadline has passed. -/
theorem overdue_iff {rid : Rid} {row : ClientRequestTableContext} (h : AcceptedRow rid row)
    (hFits : row.timestamp + row.timeoutsec < 2 ^ 63) (now : Time) :
    row.overdue now = true ↔ row.timestamp + row.timeoutsec < now := by
  have hPositive : 0 < row.timeoutsec := Int.lt_of_lt_of_le Int.zero_lt_one h.positive
  rw [ClientRequestTableContext.overdue, timeAdd_of_lt h.clock.1 h.positive hFits, Bool.and_eq_true,
    decide_eq_true_eq, decide_eq_true_eq]
  exact and_iff_right hPositive

/-- A deadline that does not fit wraps into the past. -/
theorem overdue_of_wraps {rid : Rid} {row : ClientRequestTableContext} (h : AcceptedRow rid row)
    (hWraps : 2 ^ 63 ≤ row.timestamp + row.timeoutsec) {now : Time} (hNow : ClockInRange now) :
    row.overdue now = true := by
  have hPositive : 0 < row.timeoutsec := Int.lt_of_lt_of_le Int.zero_lt_one h.positive
  have hPast : timeAdd row.timestamp row.timeoutsec < now :=
    Int.lt_of_lt_of_le (timeAdd_neg h.clock.2 h.bounded hWraps) hNow.1
  rw [ClientRequestTableContext.overdue, Bool.and_eq_true, decide_eq_true_eq, decide_eq_true_eq]
  exact ⟨hPositive, hPast⟩

/-! ## Exactness -/

/-- The pass sends one notice for each request whose deadline, as an unbounded integer, has passed,
takes these requests out and changes nothing else. -/
def ExactExpiry (ctx : TimeoutContext) (d d' : Dispatcher) : Prop :=
  ∃ (expired : List Rid) (notice : Rid → CJson), expired.Nodup ∧
    (∀ rid, rid ∈ expired ↔ ∃ row, d.store.requests.lookup rid = some row ∧
      row.timestamp + row.timeoutsec < ctx.now) ∧
    (∀ rid ∈ expired, NoticesExpiry (notice rid) rid) ∧
    d'.respondRows = d.respondRows ++ expired.map (fun rid => (rid, ctx.json.print (notice rid))) ∧
    d'.written = d.written ++ writtenReplies d.store (fun rid => ctx.json.print (notice rid)) expired ∧
    d.store.Removed expired d'.store

theorem removed_clientTimeoutPass (ctx : TimeoutContext) (hAgree : d.store.Agreement) :
    d.store.Removed (clientRequestTableExpired d.store.requests ctx.expiredOrder ctx.now)
      (clientTimeoutPass ctx d).store :=
  (clientTimeoutRequests_spec ctx hAgree
    (clientRequestTableExpired_nodup d.store.requests ctx.expiredOrder ctx.now)).1

/-- A pass that meets a deadline that does not fit takes out a request before its time. -/
theorem not_exactExpiry (ctx : TimeoutContext) (hAgree : d.store.Agreement) (hNow : ClockInRange ctx.now)
    {rid : Rid} {row : ClientRequestTableContext} (hRow : d.store.requests.lookup rid = some row)
    (hAccepted : AcceptedRow rid row) (hWraps : 2 ^ 63 ≤ row.timestamp + row.timeoutsec) :
    ¬ ExactExpiry ctx d (clientTimeoutPass ctx d) := by
  rintro ⟨expired, -, -, hExpired, -, -, -, hRemoved⟩
  have hTaken : rid ∈ clientRequestTableExpired d.store.requests ctx.expiredOrder ctx.now :=
    (mem_clientRequestTableExpired ..).mpr ⟨row, hRow, overdue_of_wraps hAccepted hWraps hNow⟩
  have hGone := (removed_clientTimeoutPass ctx hAgree).requests rid
  have hStays : rid ∉ expired := by
    intro hMem
    obtain ⟨held, hHeld, hLess⟩ := (hExpired rid).mp hMem
    rw [hRow, Option.some.injEq] at hHeld
    subst hHeld
    exact absurd (hWraps.trans_lt (hLess.trans_le hNow.2)) (by decide)
  rw [if_pos hTaken, hRemoved.requests, if_neg hStays, hRow] at hGone
  cases hGone

/-- A request with the largest timeout that a JSON number can carry. -/
def longRequest : Dispatcher where
  store := RequestStore.empty.saveRequest printUnformatted 1 "r1" "weather" "today" none
    (2 ^ 63 - 1024) 1700000000
  respondRows := []
  written := []

def longRequestContext : TimeoutContext where
  json := sampleJson .null
  now := 1700000000
  expiredOrder := .inOrder
  dropOrder _ := .inOrder

theorem acceptedRow_longRequest : AcceptedRow "r1" ⟨1, 1700000000, 2 ^ 63 - 1024⟩ :=
  ⟨by decide, by decide, by decide, by decide⟩

theorem acceptedRows_longRequest : AcceptedRows longRequest.store.requests := by
  have hEmpty : AcceptedRows RequestStore.empty.requests := by
    intro rid row hRow
    rw [RequestStore.empty, HashTable.lookup_empty] at hRow
    cases hRow
  exact hEmpty.set acceptedRow_longRequest

theorem agreement_longRequest : longRequest.store.Agreement :=
  (RequestStore.represents_empty.saveRequest printUnformatted 1 "r1" "weather" "today" none
    (2 ^ 63 - 1024) 1700000000 rfl).agreement

/-- A request that has just arrived expires in the next pass. -/
theorem not_expiry_exact :
    ¬ ∀ (ctx : TimeoutContext) (d : Dispatcher), d.store.Agreement → AcceptedRows d.store.requests →
      ClockInRange ctx.now → ExactExpiry ctx d (clientTimeoutPass ctx d) := by
  intro h
  have hNow : ClockInRange longRequestContext.now := by decide
  exact not_exactExpiry longRequestContext agreement_longRequest hNow (by decide)
    acceptedRow_longRequest (by decide)
    (h longRequestContext longRequest agreement_longRequest acceptedRows_longRequest hNow)

/-- A pass is exact when no deadline of a stored request exceeds `time_t`, and only then. -/
theorem expiry_exact_iff (ctx : TimeoutContext) (d : Dispatcher) (hAgree : d.store.Agreement)
    (hAccepted : AcceptedRows d.store.requests) (hNow : ClockInRange ctx.now) :
    ExactExpiry ctx d (clientTimeoutPass ctx d) ↔
      ∀ rid row, d.store.requests.lookup rid = some row → row.timestamp + row.timeoutsec < 2 ^ 63 := by
  constructor
  · intro hExact rid row hRow
    by_contra hWraps
    exact not_exactExpiry ctx hAgree hNow hRow (hAccepted rid row hRow) (not_lt.mp hWraps) hExact
  · intro hFits
    have hNodup := clientRequestTableExpired_nodup d.store.requests ctx.expiredOrder ctx.now
    obtain ⟨hRemoved, hRows, hWritten⟩ := clientTimeoutRequests_spec ctx hAgree hNodup
    have hMem := mem_clientRequestTableExpired d.store.requests ctx.expiredOrder ctx.now
    refine ⟨_, expiredReplyText, hNodup, fun rid => ?_, fun rid _ => noticesExpiry_expiredReplyText rid,
      ?_, hWritten, hRemoved⟩
    · rw [hMem]
      refine exists_congr fun row => and_congr_right fun hRow => ?_
      exact overdue_iff (hAccepted rid row hRow) (hFits rid row hRow) ctx.now
    · have hSaved : (clientRequestTableExpired d.store.requests ctx.expiredOrder ctx.now).filter savedRid =
          clientRequestTableExpired d.store.requests ctx.expiredOrder ctx.now := by
        apply List.filter_eq_self.mpr
        intro rid hRid
        obtain ⟨row, hRow, -⟩ := (hMem rid).mp hRid
        exact decide_eq_true (hAccepted rid row hRow).named
      rw [storedReplies, hSaved] at hRows
      exact hRows

/-- The requests of "r1" and "r2" are overdue and expire, that of "r3" stays, by an exact pass. -/
theorem expiry_exact_iff_sampleTwoClients :
    ExactExpiry { longRequestContext with now := 109 } sampleTwoClients.dispatcher
      (clientTimeoutPass { longRequestContext with now := 109 } sampleTwoClients.dispatcher) ∧
    (clientTimeoutPass { longRequestContext with now := 109 } sampleTwoClients.dispatcher).store.requests.keys =
      ["r3"] := by
  have hAccepted : AcceptedRows sampleTwoClients.dispatcher.store.requests :=
    acceptedRows_of_reachable (.run (.init rfl) sampleSubmits
      ⟨trivial, show ClockInRange 100 by decide, trivial, show ClockInRange 103 by decide, trivial,
        show ClockInRange 106 by decide, trivial⟩)
  refine ⟨(expiry_exact_iff { longRequestContext with now := 109 } sampleTwoClients.dispatcher
    agreement_sampleTwoClients hAccepted (by decide)).mpr fun rid row hRow => ?_, by decide⟩
  have hKeys : ∀ key ∈ sampleTwoClients.dispatcher.store.requests.keys, ∀ row,
      sampleTwoClients.dispatcher.store.requests.lookup key = some row →
        row.timestamp + row.timeoutsec < 2 ^ 63 := by
    decide
  exact hKeys rid ((HashTable.mem_keys_iff ..).mpr ⟨row, hRow⟩) row hRow

end Gonggo
