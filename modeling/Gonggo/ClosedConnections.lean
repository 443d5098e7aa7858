import Gonggo.StoreThreads

/-! # Writes to closed connections

The subscribe threads, the timeout thread and the notifications copy a connection out of the request
table and write to it steps later. A connection whose close handler has returned is written to by
nobody, when nobody held it for a write at that moment and no request was taken off its list while
the request table still had the row.
-/

namespace Gonggo

/-- The connection that the subscribe thread goes on to write to. -/
def SubscribePc.target : SubscribePc → Option Conn
  | .connectionDropping _ held _ _ => some held.conn
  | .proxynameDropping _ found _ _ | .serviceRemoving _ found _ _ | .writing _ found _ _ =>
      found.map Held.conn
  | _ => none

theorem SubscribePc.target_afterLookup (rid : Rid) (found : Option Held) (job : SubscribeJob)
    (items : List CJson) : (afterLookup rid found job items).target = found.map Held.conn := by
  unfold afterLookup
  split
  · cases found <;> rfl
  · rfl

def TimeoutPc.target : TimeoutPc → Option Conn
  | .noticing _ found _ => found.map Held.conn
  | _ => none

/-- The connections that the notification goes on to write to. -/
def NotifyPc.Targets (conn : Conn) : NotifyPc → Prop
  | .ready => False
  | .collecting _ _ _ grouped => ∃ arr, grouped.lookup conn = some arr
  | .writing _ _ targets => ∃ rids, (conn, rids) ∈ targets

/-- Where the worker of a connection expects the ids of its rows: in the list of the connection, and
while it closes in the part of the copied list that is still to do. -/
def ConnPc.Accounts (pc : ConnPc) (connections : ClientConnectionTable) (conn : Conn) (rid : Rid) : Prop :=
  match pc with
  | .connectionSetting req _ => ListedIn connections conn rid ∨ rid = req.rid
  | .naming first rest _ | .requestRemoving first rest _ => rid = first ∨ rid ∈ rest
  | .serviceRemoving _ rest _ | .proxynamesCopying _ rest _ | .proxynameDropping _ _ rest _ => rid ∈ rest
  | .targeting _ | .dropServiceSetting _ _ | .dropProxynameSetting _ _ _ _ | .connectionRemoving
  | .closed => False
  | _ => ListedIn connections conn rid

theorem ConnPc.Accounts.mono {pc : ConnPc} {connections connections' : ClientConnectionTable}
    {conn : Conn} {rid : Rid} (hListed : ListedIn connections conn rid → ListedIn connections' conn rid)
    (h : pc.Accounts connections conn rid) : pc.Accounts connections' conn rid := by
  cases pc with
  | connectionSetting req k => exact h.imp_left hListed
  | ready | testing | dumping | requestSetting | serviceSetting | proxynameSetting | closing => exact hListed h
  | _ => exact h

namespace StoreThreads

variable {s s' : StoreThreads} {conn : Conn}

/-- The step writes a message to the connection. -/
def Writes (s : StoreThreads) (e : StoreStep) (conn : Conn) : Prop :=
  ∃ text, (e.effect s).dispatcher.written = s.dispatcher.written ++ [(conn, text)]

/-- No thread holds the connection with a write to it still to come. -/
structure Unheld (s : StoreThreads) (conn : Conn) : Prop where
  subscribers : ∀ n, (s.subscribers n).target ≠ some conn
  timeout : s.timeout.target ≠ some conn
  notifiers : ∀ n, ¬ (s.notifiers n).Targets conn

/-- When the step is the return of a close handler, nobody holds the connection. -/
def ReturnsUnheld (s : StoreThreads) (e : StoreStep) : Prop :=
  ∀ conn, s.conns conn ≠ .closed → (e.effect s).conns conn = .closed → s.Unheld conn

/-- The request table has a row of the connection under the id. -/
def RowOf (s : StoreThreads) (rid : Rid) (conn : Conn) : Prop :=
  ∃ row, s.requests.lookup rid = some row ∧ row.conn = conn

/-- The step takes an id off the list of a connection that still has its row. -/
def DropsLiveRow (s : StoreThreads) (e : StoreStep) : Prop :=
  match e.action with
  | .subscriber n =>
      match s.subscribers n with
      | .purgeConnectionDropping rid held _ _ | .connectionDropping rid held _ _ => s.RowOf rid held.conn
      | _ => False
  | .timeout =>
      match s.timeout with
      | .connectionDropping rid (some held) _ => s.RowOf rid held.conn
      | _ => False
  | _ => False

/-! ## What one step can do to the rows, the lists and the held connections -/

theorem rowOf_of_found {rid : Rid} {held : Held} (h : s.found rid = some held) :
    s.RowOf rid held.conn := by
  obtain ⟨row, hRow, rfl⟩ := Option.map_eq_some_iff.mp h
  exact ⟨row, hRow, rfl⟩

theorem rowOf_iff (s : StoreThreads) (rid : Rid) (conn : Conn) :
    s.RowOf rid conn ↔
      (s.requests.lookup rid).map ClientRequestTableContext.conn = some conn :=
  Option.map_eq_some_iff.symm

theorem rowOf_congr (h : s'.requests = s.requests) (rid : Rid) (conn : Conn) :
    s'.RowOf rid conn ↔ s.RowOf rid conn := by
  rw [RowOf, RowOf, h]

theorem rowOf_getConn {rid other : Rid} {updateTime removeRequest : Bool} {now : Time}
    (hRequests : s'.requests =
      (clientRequestTableGetConn s.requests rid updateTime removeRequest now).2)
    (h : s'.RowOf other conn) : s.RowOf other conn := by
  rw [rowOf_iff, hRequests] at h
  rw [rowOf_iff]
  cases removeRequest with
  | false => rwa [conn_clientRequestTableGetConn_keep] at h
  | true =>
    rw [lookup_clientRequestTableGetConn_remove] at h
    split at h
    · cases h
    · exact h

theorem rowOf_remove {rid other : Rid} (hRequests : s'.requests = clientRequestTableRemove s.requests rid) :
    s'.RowOf other conn ↔ other ≠ rid ∧ s.RowOf other conn := by
  rw [rowOf_iff, rowOf_iff, hRequests, clientRequestTableRemove, HashTable.lookup_remove]
  split
  · rename_i h
    simp [h]
  · rename_i h
    simp [h]

theorem rowOf_set {rid other : Rid} {worker : Conn} {timeout now : Time}
    (hRequests : s'.requests = clientRequestTableSet s.requests rid worker timeout now) :
    s'.RowOf other conn ↔ (other = rid ∧ worker = conn) ∨ (other ≠ rid ∧ s.RowOf other conn) := by
  rw [rowOf_iff, rowOf_iff, hRequests, lookup_clientRequestTableSet]
  split
  · rename_i h
    simp [h]
  · rename_i h
    simp [h]

theorem unheld_congr (hSubscribers : s'.subscribers = s.subscribers) (hTimeout : s'.timeout = s.timeout)
    (hNotifiers : s'.notifiers = s.notifiers) (h : s.Unheld conn) : s'.Unheld conn := by
  refine ⟨?_, ?_, ?_⟩
  · rw [hSubscribers]
    exact h.subscribers
  · rw [hTimeout]
    exact h.timeout
  · rw [hNotifiers]
    exact h.notifiers

/-- The rows of a connection are accounted for by its worker, and nobody holds a closed connection. -/
structure ClosedOut (s : StoreThreads) : Prop where
  rows : ∀ rid conn, s.RowOf rid conn → (s.conns conn).Accounts s.connections conn rid
  unheld : ∀ conn, s.conns conn = .closed → s.Unheld conn

namespace ClosedOut

theorem not_rowOf (h : s.ClosedOut) (hClosed : s.conns conn = .closed) (rid : Rid) : ¬ s.RowOf rid conn := by
  intro hRow
  have hAccounts := h.rows rid conn hRow
  rw [hClosed] at hAccounts
  exact hAccounts

/-- A step of a thread other than the workers: no row is added, no listed row loses its place, and
the connections it picks up come out of rows. -/
theorem of_other (h : s.ClosedOut) (hConns : s'.conns = s.conns)
    (hRows : ∀ rid conn, s'.RowOf rid conn → s.RowOf rid conn)
    (hListed : ∀ rid conn, s'.RowOf rid conn → ListedIn s.connections conn rid →
      ListedIn s'.connections conn rid)
    (hUnheld : ∀ conn, (∀ rid, ¬ s.RowOf rid conn) → s.Unheld conn → s'.Unheld conn) :
    s'.ClosedOut := by
  refine ⟨fun rid conn hRow => ?_, fun conn hClosed => ?_⟩
  · rw [hConns]
    exact (h.rows rid conn (hRows rid conn hRow)).mono (hListed rid conn hRow)
  · rw [hConns] at hClosed
    exact hUnheld conn (h.not_rowOf hClosed) (h.unheld conn hClosed)

theorem of_worker (h : s.ClosedOut) (worker : Conn)
    (hConns : ∀ conn, conn ≠ worker → s'.conns conn = s.conns conn)
    (hRows : ∀ rid conn, conn ≠ worker → s'.RowOf rid conn → s.RowOf rid conn)
    (hListed : ∀ rid conn, conn ≠ worker → ListedIn s.connections conn rid →
      ListedIn s'.connections conn rid)
    (hAccounts : ∀ rid, s'.RowOf rid worker → (s'.conns worker).Accounts s'.connections worker rid)
    (hUnheld : ∀ conn, s.Unheld conn → s'.Unheld conn)
    (hReturn : s'.conns worker = .closed → s.Unheld worker) : s'.ClosedOut := by
  refine ⟨fun rid conn hRow => ?_, fun conn hClosed => ?_⟩
  · by_cases hConn : conn = worker
    · subst hConn
      exact hAccounts rid hRow
    · rw [hConns conn hConn]
      exact (h.rows rid conn (hRows rid conn hConn hRow)).mono (hListed rid conn hConn)
  · by_cases hConn : conn = worker
    · subst hConn
      exact hUnheld conn (hReturn hClosed)
    · rw [hConns conn hConn] at hClosed
      exact hUnheld conn (h.unheld conn hClosed)

theorem of_turn {worker : Conn} {pc : ConnPc} (h : s.ClosedOut)
    (hConns : s'.conns = Function.update s.conns worker pc) (hRequests : s'.requests = s.requests)
    (hConnections : s'.connections = s.connections)
    (hAccounts : ∀ rid, (s.conns worker).Accounts s.connections worker rid →
      pc.Accounts s.connections worker rid)
    (hSubscribers : s'.subscribers = s.subscribers) (hTimeout : s'.timeout = s.timeout)
    (hNotifiers : s'.notifiers = s.notifiers)
    (hReturn : s'.conns worker = .closed → s.Unheld worker) : s'.ClosedOut := by
  refine h.of_worker worker (fun conn hConn => ?_) (fun rid conn _ => (rowOf_congr hRequests rid conn).mp)
    (fun rid conn _ => ?_) (fun rid hRow => ?_)
    (fun conn => unheld_congr hSubscribers hTimeout hNotifiers) hReturn
  · rw [hConns, Function.update_of_ne hConn]
  · rw [hConnections]
    exact id
  · rw [hConns, Function.update_self, hConnections]
    exact hAccounts rid (h.rows rid worker ((rowOf_congr hRequests rid worker).mp hRow))

theorem afterDropped {rest : List Rid} {grouped : ClientProxynameTable}
    {connections : ClientConnectionTable} {rid : Rid} (h : rid ∈ rest) :
    (ConnPc.afterDropped rest grouped).Accounts connections conn rid := by
  cases rest with
  | nil => cases h
  | cons first rest => exact List.mem_cons.mp h

theorem connEffect (h : s.ClosedOut) (ctx : StepContext) (worker : Conn)
    (hReturn : (s.connEffect ctx worker).conns worker = .closed → s.Unheld worker) :
    (s.connEffect ctx worker).ClosedOut := by
  cases hPc : s.conns worker with
  | ready | closed =>
    simp only [StoreThreads.connEffect, hPc]
    exact h
  | testing rid =>
    simp only [StoreThreads.connEffect, hPc] at hReturn ⊢
    have hStore := store_gonggoTest ctx.toRouteContext s.dispatcher worker rid
    refine h.of_turn rfl (congrArg RequestStore.requests hStore)
      (congrArg RequestStore.connections hStore) (fun rid hAccounts => ?_) rfl rfl rfl hReturn
    rw [hPc] at hAccounts
    exact hAccounts
  | dumping rid dumpRid start size =>
    simp only [StoreThreads.connEffect, hPc] at hReturn ⊢
    have hStore := store_gonggoResponseDump ctx.toRouteContext s.dispatcher worker rid dumpRid start size
    refine h.of_turn rfl (congrArg RequestStore.requests hStore)
      (congrArg RequestStore.connections hStore) (fun rid hAccounts => ?_) rfl rfl rfl hReturn
    rw [hPc] at hAccounts
    exact hAccounts
  | requestSetting req k =>
    simp only [StoreThreads.connEffect, hPc] at hReturn ⊢
    refine h.of_worker worker (fun conn hConn => setConn_ne _ hConn _) ?_
      (fun _ _ _ => id) ?_ (fun conn => unheld_congr rfl rfl rfl) hReturn
    · intro rid conn hConn hRowOf
      rcases (rowOf_set rfl).mp hRowOf with ⟨-, hEq⟩ | ⟨-, hOld⟩
      · exact absurd hEq.symm hConn
      · exact hOld
    · intro rid hRowOf
      rw [setConn_self]
      rcases (rowOf_set rfl).mp hRowOf with ⟨hEq, -⟩ | ⟨-, hOld⟩
      · exact .inr hEq
      · have hAccounts := h.rows rid worker hOld
        rw [hPc] at hAccounts
        exact .inl hAccounts
  | connectionSetting req k =>
    simp only [StoreThreads.connEffect, hPc] at hReturn ⊢
    refine h.of_worker worker (fun conn hConn => setConn_ne _ hConn _)
      (fun rid conn _ => (rowOf_congr rfl rid conn).mp) ?_ ?_ (fun conn => unheld_congr rfl rfl rfl) hReturn
    · intro rid conn _ hListed
      exact (listedIn_clientConnectionTableSet ..).mpr (.inl hListed)
    · intro rid hRowOf
      have hAccounts := h.rows rid worker ((rowOf_congr rfl rid worker).mp hRowOf)
      rw [hPc] at hAccounts
      rw [setConn_self]
      exact (listedIn_clientConnectionTableSet ..).mpr (hAccounts.imp_right fun hEq => ⟨rfl, hEq⟩)
  | closing =>
    simp only [StoreThreads.connEffect, hPc] at hReturn ⊢
    cases hDup : clientConnectionTableRequestDup s.connections worker with
    | none =>
      simp only [hDup] at hReturn
      refine h.of_turn rfl rfl rfl (fun rid hAccounts => ?_) rfl rfl rfl hReturn
      rw [hPc] at hAccounts
      obtain ⟨arr, hArr, -⟩ := hAccounts
      rw [clientConnectionTableRequestDup, hArr] at hDup
      cases hDup
    | some uuids =>
      simp only [hDup] at hReturn
      refine h.of_turn rfl rfl rfl (fun rid hAccounts => afterDropped ?_) rfl rfl rfl hReturn
      rw [hPc] at hAccounts
      obtain ⟨arr, hArr, hMem⟩ := hAccounts
      rw [clientConnectionTableRequestDup, hArr, Option.map_some, Option.some.injEq] at hDup
      exact hDup ▸ hMem
  | requestRemoving first rest grouped =>
    simp only [StoreThreads.connEffect, hPc] at hReturn ⊢
    refine h.of_worker worker (fun conn hConn => setConn_ne _ hConn _)
      (fun rid conn _ hRowOf => ((rowOf_remove rfl).mp hRowOf).2) (fun _ _ _ => id) ?_
      (fun conn => unheld_congr rfl rfl rfl) hReturn
    intro rid hRowOf
    obtain ⟨hNe, hOld⟩ := (rowOf_remove rfl).mp hRowOf
    have hAccounts := h.rows rid worker hOld
    rw [hPc] at hAccounts
    rw [setConn_self]
    exact hAccounts.resolve_left hNe
  | proxynameDropping first names rest grouped =>
    simp only [StoreThreads.connEffect, hPc] at hReturn ⊢
    refine h.of_turn rfl rfl rfl (fun rid hAccounts => ?_) rfl rfl rfl hReturn
    rw [hPc] at hAccounts
    cases (clientProxynameTableDropNext s.proxynames first names).2 with
    | none => exact afterDropped hAccounts
    | some names => exact hAccounts
  | dropServiceSetting targets drawn =>
    cases targets with
    | nil =>
      simp only [StoreThreads.connEffect, hPc] at hReturn ⊢
      refine h.of_turn rfl rfl rfl (fun rid hAccounts => ?_) rfl rfl rfl hReturn
      rw [hPc] at hAccounts
      exact hAccounts
    | cons target targets =>
      simp only [StoreThreads.connEffect, hPc] at hReturn ⊢
      refine h.of_turn rfl rfl rfl (fun rid hAccounts => ?_) rfl rfl rfl hReturn
      rw [hPc] at hAccounts
      exact hAccounts
  | connectionRemoving =>
    simp only [StoreThreads.connEffect, hPc] at hReturn ⊢
    refine h.of_worker worker (fun conn hConn => setConn_ne _ hConn _)
      (fun rid conn _ => (rowOf_congr rfl rid conn).mp) ?_ ?_ (fun conn => unheld_congr rfl rfl rfl) hReturn
    · intro rid conn hConn hListed
      exact (listedIn_remove ..).mpr ⟨hConn, hListed⟩
    · intro rid hRowOf
      have hAccounts := h.rows rid worker ((rowOf_congr rfl rid worker).mp hRowOf)
      rw [hPc] at hAccounts
      cases hAccounts
  | serviceSetting | proxynameSetting | naming | serviceRemoving | proxynamesCopying | targeting
  | dropProxynameSetting =>
    simp only [StoreThreads.connEffect, hPc] at hReturn ⊢
    refine h.of_turn rfl rfl rfl (fun rid hAccounts => ?_) rfl rfl rfl hReturn
    rw [hPc] at hAccounts
    exact hAccounts

theorem of_subscriber {n : Nat} {pc : SubscribePc} (h : s.ClosedOut) (hConns : s'.conns = s.conns)
    (hRows : ∀ rid conn, s'.RowOf rid conn → s.RowOf rid conn)
    (hListed : ∀ rid conn, s'.RowOf rid conn → ListedIn s.connections conn rid →
      ListedIn s'.connections conn rid)
    (hSubscribers : s'.subscribers = Function.update s.subscribers n pc)
    (hTimeout : s'.timeout = s.timeout) (hNotifiers : s'.notifiers = s.notifiers)
    (hTarget : ∀ conn, pc.target = some conn →
      (s.subscribers n).target = some conn ∨ ∃ rid, s.RowOf rid conn) : s'.ClosedOut := by
  refine h.of_other hConns hRows hListed fun conn hNoRow hUnheld => ⟨fun m => ?_, ?_, ?_⟩
  · rw [hSubscribers]
    by_cases hm : m = n
    · subst hm
      rw [Function.update_self]
      intro hHeld
      rcases hTarget conn hHeld with hOld | ⟨rid, hRow⟩
      · exact hUnheld.subscribers m hOld
      · exact hNoRow rid hRow
    · rw [Function.update_of_ne hm]
      exact hUnheld.subscribers m
  · rw [hTimeout]
    exact hUnheld.timeout
  · rw [hNotifiers]
    exact hUnheld.notifiers

theorem of_subscriber_turn {n : Nat} {pc : SubscribePc} (h : s.ClosedOut) (hConns : s'.conns = s.conns)
    (hRequests : s'.requests = s.requests) (hConnections : s'.connections = s.connections)
    (hSubscribers : s'.subscribers = Function.update s.subscribers n pc)
    (hTimeout : s'.timeout = s.timeout) (hNotifiers : s'.notifiers = s.notifiers)
    (hTarget : ∀ conn, pc.target = some conn → (s.subscribers n).target = some conn) : s'.ClosedOut := by
  refine h.of_subscriber hConns (fun rid conn => (rowOf_congr hRequests rid conn).mp) ?_ hSubscribers
    hTimeout hNotifiers fun conn hPc => .inl (hTarget conn hPc)
  intro rid conn _
  rw [hConnections]
  exact id

theorem listedIn_drop {rid other : Rid} {held : Held} (hRequests : s'.requests = s.requests)
    (hConnections : s'.connections = clientConnectionTableDrop s.connections held.conn rid)
    (hDrop : ¬ s.RowOf rid held.conn) (hRow : s'.RowOf other conn)
    (hListed : ListedIn s.connections conn other) : ListedIn s'.connections conn other := by
  rw [hConnections, listedIn_clientConnectionTableDrop]
  refine ⟨hListed, ?_⟩
  rintro ⟨rfl, rfl⟩
  exact hDrop ((rowOf_congr hRequests ..).mp hRow)

theorem subscriberEffect (h : s.ClosedOut) (ctx : StepContext) (n : Nat)
    (hDrop : ¬ s.DropsLiveRow ⟨ctx, .subscriber n⟩) : (s.subscriberEffect ctx n).ClosedOut := by
  cases hPc : s.subscribers n with
  | ready =>
    simp only [StoreThreads.subscriberEffect, hPc]
    exact h
  | purgeTaking rid job items =>
    simp only [StoreThreads.subscriberEffect, hPc]
    refine h.of_subscriber rfl (fun other conn => rowOf_getConn rfl) (fun _ _ _ => id) rfl rfl rfl ?_
    intro conn hTarget
    cases hFound : s.found rid <;> simp [hFound, SubscribePc.target] at hTarget
  | purgeConnectionDropping rid held job items =>
    simp only [DropsLiveRow, hPc] at hDrop
    simp only [StoreThreads.subscriberEffect, hPc]
    refine h.of_subscriber rfl (fun other conn => (rowOf_congr rfl other conn).mp)
      (fun other conn => listedIn_drop rfl rfl hDrop) rfl rfl rfl ?_
    intro conn hTarget
    cases hTarget
  | replying job items =>
    cases items with
    | nil =>
      simp only [StoreThreads.subscriberEffect, hPc]
      exact h.of_subscriber_turn rfl rfl rfl rfl rfl rfl fun conn hTarget => nomatch hTarget
    | cons item items =>
      simp only [StoreThreads.subscriberEffect, hPc]
      cases hRid : item.valuestring with
      | none => exact h
      | some rid =>
        refine h.of_subscriber rfl (fun other conn => rowOf_getConn rfl) (fun _ _ _ => id) rfl rfl rfl ?_
        intro conn hTarget
        rw [SubscribePc.target_afterLookup] at hTarget
        obtain ⟨held, hFound, rfl⟩ := Option.map_eq_some_iff.mp hTarget
        exact .inr ⟨rid, rowOf_of_found hFound⟩
  | connectionDropping rid held job items =>
    simp only [DropsLiveRow, hPc] at hDrop
    simp only [StoreThreads.subscriberEffect, hPc]
    refine h.of_subscriber rfl (fun other conn => (rowOf_congr rfl other conn).mp)
      (fun other conn => listedIn_drop rfl rfl hDrop) rfl rfl rfl ?_
    intro conn hTarget
    rw [hPc]
    exact .inl hTarget
  | writing rid found job items =>
    simp only [StoreThreads.subscriberEffect, hPc]
    have hStore := store_clientServiceReply ctx.json s.dispatcher (found.map Held.conn) rid job.headers
      job.payload true
    exact h.of_subscriber_turn rfl (congrArg RequestStore.requests hStore)
      (congrArg RequestStore.connections hStore) rfl rfl rfl fun conn hTarget => nomatch hTarget
  | purgeProxynameDropping rid names job items =>
    simp only [StoreThreads.subscriberEffect, hPc]
    refine h.of_subscriber_turn rfl rfl rfl rfl rfl rfl fun conn hTarget => ?_
    cases hNext : (clientProxynameTableDropNext s.proxynames rid names).2 <;>
      simp [hNext, SubscribePc.target] at hTarget
  | purgeProxynamesCopying | purgeServiceRemoving =>
    simp only [StoreThreads.subscriberEffect, hPc]
    exact h.of_subscriber_turn rfl rfl rfl rfl rfl rfl fun conn hTarget => nomatch hTarget
  | proxynameDropping | serviceRemoving =>
    simp only [StoreThreads.subscriberEffect, hPc]
    refine h.of_subscriber_turn rfl rfl rfl rfl rfl rfl fun conn hTarget => ?_
    rw [hPc]
    exact hTarget

theorem of_timeout {pc : TimeoutPc} (h : s.ClosedOut) (hConns : s'.conns = s.conns)
    (hRows : ∀ rid conn, s'.RowOf rid conn → s.RowOf rid conn)
    (hListed : ∀ rid conn, s'.RowOf rid conn → ListedIn s.connections conn rid →
      ListedIn s'.connections conn rid)
    (hSubscribers : s'.subscribers = s.subscribers) (hTimeout : s'.timeout = pc)
    (hNotifiers : s'.notifiers = s.notifiers)
    (hTarget : ∀ conn, pc.target = some conn → ∃ rid, s.RowOf rid conn) : s'.ClosedOut := by
  refine h.of_other hConns hRows hListed fun conn hNoRow hUnheld => ⟨?_, ?_, ?_⟩
  · rw [hSubscribers]
    exact hUnheld.subscribers
  · rw [hTimeout]
    intro hHeld
    obtain ⟨rid, hRow⟩ := hTarget conn hHeld
    exact hNoRow rid hRow
  · rw [hNotifiers]
    exact hUnheld.notifiers

theorem of_timeout_turn {pc : TimeoutPc} (h : s.ClosedOut) (hConns : s'.conns = s.conns)
    (hRequests : s'.requests = s.requests) (hConnections : s'.connections = s.connections)
    (hSubscribers : s'.subscribers = s.subscribers) (hTimeout : s'.timeout = pc)
    (hNotifiers : s'.notifiers = s.notifiers)
    (hTarget : ∀ conn, pc.target = some conn → ∃ rid, s.RowOf rid conn) : s'.ClosedOut := by
  refine h.of_timeout hConns (fun rid conn => (rowOf_congr hRequests rid conn).mp) ?_ hSubscribers
    hTimeout hNotifiers hTarget
  intro rid conn _
  rw [hConnections]
  exact id

theorem timeoutEffect (h : s.ClosedOut) (ctx : StepContext)
    (hDrop : ¬ s.DropsLiveRow ⟨ctx, .timeout⟩) : (s.timeoutEffect ctx).ClosedOut := by
  cases hPc : s.timeout with
  | ready =>
    simp only [StoreThreads.timeoutEffect, hPc]
    exact h
  | passing rids =>
    cases rids with
    | nil =>
      simp only [StoreThreads.timeoutEffect, hPc]
      exact h.of_timeout_turn rfl rfl rfl rfl rfl rfl fun conn hTarget => nomatch hTarget
    | cons rid rest =>
      simp only [StoreThreads.timeoutEffect, hPc]
      refine h.of_timeout_turn rfl rfl rfl rfl rfl rfl fun conn hTarget => ?_
      obtain ⟨held, hFound, rfl⟩ := Option.map_eq_some_iff.mp hTarget
      exact ⟨rid, rowOf_of_found hFound⟩
  | noticing rid found rest =>
    simp only [StoreThreads.timeoutEffect, hPc]
    have hStore := store_clientServiceExpiredReply ctx.json s.dispatcher (found.map Held.conn) rid true
    exact h.of_timeout_turn rfl (congrArg RequestStore.requests hStore)
      (congrArg RequestStore.connections hStore) rfl rfl rfl fun conn hTarget => nomatch hTarget
  | requestRemoving rid found rest =>
    simp only [StoreThreads.timeoutEffect, hPc]
    exact h.of_timeout rfl (fun other conn hRowOf => ((rowOf_remove rfl).mp hRowOf).2) (fun _ _ _ => id)
      rfl rfl rfl fun conn hTarget => nomatch hTarget
  | connectionDropping rid found rest =>
    cases found with
    | none =>
      simp only [StoreThreads.timeoutEffect, hPc]
      exact h.of_timeout_turn rfl rfl rfl rfl rfl rfl fun conn hTarget => nomatch hTarget
    | some held =>
      simp only [DropsLiveRow, hPc] at hDrop
      simp only [StoreThreads.timeoutEffect, hPc]
      exact h.of_timeout rfl (fun other conn => (rowOf_congr rfl other conn).mp)
        (fun other conn => listedIn_drop rfl rfl hDrop) rfl rfl rfl fun conn hTarget => nomatch hTarget
  | proxynameDropping rid names rest =>
    simp only [StoreThreads.timeoutEffect, hPc]
    refine h.of_timeout_turn rfl rfl rfl rfl rfl rfl fun conn hTarget => ?_
    cases hNext : (clientProxynameTableDropNext s.proxynames rid names).2 <;>
      simp [hNext, setTimeout, TimeoutPc.target] at hTarget
  | serviceRemoving | proxynamesCopying =>
    simp only [StoreThreads.timeoutEffect, hPc]
    exact h.of_timeout_turn rfl rfl rfl rfl rfl rfl fun conn hTarget => nomatch hTarget

theorem of_notifier {n : Nat} {pc : NotifyPc} (h : s.ClosedOut) (hConns : s'.conns = s.conns)
    (hStore : s'.dispatcher.store = s.dispatcher.store) (hSubscribers : s'.subscribers = s.subscribers)
    (hTimeout : s'.timeout = s.timeout)
    (hNotifiers : s'.notifiers = Function.update s.notifiers n pc)
    (hTargets : ∀ conn, pc.Targets conn → (s.notifiers n).Targets conn ∨ ∃ rid, s.RowOf rid conn) :
    s'.ClosedOut := by
  refine h.of_other hConns
    (fun rid conn => (rowOf_congr (congrArg RequestStore.requests hStore) rid conn).mp) ?_
    fun conn hNoRow hUnheld => ⟨?_, ?_, fun m => ?_⟩
  · intro rid conn _
    rw [connections, connections, hStore]
    exact id
  · rw [hSubscribers]
    exact hUnheld.subscribers
  · rw [hTimeout]
    exact hUnheld.timeout
  · rw [hNotifiers]
    by_cases hm : m = n
    · subst hm
      rw [Function.update_self]
      intro hHeld
      rcases hTargets conn hHeld with hOld | ⟨rid, hRow⟩
      · exact hUnheld.notifiers m hOld
      · exact hNoRow rid hRow
    · rw [Function.update_of_ne hm]
      exact hUnheld.notifiers m

theorem lookup_clientConnectionTableSet {table : ClientConnectionTable} {other : Conn} {rid : Rid}
    {arr : UuidArray} (h : (clientConnectionTableSet table other rid).lookup conn = some arr) :
    conn = other ∨ ∃ arr, table.lookup conn = some arr := by
  by_cases hConn : conn = other
  · exact .inl hConn
  · unfold clientConnectionTableSet at h
    split at h
    · exact .inr ⟨arr, by rwa [HashTable.lookup_insert_ne _ _ hConn] at h⟩
    · split at h
      · exact .inr ⟨arr, h⟩
      · exact .inr ⟨arr, by rwa [HashTable.lookup_insert_ne _ _ hConn] at h⟩

theorem notifierEffect (h : s.ClosedOut) (ctx : StepContext) (n : Nat) :
    (s.notifierEffect ctx n).ClosedOut := by
  cases hPc : s.notifiers n with
  | ready =>
    simp only [StoreThreads.notifierEffect, hPc]
    exact h
  | collecting proxyName started rids grouped =>
    cases rids with
    | nil =>
      simp only [StoreThreads.notifierEffect, hPc]
      refine h.of_notifier rfl rfl rfl rfl rfl fun conn hTargets => .inl ?_
      obtain ⟨rids, hMem⟩ := hTargets
      obtain ⟨other, -, hOther⟩ := List.mem_filterMap.mp hMem
      obtain ⟨arr, hArr, hEq⟩ := Option.map_eq_some_iff.mp hOther
      obtain ⟨rfl, -⟩ := Prod.mk.injEq .. ▸ hEq
      rw [hPc]
      exact ⟨arr, hArr⟩
    | cons rid rest =>
      simp only [StoreThreads.notifierEffect, hPc]
      refine h.of_notifier rfl rfl rfl rfl rfl fun conn hTargets => ?_
      obtain ⟨arr, hArr⟩ := hTargets
      rw [hPc]
      cases hFound : s.found rid with
      | none =>
        rw [hFound] at hArr
        exact .inl ⟨arr, hArr⟩
      | some held =>
        rw [hFound] at hArr
        rcases lookup_clientConnectionTableSet hArr with rfl | hOld
        · exact .inr ⟨rid, rowOf_of_found hFound⟩
        · exact .inl hOld
  | writing proxyName started targets =>
    cases targets with
    | nil =>
      simp only [StoreThreads.notifierEffect, hPc]
      exact h.of_notifier rfl rfl rfl rfl rfl fun conn hTargets => hTargets.elim
    | cons target targets =>
      simp only [StoreThreads.notifierEffect, hPc]
      refine h.of_notifier rfl rfl rfl rfl rfl fun conn hTargets => .inl ?_
      obtain ⟨rids, hMem⟩ := hTargets
      rw [hPc]
      exact ⟨rids, List.mem_cons_of_mem _ hMem⟩

theorem receive (h : s.ClosedOut) (ctx : RouteContext) (worker : Conn) (uri data : String)
    (hReady : s.conns worker = .ready) : (s.receive ctx worker uri data).ClosedOut := by
  have hTurn : ∀ {s' : StoreThreads} (pc : ConnPc), s'.conns = Function.update s.conns worker pc →
      s'.requests = s.requests → s'.connections = s.connections →
      (∀ rid, ListedIn s.connections worker rid → pc.Accounts s.connections worker rid) →
      s'.subscribers = s.subscribers → s'.timeout = s.timeout → s'.notifiers = s.notifiers →
      pc ≠ .closed → s'.ClosedOut := by
    intro s' pc hConns hRequests hConnections hAccounts hSubscribers hTimeout hNotifiers hNe
    refine h.of_turn hConns hRequests hConnections (fun rid hOld => ?_) hSubscribers hTimeout hNotifiers
      fun hClosed => ?_
    · rw [hReady] at hOld
      exact hAccounts rid hOld
    · rw [hConns, Function.update_self] at hClosed
      exact absurd hClosed hNe
  unfold StoreThreads.receive
  split
  · exact h
  · cases ctx.json.parse data with
    | none => exact h
    | some root =>
      cases hVerdict : clientServiceRouteVerdict root with
      | refused rid status =>
        simp only [hVerdict]
        refine hTurn .ready ?_ rfl rfl (fun rid => id) rfl rfl rfl nofun
        rw [← hReady, Function.update_eq_self]
        rfl
      | _ =>
        simp only [hVerdict]
        exact hTurn _ rfl rfl rfl (fun rid => id) rfl rfl rfl nofun

theorem answer (h : s.ClosedOut) (json : JsonLibrary) (n : Nat) (proxyName : ProxyName)
    (posted : SubscribeAnswer) : (s.answer json n proxyName posted).ClosedOut := by
  unfold StoreThreads.answer
  cases parsedAnswer json posted with
  | none => exact h
  | some parsed =>
    obtain ⟨items, headers, payload⟩ := parsed
    refine h.of_subscriber_turn rfl rfl rfl rfl rfl rfl fun conn hTarget => ?_
    cases hCleared : (clearedRid headers payload).join <;> simp [hCleared, SubscribePc.target] at hTarget

theorem notify (h : s.ClosedOut) (n : Nat) (proxyName : ProxyName) (started : Bool) :
    (s.notify n proxyName started).ClosedOut := by
  refine h.of_notifier rfl rfl rfl rfl rfl fun conn hTargets => ?_
  obtain ⟨arr, hArr⟩ := hTargets
  rw [HashTable.lookup_empty] at hArr
  cases hArr

theorem effect (h : s.ClosedOut) (e : StoreStep) (hGuard : e.guard s) (hReturn : s.ReturnsUnheld e)
    (hDrop : ¬ s.DropsLiveRow e) : (e.effect s).ClosedOut := by
  obtain ⟨ctx, action⟩ := e
  cases action with
  | receive conn uri data =>
    exact h.receive ctx.toRouteContext conn uri data (ConnPc.isReady_iff.mp hGuard)
  | close conn =>
    have hReady := ConnPc.isReady_iff.mp hGuard
    refine h.of_turn rfl rfl rfl (fun rid hAccounts => ?_) rfl rfl rfl fun hClosed => ?_
    · rw [hReady] at hAccounts
      exact hAccounts
    · rw [StoreStep.effect, setConn_self] at hClosed
      cases hClosed
  | conn conn =>
    refine h.connEffect ctx conn (hReturn conn fun hClosed => ?_)
    simp [StoreStep.guard, StoreStep.enabled, hClosed, ConnPc.busy] at hGuard
  | answer n proxyName posted => exact h.answer ctx.json n proxyName posted
  | subscriber n => exact h.subscriberEffect ctx n hDrop
  | pass => exact h.of_timeout_turn rfl rfl rfl rfl rfl rfl fun conn hTarget => nomatch hTarget
  | timeout => exact h.timeoutEffect ctx hDrop
  | notify n proxyName started => exact h.notify n proxyName started
  | notifier n => exact h.notifierEffect ctx n

end ClosedOut

theorem closedOut_of_reachable
    (h : storeThreadsSystem.ReachableWhen (fun s e => s.ReturnsUnheld e ∧ ¬ s.DropsLiveRow e) s) :
    s.ClosedOut := by
  refine h.invariant ClosedOut ?_ fun s e hs hGuard hCond => hs.effect e hGuard hCond.1 hCond.2
  rintro s rfl
  refine ⟨fun rid conn hRow => ?_, fun conn _ => ⟨fun n => nofun, nofun, fun n => id⟩⟩
  obtain ⟨row, hLookup, -⟩ := hRow
  cases hLookup

/-! ## What one step writes -/

/-- The second dispatcher has written further messages only, all to the given connections. -/
def WritesOnly (d d' : Dispatcher) (targets : Conn → Prop) : Prop :=
  ∃ messages, d'.written = d.written ++ messages ∧ ∀ m ∈ messages, targets m.1

theorem WritesOnly.same {d d' : Dispatcher} {targets : Conn → Prop} (h : d'.written = d.written) :
    WritesOnly d d' targets :=
  ⟨[], by rw [h, List.append_nil], nofun⟩

theorem WritesOnly.mono {d d' : Dispatcher} {targets targets' : Conn → Prop}
    (h : WritesOnly d d' targets) (hSub : ∀ conn, targets conn → targets' conn) :
    WritesOnly d d' targets' := by
  obtain ⟨messages, hWritten, hTargets⟩ := h
  exact ⟨messages, hWritten, fun m hm => hSub _ (hTargets m hm)⟩

theorem WritesOnly.deliver {d : Dispatcher} {found : Option Conn} {rid : Rid} {text : String}
    {dbSave : Bool} {targets : Conn → Prop} (h : ∀ conn, found = some conn → targets conn) :
    WritesOnly d (d.deliver found rid text dbSave) targets := by
  refine ⟨_, d.written_deliver found rid text dbSave, fun m hm => ?_⟩
  obtain ⟨conn, hConn, rfl⟩ := List.mem_map.mp hm
  exact h conn (Option.mem_toList.mp hConn)

theorem WritesOnly.mgWebsocketWrite (d : Dispatcher) {conn : Conn} (text : String)
    {targets : Conn → Prop} (h : targets conn) : WritesOnly d (d.mgWebsocketWrite conn text) targets := by
  refine ⟨[(conn, text)], rfl, fun m hm => ?_⟩
  rw [List.mem_singleton.mp hm]
  exact h

theorem receive_writesOnly (s : StoreThreads) (ctx : RouteContext) (worker : Conn) (uri data : String) :
    WritesOnly s.dispatcher (s.receive ctx worker uri data).dispatcher (· = worker) := by
  unfold receive
  split
  · exact .same rfl
  · cases ctx.json.parse data with
    | none => exact .same rfl
    | some root =>
      cases hVerdict : clientServiceRouteVerdict root <;> simp only [hVerdict] <;>
        exact .mgWebsocketWrite _ _ rfl

theorem connEffect_writesOnly (s : StoreThreads) (ctx : StepContext) (worker : Conn) :
    WritesOnly s.dispatcher (s.connEffect ctx worker).dispatcher (· = worker) := by
  cases hPc : s.conns worker with
  | testing rid =>
    simp only [connEffect, hPc]
    exact .deliver fun conn hConn => (Option.some.inj hConn).symm
  | dumping rid dumpRid start size =>
    simp only [connEffect, hPc, withDispatcher, setConn, gonggoResponseDump]
    split <;> exact .deliver fun conn hConn => (Option.some.inj hConn).symm
  | closing =>
    simp only [connEffect, hPc]
    cases clientConnectionTableRequestDup s.connections worker <;> exact .same rfl
  | dropServiceSetting targets drawn =>
    cases targets <;> simp only [connEffect, hPc] <;> exact .same rfl
  | _ =>
    simp only [connEffect, hPc]
    exact .same rfl

theorem subscriberEffect_writesOnly (s : StoreThreads) (ctx : StepContext) (n : Nat) :
    WritesOnly s.dispatcher (s.subscriberEffect ctx n).dispatcher
      (fun conn => (s.subscribers n).target = some conn) := by
  cases hPc : s.subscribers n with
  | writing rid found job items =>
    simp only [subscriberEffect, hPc]
    exact .deliver fun conn hConn => hConn
  | replying job items =>
    cases items with
    | nil =>
      simp only [subscriberEffect, hPc]
      exact .same rfl
    | cons item items =>
      simp only [subscriberEffect, hPc]
      cases item.valuestring <;> exact .same rfl
  | _ =>
    simp only [subscriberEffect, hPc]
    exact .same rfl

theorem timeoutEffect_writesOnly (s : StoreThreads) (ctx : StepContext) :
    WritesOnly s.dispatcher (s.timeoutEffect ctx).dispatcher
      (fun conn => s.timeout.target = some conn) := by
  cases hPc : s.timeout with
  | noticing rid found rest =>
    simp only [timeoutEffect, hPc]
    exact .deliver fun conn hConn => hConn
  | passing rids => cases rids <;> simp only [timeoutEffect, hPc] <;> exact .same rfl
  | _ =>
    simp only [timeoutEffect, hPc]
    exact .same rfl

theorem notifierEffect_writesOnly (s : StoreThreads) (ctx : StepContext) (n : Nat) :
    WritesOnly s.dispatcher (s.notifierEffect ctx n).dispatcher
      (fun conn => (s.notifiers n).Targets conn) := by
  cases hPc : s.notifiers n with
  | ready =>
    simp only [notifierEffect, hPc]
    exact .same rfl
  | collecting proxyName started rids grouped =>
    cases rids <;> simp only [notifierEffect, hPc] <;> exact .same rfl
  | writing proxyName started targets =>
    cases targets with
    | nil =>
      simp only [notifierEffect, hPc]
      exact .same rfl
    | cons target targets =>
      simp only [notifierEffect, hPc]
      exact .mgWebsocketWrite _ _ ⟨target.2, List.mem_cons_self⟩

/-- Only its own worker, or a thread that holds the connection, writes to a connection. -/
theorem effect_writesOnly (s : StoreThreads) (e : StoreStep) (hGuard : e.guard s) :
    WritesOnly s.dispatcher (e.effect s).dispatcher
      (fun conn => s.conns conn = .closed → ¬ s.Unheld conn) := by
  obtain ⟨ctx, action⟩ := e
  cases action with
  | receive conn uri data =>
    refine (s.receive_writesOnly ctx.toRouteContext conn uri data).mono ?_
    rintro conn rfl hClosed
    rw [ConnPc.isReady_iff.mp hGuard] at hClosed
    cases hClosed
  | conn conn =>
    refine (s.connEffect_writesOnly ctx conn).mono ?_
    rintro conn rfl hClosed
    simp [StoreStep.guard, StoreStep.enabled, hClosed, ConnPc.busy] at hGuard
  | subscriber n =>
    exact (s.subscriberEffect_writesOnly ctx n).mono fun conn hTarget _ hUnheld =>
      hUnheld.subscribers n hTarget
  | timeout =>
    exact (s.timeoutEffect_writesOnly ctx).mono fun conn hTarget _ hUnheld => hUnheld.timeout hTarget
  | notifier n =>
    exact (s.notifierEffect_writesOnly ctx n).mono fun conn hTargets _ hUnheld =>
      hUnheld.notifiers n hTargets
  | answer n proxyName posted =>
    simp only [StoreStep.effect, answer]
    cases parsedAnswer ctx.json posted <;> exact .same rfl
  | close | pass | notify => exact .same rfl

/-- After its close handler has returned, a connection is not written to, provided no close handler
returned while another thread held its connection for a write, and no id was taken off the list of a
connection that still had its row. -/
theorem not_writes_of_closed {e : StoreStep}
    (hReach : storeThreadsSystem.ReachableWhen (fun s e => s.ReturnsUnheld e ∧ ¬ s.DropsLiveRow e) s)
    (hGuard : e.guard s) (hClosed : s.conns conn = .closed) : ¬ s.Writes e conn := by
  rintro ⟨text, hText⟩
  obtain ⟨messages, hWritten, hTargets⟩ := s.effect_writesOnly e hGuard
  have hMessages : messages = [(conn, text)] := List.append_cancel_left (hWritten.symm.trans hText)
  exact hTargets (conn, text) (hMessages ▸ List.mem_singleton_self _) hClosed
    ((closedOut_of_reachable hReach).unheld conn hClosed)

/-! ## Runs of the workers alone -/

theorem effect_of_worker (s : StoreThreads) {e : StoreStep} (h : e.action.isWorker = true) :
    (e.effect s).subscribers = s.subscribers ∧ (e.effect s).timeout = s.timeout ∧
      (e.effect s).notifiers = s.notifiers := by
  obtain ⟨ctx, action⟩ := e
  cases action with
  | receive conn uri data =>
    simp only [StoreStep.effect, receive]
    split
    · exact ⟨rfl, rfl, rfl⟩
    · cases ctx.json.parse data with
      | none => exact ⟨rfl, rfl, rfl⟩
      | some root =>
        cases hVerdict : clientServiceRouteVerdict root <;> simp only [hVerdict] <;>
          refine ⟨?_, ?_, ?_⟩ <;> trivial
  | close conn => exact ⟨rfl, rfl, rfl⟩
  | conn conn =>
    simp only [StoreStep.effect]
    cases hPc : s.conns conn with
    | ready | closed => simp [connEffect, hPc]
    | closing =>
      simp only [connEffect, hPc]
      cases clientConnectionTableRequestDup s.connections conn <;> exact ⟨rfl, rfl, rfl⟩
    | dropServiceSetting targets drawn =>
      cases targets <;> simp only [connEffect, hPc] <;> exact ⟨rfl, rfl, rfl⟩
    | _ =>
      simp only [connEffect, hPc]
      exact ⟨rfl, rfl, rfl⟩
  | _ => cases h

theorem admits_of_workers {events : List StoreStep} (hUnheld : ∀ conn, s.Unheld conn)
    (hWorkers : ∀ e ∈ events, e.action.isWorker = true)
    (hAdmits : storeThreadsSystem.Admits (fun _ _ => True) s events) :
    storeThreadsSystem.Admits (fun s e => s.ReturnsUnheld e ∧ ¬ s.DropsLiveRow e) s events := by
  induction events generalizing s with
  | nil => trivial
  | cons e events ih =>
    have hWorker := hWorkers e List.mem_cons_self
    refine ⟨hAdmits.1, ⟨fun conn _ _ => hUnheld conn, fun hDrop => ?_⟩, ?_⟩
    · obtain ⟨ctx, action⟩ := e
      cases action with
      | receive | close | conn => exact hDrop
      | _ => cases hWorker
    · obtain ⟨hSubscribers, hTimeout, hNotifiers⟩ := s.effect_of_worker hWorker
      exact ih (fun conn => unheld_congr hSubscribers hTimeout hNotifiers (hUnheld conn))
        (fun e' h => hWorkers e' (List.mem_cons_of_mem _ h)) hAdmits.2.2

/-- A request is routed and its connection closes before the timeout thread looks at it. -/
def closeBeforePass : List StoreStep :=
  sampleRouteSteps 1 100 ++
    [.close 1, .conn 1, .conn 1, .conn 1, .conn 1, .conn 1, .conn 1, .conn 1, .conn 1, .conn 1, .conn 1,
      .conn 1].map (sampleStep 200)

/-- Another client sends its request then. -/
def receiveOther : StoreStep :=
  sampleStep 200 (.receive 2 "/gonggo" (printUnformatted (sampleRequest "r" "weather" "today")))

theorem not_writes_of_closed_receiveOther :
    ¬ (storeThreadsSystem.run .started closeBeforePass).Writes receiveOther 1 ∧
      (storeThreadsSystem.run .started closeBeforePass).Writes receiveOther 2 :=
  ⟨not_writes_of_closed
    (.run (.init rfl) closeBeforePass
      (admits_of_workers (fun _ => ⟨fun _ => nofun, nofun, fun _ => id⟩) (by decide) (by decide)))
    (by decide) (ConnPc.isClosed_iff.mp (by decide)),
    printUnformatted (parsingStatusText (some "r") .requestParseStatusAcknowledged), by decide⟩

/-- The timeout thread has looked up the expired request, and its connection closes before the
notice is written. -/
def closeBeforeNotice : List StoreStep :=
  sampleRouteSteps 1 100 ++
    [.pass, .timeout, .close 1, .conn 1, .conn 1, .conn 1, .conn 1, .conn 1, .conn 1, .conn 1, .conn 1,
      .conn 1, .conn 1, .conn 1].map (sampleStep 200)

theorem writes_after_close :
    ¬ ∀ s e conn, storeThreadsSystem.Reachable s → e.guard s → s.conns conn = .closed →
      ¬ s.Writes e conn := by
  intro h
  have hReach : storeThreadsSystem.Reachable (storeThreadsSystem.run .started closeBeforeNotice) :=
    .run (.init rfl) closeBeforeNotice (by decide)
  refine h _ (sampleStep 200 .timeout) 1 hReach (by decide) (ConnPc.isClosed_iff.mp (by decide)) ?_
  exact ⟨printUnformatted (expiredReplyText "r"), by decide⟩

end StoreThreads

end Gonggo
