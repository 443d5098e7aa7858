import Gonggo.StoreThreads

/-! # One terminal message for each request

An acknowledged proxy request ends with an answer that removes it or with the notice that it is
expired. The answer path takes the row and its connection in one step; the timeout thread looks the
row up, writes the notice and removes whatever row it then finds.
-/

namespace Gonggo

/-- The request that the subscribe thread took out of the table and goes on to answer. -/
def SubscribePc.terminalFor : SubscribePc → Option Nat
  | .connectionDropping _ held job _ => if job.removeRequest then some held.use else none
  | .proxynameDropping _ found job _ | .serviceRemoving _ found job _ | .writing _ found job _ =>
      if job.removeRequest then found.map Held.use else none
  | _ => none

theorem SubscribePc.terminalFor_afterLookup (rid : Rid) (found : Option Held) (job : SubscribeJob)
    (items : List CJson) :
    (afterLookup rid found job items).terminalFor =
      if job.removeRequest then found.map Held.use else none := by
  unfold afterLookup
  cases hRemove : job.removeRequest
  · simp [terminalFor, hRemove]
  · cases found <;> simp [terminalFor, hRemove]

/-- The request that the timeout thread looked up and goes on to write the notice for. -/
def TimeoutPc.noticeFor : TimeoutPc → Option (Rid × Nat)
  | .noticing rid found _ => found.map fun held => (rid, held.use)
  | _ => none

/-- The request whose notice the timeout thread has written and whose row it goes on to remove. -/
def TimeoutPc.noticedFor : TimeoutPc → Option (Rid × Nat)
  | .requestRemoving rid found _ => found.map fun held => (rid, held.use)
  | _ => none

/-- The request whose row the worker goes on to write. -/
def ConnPc.saving : ConnPc → Option (Rid × Nat)
  | .requestSetting req k => some (req.rid, k)
  | _ => none

/-- The request whose row the worker has written in the middle of its route steps. -/
def ConnPc.routing : ConnPc → Option Nat
  | .connectionSetting _ k | .serviceSetting _ k | .proxynameSetting _ k => some k
  | _ => none

def ConnPc.isClosing : ConnPc → Bool
  | .ready | .testing _ | .dumping _ _ _ _ | .requestSetting _ _ | .connectionSetting _ _
  | .serviceSetting _ _ | .proxynameSetting _ _ => false
  | _ => true

namespace StoreThreads

variable {s s' : StoreThreads}

/-- A thread already holds the request and goes on to write its terminal message. -/
def AboutToReceive (s : StoreThreads) (k : Nat) : Prop :=
  (∃ rid, s.timeout.noticeFor = some (rid, k)) ∨ ∃ n, (s.subscribers n).terminalFor = some k

/-- The request table has the row of the request. -/
def Present (s : StoreThreads) (k : Nat) : Prop :=
  (s.found (s.history.rid k)).map Held.use = some k

/-- The request got at most one terminal message, and once it is routed and its row is gone it got
one, is about to, or its connection is closed or it was purged. -/
structure Outcome (s : StoreThreads) (k : Nat) : Prop where
  atMostOne : s.history.terminals k ≤ 1
  notLost : s.history.routed k = true → ¬ s.Present k →
    s.history.terminals k = 1 ∨ s.AboutToReceive k ∨ s.history.closed k = true ∨
      s.history.purged k = true

instance decidablePresent (s : StoreThreads) (k : Nat) : Decidable (s.Present k) :=
  inferInstanceAs (Decidable (_ = _))

/-- A client sends an id again only when the last request under it got a terminal message. -/
def ReusesInTurn (s : StoreThreads) (e : StoreStep) : Prop :=
  match e.action with
  | .receive _ uri data =>
      ∀ rid ∈ clientServiceRoutedRid e.ctx.toRouteContext uri data, ∀ k ∈ s.history.last rid,
        0 < s.history.terminals k
  | _ => True

instance decidableReusesInTurn (s : StoreThreads) : ∀ e, Decidable (s.ReusesInTurn e)
  | ⟨_, .receive _ _ _⟩ => inferInstanceAs (Decidable (∀ rid ∈ _, ∀ k ∈ s.history.last rid, _))
  | ⟨_, .close _⟩ | ⟨_, .conn _⟩ | ⟨_, .answer _ _ _⟩ | ⟨_, .subscriber _⟩ | ⟨_, .pass⟩
  | ⟨_, .timeout⟩ | ⟨_, .notify _ _ _⟩ | ⟨_, .notifier _⟩ => inferInstanceAs (Decidable True)

/-- The timeout thread goes on to remove a row other than the one it looked up. -/
def timeoutRemovesForeignRow (s : StoreThreads) : TimeoutPc → Prop
  | .requestRemoving rid found _ => ∃ k ∈ (s.found rid).map Held.use, found.map Held.use ≠ some k
  | _ => False

/-- The subscribe thread goes on to take a row that the timeout thread looked up and has not removed. -/
def subscriberTakesForeignRow (s : StoreThreads) : SubscribePc → Prop
  | .replying job (item :: _) =>
      job.removeRequest = true ∧ ∃ rid ∈ item.valuestring, ∃ k ∈ (s.found rid).map Held.use,
        s.timeout.noticeFor = some (rid, k) ∨ s.timeout.noticedFor = some (rid, k)
  | _ => False

/-- The close handler goes on to remove the row of another connection. -/
def connRemovesForeignRow (s : StoreThreads) (conn : Conn) : ConnPc → Prop
  | .requestRemoving rid _ _ => ∃ holder ∈ (s.found rid).map Held.conn, holder ≠ conn
  | _ => False

/-- The step takes a row that another thread is about to end or that belongs to another request. -/
def TakesForeignRow (s : StoreThreads) (e : StoreStep) : Prop :=
  match e.action with
  | .timeout => timeoutRemovesForeignRow s s.timeout
  | .subscriber n => subscriberTakesForeignRow s (s.subscribers n)
  | .conn conn => connRemovesForeignRow s conn (s.conns conn)
  | _ => False

instance decidableTimeoutRemovesForeignRow (s : StoreThreads) :
    ∀ pc, Decidable (timeoutRemovesForeignRow s pc)
  | .requestRemoving _ _ _ => inferInstanceAs (Decidable (∃ k ∈ _, _))
  | .ready | .passing _ | .noticing _ _ _ | .connectionDropping _ _ _ | .serviceRemoving _ _
  | .proxynamesCopying _ _ | .proxynameDropping _ _ _ => inferInstanceAs (Decidable False)

instance decidableSubscriberTakesForeignRow (s : StoreThreads) :
    ∀ pc, Decidable (subscriberTakesForeignRow s pc)
  | .replying _ (_ :: _) => inferInstanceAs (Decidable (_ ∧ ∃ rid ∈ _, ∃ k ∈ (s.found rid).map Held.use, _))
  | .replying _ [] | .ready | .purgeTaking _ _ _ | .purgeConnectionDropping _ _ _ _
  | .purgeProxynamesCopying _ _ _ | .purgeProxynameDropping _ _ _ _ | .purgeServiceRemoving _ _ _
  | .connectionDropping _ _ _ _ | .proxynameDropping _ _ _ _ | .serviceRemoving _ _ _ _
  | .writing _ _ _ _ => inferInstanceAs (Decidable False)

instance decidableConnRemovesForeignRow (s : StoreThreads) (conn : Conn) :
    ∀ pc, Decidable (connRemovesForeignRow s conn pc)
  | .requestRemoving _ _ _ => inferInstanceAs (Decidable (∃ holder ∈ _, _))
  | .ready | .testing _ | .dumping _ _ _ _ | .requestSetting _ _ | .connectionSetting _ _
  | .serviceSetting _ _ | .proxynameSetting _ _ | .closing | .naming _ _ _ | .serviceRemoving _ _ _
  | .proxynamesCopying _ _ _ | .proxynameDropping _ _ _ _ | .targeting _ | .dropServiceSetting _ _
  | .dropProxynameSetting _ _ _ _ | .connectionRemoving | .closed => inferInstanceAs (Decidable False)

instance decidableTakesForeignRow (s : StoreThreads) : ∀ e, Decidable (s.TakesForeignRow e)
  | ⟨_, .timeout⟩ => decidableTimeoutRemovesForeignRow s s.timeout
  | ⟨_, .subscriber n⟩ => decidableSubscriberTakesForeignRow s (s.subscribers n)
  | ⟨_, .conn conn⟩ => decidableConnRemovesForeignRow s conn (s.conns conn)
  | ⟨_, .receive _ _ _⟩ | ⟨_, .close _⟩ | ⟨_, .answer _ _ _⟩ | ⟨_, .pass⟩ | ⟨_, .notify _ _ _⟩
  | ⟨_, .notifier _⟩ => inferInstanceAs (Decidable False)

/-- What the workers keep: only the last request under an id can still lack its terminal message, a
request is saved once, and a closing connection has all its requests marked as closed. -/
structure Routing (s : StoreThreads) : Prop where
  superseded : ∀ k < s.history.count, s.history.last (s.history.rid k) ≠ some k →
    0 < s.history.terminals k
  saving : ∀ conn rid k, (s.conns conn).saving = some (rid, k) → k < s.history.count ∧
    s.history.conn k = conn ∧ s.history.rid k = rid ∧ s.history.saved k = false
  routing : ∀ conn k, (s.conns conn).routing = some k → k < s.history.count ∧ s.history.saved k = true
  routed : ∀ k < s.history.count, s.history.routed k = true → s.history.saved k = true
  closing : ∀ conn, (s.conns conn).isClosing = true → ∀ k < s.history.count,
    s.history.conn k = conn → s.history.closed k = true

/-- What the threads that end requests keep: a row belongs to a request that is still to end, one
thread at most is about to end a request, and no saved request is lost. -/
structure Holding (s : StoreThreads) : Prop where
  row : ∀ rid held, s.found rid = some held → held.use < s.history.count ∧
    s.history.conn held.use = held.conn ∧ s.history.rid held.use = rid ∧
    s.history.saved held.use = true
  rowOpen : ∀ rid held, s.found rid = some held →
    s.history.terminals held.use = 0 ∨ s.timeout.noticedFor = some (rid, held.use)
  rowUnheld : ∀ rid held, s.found rid = some held → ∀ n, (s.subscribers n).terminalFor ≠ some held.use
  answer : ∀ n k, (s.subscribers n).terminalFor = some k → k < s.history.count ∧
    s.history.saved k = true ∧ s.history.terminals k = 0 ∧
    ∀ rid, s.timeout.noticeFor ≠ some (rid, k)
  answerUnique : ∀ n m k, (s.subscribers n).terminalFor = some k →
    (s.subscribers m).terminalFor = some k → n = m
  notice : ∀ rid k, s.timeout.noticeFor = some (rid, k) → k < s.history.count ∧
    s.history.rid k = rid ∧ s.history.saved k = true ∧ s.history.terminals k = 0
  noticed : ∀ rid k, s.timeout.noticedFor = some (rid, k) → k < s.history.count ∧
    s.history.rid k = rid ∧ 0 < s.history.terminals k
  atMostOne : ∀ k < s.history.count, s.history.terminals k ≤ 1
  unsaved : ∀ k < s.history.count, s.history.saved k = false → s.history.terminals k = 0
  kept : ∀ k < s.history.count, s.history.saved k = true → s.Present k ∨ 0 < s.history.terminals k ∨
    s.AboutToReceive k ∨ s.history.closed k = true ∨ s.history.purged k = true

theorem outcome_of_holding (hRouting : s.Routing) (hHolding : s.Holding) {k : Nat}
    (hk : k < s.history.count) : s.Outcome k := by
  refine ⟨hHolding.atMostOne k hk, fun hRouted hAbsent => ?_⟩
  rcases hHolding.kept k hk (hRouting.routed k hk hRouted) with hPresent | hTerminal | hElse
  · exact absurd hPresent hAbsent
  · exact .inl (Nat.le_antisymm (hHolding.atMostOne k hk) hTerminal)
  · exact .inr hElse

/-! ## Rows after one step -/

theorem found_congr (hRequests : s'.requests = s.requests)
    (hEntry : s'.history.entry = s.history.entry) (rid : Rid) : s'.found rid = s.found rid := by
  rw [found, found, hRequests, hEntry]

theorem found_remove {rid : Rid} (hRequests : s'.requests = clientRequestTableRemove s.requests rid)
    (hEntry : s'.history.entry = s.history.entry) (other : Rid) :
    s'.found other = if other = rid then none else s.found other := by
  rw [found, found, hRequests, hEntry, clientRequestTableRemove, HashTable.lookup_remove]
  split <;> rfl

theorem found_take {rid : Rid} {updateTime : Bool} {now : Time}
    (hRequests : s'.requests = (clientRequestTableGetConn s.requests rid updateTime true now).2)
    (hEntry : s'.history.entry = s.history.entry) (other : Rid) :
    s'.found other = if other = rid then none else s.found other := by
  rw [found, found, hRequests, hEntry, lookup_clientRequestTableGetConn_remove]
  split <;> rfl

theorem found_of_removed {rid other : Rid} {held : Held}
    (hFound : ∀ other, s'.found other = if other = rid then none else s.found other)
    (hSome : s'.found other = some held) : other ≠ rid ∧ s.found other = some held := by
  rw [hFound] at hSome
  split at hSome
  · cases hSome
  · rename_i hNe
    exact ⟨hNe, hSome⟩

theorem found_keep {rid : Rid} {updateTime : Bool} {now : Time}
    (hRequests : s'.requests = (clientRequestTableGetConn s.requests rid updateTime false now).2)
    (hEntry : s'.history.entry = s.history.entry) (other : Rid) : s'.found other = s.found other := by
  have hConn := conn_clientRequestTableGetConn_keep s.requests rid other updateTime now
  have hVia : ∀ t : StoreThreads, t.found other =
      ((t.requests.lookup other).map ClientRequestTableContext.conn).map
        fun conn => ⟨conn, t.history.entry other⟩ := by
    intro t
    rw [found, Option.map_map]
    rfl
  rw [hVia, hVia, hRequests, hEntry, hConn]

theorem found_set {rid : Rid} {conn : Conn} {timeout now : Time} {k : Nat}
    (hRequests : s'.requests = clientRequestTableSet s.requests rid conn timeout now)
    (hEntry : s'.history.entry = Function.update s.history.entry rid k) (other : Rid) :
    s'.found other = if other = rid then some ⟨conn, k⟩ else s.found other := by
  rw [found, found, hRequests, hEntry, lookup_clientRequestTableSet]
  split
  · rename_i h
    rw [h, Function.update_self]
    rfl
  · rename_i h
    rw [Function.update_of_ne h]

/-! ## The history after one step -/

/-- The second history has further marks and no further requests or rows. -/
structure Marks (s s' : StoreThreads) : Prop where
  count : s'.history.count = s.history.count
  conn : s'.history.conn = s.history.conn
  rid : s'.history.rid = s.history.rid
  saved : s'.history.saved = s.history.saved
  routed : ∀ k, s'.history.routed k = true → s.history.routed k = true ∨ s.history.saved k = true
  last : s'.history.last = s.history.last
  terminals : ∀ k, s.history.terminals k ≤ s'.history.terminals k
  closed : ∀ k, s.history.closed k = true → s'.history.closed k = true
  purged : ∀ k, s.history.purged k = true → s'.history.purged k = true

theorem Marks.same (h : s'.history = s.history) : s.Marks s' := by
  constructor <;> simp +contextual [h]

theorem Marks.terminal {k : Nat} (h : s'.history = s.history.terminal k) : s.Marks s' := by
  constructor <;> simp only [h, UseHistory.terminal] <;> intro j
  · exact .inl
  · by_cases hj : j = k
    · subst hj
      rw [Function.update_self]
      exact Nat.le_succ _
    · rw [Function.update_of_ne hj]
  · exact id
  · exact id

theorem Marks.ended {found : Option Held} (h : s'.history = s.ended found) : s.Marks s' := by
  cases found with
  | none => exact .same h
  | some held => exact .terminal h

theorem Marks.purge {k : Nat} (h : s'.history = s.history.purge k) : s.Marks s' := by
  constructor <;> simp only [h, UseHistory.purge] <;> intro j
  · exact .inl
  · exact Nat.le_refl _
  · exact id
  · by_cases hj : j = k
    · subst hj
      rw [Function.update_self]
      exact fun _ => rfl
    · rw [Function.update_of_ne hj]
      exact id

theorem Marks.purgedRow {found : Option Held} (h : s'.history = s.purged found) : s.Marks s' := by
  cases found with
  | none => exact .same h
  | some held => exact .purge h

theorem Marks.close {conn : Conn} (h : s'.history = s.history.close conn) : s.Marks s' := by
  constructor <;> simp only [h, UseHistory.close] <;> intro j
  · exact .inl
  · exact Nat.le_refl _
  · intro hClosed
    rw [hClosed, Bool.true_or]
  · exact id

theorem Marks.route {k : Nat} (hSaved : s.history.saved k = true) (h : s'.history = s.history.route k) :
    s.Marks s' := by
  constructor <;> simp only [h, UseHistory.route] <;> intro j
  · by_cases hj : j = k
    · subst hj
      exact fun _ => .inr hSaved
    · rw [Function.update_of_ne hj]
      exact .inl
  · exact Nat.le_refl _
  · exact id
  · exact id

namespace Routing

theorem of_marks (h : s.Routing) (hMarks : s.Marks s')
    (hSaving : ∀ conn rid k, (s'.conns conn).saving = some (rid, k) →
      (s.conns conn).saving = some (rid, k))
    (hRouting : ∀ conn k, (s'.conns conn).routing = some k → (s.conns conn).routing = some k)
    (hClosing : ∀ conn, (s'.conns conn).isClosing = true → ∀ k < s.history.count,
      s.history.conn k = conn → s'.history.closed k = true) : s'.Routing := by
  refine ⟨fun k hk hLast => ?_, fun conn rid k hPc => ?_, fun conn k hPc => ?_, fun k hk hRouted => ?_,
    fun conn hPc k hk hConn => ?_⟩
  · rw [hMarks.count] at hk
    rw [hMarks.last, hMarks.rid] at hLast
    exact Nat.lt_of_lt_of_le (h.superseded k hk hLast) (hMarks.terminals k)
  · rw [hMarks.count, hMarks.conn, hMarks.rid, hMarks.saved]
    exact h.saving conn rid k (hSaving conn rid k hPc)
  · rw [hMarks.count, hMarks.saved]
    exact h.routing conn k (hRouting conn k hPc)
  · rw [hMarks.count] at hk
    rw [hMarks.saved]
    rcases hMarks.routed k hRouted with hOld | hSaved
    · exact h.routed k hk hOld
    · exact hSaved
  · rw [hMarks.count] at hk
    rw [hMarks.conn] at hConn
    exact hClosing conn hPc k hk hConn

theorem of_other (h : s.Routing) (hMarks : s.Marks s') (hConns : s'.conns = s.conns) : s'.Routing := by
  refine h.of_marks hMarks ?_ ?_ ?_
  · rw [hConns]
    exact fun _ _ _ => id
  · rw [hConns]
    exact fun _ _ => id
  · rw [hConns]
    exact fun conn hPc k hk hConn => hMarks.closed k (h.closing conn hPc k hk hConn)

theorem of_worker {worker : Conn} {pc : ConnPc} (h : s.Routing) (hMarks : s.Marks s')
    (hConns : s'.conns = Function.update s.conns worker pc) (hSaving : pc.saving = none)
    (hRouting : ∀ k, pc.routing = some k → (s.conns worker).routing = some k)
    (hClosing : pc.isClosing = true → ∀ k < s.history.count, s.history.conn k = worker →
      s'.history.closed k = true) : s'.Routing := by
  refine h.of_marks hMarks (fun conn rid k hPc => ?_) (fun conn k hPc => ?_)
    (fun conn hPc k hk hConn => ?_) <;> rw [hConns] at hPc <;> by_cases hWorker : conn = worker
  · subst hWorker
    rw [Function.update_self, hSaving] at hPc
    cases hPc
  · rwa [Function.update_of_ne hWorker] at hPc
  · subst hWorker
    rw [Function.update_self] at hPc
    exact hRouting k hPc
  · rwa [Function.update_of_ne hWorker] at hPc
  · subst hWorker
    rw [Function.update_self] at hPc
    exact hClosing hPc k hk hConn
  · rw [Function.update_of_ne hWorker] at hPc
    exact hMarks.closed k (h.closing conn hPc k hk hConn)

end Routing

namespace Holding

theorem of_turn (h : s.Holding) (hMarks : s.Marks s')
    (hTerminals : s'.history.terminals = s.history.terminals)
    (hFound : ∀ rid, s'.found rid = s.found rid)
    (hAnswers : ∀ n, (s'.subscribers n).terminalFor = (s.subscribers n).terminalFor)
    (hNotice : s'.timeout.noticeFor = s.timeout.noticeFor)
    (hNoticed : s'.timeout.noticedFor = s.timeout.noticedFor) : s'.Holding := by
  refine ⟨?_, ?_, ?_, ?_, ?_, ?_, ?_, ?_, ?_, fun k hk hSaved => ?_⟩
  · simpa only [hFound, hMarks.count, hMarks.conn, hMarks.rid, hMarks.saved] using h.row
  · simpa only [hFound, hTerminals, hNoticed] using h.rowOpen
  · simpa only [hFound, hAnswers] using h.rowUnheld
  · simpa only [hAnswers, hMarks.count, hMarks.saved, hTerminals, hNotice] using h.answer
  · simpa only [hAnswers] using h.answerUnique
  · simpa only [hNotice, hMarks.count, hMarks.rid, hMarks.saved, hTerminals] using h.notice
  · simpa only [hNoticed, hMarks.count, hMarks.rid, hTerminals] using h.noticed
  · simpa only [hMarks.count, hTerminals] using h.atMostOne
  · simpa only [hMarks.count, hMarks.saved, hTerminals] using h.unsaved
  · rw [hMarks.count] at hk
    rw [hMarks.saved] at hSaved
    have hKept := h.kept k hk hSaved
    simp only [Present, AboutToReceive, hFound, hMarks.rid, hTerminals, hAnswers, hNotice] at hKept ⊢
    rcases hKept with hPresent | hTerminal | hAbout | hClosed | hPurged
    · exact .inl hPresent
    · exact .inr (.inl hTerminal)
    · exact .inr (.inr (.inl hAbout))
    · exact .inr (.inr (.inr (.inl (hMarks.closed k hClosed))))
    · exact .inr (.inr (.inr (.inr (hMarks.purged k hPurged))))

theorem of_remove {rid : Rid} (h : s.Holding) (hMarks : s.Marks s')
    (hTerminals : s'.history.terminals = s.history.terminals)
    (hFound : ∀ other, s'.found other = if other = rid then none else s.found other)
    (hAnswers : ∀ n, (s'.subscribers n).terminalFor = (s.subscribers n).terminalFor)
    (hNotice : s'.timeout.noticeFor = s.timeout.noticeFor)
    (hNoticed : ∀ other k, s.timeout.noticedFor = some (other, k) →
      other = rid ∨ s'.timeout.noticedFor = some (other, k))
    (hNoticedOld : ∀ entry, s'.timeout.noticedFor = some entry → s.timeout.noticedFor = some entry)
    (hLost : ∀ held, s.found rid = some held → 0 < s.history.terminals held.use ∨
      s'.history.closed held.use = true ∨ s'.history.purged held.use = true) : s'.Holding := by
  have hOld : ∀ other held, s'.found other = some held → other ≠ rid ∧ s.found other = some held :=
    fun _ _ => found_of_removed hFound
  refine ⟨fun other held hSome => ?_, fun other held hSome => ?_, fun other held hSome => ?_, ?_, ?_, ?_,
    fun other k hEntry => ?_, ?_, ?_, fun k hk hSaved => ?_⟩
  · rw [hMarks.count, hMarks.conn, hMarks.rid, hMarks.saved]
    exact h.row other held (hOld other held hSome).2
  · obtain ⟨hNe, hRow⟩ := hOld other held hSome
    rw [hTerminals]
    rcases h.rowOpen other held hRow with hZero | hEntry
    · exact .inl hZero
    · exact .inr ((hNoticed other held.use hEntry).resolve_left hNe)
  · simpa only [hAnswers] using h.rowUnheld other held (hOld other held hSome).2
  · simpa only [hAnswers, hMarks.count, hMarks.saved, hTerminals, hNotice] using h.answer
  · simpa only [hAnswers] using h.answerUnique
  · simpa only [hNotice, hMarks.count, hMarks.rid, hMarks.saved, hTerminals] using h.notice
  · rw [hMarks.count, hMarks.rid, hTerminals]
    exact h.noticed other k (hNoticedOld _ hEntry)
  · simpa only [hMarks.count, hTerminals] using h.atMostOne
  · simpa only [hMarks.count, hMarks.saved, hTerminals] using h.unsaved
  · rw [hMarks.count] at hk
    rw [hMarks.saved] at hSaved
    have hKept := h.kept k hk hSaved
    simp only [Present, AboutToReceive, hFound, hMarks.rid, hTerminals, hAnswers, hNotice] at hKept ⊢
    rcases hKept with hPresent | hTerminal | hAbout | hClosed | hPurged
    · by_cases hRid : s.history.rid k = rid
      · rw [hRid] at hPresent
        obtain ⟨held, hHeld, rfl⟩ := Option.map_eq_some_iff.mp hPresent
        rcases hLost held hHeld with hTerminal | hElse
        · exact .inr (.inl hTerminal)
        · exact .inr (.inr (.inr hElse))
      · rw [if_neg hRid]
        exact .inl hPresent
    · exact .inr (.inl hTerminal)
    · exact .inr (.inr (.inl hAbout))
    · exact .inr (.inr (.inr (.inl (hMarks.closed k hClosed))))
    · exact .inr (.inr (.inr (.inr (hMarks.purged k hPurged))))

theorem of_take {rid : Rid} {n : Nat} {held : Held} (h : s.Holding) (hHistory : s'.history = s.history)
    (hHeld : s.found rid = some held)
    (hFound : ∀ other, s'.found other = if other = rid then none else s.found other)
    (hBefore : (s.subscribers n).terminalFor = none)
    (hAfter : (s'.subscribers n).terminalFor = some held.use)
    (hAnswers : ∀ m, m ≠ n → (s'.subscribers m).terminalFor = (s.subscribers m).terminalFor)
    (hTimeout : s'.timeout = s.timeout)
    (hNotice : s.timeout.noticeFor ≠ some (rid, held.use))
    (hNoticed : s.timeout.noticedFor ≠ some (rid, held.use)) : s'.Holding := by
  obtain ⟨hCount, hConn, hRid, hSaved⟩ := h.row rid held hHeld
  have hZero := (h.rowOpen rid held hHeld).resolve_right hNoticed
  have hOld : ∀ other held, s'.found other = some held → other ≠ rid ∧ s.found other = some held :=
    fun _ _ => found_of_removed hFound
  have hWas : ∀ m k, (s'.subscribers m).terminalFor = some k →
      (m = n ∧ k = held.use) ∨ (m ≠ n ∧ (s.subscribers m).terminalFor = some k) := by
    intro m k hm
    by_cases hEq : m = n
    · subst hEq
      rw [hAfter, Option.some.injEq] at hm
      exact .inl ⟨rfl, hm.symm⟩
    · rw [hAnswers m hEq] at hm
      exact .inr ⟨hEq, hm⟩
  refine ⟨fun other held' hSome => ?_, fun other held' hSome => ?_, fun other held' hSome m hm => ?_,
    fun m k hm => ?_, fun m m' k hm hm' => ?_, ?_, ?_, ?_, ?_, fun k hk hSavedK => ?_⟩
  · rw [hHistory]
    exact h.row other held' (hOld other held' hSome).2
  · rw [hHistory, hTimeout]
    exact h.rowOpen other held' (hOld other held' hSome).2
  · obtain ⟨hNe, hRow⟩ := hOld other held' hSome
    rcases hWas m _ hm with ⟨-, hUse⟩ | ⟨-, hOther⟩
    · have hRidOther := (h.row other held' hRow).2.2.1
      rw [hUse, hRid] at hRidOther
      exact hNe hRidOther.symm
    · exact h.rowUnheld other held' hRow m hOther
  · rw [hHistory, hTimeout]
    rcases hWas m k hm with ⟨-, rfl⟩ | ⟨-, hOther⟩
    · refine ⟨hCount, hSaved, hZero, fun other hEntry => ?_⟩
      have hRidOther := (h.notice other held.use hEntry).2.1
      rw [hRid] at hRidOther
      subst hRidOther
      exact hNotice hEntry
    · exact h.answer m k hOther
  · rcases hWas m k hm with ⟨rfl, rfl⟩ | ⟨-, hOther⟩ <;>
      rcases hWas m' _ hm' with ⟨rfl, hUse⟩ | ⟨-, hOther'⟩
    · rfl
    · exact absurd hOther' (h.rowUnheld rid held hHeld m')
    · rw [hUse] at hOther
      exact absurd hOther (h.rowUnheld rid held hHeld m)
    · exact h.answerUnique m m' k hOther hOther'
  · simpa only [hHistory, hTimeout] using h.notice
  · simpa only [hHistory, hTimeout] using h.noticed
  · simpa only [hHistory] using h.atMostOne
  · simpa only [hHistory] using h.unsaved
  · rw [hHistory] at hk hSavedK ⊢
    rcases h.kept k hk hSavedK with hPresent | hTerminal | hAbout | hElse
    · by_cases hEq : s.history.rid k = rid
      · rw [Present, hEq, hHeld, Option.map_some, Option.some.injEq] at hPresent
        exact .inr (.inr (.inl (.inr ⟨n, hPresent ▸ hAfter⟩)))
      · refine .inl ?_
        rw [Present, hHistory, hFound, if_neg hEq]
        exact hPresent
    · exact .inr (.inl hTerminal)
    · refine .inr (.inr (.inl ?_))
      rcases hAbout with hEntry | ⟨m, hm⟩
      · exact .inl (hTimeout ▸ hEntry)
      · refine .inr ⟨m, ?_⟩
        rw [hAnswers m fun hEq => ?_]
        · exact hm
        · rw [hEq, hBefore] at hm
          cases hm
    · exact .inr (.inr (.inr hElse))

theorem of_answered {n k : Nat} (h : s.Holding) (hHistory : s'.history = s.history.terminal k)
    (hFound : ∀ rid, s'.found rid = s.found rid) (hBefore : (s.subscribers n).terminalFor = some k)
    (hAfter : (s'.subscribers n).terminalFor = none)
    (hAnswers : ∀ m, m ≠ n → (s'.subscribers m).terminalFor = (s.subscribers m).terminalFor)
    (hTimeout : s'.timeout = s.timeout) : s'.Holding := by
  obtain ⟨hCount, hSaved, hZero, hNotice⟩ := h.answer n k hBefore
  have hMarks : s.Marks s' := .terminal hHistory
  have hSelf : s'.history.terminals k = 1 := by
    rw [hHistory, UseHistory.terminals_terminal_self, hZero]
  have hNe : ∀ j, j ≠ k → s'.history.terminals j = s.history.terminals j := by
    intro j hj
    rw [hHistory, UseHistory.terminals_terminal_ne _ hj]
  have hWas : ∀ m j, (s'.subscribers m).terminalFor = some j →
      m ≠ n ∧ (s.subscribers m).terminalFor = some j := by
    intro m j hm
    by_cases hEq : m = n
    · rw [hEq, hAfter] at hm
      cases hm
    · exact ⟨hEq, hAnswers m hEq ▸ hm⟩
  refine ⟨?_, fun rid held hSome => ?_, fun rid held hSome m hm => ?_, fun m j hm => ?_,
    fun m m' j hm hm' => h.answerUnique m m' j (hWas m j hm).2 (hWas m' j hm').2, fun rid j hEntry => ?_,
    fun rid j hEntry => ?_, fun j hj => ?_, fun j hj hUnsaved => ?_, fun j hj hSavedJ => ?_⟩
  · simpa only [hFound, hMarks.count, hMarks.conn, hMarks.rid, hMarks.saved] using h.row
  · rw [hFound] at hSome
    have hOther : held.use ≠ k := fun hEq => h.rowUnheld rid held hSome n (hEq ▸ hBefore)
    rw [hNe _ hOther, hTimeout]
    exact h.rowOpen rid held hSome
  · rw [hFound] at hSome
    exact h.rowUnheld rid held hSome m (hWas m _ hm).2
  · obtain ⟨hm', hOld⟩ := hWas m j hm
    have hOther : j ≠ k := fun hEq => hm' (h.answerUnique m n k (hEq ▸ hOld) hBefore)
    rw [hMarks.count, hMarks.saved, hNe j hOther, hTimeout]
    exact h.answer m j hOld
  · rw [hTimeout] at hEntry
    have hOther : j ≠ k := fun hEq => hNotice rid (hEq ▸ hEntry)
    rw [hMarks.count, hMarks.rid, hMarks.saved, hNe j hOther]
    exact h.notice rid j hEntry
  · rw [hTimeout] at hEntry
    obtain ⟨hj, hRid, hTerminal⟩ := h.noticed rid j hEntry
    rw [hMarks.count, hMarks.rid]
    exact ⟨hj, hRid, Nat.lt_of_lt_of_le hTerminal (hMarks.terminals j)⟩
  · rw [hMarks.count] at hj
    by_cases hEq : j = k
    · rw [hEq, hSelf]
    · rw [hNe j hEq]
      exact h.atMostOne j hj
  · rw [hMarks.count] at hj
    rw [hMarks.saved] at hUnsaved
    have hOther : j ≠ k := by
      rintro rfl
      rw [hSaved] at hUnsaved
      cases hUnsaved
    rw [hNe j hOther]
    exact h.unsaved j hj hUnsaved
  · rw [hMarks.count] at hj
    rw [hMarks.saved] at hSavedJ
    by_cases hEq : j = k
    · rw [hEq, hSelf]
      exact .inr (.inl Nat.one_pos)
    · rw [hNe j hEq]
      have hKept := h.kept j hj hSavedJ
      simp only [Present, AboutToReceive, hFound, hMarks.rid, hTimeout] at hKept ⊢
      rcases hKept with hPresent | hTerminal | (hEntry | ⟨m, hm⟩) | hClosed | hPurged
      · exact .inl hPresent
      · exact .inr (.inl hTerminal)
      · exact .inr (.inr (.inl (.inl hEntry)))
      · refine .inr (.inr (.inl (.inr ⟨m, ?_⟩)))
        rw [hAnswers m fun hmn => ?_]
        · exact hm
        · rw [hmn, hBefore, Option.some.injEq] at hm
          exact hEq hm.symm
      · exact .inr (.inr (.inr (.inl (hMarks.closed j hClosed))))
      · exact .inr (.inr (.inr (.inr (hMarks.purged j hPurged))))

theorem of_lookup {rid : Rid} (h : s.Holding) (hHistory : s'.history = s.history)
    (hFound : ∀ other, s'.found other = s.found other) (hSubscribers : s'.subscribers = s.subscribers)
    (hBefore : s.timeout.noticeFor = none ∧ s.timeout.noticedFor = none)
    (hNotice : s'.timeout.noticeFor = (s.found rid).map fun held => (rid, held.use))
    (hNoticed : s'.timeout.noticedFor = none) : s'.Holding := by
  have hZero : ∀ other held, s.found other = some held → s.history.terminals held.use = 0 := by
    intro other held hSome
    refine (h.rowOpen other held hSome).resolve_right fun hEntry => ?_
    rw [hBefore.2] at hEntry
    cases hEntry
  have hLooked : ∀ other k, s'.timeout.noticeFor = some (other, k) →
      ∃ held, s.found other = some held ∧ held.use = k := by
    intro other k hEntry
    rw [hNotice] at hEntry
    obtain ⟨held, hHeld, hEq⟩ := Option.map_eq_some_iff.mp hEntry
    obtain ⟨rfl, rfl⟩ := Prod.mk.injEq .. ▸ hEq
    exact ⟨held, hHeld, rfl⟩
  refine ⟨?_, fun other held hSome => ?_, ?_, fun n k hn => ?_, ?_, fun other k hEntry => ?_,
    fun other k hEntry => ?_, ?_, ?_, fun k hk hSaved => ?_⟩
  · simpa only [hFound, hHistory] using h.row
  · rw [hFound] at hSome
    rw [hHistory]
    exact .inl (hZero other held hSome)
  · simpa only [hFound, hSubscribers] using h.rowUnheld
  · rw [hSubscribers] at hn
    obtain ⟨hk, hSaved, hTerminals, -⟩ := h.answer n k hn
    rw [hHistory]
    refine ⟨hk, hSaved, hTerminals, fun other hEntry => ?_⟩
    obtain ⟨held, hHeld, rfl⟩ := hLooked other k hEntry
    exact h.rowUnheld other held hHeld n hn
  · simpa only [hSubscribers] using h.answerUnique
  · obtain ⟨held, hHeld, rfl⟩ := hLooked other k hEntry
    obtain ⟨hk, -, hRid, hSaved⟩ := h.row other held hHeld
    rw [hHistory]
    exact ⟨hk, hRid, hSaved, hZero other held hHeld⟩
  · rw [hNoticed] at hEntry
    cases hEntry
  · simpa only [hHistory] using h.atMostOne
  · simpa only [hHistory] using h.unsaved
  · rw [hHistory] at hk hSaved ⊢
    have hKept := h.kept k hk hSaved
    simp only [Present, AboutToReceive, hFound, hHistory, hSubscribers, hBefore.1] at hKept ⊢
    rcases hKept with hPresent | hTerminal | (⟨other, hEntry⟩ | hAnswer) | hElse
    · exact .inl hPresent
    · exact .inr (.inl hTerminal)
    · cases hEntry
    · exact .inr (.inr (.inl (.inr hAnswer)))
    · exact .inr (.inr (.inr hElse))

theorem of_noticed {rid : Rid} {k : Nat} (h : s.Holding) (hHistory : s'.history = s.history.terminal k)
    (hFound : ∀ other, s'.found other = s.found other) (hSubscribers : s'.subscribers = s.subscribers)
    (hBefore : s.timeout.noticeFor = some (rid, k)) (hBeforeNoticed : s.timeout.noticedFor = none)
    (hNotice : s'.timeout.noticeFor = none) (hNoticed : s'.timeout.noticedFor = some (rid, k)) :
    s'.Holding := by
  obtain ⟨hCount, hRid, hSaved, hZero⟩ := h.notice rid k hBefore
  have hMarks : s.Marks s' := .terminal hHistory
  have hSelf : s'.history.terminals k = 1 := by
    rw [hHistory, UseHistory.terminals_terminal_self, hZero]
  have hNe : ∀ j, j ≠ k → s'.history.terminals j = s.history.terminals j := by
    intro j hj
    rw [hHistory, UseHistory.terminals_terminal_ne _ hj]
  refine ⟨?_, fun other held hSome => ?_, ?_, fun n j hn => ?_, ?_, fun other j hEntry => ?_,
    fun other j hEntry => ?_, fun j hj => ?_, fun j hj hUnsaved => ?_, fun j hj hSavedJ => ?_⟩
  · simpa only [hFound, hMarks.count, hMarks.conn, hMarks.rid, hMarks.saved] using h.row
  · rw [hFound] at hSome
    by_cases hEq : held.use = k
    · have hOther := (h.row other held hSome).2.2.1
      rw [hEq, hRid] at hOther
      subst hOther
      exact .inr (hEq ▸ hNoticed)
    · rw [hNe _ hEq]
      refine .inl ((h.rowOpen other held hSome).resolve_right fun hEntry => ?_)
      rw [hBeforeNoticed] at hEntry
      cases hEntry
  · simpa only [hFound, hSubscribers] using h.rowUnheld
  · rw [hSubscribers] at hn
    obtain ⟨hj, hSavedJ, hZeroJ, hUnnoticed⟩ := h.answer n j hn
    have hOther : j ≠ k := fun hEq => hUnnoticed rid (hEq ▸ hBefore)
    rw [hMarks.count, hMarks.saved, hNe j hOther, hNotice]
    exact ⟨hj, hSavedJ, hZeroJ, nofun⟩
  · simpa only [hSubscribers] using h.answerUnique
  · rw [hNotice] at hEntry
    cases hEntry
  · rw [hNoticed, Option.some.injEq, Prod.mk.injEq] at hEntry
    obtain ⟨rfl, rfl⟩ := hEntry
    rw [hMarks.count, hMarks.rid, hSelf]
    exact ⟨hCount, hRid, Nat.one_pos⟩
  · rw [hMarks.count] at hj
    by_cases hEq : j = k
    · rw [hEq, hSelf]
    · rw [hNe j hEq]
      exact h.atMostOne j hj
  · rw [hMarks.count] at hj
    rw [hMarks.saved] at hUnsaved
    have hOther : j ≠ k := by
      rintro rfl
      rw [hSaved] at hUnsaved
      cases hUnsaved
    rw [hNe j hOther]
    exact h.unsaved j hj hUnsaved
  · rw [hMarks.count] at hj
    rw [hMarks.saved] at hSavedJ
    by_cases hEq : j = k
    · rw [hEq, hSelf]
      exact .inr (.inl Nat.one_pos)
    · rw [hNe j hEq]
      have hKept := h.kept j hj hSavedJ
      simp only [Present, AboutToReceive, hFound, hMarks.rid, hSubscribers] at hKept ⊢
      rcases hKept with hPresent | hTerminal | (⟨other, hEntry⟩ | hAnswer) | hClosed | hPurged
      · exact .inl hPresent
      · exact .inr (.inl hTerminal)
      · rw [hBefore, Option.some.injEq, Prod.mk.injEq] at hEntry
        exact absurd hEntry.2.symm hEq
      · exact .inr (.inr (.inl (.inr hAnswer)))
      · exact .inr (.inr (.inr (.inl (hMarks.closed j hClosed))))
      · exact .inr (.inr (.inr (.inr (hMarks.purged j hPurged))))

/-- A worker writes the row of a request that is not saved yet. The request whose row it replaces got
its terminal message, since the new one is the last under the id. -/
theorem of_save {rid : Rid} {k : Nat} (h : s.Holding) (held : Held) (hUse : held.use = k)
    (hHistory : s'.history = s.history.save rid k)
    (hFound : ∀ other, s'.found other = if other = rid then some held else s.found other)
    (hSubscribers : s'.subscribers = s.subscribers) (hTimeout : s'.timeout = s.timeout)
    (hCount : k < s.history.count) (hConn : s.history.conn k = held.conn) (hRid : s.history.rid k = rid)
    (hUnsaved : s.history.saved k = false)
    (hReplaced : ∀ j < s.history.count, s.history.rid j = rid → j ≠ k → 0 < s.history.terminals j) :
    s'.Holding := by
  have hZero := h.unsaved k hCount hUnsaved
  have hSaved : ∀ j, s'.history.saved j = true ↔ j = k ∨ s.history.saved j = true := by
    intro j
    rw [hHistory]
    by_cases hj : j = k
    · simp [UseHistory.save, hj]
    · simp [UseHistory.save, hj]
  have hSavedOld : ∀ j, s.history.saved j = true → s'.history.saved j = true := fun j hj =>
    (hSaved j).mpr (.inr hj)
  have hNotSaved : ∀ j, s.history.saved j = true → j ≠ k := by
    rintro j hj rfl
    rw [hUnsaved] at hj
    cases hj
  have hSame : s'.history.count = s.history.count ∧ s'.history.conn = s.history.conn ∧
      s'.history.rid = s.history.rid ∧ s'.history.terminals = s.history.terminals ∧
      s'.history.closed = s.history.closed ∧ s'.history.purged = s.history.purged := by
    rw [hHistory]
    exact ⟨rfl, rfl, rfl, rfl, rfl, rfl⟩
  obtain ⟨hCount', hConn', hRid', hTerminals', hClosed', hPurged'⟩ := hSame
  have hRow : ∀ other held', s'.found other = some held' →
      (other = rid ∧ held' = held) ∨ (other ≠ rid ∧ s.found other = some held') := by
    intro other held' hSome
    rw [hFound] at hSome
    split at hSome
    · rename_i hEq
      exact .inl ⟨hEq, (Option.some.inj hSome).symm⟩
    · rename_i hNe
      exact .inr ⟨hNe, hSome⟩
  refine ⟨fun other held' hSome => ?_, fun other held' hSome => ?_, fun other held' hSome n hn => ?_,
    fun n j hn => ?_, ?_, fun other j hEntry => ?_, ?_, ?_, fun j hj hFalse => ?_, fun j hj hSavedJ => ?_⟩
  · rw [hCount', hConn', hRid']
    rcases hRow other held' hSome with ⟨rfl, rfl⟩ | ⟨-, hOld⟩
    · rw [hUse]
      exact ⟨hCount, hConn, hRid, (hSaved k).mpr (.inl rfl)⟩
    · obtain ⟨hc, hcn, hr, hs⟩ := h.row other held' hOld
      exact ⟨hc, hcn, hr, hSavedOld _ hs⟩
  · rw [hTerminals', hTimeout]
    rcases hRow other held' hSome with ⟨rfl, rfl⟩ | ⟨-, hOld⟩
    · rw [hUse]
      exact .inl hZero
    · exact h.rowOpen other held' hOld
  · rw [hSubscribers] at hn
    rcases hRow other held' hSome with ⟨rfl, rfl⟩ | ⟨-, hOld⟩
    · rw [hUse] at hn
      exact hNotSaved k (h.answer n k hn).2.1 rfl
    · exact h.rowUnheld other held' hOld n hn
  · rw [hSubscribers] at hn
    obtain ⟨hj, hs, hz, hNotice⟩ := h.answer n j hn
    rw [hCount', hTerminals', hTimeout]
    exact ⟨hj, hSavedOld j hs, hz, hNotice⟩
  · simpa only [hSubscribers] using h.answerUnique
  · rw [hTimeout] at hEntry
    obtain ⟨hj, hr, hs, hz⟩ := h.notice other j hEntry
    rw [hCount', hRid', hTerminals']
    exact ⟨hj, hr, hSavedOld j hs, hz⟩
  · simpa only [hTimeout, hCount', hRid', hTerminals'] using h.noticed
  · simpa only [hCount', hTerminals'] using h.atMostOne
  · rw [hCount'] at hj
    rw [hTerminals']
    refine h.unsaved j hj ?_
    by_contra hTrue
    rw [hSavedOld j (Bool.of_not_eq_false hTrue)] at hFalse
    cases hFalse
  · rw [hCount'] at hj
    by_cases hEq : j = k
    · refine .inl ?_
      rw [Present, hRid', hEq, hRid, hFound, if_pos rfl, Option.map_some, hUse]
    · have hKept := h.kept j hj (((hSaved j).mp hSavedJ).resolve_left hEq)
      rw [hTerminals', hClosed', hPurged']
      simp only [Present, AboutToReceive, hFound, hRid', hSubscribers, hTimeout] at hKept ⊢
      by_cases hRidJ : s.history.rid j = rid
      · exact .inr (.inl (hReplaced j hj hRidJ hEq))
      · rw [if_neg hRidJ]
        exact hKept

theorem of_acknowledge {conn : Conn} {rid : Rid} (h : s.Holding)
    (hHistory : s'.history = s.history.acknowledge conn rid) (hRequests : s'.requests = s.requests)
    (hSubscribers : s'.subscribers = s.subscribers) (hTimeout : s'.timeout = s.timeout) :
    s'.Holding := by
  have hFound : ∀ other, s'.found other = s.found other :=
    found_congr hRequests (by rw [hHistory]; rfl)
  have hLt : ∀ k, k < s'.history.count → k < s.history.count ∨ k = s.history.count := by
    intro k hk
    rw [hHistory] at hk
    exact Nat.lt_succ_iff_lt_or_eq.mp hk
  have hGrow : ∀ k, k < s.history.count → k < s'.history.count := by
    intro k hk
    rw [hHistory]
    exact Nat.lt_succ_of_lt hk
  have hSame := fun k (hk : k < s.history.count) => hHistory ▸ s.history.acknowledge_of_lt conn rid hk
  have hNew : s'.history.terminals s.history.count = 0 ∧ s'.history.saved s.history.count = false := by
    rw [hHistory]
    simp [UseHistory.acknowledge]
  refine ⟨fun other held hSome => ?_, fun other held hSome => ?_, ?_, fun n k hn => ?_, ?_,
    fun other k hEntry => ?_, fun other k hEntry => ?_, fun k hk => ?_, fun k hk hUnsaved => ?_,
    fun k hk hSaved => ?_⟩
  · rw [hFound] at hSome
    have hRow := h.row other held hSome
    obtain ⟨hConn, hRid, hSaved, -⟩ := hSame held.use hRow.1
    rw [hConn, hRid, hSaved]
    exact ⟨hGrow _ hRow.1, hRow.2⟩
  · rw [hFound] at hSome
    rw [(hSame held.use (h.row other held hSome).1).2.2.2.2.1, hTimeout]
    exact h.rowOpen other held hSome
  · simpa only [hFound, hSubscribers] using h.rowUnheld
  · rw [hSubscribers] at hn
    have hAnswer := h.answer n k hn
    obtain ⟨-, -, hSaved, -, hTerminals, -⟩ := hSame k hAnswer.1
    rw [hSaved, hTerminals, hTimeout]
    exact ⟨hGrow _ hAnswer.1, hAnswer.2⟩
  · simpa only [hSubscribers] using h.answerUnique
  · rw [hTimeout] at hEntry
    have hNotice := h.notice other k hEntry
    obtain ⟨-, hRid, hSaved, -, hTerminals, -⟩ := hSame k hNotice.1
    rw [hRid, hSaved, hTerminals]
    exact ⟨hGrow _ hNotice.1, hNotice.2⟩
  · rw [hTimeout] at hEntry
    have hNoticed := h.noticed other k hEntry
    obtain ⟨-, hRid, -, -, hTerminals, -⟩ := hSame k hNoticed.1
    rw [hRid, hTerminals]
    exact ⟨hGrow _ hNoticed.1, hNoticed.2⟩
  · rcases hLt k hk with hOld | rfl
    · rw [(hSame k hOld).2.2.2.2.1]
      exact h.atMostOne k hOld
    · rw [hNew.1]
      exact Nat.zero_le 1
  · rcases hLt k hk with hOld | rfl
    · obtain ⟨-, -, hSaved, -, hTerminals, -⟩ := hSame k hOld
      rw [hTerminals]
      exact h.unsaved k hOld (hSaved ▸ hUnsaved)
    · exact hNew.1
  · rcases hLt k hk with hOld | rfl
    · obtain ⟨-, hRid, hSavedK, -, hTerminals, hClosed, hPurged⟩ := hSame k hOld
      rw [hSavedK] at hSaved
      have hKept := h.kept k hOld hSaved
      simp only [Present, AboutToReceive, hFound, hRid, hTerminals, hClosed, hPurged, hSubscribers,
        hTimeout] at hKept ⊢
      exact hKept
    · rw [hNew.2] at hSaved
      cases hSaved

end Holding

namespace Routing

theorem of_acknowledge {worker : Conn} {rid : Rid} {pc : ConnPc} (h : s.Routing)
    (hHistory : s'.history = s.history.acknowledge worker rid)
    (hConns : s'.conns = Function.update s.conns worker pc)
    (hSaving : pc.saving = some (rid, s.history.count)) (hRouting : pc.routing = none)
    (hOpen : pc.isClosing = false)
    (hReuse : ∀ k ∈ s.history.last rid, 0 < s.history.terminals k) : s'.Routing := by
  have hLt : ∀ k, k < s'.history.count → k < s.history.count ∨ k = s.history.count := by
    intro k hk
    rw [hHistory] at hk
    exact Nat.lt_succ_iff_lt_or_eq.mp hk
  have hGrow : ∀ k, k < s.history.count → k < s'.history.count := by
    intro k hk
    rw [hHistory]
    exact Nat.lt_succ_of_lt hk
  have hSame := fun k (hk : k < s.history.count) => hHistory ▸ s.history.acknowledge_of_lt worker rid hk
  have hNew : s'.history.conn s.history.count = worker ∧ s'.history.rid s.history.count = rid ∧
      s'.history.saved s.history.count = false ∧ s'.history.routed s.history.count = false := by
    rw [hHistory]
    simp [UseHistory.acknowledge]
  have hLast : ∀ other, s'.history.last other =
      if other = rid then some s.history.count else s.history.last other := by
    intro other
    rw [hHistory]
    exact Function.update_apply ..
  have hPc : ∀ conn, s'.conns conn = if conn = worker then pc else s.conns conn := by
    intro conn
    rw [hConns]
    exact Function.update_apply ..
  refine ⟨fun k hk hNot => ?_, fun conn other k hSome => ?_, fun conn k hSome => ?_,
    fun k hk hRouted => ?_, fun conn hClosing k hk hConn => ?_⟩
  · rcases hLt k hk with hOld | rfl
    · obtain ⟨-, hRid, -, -, hTerminals, -⟩ := hSame k hOld
      rw [hTerminals]
      rw [hLast, hRid] at hNot
      by_cases hEq : s.history.rid k = rid
      · by_cases hWas : s.history.last rid = some k
        · exact hReuse k hWas
        · exact h.superseded k hOld (hEq ▸ hWas)
      · rw [if_neg hEq] at hNot
        exact h.superseded k hOld hNot
    · rw [hLast, hNew.2.1, if_pos rfl] at hNot
      exact absurd rfl hNot
  · rw [hPc] at hSome
    split at hSome
    · rename_i hEq
      rw [hSaving, Option.some.injEq, Prod.mk.injEq] at hSome
      obtain ⟨rfl, rfl⟩ := hSome
      subst hEq
      refine ⟨?_, hNew.1, hNew.2.1, hNew.2.2.1⟩
      rw [hHistory]
      exact Nat.lt_succ_self _
    · have hOld := h.saving conn other k hSome
      obtain ⟨hConn, hRid, hSaved, -⟩ := hSame k hOld.1
      rw [hConn, hRid, hSaved]
      exact ⟨hGrow k hOld.1, hOld.2⟩
  · rw [hPc] at hSome
    split at hSome
    · rw [hRouting] at hSome
      cases hSome
    · have hOld := h.routing conn k hSome
      rw [(hSame k hOld.1).2.2.1]
      exact ⟨hGrow k hOld.1, hOld.2⟩
  · rcases hLt k hk with hOld | rfl
    · obtain ⟨-, -, hSaved, hRoutedK, -⟩ := hSame k hOld
      rw [hSaved]
      exact h.routed k hOld (hRoutedK ▸ hRouted)
    · rw [hNew.2.2.2] at hRouted
      cases hRouted
  · rw [hPc] at hClosing
    split at hClosing
    · rw [hOpen] at hClosing
      cases hClosing
    · rename_i hNe
      rcases hLt k hk with hOld | rfl
      · obtain ⟨hConnK, -, -, -, -, hClosed, -⟩ := hSame k hOld
        rw [hClosed]
        exact h.closing conn hClosing k hOld (hConnK ▸ hConn)
      · rw [hNew.1] at hConn
        exact absurd hConn.symm hNe

theorem of_save {worker : Conn} {rid : Rid} {k : Nat} {pc : ConnPc} (h : s.Routing)
    (hHistory : s'.history = s.history.save rid k)
    (hConns : s'.conns = Function.update s.conns worker pc)
    (hBefore : (s.conns worker).saving = some (rid, k)) (hSaving : pc.saving = none)
    (hRouting : pc.routing = some k) (hOpen : pc.isClosing = false) : s'.Routing := by
  obtain ⟨hCount, hConn, hRid, hUnsaved⟩ := h.saving worker rid k hBefore
  have hSaved : ∀ j, j ≠ k → s'.history.saved j = s.history.saved j := by
    intro j hj
    rw [hHistory]
    exact Function.update_of_ne hj ..
  have hSelf : s'.history.saved k = true := by
    rw [hHistory]
    exact Function.update_self ..
  have hPc : ∀ conn, s'.conns conn = if conn = worker then pc else s.conns conn := by
    intro conn
    rw [hConns]
    exact Function.update_apply ..
  have hSavedOld : ∀ j, s.history.saved j = true → s'.history.saved j = true := by
    intro j hj
    by_cases hEq : j = k
    · rw [hEq]
      exact hSelf
    · rw [hSaved j hEq]
      exact hj
  refine ⟨?_, fun conn other j hSome => ?_, fun conn j hSome => ?_, fun j hj hRouted => ?_,
    fun conn hClosing j hj hConnJ => ?_⟩
  · rw [hHistory]
    exact h.superseded
  · rw [hPc] at hSome
    split at hSome
    · rw [hSaving] at hSome
      cases hSome
    · rename_i hNe
      obtain ⟨hj, hConnJ, hRidJ, hUnsavedJ⟩ := h.saving conn other j hSome
      have hOther : j ≠ k := by
        rintro rfl
        exact hNe (hConnJ.symm.trans hConn)
      rw [hSaved j hOther]
      refine ⟨?_, ?_, ?_, hUnsavedJ⟩ <;> rw [hHistory]
      · exact hj
      · exact hConnJ
      · exact hRidJ
  · rw [hPc] at hSome
    split at hSome
    · rw [hRouting, Option.some.injEq] at hSome
      subst hSome
      refine ⟨?_, hSelf⟩
      rw [hHistory]
      exact hCount
    · obtain ⟨hj, hSavedJ⟩ := h.routing conn j hSome
      refine ⟨?_, hSavedOld j hSavedJ⟩
      rw [hHistory]
      exact hj
  · rw [hHistory] at hj hRouted
    exact hSavedOld j (h.routed j hj hRouted)
  · rw [hPc] at hClosing
    split at hClosing
    · rw [hOpen] at hClosing
      cases hClosing
    · rw [hHistory] at hj hConnJ ⊢
      exact h.closing conn hClosing j hj hConnJ

end Routing

/-! ## One step of the threads -/

structure Accounted (s : StoreThreads) : Prop where
  routing : s.Routing
  holding : s.Holding

namespace Accounted

theorem of_same (h : s.Accounted) (hHistory : s'.history = s.history)
    (hRequests : s'.requests = s.requests) (hConns : s'.conns = s.conns)
    (hSubscribers : s'.subscribers = s.subscribers) (hTimeout : s'.timeout = s.timeout) :
    s'.Accounted := by
  refine ⟨h.routing.of_other (.same hHistory) hConns, h.holding.of_turn (.same hHistory) ?_ ?_ ?_ ?_ ?_⟩
  · rw [hHistory]
  · exact found_congr hRequests (by rw [hHistory])
  · exact fun n => by rw [hSubscribers]
  · rw [hTimeout]
  · rw [hTimeout]

theorem of_worker {worker : Conn} {pc : ConnPc} (h : s.Accounted) (hHistory : s'.history = s.history)
    (hRequests : s'.requests = s.requests) (hConns : s'.conns = Function.update s.conns worker pc)
    (hSubscribers : s'.subscribers = s.subscribers) (hTimeout : s'.timeout = s.timeout)
    (hSaving : pc.saving = none)
    (hRouting : ∀ k, pc.routing = some k → (s.conns worker).routing = some k)
    (hClosing : pc.isClosing = true → (s.conns worker).isClosing = true) : s'.Accounted := by
  refine ⟨h.routing.of_worker (.same hHistory) hConns hSaving hRouting fun hPc k hk hConn => ?_,
    h.holding.of_turn (.same hHistory) ?_ ?_ ?_ ?_ ?_⟩
  · rw [hHistory]
    exact h.routing.closing worker (hClosing hPc) k hk hConn
  · rw [hHistory]
  · exact found_congr hRequests (by rw [hHistory])
  · exact fun n => by rw [hSubscribers]
  · rw [hTimeout]
  · rw [hTimeout]

theorem receive (h : s.Accounted) (ctx : StepContext) (worker : Conn) (uri data : String)
    (hReuse : s.ReusesInTurn ⟨ctx, .receive worker uri data⟩) :
    (s.receive ctx.toRouteContext worker uri data).Accounted := by
  unfold ReusesInTurn clientServiceRoutedRid at hReuse
  unfold StoreThreads.receive
  split
  · exact h
  · rename_i hUri
    simp only [if_neg hUri] at hReuse
    cases hParse : ctx.json.parse data with
    | none => exact h
    | some root =>
      cases hVerdict : clientServiceRouteVerdict root with
      | refused rid status =>
        simp only [hVerdict]
        exact h.of_same rfl rfl rfl rfl rfl
      | test rid =>
        simp only [hVerdict]
        exact h.of_worker rfl rfl rfl rfl rfl rfl nofun nofun
      | responseDump rid dumpRid start size =>
        simp only [hVerdict]
        exact h.of_worker rfl rfl rfl rfl rfl rfl nofun nofun
      | proxyRequest rid proxyName serviceName payload timeout =>
        simp only [hParse, hVerdict, Option.map_some, Option.mem_def, Option.some.injEq,
          forall_eq'] at hReuse
        simp only [hVerdict]
        exact ⟨h.routing.of_acknowledge rfl rfl rfl rfl rfl hReuse,
          h.holding.of_acknowledge rfl rfl rfl rfl⟩

theorem connEffect (h : s.Accounted) (ctx : StepContext) (worker : Conn)
    (hOwn : ¬ s.TakesForeignRow ⟨ctx, .conn worker⟩) : (s.connEffect ctx worker).Accounted := by
  cases hPc : s.conns worker with
  | ready | closed =>
    simp only [StoreThreads.connEffect, hPc]
    exact h
  | testing rid =>
    simp only [StoreThreads.connEffect, hPc]
    exact h.of_worker rfl (congrArg RequestStore.requests (store_gonggoTest ..)) rfl rfl rfl rfl nofun nofun
  | dumping rid dumpRid start size =>
    simp only [StoreThreads.connEffect, hPc]
    exact h.of_worker rfl (congrArg RequestStore.requests (store_gonggoResponseDump ..)) rfl rfl rfl rfl
      nofun nofun
  | requestSetting req k =>
    have hSaving : (s.conns worker).saving = some (req.rid, k) := by
      rw [hPc]
      rfl
    obtain ⟨hCount, hConn, hRid, hUnsaved⟩ := h.routing.saving worker req.rid k hSaving
    simp only [StoreThreads.connEffect, hPc]
    refine ⟨h.routing.of_save rfl rfl hSaving rfl rfl rfl,
      h.holding.of_save ⟨worker, k⟩ rfl rfl (found_set rfl rfl) rfl rfl hCount hConn hRid
        hUnsaved ?_⟩
    -- the request to be saved has no terminal message, so it is the last one under its id
    intro j hj hRidJ hNe
    have hLast : s.history.last req.rid = some k := by
      by_contra hNot
      have hTerminal := h.routing.superseded k hCount (by rwa [hRid])
      rw [h.holding.unsaved k hCount hUnsaved] at hTerminal
      exact Nat.lt_irrefl 0 hTerminal
    refine h.routing.superseded j hj ?_
    rw [hRidJ, hLast]
    exact fun hEq => hNe (Option.some.inj hEq).symm
  | connectionSetting req k =>
    simp only [StoreThreads.connEffect, hPc]
    refine h.of_worker rfl rfl rfl rfl rfl rfl (fun j hj => ?_) nofun
    rw [hPc]
    exact hj
  | serviceSetting req k =>
    simp only [StoreThreads.connEffect, hPc]
    refine h.of_worker rfl rfl rfl rfl rfl rfl (fun j hj => ?_) nofun
    rw [hPc]
    exact hj
  | proxynameSetting req k =>
    have hSaved := (h.routing.routing worker k (by rw [hPc]; rfl)).2
    simp only [StoreThreads.connEffect, hPc]
    exact ⟨h.routing.of_worker (.route hSaved rfl) rfl rfl nofun nofun,
      h.holding.of_turn (.route hSaved rfl) rfl (found_congr rfl rfl) (fun _ => rfl) rfl rfl⟩
  | closing =>
    simp only [StoreThreads.connEffect, hPc]
    cases clientConnectionTableRequestDup s.connections worker with
    | none => exact h.of_worker rfl rfl rfl rfl rfl rfl nofun fun _ => by rw [hPc]; rfl
    | some uuids =>
      cases uuids <;>
        exact h.of_worker rfl rfl rfl rfl rfl rfl nofun fun _ => by rw [hPc]; rfl
  | requestRemoving rid rest grouped =>
    have hIsClosing : (s.conns worker).isClosing = true := by
      rw [hPc]
      rfl
    simp only [TakesForeignRow, hPc, connRemovesForeignRow] at hOwn
    simp only [StoreThreads.connEffect, hPc]
    refine ⟨h.routing.of_worker (.same rfl) rfl rfl nofun fun _ => h.routing.closing worker hIsClosing,
      h.holding.of_remove (.same rfl) rfl (found_remove rfl rfl) (fun _ => rfl) rfl
        (fun _ _ => .inr) (fun _ => id) fun held hHeld => .inr (.inl ?_)⟩
    obtain ⟨hCount, hConn, -⟩ := h.holding.row rid held hHeld
    refine h.routing.closing worker hIsClosing held.use hCount (hConn.trans ?_)
    by_contra hNe
    exact hOwn ⟨held.conn, by simp [hHeld], hNe⟩
  | proxynameDropping rid names rest grouped =>
    simp only [StoreThreads.connEffect, hPc]
    cases (clientProxynameTableDropNext s.proxynames rid names).2 with
    | none =>
      cases rest <;>
        exact h.of_worker rfl rfl rfl rfl rfl rfl nofun fun _ => by rw [hPc]; rfl
    | some names => exact h.of_worker rfl rfl rfl rfl rfl rfl nofun fun _ => by rw [hPc]; rfl
  | dropServiceSetting targets drawn =>
    cases targets <;> simp only [StoreThreads.connEffect, hPc] <;>
      exact h.of_worker rfl rfl rfl rfl rfl rfl nofun fun _ => by rw [hPc]; rfl
  | _ =>
    simp only [StoreThreads.connEffect, hPc]
    exact h.of_worker rfl rfl rfl rfl rfl rfl nofun fun _ => by rw [hPc]; rfl

theorem of_subscriber {n : Nat} {pc : SubscribePc} (h : s.Accounted) (hHistory : s'.history = s.history)
    (hFound : ∀ rid, s'.found rid = s.found rid) (hConns : s'.conns = s.conns)
    (hSubscribers : s'.subscribers = Function.update s.subscribers n pc)
    (hTimeout : s'.timeout = s.timeout) (hPc : pc.terminalFor = (s.subscribers n).terminalFor) :
    s'.Accounted := by
  refine ⟨h.routing.of_other (.same hHistory) hConns,
    h.holding.of_turn (.same hHistory) ?_ hFound (fun m => ?_) ?_ ?_⟩
  · rw [hHistory]
  · rw [hSubscribers]
    by_cases hm : m = n
    · subst hm
      rw [Function.update_self, hPc]
    · rw [Function.update_of_ne hm]
  · rw [hTimeout]
  · rw [hTimeout]

theorem purgeTaking {n : Nat} {rid : Rid} {job : SubscribeJob} {items : List CJson} (h : s.Accounted)
    (hPc : s.subscribers n = .purgeTaking rid job items) (ctx : StepContext) :
    (s.subscriberEffect ctx n).Accounted := by
  have hEntry : (s.purged (s.found rid)).entry = s.history.entry := by
    cases s.found rid <;> rfl
  have hTerminals : (s.purged (s.found rid)).terminals = s.history.terminals := by
    cases s.found rid <;> rfl
  simp only [StoreThreads.subscriberEffect, hPc]
  refine ⟨h.routing.of_other (.purgedRow rfl) rfl, h.holding.of_remove (.purgedRow rfl) hTerminals
    (found_take rfl hEntry) (fun m => ?_) rfl (fun _ _ => .inr) (fun _ => id) fun held hHeld =>
    .inr (.inr ?_)⟩
  · by_cases hm : m = n
    · subst hm
      rw [setSubscriber_self, hPc]
      cases s.found rid <;> rfl
    · rw [setSubscriber_ne _ hm]
      rfl
  · show (s.purged (s.found rid)).purged held.use = true
    rw [hHeld]
    exact Function.update_self ..

theorem replying {n : Nat} {job : SubscribeJob} {item : CJson} {items : List CJson} (h : s.Accounted)
    (hPc : s.subscribers n = .replying job (item :: items)) (ctx : StepContext)
    (hOwn : ¬ s.TakesForeignRow ⟨ctx, .subscriber n⟩) : (s.subscriberEffect ctx n).Accounted := by
  have hBefore : (s.subscribers n).terminalFor = none := by
    rw [hPc]
    rfl
  simp only [TakesForeignRow, hPc, subscriberTakesForeignRow] at hOwn
  cases hRid : item.valuestring with
  | none =>
    simp only [StoreThreads.subscriberEffect, hPc, hRid]
    exact h
  | some rid =>
    have hAfter := SubscribePc.terminalFor_afterLookup rid (s.found rid) job items
    simp only [StoreThreads.subscriberEffect, hPc, hRid]
    cases hRemove : job.removeRequest with
    | false =>
      rw [hRemove, if_neg Bool.false_ne_true] at hAfter
      exact h.of_subscriber rfl (found_keep rfl rfl) rfl rfl rfl (hAfter.trans hBefore.symm)
    | true =>
      rw [hRemove, if_pos rfl] at hAfter
      cases hFound : s.found rid with
      | none =>
        rw [hFound] at hAfter
        refine h.of_subscriber rfl (fun other => ?_) rfl rfl rfl (hAfter.trans hBefore.symm)
        rw [← show (if other = rid then none else s.found other) = s.found other from ?_]
        · apply found_take
          · rfl
          · rfl
        · split
          · rename_i hEq
            rw [hEq, hFound]
          · rfl
      | some held =>
        rw [hFound] at hAfter
        refine ⟨h.routing.of_other (.same rfl) rfl, h.holding.of_take rfl hFound (found_take rfl rfl)
          hBefore ?_ (fun m hm => ?_) rfl ?_ ?_⟩
        · rw [setSubscriber_self]
          exact hAfter
        · rw [setSubscriber_ne _ hm]
          rfl
        · exact fun hNotice => hOwn ⟨hRemove, rid, hRid, held.use, by simp [hFound], .inl hNotice⟩
        · exact fun hNoticed => hOwn ⟨hRemove, rid, hRid, held.use, by simp [hFound], .inr hNoticed⟩

theorem writing {n : Nat} {rid : Rid} {found : Option Held} {job : SubscribeJob} {items : List CJson}
    (h : s.Accounted) (hPc : s.subscribers n = .writing rid found job items) (ctx : StepContext) :
    (s.subscriberEffect ctx n).Accounted := by
  have hRequests := congrArg RequestStore.requests (store_clientServiceReply ctx.json s.dispatcher
    (found.map Held.conn) rid job.headers job.payload true)
  have hBefore : (s.subscribers n).terminalFor =
      if job.removeRequest then found.map Held.use else none := by
    rw [hPc]
    rfl
  simp only [StoreThreads.subscriberEffect, hPc]
  cases hRemove : job.removeRequest with
  | false =>
    rw [hRemove, if_neg Bool.false_ne_true] at hBefore
    exact h.of_subscriber rfl (found_congr hRequests rfl) rfl rfl rfl hBefore.symm
  | true =>
    rw [hRemove, if_pos rfl] at hBefore
    cases found with
    | none => exact h.of_subscriber rfl (found_congr hRequests rfl) rfl rfl rfl hBefore.symm
    | some held =>
      refine ⟨h.routing.of_other (.terminal rfl) rfl,
        h.holding.of_answered rfl (found_congr hRequests rfl) hBefore ?_ (fun m hm => ?_) rfl⟩
      · rw [setSubscriber_self]
        rfl
      · rw [setSubscriber_ne _ hm]
        rfl

theorem subscriberEffect (h : s.Accounted) (ctx : StepContext) (n : Nat)
    (hOwn : ¬ s.TakesForeignRow ⟨ctx, .subscriber n⟩) : (s.subscriberEffect ctx n).Accounted := by
  cases hPc : s.subscribers n with
  | ready =>
    simp only [StoreThreads.subscriberEffect, hPc]
    exact h
  | purgeTaking rid job items => exact h.purgeTaking hPc ctx
  | replying job items =>
    cases items with
    | nil =>
      simp only [StoreThreads.subscriberEffect, hPc]
      refine h.of_subscriber rfl (fun _ => rfl) rfl rfl rfl ?_
      rw [hPc]
      rfl
    | cons item items => exact h.replying hPc ctx hOwn
  | writing rid found job items => exact h.writing hPc ctx
  | purgeProxynameDropping rid names job items =>
    simp only [StoreThreads.subscriberEffect, hPc]
    refine h.of_subscriber rfl (found_congr rfl rfl) rfl rfl rfl ?_
    rw [hPc]
    cases (clientProxynameTableDropNext s.proxynames rid names).2 <;> rfl
  | _ =>
    simp only [StoreThreads.subscriberEffect, hPc]
    refine h.of_subscriber rfl (found_congr rfl rfl) rfl rfl rfl ?_
    rw [hPc]
    rfl

theorem of_timeout {pc : TimeoutPc} (h : s.Accounted) (hHistory : s'.history = s.history)
    (hRequests : s'.requests = s.requests) (hConns : s'.conns = s.conns)
    (hSubscribers : s'.subscribers = s.subscribers) (hTimeout : s'.timeout = pc)
    (hNotice : pc.noticeFor = s.timeout.noticeFor) (hNoticed : pc.noticedFor = s.timeout.noticedFor) :
    s'.Accounted := by
  refine ⟨h.routing.of_other (.same hHistory) hConns, h.holding.of_turn (.same hHistory) ?_ ?_ ?_ ?_ ?_⟩
  · rw [hHistory]
  · exact found_congr hRequests (by rw [hHistory])
  · exact fun n => by rw [hSubscribers]
  · rw [hTimeout, hNotice]
  · rw [hTimeout, hNoticed]

theorem timeoutEffect (h : s.Accounted) (ctx : StepContext)
    (hOwn : ¬ s.TakesForeignRow ⟨ctx, .timeout⟩) : (s.timeoutEffect ctx).Accounted := by
  cases hPc : s.timeout with
  | ready =>
    simp only [StoreThreads.timeoutEffect, hPc]
    exact h
  | passing rids =>
    cases rids with
    | nil =>
      simp only [StoreThreads.timeoutEffect, hPc]
      exact h.of_timeout rfl rfl rfl rfl rfl (by rw [hPc]; rfl) (by rw [hPc]; rfl)
    | cons rid rest =>
      simp only [StoreThreads.timeoutEffect, hPc]
      refine ⟨h.routing.of_other (.same rfl) rfl,
        h.holding.of_lookup rfl (found_congr rfl rfl) rfl ?_ rfl rfl⟩
      rw [hPc]
      exact ⟨rfl, rfl⟩
  | noticing rid found rest =>
    have hRequests := congrArg RequestStore.requests
      (store_clientServiceExpiredReply ctx.json s.dispatcher (found.map Held.conn) rid true)
    cases found with
    | none =>
      simp only [StoreThreads.timeoutEffect, hPc]
      exact h.of_timeout rfl hRequests rfl rfl rfl (by rw [hPc]; rfl) (by rw [hPc]; rfl)
    | some held =>
      simp only [StoreThreads.timeoutEffect, hPc]
      refine ⟨h.routing.of_other (.terminal rfl) rfl,
        h.holding.of_noticed rfl (found_congr hRequests rfl) rfl ?_ ?_ rfl rfl⟩
      · rw [hPc]
        rfl
      · rw [hPc]
        rfl
  | requestRemoving rid found rest =>
    simp only [TakesForeignRow, hPc, timeoutRemovesForeignRow] at hOwn
    have hNoticed : s.timeout.noticedFor = found.map fun held => (rid, held.use) := by
      rw [hPc]
      rfl
    simp only [StoreThreads.timeoutEffect, hPc]
    refine ⟨h.routing.of_other (.same rfl) rfl, h.holding.of_remove (.same rfl) rfl (found_remove rfl rfl)
      (fun _ => rfl) ?_ (fun other k hEntry => .inl ?_) nofun fun held hHeld => .inl ?_⟩
    · rw [hPc]
      rfl
    · rw [hNoticed] at hEntry
      obtain ⟨held, -, hEq⟩ := Option.map_eq_some_iff.mp hEntry
      exact (Prod.mk.inj hEq).1.symm
    · have hSame : found.map Held.use = some held.use := by
        by_contra hNe
        exact hOwn ⟨held.use, by simp [hHeld], hNe⟩
      obtain ⟨looked, rfl, hUse⟩ := Option.map_eq_some_iff.mp hSame
      refine (h.holding.noticed rid held.use ?_).2.2
      rw [hNoticed, Option.map_some, hUse]
  | proxynameDropping rid names rest =>
    simp only [StoreThreads.timeoutEffect, hPc]
    cases (clientProxynameTableDropNext s.proxynames rid names).2 <;>
      exact h.of_timeout rfl rfl rfl rfl rfl (by rw [hPc]; rfl) (by rw [hPc]; rfl)
  | _ =>
    simp only [StoreThreads.timeoutEffect, hPc]
    exact h.of_timeout rfl rfl rfl rfl rfl (by rw [hPc]; rfl) (by rw [hPc]; rfl)

theorem notifierEffect (h : s.Accounted) (ctx : StepContext) (n : Nat) :
    (s.notifierEffect ctx n).Accounted := by
  cases hPc : s.notifiers n with
  | ready =>
    simp only [StoreThreads.notifierEffect, hPc]
    exact h
  | collecting proxyName started rids grouped =>
    cases rids <;> simp only [StoreThreads.notifierEffect, hPc] <;> exact h.of_same rfl rfl rfl rfl rfl
  | writing proxyName started targets =>
    cases targets <;> simp only [StoreThreads.notifierEffect, hPc] <;> exact h.of_same rfl rfl rfl rfl rfl

theorem effect (h : s.Accounted) (e : StoreStep) (hGuard : e.guard s) (hReuse : s.ReusesInTurn e)
    (hOwn : ¬ s.TakesForeignRow e) : (e.effect s).Accounted := by
  obtain ⟨ctx, action⟩ := e
  cases action with
  | receive conn uri data => exact h.receive ctx conn uri data hReuse
  | close conn =>
    have hClosed : ∀ k < s.history.count, s.history.conn k = conn →
        (s.history.close conn).closed k = true := by
      intro k _ hConn
      simp [UseHistory.close, hConn]
    exact ⟨h.routing.of_worker (.close rfl) rfl rfl nofun fun _ => hClosed,
      h.holding.of_turn (.close rfl) rfl (found_congr rfl rfl) (fun _ => rfl) rfl rfl⟩
  | conn conn => exact h.connEffect ctx conn hOwn
  | answer n proxyName posted =>
    have hReady := SubscribePc.isReady_iff.mp hGuard
    simp only [StoreStep.effect, answer]
    cases parsedAnswer ctx.json posted with
    | none => exact h
    | some parsed =>
      obtain ⟨items, headers, payload⟩ := parsed
      refine h.of_subscriber rfl (found_congr rfl rfl) rfl rfl rfl ?_
      rw [hReady]
      cases (clearedRid headers payload).join <;> rfl
  | subscriber n => exact h.subscriberEffect ctx n hOwn
  | pass =>
    have hReady := TimeoutPc.isReady_iff.mp hGuard
    exact h.of_timeout rfl rfl rfl rfl rfl (by rw [hReady]; rfl) (by rw [hReady]; rfl)
  | timeout => exact h.timeoutEffect ctx hOwn
  | notify n proxyName started => exact h.of_same rfl rfl rfl rfl rfl
  | notifier n => exact h.notifierEffect ctx n

end Accounted

theorem accounted_of_reachable
    (h : storeThreadsSystem.ReachableWhen (fun s e => s.ReusesInTurn e ∧ ¬ s.TakesForeignRow e) s) :
    s.Accounted := by
  refine h.invariant Accounted ?_ fun s e hs hGuard hCond => hs.effect e hGuard hCond.1 hCond.2
  rintro s rfl
  refine ⟨⟨nofun, nofun, nofun, nofun, nofun⟩,
    ⟨nofun, nofun, nofun, nofun, nofun, nofun, nofun, nofun, nofun, nofun⟩⟩

/-- Every acknowledged request has its one outcome, when ids are reused in turn and no thread takes a
row that another thread is about to end or that belongs to another request. -/
theorem outcome_of_ownRows
    (hReach : storeThreadsSystem.ReachableWhen (fun s e => s.ReusesInTurn e ∧ ¬ s.TakesForeignRow e) s)
    {k : Nat} (hk : k < s.history.count) : s.Outcome k := by
  obtain ⟨hRouting, hHolding⟩ := accounted_of_reachable hReach
  exact outcome_of_holding hRouting hHolding hk

/-- A request expires, and the client sends the same id again after the pass. -/
def resubmitAfterPass : List StoreStep :=
  sampleRouteSteps 1 100 ++
    [.pass, .timeout, .timeout, .timeout, .timeout, .timeout, .timeout, .timeout, .timeout].map
      (sampleStep 200) ++
    sampleRouteSteps 1 200

theorem outcome_of_ownRows_resubmitAfterPass :
    (storeThreadsSystem.run .started resubmitAfterPass).Outcome 0 :=
  outcome_of_ownRows (.run (.init rfl) resubmitAfterPass (by decide)) (by decide)

/-- The client reads the notice and sends the same id again before the timeout thread removes the
row, which by then is the new request's. -/
def resubmitBeforeRemove : List StoreStep :=
  sampleRouteSteps 1 100 ++ [.pass, .timeout, .timeout].map (sampleStep 200) ++
    sampleRouteSteps 1 200 ++ [.timeout].map (sampleStep 200)

theorem request_erased :
    ¬ ∀ s, storeThreadsSystem.ReachableWhen (fun s e => s.ReusesInTurn e) s →
      ∀ k < s.history.count, s.Outcome k := by
  intro h
  have hReach : storeThreadsSystem.ReachableWhen (fun s e => s.ReusesInTurn e)
      (storeThreadsSystem.run .started resubmitBeforeRemove) :=
    .run (.init rfl) resubmitBeforeRemove (by decide)
  have hLost := (h _ hReach 1 (by decide)).notLost (by decide) (by decide)
  rcases hLost with hTerminal | (⟨rid, hNotice⟩ | ⟨n, hAnswer⟩) | hClosed | hPurged
  · exact absurd hTerminal (by decide)
  · cases hNotice
  · cases hAnswer
  · exact absurd hClosed (by decide)
  · exact absurd hPurged (by decide)

/-- The answer that removes the request, posted by its proxy. -/
def sampleAnswer : CJson :=
  .object [(clientReplyServiceRidKey, .string "r"), (clientReplyHeadersKey, .object [])]

def sampleAnswerStep : StoreStep where
  ctx := { (sampleStep 200 .pass).ctx with json := sampleJson sampleAnswer }
  action := .answer 0 "weather" ⟨1, some (printUnformatted sampleAnswer), true⟩

/-- The proxy answers between the lookup of the timeout thread and its notice. -/
def answerBeforeNotice : List StoreStep :=
  sampleRouteSteps 1 100 ++ [.pass, .timeout].map (sampleStep 200) ++
    sampleAnswerStep :: [.subscriber 0, .subscriber 0, .subscriber 0, .subscriber 0, .subscriber 0,
      .timeout].map (sampleStep 200)

theorem answered_and_expired :
    ∃ s, storeThreadsSystem.ReachableWhen (fun s e => s.ReusesInTurn e) s ∧
      s.history.terminals 0 = 2 :=
  ⟨_, .run (.init rfl) answerBeforeNotice (by decide), by decide⟩

end StoreThreads

end Gonggo
