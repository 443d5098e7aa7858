import Gonggo.StoreAgreement
import Gonggo.Library.KeyedList

/-! # Requests taken out of the store

What the removals of the close, answer, purge and expiry paths do to the whole store: the ids go
from the four tables, and every other row, text and list stays, with its order and its flags.
-/

namespace Gonggo

open KeyedList

/-- The entries of a proxy in their order, with the sent flags; none when the proxy has no key. -/
def entriesUnder (table : ClientProxynameTable) (proxyName : ProxyName) : Option (List (Rid × Bool)) :=
  (table.lookup proxyName).map ClientProxynameTableValue.pairs

theorem entriesUnder_insert (table : ClientProxynameTable) (proxyName other : ProxyName)
    (value : ClientProxynameTableValue) :
    entriesUnder (table.insert proxyName value) other =
      if other = proxyName then some value.pairs else entriesUnder table other := by
  unfold entriesUnder
  rw [HashTable.lookup_insert]
  split <;> rfl

theorem entriesUnder_remove (table : ClientProxynameTable) (proxyName other : ProxyName) :
    entriesUnder (table.remove proxyName) other =
      if other = proxyName then none else entriesUnder table other := by
  unfold entriesUnder
  rw [HashTable.lookup_remove]
  split <;> rfl

theorem listedUnder_iff_entries {table : ClientProxynameTable} {proxyName : ProxyName} {rid : Rid} :
    ListedUnder table proxyName rid ↔
      ∃ sent, ∃ entries, entriesUnder table proxyName = some entries ∧ (rid, sent) ∈ entries := by
  simp only [ListedUnder, EntryOf, entriesUnder, Option.map_eq_some_iff]
  constructor
  · rintro ⟨sent, value, hValue, hMem⟩
    exact ⟨sent, value.pairs, ⟨value, hValue, rfl⟩, hMem⟩
  · rintro ⟨sent, _, ⟨value, hValue, rfl⟩, hMem⟩
    exact ⟨sent, value, hValue, hMem⟩

theorem listedIn_iff_requestDup {table : ClientConnectionTable} {conn : Conn} {rid : Rid} :
    ListedIn table conn rid ↔
      ∃ uuids, clientConnectionTableRequestDup table conn = some uuids ∧ rid ∈ uuids := by
  simp only [ListedIn, clientConnectionTableRequestDup, Option.map_eq_some_iff]
  constructor
  · rintro ⟨arr, hArr, hMem⟩
    exact ⟨arr.uuids, ⟨arr, hArr, rfl⟩, hMem⟩
  · rintro ⟨_, ⟨arr, hArr, rfl⟩, hMem⟩
    exact ⟨arr, hArr, hMem⟩

/-! ## What the removing functions leave -/

/-- The ids are not among the ones that go. -/
def staying (gone : List Rid) (rid : Rid) : Bool := decide (rid ∉ gone)

theorem entriesUnder_clientProxynameTableDrop (table : ClientProxynameTable)
    (proxyName other : ProxyName) (rid : Rid) :
    entriesUnder (clientProxynameTableDrop table proxyName rid).2 other =
      if other = proxyName then kept (fun entry => staying [rid] entry.1) (entriesUnder table other)
      else entriesUnder table other := by
  have hKeep : ∀ entries : List (Rid × Bool), entries.filter (fun entry => staying [rid] entry.1) =
      entries.filter fun entry => entry.1 ≠ rid := by
    intro entries
    simp [staying]
  by_cases hOther : other = proxyName
  · subst hOther
    rw [if_pos rfl]
    by_cases hListed : ListedUnder table other rid
    · obtain ⟨value, hValue, hMem⟩ := (listedUnder_iff ..).mp hListed
      have hEntries : entriesUnder table other = some value.pairs := by rw [entriesUnder, hValue, Option.map_some]
      have hPairs : value.pairs ≠ [] := by
        obtain ⟨sent, hPair⟩ := (value.mem_uuids_iff rid).mp hMem
        exact List.ne_nil_of_mem hPair
      cases hIdx : value.requestUuids.find rid with
      | none => exact absurd hMem ((value.requestUuids.find_eq_none_iff rid).mp hIdx)
      | some idx =>
        have hLeft := value.pairs_removeIndex hIdx
        have hNil : (value.removeIndex idx).requestUuids.uuids.length < 1 ↔
            (value.removeIndex idx).pairs = [] := by
          rw [← ClientProxynameTableValue.map_fst_pairs, List.length_map, Nat.lt_one_iff,
            List.length_eq_zero_iff]
        simp only [clientProxynameTableDrop, hValue, hIdx, hNil]
        rw [hEntries, kept_some, hKeep, ← hLeft]
        split
        · rename_i hEmpty
          rw [entriesUnder_remove, if_pos rfl, if_pos ⟨hPairs, hEmpty⟩]
        · rename_i hSome
          rw [entriesUnder_insert, if_pos rfl, if_neg fun h => hSome h.2]
    · rw [clientProxynameTableDrop_of_not_found hListed]
      refine (kept_eq_self ?_).symm
      rintro entries hEntries ⟨listed, sent⟩ hMem
      rw [staying, decide_eq_true_eq, List.mem_singleton]
      rintro rfl
      exact hListed (listedUnder_iff_entries.mpr ⟨sent, entries, hEntries, hMem⟩)
  · rw [if_neg hOther]
    cases hValue : table.lookup proxyName with
    | none => simp only [clientProxynameTableDrop, hValue]
    | some value =>
      cases hIdx : value.requestUuids.find rid with
      | none => simp only [clientProxynameTableDrop, hValue, hIdx]
      | some idx =>
        simp only [clientProxynameTableDrop, hValue, hIdx]
        split
        · rw [entriesUnder_remove, if_neg hOther]
        · rw [entriesUnder_insert, if_neg hOther]

theorem kept_of_not_listedUnder {table : ClientProxynameTable} {proxyName : ProxyName} {gone : List Rid}
    (h : ∀ rid ∈ gone, ¬ ListedUnder table proxyName rid) :
    kept (fun entry => staying gone entry.1) (entriesUnder table proxyName) =
      entriesUnder table proxyName := by
  apply kept_eq_self
  rintro entries hEntries ⟨rid, sent⟩ hMem
  rw [staying, decide_eq_true_eq]
  exact fun hGone => h rid hGone (listedUnder_iff_entries.mpr ⟨sent, entries, hEntries, hMem⟩)

/-- No id is listed under two proxies. -/
def OneProxyEach (table : ClientProxynameTable) : Prop :=
  ∀ rid m n, ListedUnder table m rid → ListedUnder table n rid → m = n

theorem entriesUnder_clientProxynameTableDropAll {table : ClientProxynameTable}
    (hOne : OneProxyEach table) (order : Traversal ProxyName) (rid : Rid) (other : ProxyName) :
    entriesUnder (clientProxynameTableDropAll table order rid) other =
      kept (fun entry => staying [rid] entry.1) (entriesUnder table other) := by
  have hUnlisted : ¬ ListedUnder table other rid →
      kept (fun entry => staying [rid] entry.1) (entriesUnder table other) =
        entriesUnder table other := by
    intro hNot
    apply kept_of_not_listedUnder
    simpa using hNot
  rcases clientProxynameTableDropAll_cases table order rid with
    ⟨hNone, hSame⟩ | ⟨proxyName, hListed, hDrop⟩
  · rw [hSame, hUnlisted (hNone other)]
  · rw [hDrop, entriesUnder_clientProxynameTableDrop]
    split
    · rfl
    · rename_i hOther
      exact (hUnlisted fun h => hOther (hOne rid _ _ h hListed)).symm

theorem requestDup_clientConnectionTableDrop (table : ClientConnectionTable) (conn other : Conn)
    (rid : Rid) :
    clientConnectionTableRequestDup (clientConnectionTableDrop table conn rid) other =
      if other = conn then kept (staying [rid]) (clientConnectionTableRequestDup table other)
      else clientConnectionTableRequestDup table other := by
  have hKeep : ∀ uuids : List Rid, uuids.filter (staying [rid]) = uuids.filter (· ≠ rid) := by
    intro uuids
    apply List.filter_congr
    intro other _
    simp [staying]
  cases hArr : table.lookup conn with
  | none =>
    simp only [clientConnectionTableDrop, hArr]
    split
    · rename_i hOther
      rw [hOther, clientConnectionTableRequestDup, hArr]
      rfl
    · rfl
  | some arr =>
    cases hIdx : arr.find rid with
    | none =>
      have hNot := (arr.find_eq_none_iff rid).mp hIdx
      simp only [clientConnectionTableDrop, hArr, hIdx]
      split
      · rename_i hOther
        rw [hOther, clientConnectionTableRequestDup, hArr]
        refine (kept_eq_self ?_).symm
        rintro uuids hUuids listed hMem
        cases hUuids
        rw [staying, decide_eq_true_eq, List.mem_singleton]
        rintro rfl
        exact hNot hMem
      · rfl
    | some idx =>
      have hLeft : (arr.removeIndex idx).uuids = arr.uuids.filter (· ≠ rid) :=
        eraseIdx_eq_filter_of_idxOf? arr.nodup hIdx
      have hNe : arr.uuids ≠ [] := by
        intro hNil
        have hNone : arr.find rid = none := (arr.find_eq_none_iff rid).mpr (by simp [hNil])
        rw [hNone] at hIdx
        cases hIdx
      simp only [clientConnectionTableDrop, hArr, hIdx, Nat.lt_one_iff, List.length_eq_zero_iff]
      by_cases hOther : other = conn
      · subst hOther
        rw [if_pos rfl]
        have hDup : clientConnectionTableRequestDup table other = some arr.uuids := by
          rw [clientConnectionTableRequestDup, hArr, Option.map_some]
        rw [hDup, kept_some, hKeep, ← hLeft]
        split
        · rename_i hEmpty
          rw [clientConnectionTableRequestDup, HashTable.lookup_remove_self, if_pos ⟨hNe, hEmpty⟩]
          rfl
        · rename_i hSome
          rw [clientConnectionTableRequestDup, HashTable.lookup_insert_self, if_neg fun h => hSome h.2]
          rfl
      · rw [if_neg hOther]
        split
        · rw [clientConnectionTableRequestDup, HashTable.lookup_remove_ne _ hOther]
          rfl
        · rw [clientConnectionTableRequestDup, HashTable.lookup_insert_ne _ _ hOther]
          rfl

/-! ## Removals from the store -/

/-- The ids are gone from the three tables keyed by request or proxy, and nothing else is. -/
structure RequestStore.RemovedRequests (gone : List Rid) (store store' : RequestStore) : Prop where
  requests : ∀ rid, store'.requests.lookup rid =
    if rid ∈ gone then none else store.requests.lookup rid
  services : ∀ rid, store'.services.lookup rid =
    if rid ∈ gone then none else store.services.lookup rid
  proxynames : ∀ proxyName, entriesUnder store'.proxynames proxyName =
    kept (fun entry => staying gone entry.1) (entriesUnder store.proxynames proxyName)

/-- The ids are gone from the four tables, and nothing else is. -/
structure RequestStore.Removed (gone : List Rid) (store store' : RequestStore) : Prop
    extends store.RemovedRequests gone store' where
  connections : ∀ conn, clientConnectionTableRequestDup store'.connections conn =
    kept (staying gone) (clientConnectionTableRequestDup store.connections conn)

namespace RequestStore

variable {gone more : List Rid} {store store₁ store₂ : RequestStore}

theorem staying_append (gone more : List Rid) (rid : Rid) :
    (staying gone rid && staying more rid) = staying (gone ++ more) rid := by
  simp [staying, not_or, Bool.decide_and]

theorem RemovedRequests.refl (store : RequestStore) : store.RemovedRequests [] store where
  requests rid := by rw [if_neg List.not_mem_nil]
  services rid := by rw [if_neg List.not_mem_nil]
  proxynames proxyName := (kept_of_not_listedUnder (by simp)).symm

theorem RemovedRequests.trans (h : store.RemovedRequests gone store₁)
    (h' : store₁.RemovedRequests more store₂) : store.RemovedRequests (gone ++ more) store₂ where
  requests rid := by
    rw [h'.requests, h.requests]
    by_cases hMore : rid ∈ more <;> by_cases hGone : rid ∈ gone <;> simp [hMore, hGone]
  services rid := by
    rw [h'.services, h.services]
    by_cases hMore : rid ∈ more <;> by_cases hGone : rid ∈ gone <;> simp [hMore, hGone]
  proxynames proxyName := by
    rw [h'.proxynames, h.proxynames, kept_kept]
    simp only [staying_append]

theorem Removed.refl (store : RequestStore) : store.Removed [] store where
  toRemovedRequests := .refl store
  connections conn := (kept_eq_self fun _ _ _ _ => by simp [staying]).symm

theorem Removed.trans (h : store.Removed gone store₁) (h' : store₁.Removed more store₂) :
    store.Removed (gone ++ more) store₂ where
  toRemovedRequests := h.toRemovedRequests.trans h'.toRemovedRequests
  connections conn := by
    rw [h'.connections, h.connections, kept_kept]
    simp only [staying_append]

theorem RemovedRequests.listedUnder_iff (h : store.RemovedRequests gone store₁) (proxyName : ProxyName)
    (rid : Rid) :
    ListedUnder store₁.proxynames proxyName rid ↔
      ListedUnder store.proxynames proxyName rid ∧ rid ∉ gone := by
  rw [listedUnder_iff_entries, listedUnder_iff_entries, h.proxynames]
  simp only [mem_kept, staying, decide_eq_true_eq, exists_and_right]

theorem Removed.listedIn_iff (h : store.Removed gone store₁) (conn : Conn) (rid : Rid) :
    ListedIn store₁.connections conn rid ↔ ListedIn store.connections conn rid ∧ rid ∉ gone := by
  rw [listedIn_iff_requestDup, listedIn_iff_requestDup, h.connections, mem_kept, staying,
    decide_eq_true_eq]

theorem RemovedRequests.oneProxyEach (h : store.RemovedRequests gone store₁)
    (hOne : OneProxyEach store.proxynames) : OneProxyEach store₁.proxynames := by
  intro rid m n hm hn
  exact hOne rid m n ((h.listedUnder_iff m rid).mp hm).1 ((h.listedUnder_iff n rid).mp hn).1

theorem Removed.absent (h : store.Removed gone store₁) {rid : Rid} (hGone : rid ∈ gone) :
    store₁.Absent rid where
  requests := by rw [h.requests, if_pos hGone]
  connections conn hListed := ((h.listedIn_iff conn rid).mp hListed).2 hGone
  services := by rw [h.services, if_pos hGone]
  proxynames proxyName hListed := ((h.listedUnder_iff proxyName rid).mp hListed).2 hGone

theorem Agreement.absent_of_lookup (hAgree : store.Agreement) {rid : Rid}
    (hRow : store.requests.lookup rid = none) (hText : store.services.lookup rid = none) :
    store.Absent rid where
  requests := hRow
  connections conn hListed := by
    obtain ⟨ctx, hCtx, -⟩ := (hAgree.owner rid conn).mp hListed
    rw [hRow] at hCtx
    cases hCtx
  services := hText
  proxynames proxyName hListed := by
    obtain ⟨text, hSome⟩ := (hAgree.proxynames_iff rid).mpr ⟨proxyName, hListed⟩
    rw [hText] at hSome
    cases hSome

theorem Agreement.removed (hAgree : store.Agreement) (h : store.Removed gone store₁) :
    store₁.Agreement where
  requests_iff rid := by
    simp only [h.requests, h.listedIn_iff]
    by_cases hGone : rid ∈ gone
    · simp [hGone]
    · simpa [hGone] using hAgree.requests_iff rid
  owner rid conn := by
    rw [h.listedIn_iff, h.requests]
    by_cases hGone : rid ∈ gone
    · simp [hGone]
    · simpa [hGone] using hAgree.owner rid conn
  service rid ctx hCtx := by
    rw [h.requests] at hCtx
    rw [h.services]
    by_cases hGone : rid ∈ gone
    · simp [hGone] at hCtx
    · rw [if_neg hGone] at hCtx ⊢
      exact hAgree.service rid ctx hCtx
  proxynames_iff rid := by
    simp only [h.services, h.listedUnder_iff]
    by_cases hGone : rid ∈ gone
    · simp [hGone]
    · simpa [hGone] using hAgree.proxynames_iff rid
  proxyname_unique := h.oneProxyEach hAgree.proxyname_unique

theorem removedRequests_removeRequest (hOne : OneProxyEach store.proxynames)
    (order : Traversal ProxyName) (rid : Rid) :
    store.RemovedRequests [rid] (store.removeRequest order rid) where
  requests other := by
    rw [removeRequest, clientRequestTableRemove, HashTable.lookup_remove]
    simp
  services other := by
    rw [removeRequest, clientServiceTableRemove, HashTable.lookup_remove]
    simp
  proxynames := entriesUnder_clientProxynameTableDropAll hOne order rid

/-- Where the tables agree, taking an id from the list of its connection takes it from all lists. -/
theorem Agreement.requestDup_dropFromConnection (hAgree : store.Agreement) (rid : Rid) (conn : Conn) :
    clientConnectionTableRequestDup (dropFromConnection store.connections
        ((store.requests.lookup rid).map ClientRequestTableContext.conn) rid) conn =
      kept (staying [rid]) (clientConnectionTableRequestDup store.connections conn) := by
  have hUnlisted : ∀ other, ¬ ListedIn store.connections other rid →
      kept (staying [rid]) (clientConnectionTableRequestDup store.connections other) =
        clientConnectionTableRequestDup store.connections other := by
    intro other hNot
    apply kept_eq_self
    intro uuids hUuids listed hMem
    rw [staying, decide_eq_true_eq, List.mem_singleton]
    rintro rfl
    exact hNot (listedIn_iff_requestDup.mpr ⟨uuids, hUuids, hMem⟩)
  cases hRow : store.requests.lookup rid with
  | none =>
    refine (hUnlisted conn fun hListed => ?_).symm
    obtain ⟨ctx, hCtx, -⟩ := (hAgree.owner rid conn).mp hListed
    rw [hRow] at hCtx
    cases hCtx
  | some row =>
    rw [Option.map_some, dropFromConnection, requestDup_clientConnectionTableDrop]
    split
    · rfl
    · rename_i hOther
      refine (hUnlisted conn fun hListed => ?_).symm
      obtain ⟨ctx, hCtx, rfl⟩ := (hAgree.owner rid conn).mp hListed
      rw [hRow, Option.some.injEq] at hCtx
      exact hOther (congrArg ClientRequestTableContext.conn hCtx.symm)

/-- Where the tables agree, an update that takes one id out of three tables and out of the list of its
connection removes it. -/
theorem Agreement.removed_one (hAgree : store.Agreement) {rid : Rid}
    (hRequests : ∀ other, store₁.requests.lookup other =
      if other = rid then none else store.requests.lookup other)
    (hServices : store₁.services = clientServiceTableRemove store.services rid)
    (hProxynames : ∀ proxyName, entriesUnder store₁.proxynames proxyName =
      kept (fun entry => staying [rid] entry.1) (entriesUnder store.proxynames proxyName))
    (hConnections : store₁.connections = dropFromConnection store.connections
      ((store.requests.lookup rid).map ClientRequestTableContext.conn) rid) :
    store.Removed [rid] store₁ where
  requests other := by simpa using hRequests other
  services other := by
    rw [hServices, clientServiceTableRemove, HashTable.lookup_remove]
    simp
  proxynames := hProxynames
  connections conn := by
    rw [hConnections]
    exact hAgree.requestDup_dropFromConnection rid conn

end RequestStore

end Gonggo
