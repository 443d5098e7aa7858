import Gonggo.ClientIsolation
import Gonggo.RequestRemoval

/-! # The effect of closing a connection

`client_service_drop_conn` on a store whose tables agree. The first loop takes the ids of the
connection out and groups them by proxy; the second one gives every proxy with a channel one drop
request for each of its ids, at the end of its list.
-/

namespace Gonggo

open KeyedList

/-! ## Ids grouped by proxy -/

variable {store : RequestStore}

theorem clientProxynameTableProxyNameDup_eq_some_iff {table : ClientProxynameTable}
    (hOne : OneProxyEach table) {order : Traversal ProxyName} {rid : Rid} {proxyName : ProxyName} :
    clientProxynameTableProxyNameDup table order rid = some proxyName ↔
      ListedUnder table proxyName rid := by
  refine ⟨listedUnder_of_clientProxynameTableProxyNameDup, fun hListed => ?_⟩
  cases hDup : clientProxynameTableProxyNameDup table order rid with
  | none => exact absurd hListed (clientProxynameTableProxyNameDup_eq_none hDup proxyName)
  | some found =>
    rw [hOne rid found proxyName (listedUnder_of_clientProxynameTableProxyNameDup hDup) hListed]

/-- The first loop puts every id at the end of the group of the proxy that lists it. -/
theorem pairsUnder_dropConnCollect (ctx : DropConnContext) (hOne : OneProxyEach store.proxynames)
    (grouped : ClientProxynameTable) {rids : List Rid} (hNodup : rids.Nodup)
    (hNew : ∀ rid ∈ rids, ∀ proxyName, ¬ ListedUnder grouped proxyName rid) (proxyName : ProxyName) :
    pairsUnder (dropConnCollect ctx store grouped rids).2 proxyName =
      pairsUnder grouped proxyName ++
        (rids.filter fun rid => ListedUnder store.proxynames proxyName rid).map fun rid => (rid, false) := by
  induction rids generalizing store grouped with
  | nil => simp [dropConnCollect]
  | cons rid rest ih =>
    obtain ⟨hNot, hRest⟩ := List.nodup_cons.mp hNodup
    have hRemoved := RequestStore.removedRequests_removeRequest hOne (ctx.dropOrder rid) rid
    have hLists : ∀ other ∈ rest, (ListedUnder (store.removeRequest (ctx.dropOrder rid) rid).proxynames
        proxyName other ↔ ListedUnder store.proxynames proxyName other) := by
      intro other hOther
      rw [hRemoved.listedUnder_iff, List.mem_singleton]
      exact and_iff_left (ne_of_mem_of_not_mem hOther hNot)
    have hFilter : (rest.filter fun other => ListedUnder
        (store.removeRequest (ctx.dropOrder rid) rid).proxynames proxyName other) =
        rest.filter fun other => ListedUnder store.proxynames proxyName other := by
      apply List.filter_congr
      intro other hOther
      exact decide_eq_decide.mpr (hLists other hOther)
    cases hDup : clientProxynameTableProxyNameDup store.proxynames (ctx.nameOrder rid) rid with
    | none =>
      have hUnlisted := clientProxynameTableProxyNameDup_eq_none hDup proxyName
      simp only [dropConnCollect, hDup]
      rw [ih (hRemoved.oneProxyEach hOne) grouped hRest fun other hOther =>
        hNew other (List.mem_cons_of_mem _ hOther), hFilter, List.filter_cons, if_neg (by simpa using hUnlisted)]
    | some name =>
      have hName := (clientProxynameTableProxyNameDup_eq_some_iff hOne).mp hDup
      have hGroups : ∀ other ∈ rest, ∀ group,
          ¬ ListedUnder (clientProxynameTableSet grouped name rid) group other := by
        intro other hOther group hListed
        rw [listedUnder_clientProxynameTableSet] at hListed
        rcases hListed with hOld | ⟨-, hEq⟩
        · exact hNew other (List.mem_cons_of_mem _ hOther) group hOld
        · exact ne_of_mem_of_not_mem hOther hNot hEq
      have hFree := hNew rid List.mem_cons_self name
      simp only [dropConnCollect, hDup]
      rw [ih (hRemoved.oneProxyEach hOne) _ hRest hGroups, hFilter, pairsUnder_clientProxynameTableSet,
        List.filter_cons]
      by_cases hAt : proxyName = name
      · subst hAt
        rw [if_pos ⟨rfl, hFree⟩, if_pos (by simpa using hName), List.map_cons, List.append_assoc,
          List.singleton_append]
      · rw [if_neg fun h => hAt h.1, if_neg]
        simpa using fun hListed => hAt (hOne rid _ _ hListed hName)

theorem removedRequests_dropConnCollect (ctx : DropConnContext)
    (hOne : OneProxyEach store.proxynames) (grouped : ClientProxynameTable) (rids : List Rid) :
    store.RemovedRequests rids (dropConnCollect ctx store grouped rids).1 := by
  induction rids generalizing store grouped with
  | nil => exact .refl store
  | cons rid rest ih =>
    have hFirst := RequestStore.removedRequests_removeRequest hOne (ctx.dropOrder rid) rid
    exact hFirst.trans (ih (hFirst.oneProxyEach hOne) _)

theorem dropConnTargets_eq (ctx : DropConnContext) (grouped : ClientProxynameTable) :
    dropConnTargets ctx grouped =
      ((ctx.localOrder.visit grouped.keys).filter ctx.registered).flatMap fun proxyName =>
        (pairsUnder grouped proxyName).map fun entry => (proxyName, entry.1) := by
  unfold dropConnTargets
  congr 1
  funext proxyName
  cases hValue : grouped.lookup proxyName with
  | none =>
    rw [pairsUnder, hValue]
    rfl
  | some value =>
    show (value.requestUuids.uuids.map fun rid => (proxyName, rid)) = _
    rw [pairsUnder_of_lookup hValue, ← value.map_fst_pairs, List.map_map]
    rfl

/-- The targets under one proxy are its group, when it has a channel. -/
theorem filter_dropConnTargets (ctx : DropConnContext) (grouped : ClientProxynameTable)
    (proxyName : ProxyName) :
    ((dropConnTargets ctx grouped).filter fun target => target.1 = proxyName).map Prod.snd =
      if ctx.registered proxyName then (pairsUnder grouped proxyName).map Prod.fst else [] := by
  rw [dropConnTargets_eq]
  have hNodup : ((ctx.localOrder.visit grouped.keys).filter ctx.registered).Nodup :=
    (ctx.localOrder.visit_nodup grouped.keys_nodup).filter _
  have hMem : proxyName ∈ (ctx.localOrder.visit grouped.keys).filter ctx.registered ↔
      proxyName ∈ grouped.keys ∧ ctx.registered proxyName = true := by
    rw [List.mem_filter, ctx.localOrder.mem_visit_iff]
  have hNone : proxyName ∉ grouped.keys → pairsUnder grouped proxyName = [] := by
    intro hNot
    cases hValue : grouped.lookup proxyName with
    | none =>
      rw [pairsUnder, hValue]
      rfl
    | some value => exact absurd ((grouped.mem_keys_iff proxyName).mpr ⟨value, hValue⟩) hNot
  have hSplit : ∀ names : List ProxyName, names.Nodup →
      ((names.flatMap fun name => (pairsUnder grouped name).map fun entry => (name, entry.1)).filter
        fun target => target.1 = proxyName).map Prod.snd =
      if proxyName ∈ names then (pairsUnder grouped proxyName).map Prod.fst else [] := by
    intro names hNames
    induction names with
    | nil => rfl
    | cons name rest ih =>
      obtain ⟨hNot, hRest⟩ := List.nodup_cons.mp hNames
      rw [List.flatMap_cons, List.filter_append, List.map_append, ih hRest, List.filter_map, List.map_map]
      by_cases hAt : name = proxyName
      · subst hAt
        simp [hNot, Function.comp_def]
      · simp [hAt, Ne.symm hAt, Function.comp_def]
  rw [hSplit _ hNodup]
  by_cases hKey : proxyName ∈ grouped.keys
  · simp [hMem, hKey]
  · simp [hMem, hKey, hNone hKey]

theorem nodup_dropConnTargets (ctx : DropConnContext) {grouped : ClientProxynameTable}
    (hOne : OneProxyEach grouped) : ((dropConnTargets ctx grouped).map Prod.snd).Nodup := by
  have hGroup : ∀ proxyName, ((pairsUnder grouped proxyName).map Prod.fst).Nodup := by
    intro proxyName
    cases hValue : grouped.lookup proxyName with
    | none =>
      rw [pairsUnder, hValue]
      exact List.nodup_nil
    | some value =>
      rw [pairsUnder_of_lookup hValue, value.map_fst_pairs]
      exact value.requestUuids.nodup
  rw [dropConnTargets_eq, List.map_flatMap]
  simp only [List.map_map, Function.comp_def]
  refine List.nodup_flatMap.mpr ⟨fun proxyName _ => hGroup proxyName, ?_⟩
  have hNames := (ctx.localOrder.visit_nodup grouped.keys_nodup).filter ctx.registered
  refine hNames.imp fun hNe => ?_
  intro rid hm hn
  obtain ⟨entry, hEntry, rfl⟩ := List.mem_map.mp hm
  obtain ⟨other, hOther, hEq⟩ := List.mem_map.mp hn
  refine hNe (hOne entry.1 _ _ ⟨entry.2, mem_pairsUnder.mp hEntry⟩ ⟨other.2, ?_⟩)
  rw [← hEq]
  exact mem_pairsUnder.mp hOther

/-! ## The targets of the second loop -/

/-- Some proxy with a registered channel lists the id. -/
def AtRegistered (ctx : DropConnContext) (store : RequestStore) (rid : Rid) : Prop :=
  ∃ proxyName, ctx.registered proxyName = true ∧ ListedUnder store.proxynames proxyName rid

section Collected

variable {ctx : DropConnContext} {uuids : List Rid}

theorem pairsUnder_dropConnCollected (hOne : OneProxyEach store.proxynames) (hNodup : uuids.Nodup)
    (proxyName : ProxyName) :
    pairsUnder (dropConnCollected ctx store uuids).2 proxyName =
      (uuids.filter fun rid => ListedUnder store.proxynames proxyName rid).map fun rid => (rid, false) :=
  pairsUnder_dropConnCollect ctx hOne HashTable.empty hNodup
    (fun rid _ proxyName => not_listedUnder_empty proxyName rid) proxyName

theorem oneProxyEach_dropConnCollected (hOne : OneProxyEach store.proxynames) (hNodup : uuids.Nodup) :
    OneProxyEach (dropConnCollected ctx store uuids).2 := by
  have hListed : ∀ proxyName rid, ListedUnder (dropConnCollected ctx store uuids).2 proxyName rid →
      ListedUnder store.proxynames proxyName rid := by
    rintro proxyName rid ⟨sent, hEntry⟩
    rw [← mem_pairsUnder, pairsUnder_dropConnCollected hOne hNodup] at hEntry
    obtain ⟨_, hMem, hEq⟩ := List.mem_map.mp hEntry
    cases hEq
    simpa using (List.mem_filter.mp hMem).2
  exact fun rid m n hm hn => hOne rid m n (hListed m rid hm) (hListed n rid hn)

theorem filter_targets_dropConnCollected (hOne : OneProxyEach store.proxynames) (hNodup : uuids.Nodup)
    (proxyName : ProxyName) :
    ((dropConnTargets ctx (dropConnCollected ctx store uuids).2).filter
        fun target => target.1 = proxyName).map Prod.snd =
      if ctx.registered proxyName then
        uuids.filter fun rid => ListedUnder store.proxynames proxyName rid else [] := by
  rw [filter_dropConnTargets, pairsUnder_dropConnCollected hOne hNodup, List.map_map]
  simp [Function.comp_def]

theorem mem_targets_dropConnCollected (hOne : OneProxyEach store.proxynames) (hNodup : uuids.Nodup)
    {rid : Rid} :
    rid ∈ (dropConnTargets ctx (dropConnCollected ctx store uuids).2).map Prod.snd ↔
      rid ∈ uuids ∧ AtRegistered ctx store rid := by
  have hSome : rid ∈ (dropConnTargets ctx (dropConnCollected ctx store uuids).2).map Prod.snd ↔
      ∃ proxyName, rid ∈ ((dropConnTargets ctx (dropConnCollected ctx store uuids).2).filter
        fun target => target.1 = proxyName).map Prod.snd := by
    simp
  rw [hSome]
  simp only [filter_targets_dropConnCollected hOne hNodup, AtRegistered]
  constructor
  · rintro ⟨proxyName, hIn⟩
    split at hIn
    · rename_i hRegistered
      obtain ⟨hUuid, hListed⟩ := List.mem_filter.mp hIn
      exact ⟨hUuid, proxyName, hRegistered, by simpa using hListed⟩
    · cases hIn
  · rintro ⟨hUuid, proxyName, hRegistered, hListed⟩
    refine ⟨proxyName, ?_⟩
    rw [if_pos hRegistered]
    exact List.mem_filter.mpr ⟨hUuid, by simpa using hListed⟩

end Collected

/-! ## Drop requests under fresh ids -/

theorem entriesUnder_clientProxynameTableSet {table : ClientProxynameTable} {rid : Rid}
    {proxyName : ProxyName} (hNew : ¬ ListedUnder table proxyName rid) (other : ProxyName) :
    entriesUnder (clientProxynameTableSet table proxyName rid) other =
      extended (if other = proxyName then [(rid, false)] else []) (entriesUnder table other) := by
  cases hValue : table.lookup proxyName with
  | none =>
    simp only [clientProxynameTableSet, hValue]
    rw [entriesUnder_insert, ClientProxynameTableValue.pairs_add]
    split
    · rename_i hOther
      rw [hOther, entriesUnder, hValue]
      rfl
    · rfl
  | some value =>
    have hMem : rid ∉ value.requestUuids.uuids := fun h => hNew ((listedUnder_of_lookup hValue rid).mpr h)
    simp only [clientProxynameTableSet, hValue, hMem, dif_neg, not_false_iff]
    rw [entriesUnder_insert, ClientProxynameTableValue.pairs_add]
    split
    · rename_i hOther
      rw [hOther, entriesUnder, hValue]
      rfl
    · rfl

theorem dropConnCreate_spec (ctx : DropConnContext) (fresh : Rid → Rid) (drawn : Nat)
    {targets : List (ProxyName × Rid)}
    (hDrawn : (targets.map fun target => fresh target.2) =
      (List.range' drawn targets.length).map ctx.uuidGenerate)
    (hNodup : (targets.map fun target => fresh target.2).Nodup)
    (hNew : ∀ target ∈ targets, ∀ proxyName, ¬ ListedUnder store.proxynames proxyName (fresh target.2)) :
    (∀ proxyName, entriesUnder (dropConnCreate ctx store drawn targets).proxynames proxyName =
      extended ((targets.filter fun target => target.1 = proxyName).map fun target =>
        (fresh target.2, false)) (entriesUnder store.proxynames proxyName)) ∧
    ∀ target ∈ targets, (dropConnCreate ctx store drawn targets).services.lookup (fresh target.2) =
      some (requestDropText ctx.print target.2) := by
  induction targets generalizing store drawn with
  | nil => exact ⟨fun _ => rfl, fun _ h => absurd h List.not_mem_nil⟩
  | cons target rest ih =>
    obtain ⟨name, removed⟩ := target
    rw [List.length_cons, List.range'_succ, List.map_cons, List.map_cons, List.cons.injEq] at hDrawn
    obtain ⟨hId, hRestDrawn⟩ := hDrawn
    obtain ⟨hNot, hRestNodup⟩ := List.nodup_cons.mp hNodup
    rw [List.forall_mem_cons] at hNew
    obtain ⟨hFirst, hRestNew⟩ := hNew
    have hStill : ∀ target ∈ rest, ∀ proxyName, ¬ ListedUnder
        (store.saveRequestDrop ctx.print name (fresh removed) removed).proxynames proxyName
        (fresh target.2) := by
      intro target hTarget proxyName hListed
      rw [RequestStore.saveRequestDrop, listedUnder_clientProxynameTableSet] at hListed
      rcases hListed with hOld | ⟨-, hEq⟩
      · exact hRestNew target hTarget proxyName hOld
      · exact hNot (List.mem_map.mpr ⟨target, hTarget, hEq⟩)
    obtain ⟨hEntries, hServices⟩ := ih (drawn + 1) hRestDrawn hRestNodup hStill
    rw [dropConnCreate, ← hId]
    refine ⟨fun proxyName => ?_, ?_⟩
    · rw [hEntries, RequestStore.saveRequestDrop, entriesUnder_clientProxynameTableSet (hFirst name),
        extended_extended, List.filter_cons]
      by_cases hAt : proxyName = name
      · simp [hAt]
      · simp [hAt, Ne.symm hAt]
    · intro target hTarget
      rcases List.mem_cons.mp hTarget with rfl | hRest
      · -- the later drop requests have other ids
        have hLater : fresh removed ∉ (List.range' (drawn + 1) rest.length).map ctx.uuidGenerate := by
          rw [← hRestDrawn]
          exact hNot
        rw [(SameRequest.dropConnCreate ctx _ (drawn + 1) hLater).services, RequestStore.saveRequestDrop,
          lookup_clientServiceTableSet, if_pos rfl]
        rfl
      · exact hServices target hRest

/-- Distinct targets have their own ids among the drawn ones. -/
theorem exists_fresh {targets : List (ProxyName × Rid)} (hNodup : (targets.map Prod.snd).Nodup)
    (uuidGenerate : Nat → Rid) :
    ∃ fresh : Rid → Rid, (targets.map fun target => fresh target.2) =
      (List.range' 0 targets.length).map uuidGenerate := by
  refine ⟨fun rid => uuidGenerate ((targets.map Prod.snd).idxOf rid), ?_⟩
  apply List.ext_getElem
  · simp
  · intro i h _
    have hLt : i < (targets.map Prod.snd).length := by simpa using h
    have hIdx := hNodup.idxOf_getElem i hLt
    rw [List.getElem_map] at hIdx
    simp [hIdx]

/-! ## The whole call -/

/-- The ids that a connection lists, in their order. -/
def RequestStore.uuidsOf (store : RequestStore) (conn : Conn) : List Rid :=
  (clientConnectionTableRequestDup store.connections conn).getD []

/-- The entries that a proxy gets: one unsent drop request for each id of the connection that it
lists, when it has a registered channel. -/
def dropEntries (ctx : DropConnContext) (store : RequestStore) (conn : Conn) (fresh : Rid → Rid)
    (proxyName : ProxyName) : List (Rid × Bool) :=
  if ctx.registered proxyName then
    ((store.uuidsOf conn).filter fun rid => ListedUnder store.proxynames proxyName rid).map
      fun rid => (fresh rid, false)
  else []

/-- The connection and its requests are gone, its proxies are asked to drop them under fresh ids, and
everything else is as it was. -/
structure ConnectionClosed (ctx : DropConnContext) (store : RequestStore) (conn : Conn)
    (fresh : Rid → Rid) (closed : RequestStore) : Prop where
  requests : ∀ rid, closed.requests.lookup rid =
    if rid ∈ store.uuidsOf conn then none else store.requests.lookup rid
  connections : ∀ other, closed.connections.lookup other =
    if other = conn then none else store.connections.lookup other
  removed : ∀ rid ∈ store.uuidsOf conn, closed.services.lookup rid = none
  asked : ∀ rid ∈ store.uuidsOf conn, AtRegistered ctx store rid →
    ∃ text, closed.services.lookup (fresh rid) = some text ∧ DropText ctx.print text rid
  services : ∀ rid, rid ∉ store.uuidsOf conn →
    (∀ dropped ∈ store.uuidsOf conn, AtRegistered ctx store dropped → rid ≠ fresh dropped) →
    closed.services.lookup rid = store.services.lookup rid
  proxynames : ∀ proxyName, entriesUnder closed.proxynames proxyName =
    extended (dropEntries ctx store conn fresh proxyName)
      (kept (fun entry => staying (store.uuidsOf conn) entry.1) (entriesUnder store.proxynames proxyName))
  fresh_new : ∀ rid ∈ store.uuidsOf conn, AtRegistered ctx store rid → store.Absent (fresh rid)
  fresh_injective : ∀ rid ∈ store.uuidsOf conn, AtRegistered ctx store rid →
    ∀ other ∈ store.uuidsOf conn, AtRegistered ctx store other → fresh rid = fresh other → rid = other

theorem mem_uuidsOf {conn : Conn} {rid : Rid} :
    rid ∈ store.uuidsOf conn ↔ ListedIn store.connections conn rid := by
  rw [listedIn_iff_requestDup, RequestStore.uuidsOf]
  cases clientConnectionTableRequestDup store.connections conn <;> simp

theorem nodup_uuidsOf (store : RequestStore) (conn : Conn) : (store.uuidsOf conn).Nodup := by
  rw [RequestStore.uuidsOf, clientConnectionTableRequestDup]
  cases store.connections.lookup conn with
  | none => exact List.nodup_nil
  | some arr => exact arr.nodup

theorem connectionClosed_of_none (ctx : DropConnContext) {conn : Conn}
    (h : clientConnectionTableRequestDup store.connections conn = none) :
    ConnectionClosed ctx store conn id (clientServiceDropConn ctx store conn) := by
  have hUuids : store.uuidsOf conn = [] := by
    rw [RequestStore.uuidsOf, h]
    rfl
  have hSame : clientServiceDropConn ctx store conn = store := by
    simp only [clientServiceDropConn, h]
  rw [hSame]
  refine ⟨?_, ?_, ?_, ?_, fun _ _ _ => rfl, ?_, ?_, ?_⟩
  · intro rid
    rw [hUuids, if_neg List.not_mem_nil]
  · intro other
    split
    · rename_i hOther
      rw [hOther]
      exact Option.map_eq_none_iff.mp h
    · rfl
  · simp [hUuids]
  · simp [hUuids]
  · intro proxyName
    rw [dropEntries, hUuids, List.filter_nil, List.map_nil, ite_self, extended_nil]
    exact (kept_of_not_listedUnder (by simp)).symm
  · simp [hUuids]
  · simp [hUuids]

theorem clientServiceDropConn_of_some (ctx : DropConnContext) {conn : Conn} {uuids : List Rid}
    (h : clientConnectionTableRequestDup store.connections conn = some uuids) :
    clientServiceDropConn ctx store conn =
      { dropConnCreate ctx (dropConnCollected ctx store uuids).1 0
          (dropConnTargets ctx (dropConnCollected ctx store uuids).2) with
        connections := store.connections.remove conn } := by
  simp only [clientServiceDropConn, h]
  rw [RequestStore.connections_dropConnCreate, dropConnCollected,
    RequestStore.connections_dropConnCollect]
  rfl

/-- The drop requests of the targets under a proxy are the entries that it gets. -/
theorem map_filter_targets (ctx : DropConnContext) (hOne : OneProxyEach store.proxynames) (conn : Conn)
    (fresh : Rid → Rid) (proxyName : ProxyName) :
    ((dropConnTargets ctx (dropConnCollected ctx store (store.uuidsOf conn)).2).filter
        fun target => target.1 = proxyName).map (fun target => (fresh target.2, false)) =
      dropEntries ctx store conn fresh proxyName := by
  have hGroup := @filter_targets_dropConnCollected store ctx (store.uuidsOf conn) hOne
    (nodup_uuidsOf store conn) proxyName
  calc
    _ = (((dropConnTargets ctx (dropConnCollected ctx store (store.uuidsOf conn)).2).filter
          fun target => target.1 = proxyName).map Prod.snd).map fun rid => (fresh rid, false) := by
      rw [List.map_map]
      rfl
    _ = dropEntries ctx store conn fresh proxyName := by
      rw [hGroup, dropEntries]
      split <;> rfl

/-- A connection that stands in the table is taken out with its requests, and the proxies are asked. -/
theorem connectionClosed_of_some (ctx : DropConnContext) {conn : Conn} {uuids : List Rid}
    (hDup : clientConnectionTableRequestDup store.connections conn = some uuids)
    (hAgree : store.Agreement) (hNodup : (dropConnDrawn ctx store conn).Nodup)
    (hNew : ∀ rid ∈ dropConnDrawn ctx store conn, store.Absent rid) :
    ∃ fresh, ConnectionClosed ctx store conn fresh (clientServiceDropConn ctx store conn) := by
  obtain rfl : store.uuidsOf conn = uuids := by
    rw [RequestStore.uuidsOf, hDup]
    rfl
  have hOne : OneProxyEach store.proxynames := hAgree.proxyname_unique
  have hUnique := nodup_uuidsOf store conn
  have hNews := map_filter_targets ctx hOne conn
  rw [clientServiceDropConn_of_some ctx hDup]
  set collected := dropConnCollected ctx store (store.uuidsOf conn)
  set targets := dropConnTargets ctx collected.2
  have hRemoved : store.RemovedRequests (store.uuidsOf conn) collected.1 :=
    removedRequests_dropConnCollect ctx hOne HashTable.empty (store.uuidsOf conn)
  have hMem : ∀ rid, rid ∈ targets.map Prod.snd ↔
      rid ∈ store.uuidsOf conn ∧ AtRegistered ctx store rid :=
    fun _ => mem_targets_dropConnCollected hOne hUnique
  obtain ⟨fresh, hFresh⟩ := exists_fresh
    (nodup_dropConnTargets ctx (oneProxyEach_dropConnCollected hOne hUnique)) ctx.uuidGenerate
  have hDrawn : dropConnDrawn ctx store conn = targets.map fun target => fresh target.2 := by
    rw [hFresh, dropConnDrawn, hDup, ← List.range_eq_range']
  rw [hDrawn] at hNodup hNew
  have hAbsent : ∀ target ∈ targets, store.Absent (fresh target.2) :=
    fun target h => hNew _ (List.mem_map.mpr ⟨target, h, rfl⟩)
  have hAsked : ∀ rid ∈ store.uuidsOf conn, AtRegistered ctx store rid →
      ∃ target ∈ targets, target.2 = rid :=
    fun rid hUuid hAt => List.mem_map.mp ((hMem rid).mpr ⟨hUuid, hAt⟩)
  obtain ⟨hEntries, hServices⟩ := dropConnCreate_spec ctx fresh 0 hFresh hNodup
    fun target h proxyName hListed => (hAbsent target h).proxynames proxyName
      ((hRemoved.listedUnder_iff proxyName _).mp hListed).1
  have hOthers : ∀ rid, rid ∉ (targets.map fun target => fresh target.2) →
      (dropConnCreate ctx collected.1 0 targets).services.lookup rid =
        if rid ∈ store.uuidsOf conn then none else store.services.lookup rid := by
    intro rid hNot
    rw [hFresh] at hNot
    exact (SameRequest.dropConnCreate ctx collected.1 0 hNot).services.trans (hRemoved.services rid)
  exact ⟨fresh,
    { requests := fun rid => (lookup_requests_dropConnCreate ..).trans (hRemoved.requests rid)
      connections := HashTable.lookup_remove store.connections conn
      removed := by
        intro rid hRid
        have hNot : rid ∉ targets.map fun target => fresh target.2 := by
          intro hIn
          obtain ⟨target, hTarget, rfl⟩ := List.mem_map.mp hIn
          exact (hAbsent target hTarget).connections conn (mem_uuidsOf.mp hRid)
        exact (hOthers rid hNot).trans (if_pos hRid)
      asked := by
        intro rid hRid hAt
        obtain ⟨target, hTarget, rfl⟩ := hAsked rid hRid hAt
        exact ⟨_, hServices target hTarget, dropText_requestDropText ctx.print target.2⟩
      services := by
        intro rid hRid hNotFresh
        refine (hOthers rid fun hIn => ?_).trans (if_neg hRid)
        obtain ⟨target, hTarget, hEq⟩ := List.mem_map.mp hIn
        obtain ⟨hUuid, hAt⟩ := (hMem target.2).mp (List.mem_map.mpr ⟨target, hTarget, rfl⟩)
        exact hNotFresh target.2 hUuid hAt hEq.symm
      proxynames := by
        intro proxyName
        rw [← hRemoved.proxynames, ← hNews]
        exact hEntries proxyName
      fresh_new := by
        intro rid hRid hAt
        obtain ⟨target, hTarget, rfl⟩ := hAsked rid hRid hAt
        exact hAbsent target hTarget
      fresh_injective := by
        intro rid hRid hAt other hOther hAtOther hEq
        obtain ⟨target, hTarget, rfl⟩ := hAsked rid hRid hAt
        obtain ⟨target', hTarget', rfl⟩ := hAsked other hOther hAtOther
        exact congrArg Prod.snd (List.inj_on_of_nodup_map hNodup hTarget hTarget' hEq) }⟩

/-- Closing a connection takes exactly its requests out of the four tables and asks exactly the
proxies with a registered channel to drop them. -/
theorem connectionClosed (ctx : DropConnContext) (store : RequestStore) (conn : Conn)
    (hAgree : store.Agreement) (hNodup : (dropConnDrawn ctx store conn).Nodup)
    (hNew : ∀ rid ∈ dropConnDrawn ctx store conn, store.Absent rid) :
    ∃ fresh, ConnectionClosed ctx store conn fresh (clientServiceDropConn ctx store conn) := by
  cases hDup : clientConnectionTableRequestDup store.connections conn with
  | none => exact ⟨id, connectionClosed_of_none ctx hDup⟩
  | some uuids => exact connectionClosed_of_some ctx hDup hAgree hNodup hNew

/-- The connection 2 closes, "weather" and "lamp" are asked to drop its two requests, and that of the
connection 1 stays. -/
theorem connectionClosed_sampleTwoClients :
    (∃ fresh, ConnectionClosed (sampleDropConnContext "u") sampleTwoClients.store 2 fresh
      (clientServiceDropConn (sampleDropConnContext "u") sampleTwoClients.store 2)) ∧
    (clientServiceDropConn (sampleDropConnContext "u") sampleTwoClients.store 2).services.keys =
      ["u1", "u0", "r2"] := by
  have hDrawn : dropConnDrawn (sampleDropConnContext "u") sampleTwoClients.store 2 = ["u0", "u1"] := by decide
  have hAgree := agreement_sampleTwoClients
  refine ⟨connectionClosed _ _ _ hAgree (by decide) fun rid hRid => ?_, by decide⟩
  rw [hDrawn] at hRid
  rcases List.mem_cons.mp hRid with rfl | hLast
  · exact hAgree.absent_of_lookup (by decide) (by decide)
  · cases List.mem_singleton.mp hLast
    exact hAgree.absent_of_lookup (by decide) (by decide)

end Gonggo
