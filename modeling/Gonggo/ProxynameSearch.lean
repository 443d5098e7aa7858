import Gonggo.AcknowledgedRequests

/-! # The search of an id through all proxies

`client_proxyname_table_drop_all` copies the names of the proxies and leaves its loop at the first
one that lists the id. A client may route one id to several proxies, so the table may list it
several times.
-/

namespace Gonggo

inductive ProxynameUse
  | route (ctx : RouteContext) (uri data : String) (conn : Conn)
  | requestSent (proxyName : ProxyName) (requestUuid : Rid)
  | requestUnsent (proxyName : ProxyName)
  | drop (proxyName : ProxyName) (requestUuid : Rid)
  | dropAll (order : Traversal ProxyName) (requestUuid : Rid)

namespace ProxynameUse

def onTable (d : Dispatcher) (table : ClientProxynameTable) : Dispatcher :=
  { d with store := { d.store with proxynames := table } }

def effect (d : Dispatcher) : ProxynameUse → Dispatcher
  | .route ctx uri data conn => clientServiceRoute ctx d uri data conn
  | .requestSent proxyName requestUuid =>
      onTable d (clientProxynameTableRequestSent d.store.proxynames proxyName requestUuid)
  | .requestUnsent proxyName =>
      onTable d (clientProxynameTableRequestUnsent d.store.proxynames proxyName)
  | .drop proxyName requestUuid =>
      onTable d (clientProxynameTableDrop d.store.proxynames proxyName requestUuid).2
  | .dropAll order requestUuid =>
      onTable d (clientProxynameTableDropAll d.store.proxynames order requestUuid)

end ProxynameUse

def proxynameUseSystem : TransitionSystem Dispatcher ProxynameUse where
  init d := d = .empty
  guard _ _ := True
  effect := ProxynameUse.effect

instance (d : Dispatcher) (e : ProxynameUse) : Decidable (proxynameUseSystem.guard d e) :=
  inferInstanceAs (Decidable True)

/-- The id is in no list of the second table, and the other entries stand as in the first. -/
structure Forgotten (before after : ClientProxynameTable) (rid : Rid) : Prop where
  unlisted : ∀ proxyName, ¬ ListedUnder after proxyName rid
  others : ∀ proxyName, (pairsUnder after proxyName).filter (fun entry => entry.1 ≠ rid) =
    (pairsUnder before proxyName).filter fun entry => entry.1 ≠ rid

/-- At most one proxy lists the id. -/
def SoleProxy (table : ClientProxynameTable) (rid : Rid) : Prop :=
  ∀ m n, ListedUnder table m rid → ListedUnder table n rid → m = n

/-- The search takes out one entry of the id, if there is any. -/
theorem pairsUnder_clientProxynameTableDropAll (table : ClientProxynameTable)
    (order : Traversal ProxyName) (rid : Rid) (other : ProxyName) :
    (pairsUnder (clientProxynameTableDropAll table order rid) other).filter
        (fun entry => entry.1 ≠ rid) =
      (pairsUnder table other).filter fun entry => entry.1 ≠ rid := by
  rcases clientProxynameTableDropAll_cases table order rid with
    ⟨-, hSame⟩ | ⟨proxyName, -, hDrop⟩
  · rw [hSame]
  · rw [hDrop, pairsUnder_clientProxynameTableDrop]
    split
    · rw [List.filter_filter]
      simp only [Bool.and_self]
    · rfl

theorem soleProxy_of_unlisted {table : ClientProxynameTable} {order : Traversal ProxyName} {rid : Rid}
    (h : ∀ proxyName, ¬ ListedUnder (clientProxynameTableDropAll table order rid) proxyName rid) :
    SoleProxy table rid := by
  intro m n hM hN
  rcases clientProxynameTableDropAll_cases table order rid with
    ⟨hNone, -⟩ | ⟨proxyName, -, hDrop⟩
  · exact absurd hM (hNone m)
  · -- Whatever else lists the id keeps it, since only one entry is taken out.
    have hOnly : ∀ other, ListedUnder table other rid → other = proxyName := by
      intro other hOther
      by_contra hNe
      apply h other
      rw [hDrop, listedUnder_clientProxynameTableDrop]
      exact ⟨hOther, fun hEq => hNe hEq.1⟩
    rw [hOnly m hM, hOnly n hN]

theorem SoleProxy.forgotten {table : ClientProxynameTable} {rid : Rid} (h : SoleProxy table rid)
    (order : Traversal ProxyName) : Forgotten table (clientProxynameTableDropAll table order rid) rid where
  unlisted proxyName hListed :=
    ((listedUnder_clientProxynameTableDropAll table order rid h proxyName rid).mp hListed).2 rfl
  others := pairsUnder_clientProxynameTableDropAll table order rid

/-! ## Ids that are routed to one proxy -/

/-- No id is routed to a proxy while another one lists it. -/
def RoutesApart (d : Dispatcher) : ProxynameUse → Prop
  | .route ctx uri data _ => ∀ rid proxyName serviceName payload,
      AcknowledgedAs ctx uri data rid proxyName serviceName payload →
        ∀ other, ListedUnder d.store.proxynames other rid → other = proxyName
  | _ => True

theorem soleProxy_onTable {d : Dispatcher} {table : ClientProxynameTable}
    (hTable : ∀ proxyName rid, ListedUnder table proxyName rid →
      ListedUnder d.store.proxynames proxyName rid)
    (h : ∀ rid, SoleProxy d.store.proxynames rid) (rid : Rid) :
    SoleProxy (ProxynameUse.onTable d table).store.proxynames rid :=
  fun m n hM hN => h rid m n (hTable m rid hM) (hTable n rid hN)

theorem soleProxy_of_reachable {d : Dispatcher} (h : proxynameUseSystem.ReachableWhen RoutesApart d)
    (rid : Rid) : SoleProxy d.store.proxynames rid := by
  revert rid
  refine h.invariant (fun d => ∀ rid, SoleProxy d.store.proxynames rid) ?_ ?_
  · rintro d rfl rid m n hM -
    exact absurd hM (not_listedUnder_empty m rid)
  · intro d e hSole _ hApart
    cases e with
    | route ctx uri data conn =>
      show ∀ rid, SoleProxy (clientServiceRoute ctx d uri data conn).store.proxynames rid
      by_cases hAck : ∃ rid proxyName serviceName payload,
          AcknowledgedAs ctx uri data rid proxyName serviceName payload
      · obtain ⟨routed, proxyName, serviceName, payload, hAck⟩ := hAck
        obtain ⟨timeout, hStore⟩ := hAck.store_clientServiceRoute d conn
        have hOthers := hApart routed proxyName serviceName payload hAck
        intro rid m n hM hN
        rw [hStore] at hM hN
        rcases (listedUnder_clientProxynameTableSet ..).mp hM with hOldM | ⟨hNewM, hRid⟩
        · rcases (listedUnder_clientProxynameTableSet ..).mp hN with hOldN | ⟨hNewN, hRid⟩
          · exact hSole rid m n hOldM hOldN
          · rw [hNewN]
            exact hOthers m (hRid ▸ hOldM)
        · rcases (listedUnder_clientProxynameTableSet ..).mp hN with hOldN | ⟨hNewN, -⟩
          · rw [hNewM]
            exact (hOthers n (hRid ▸ hOldN)).symm
          · rw [hNewM, hNewN]
      · have hNone : clientServiceRoutedRid ctx uri data = none := by
          by_contra hRouted
          obtain ⟨routed, hRouted⟩ := Option.ne_none_iff_exists'.mp hRouted
          exact hAck ⟨routed, exists_acknowledgedAs hRouted⟩
        rw [store_clientServiceRoute_of_none hNone]
        exact hSole
    | requestSent proxyName requestUuid =>
      apply soleProxy_onTable _ hSole
      intro other rid hListed
      exact (listedUnder_clientProxynameTableRequestSent ..).mp hListed
    | requestUnsent proxyName =>
      apply soleProxy_onTable _ hSole
      intro other rid hListed
      exact (listedUnder_clientProxynameTableRequestUnsent ..).mp hListed
    | drop proxyName requestUuid =>
      apply soleProxy_onTable _ hSole
      intro other rid hListed
      exact ((listedUnder_clientProxynameTableDrop ..).mp hListed).1
    | dropAll order requestUuid =>
      apply soleProxy_onTable _ hSole
      intro other rid hListed
      exact ((listedUnder_clientProxynameTableDropAll _ _ _ (hSole requestUuid) other rid).mp hListed).1

/-! ## Ids that are routed to two proxies -/

/-- One client sends the same id to two proxies. -/
def routedTwice : List ProxynameUse :=
  [.route (sampleRouteContext (sampleRequest "r" "weather" "today") 0) "/gonggo"
      (printUnformatted (sampleRequest "r" "weather" "today")) 1,
    .route (sampleRouteContext (sampleRequest "r" "tides" "today") 0) "/gonggo"
      (printUnformatted (sampleRequest "r" "tides" "today")) 1]

def routedTwiceState : Dispatcher := proxynameUseSystem.run .empty routedTwice

theorem reachable_routedTwice : proxynameUseSystem.Reachable routedTwiceState :=
  TransitionSystem.ReachableWhen.run (.init rfl) routedTwice (by decide)

theorem pairsUnder_routedTwice :
    pairsUnder routedTwiceState.store.proxynames "weather" = [("r", false)] ∧
      pairsUnder routedTwiceState.store.proxynames "tides" = [("r", false)] := by
  decide

theorem not_soleProxy_routedTwice : ¬ SoleProxy routedTwiceState.store.proxynames "r" := by
  intro h
  have hWeather : ListedUnder routedTwiceState.store.proxynames "weather" "r" :=
    ⟨false, mem_pairsUnder.mp (by simp [pairsUnder_routedTwice])⟩
  have hTides : ListedUnder routedTwiceState.store.proxynames "tides" "r" :=
    ⟨false, mem_pairsUnder.mp (by simp [pairsUnder_routedTwice])⟩
  exact absurd (h "weather" "tides" hWeather hTides) (by decide)

/-- Every search forgets its id. -/
def SearchesForget (d : Dispatcher) : Prop :=
  ∀ order rid, Forgotten d.store.proxynames
    (clientProxynameTableDropAll d.store.proxynames order rid) rid

/-- A search that begins with one of the two proxies leaves the id with the other. -/
theorem not_searchesForget : ¬ ∀ d, proxynameUseSystem.Reachable d → SearchesForget d := by
  intro h
  exact not_soleProxy_routedTwice
    (soleProxy_of_unlisted (h _ reachable_routedTwice .inOrder "r").unlisted)

/-- A search forgets its id exactly if one proxy at most lists it, and every search does in a run
that routes no id to a proxy while another one lists it. -/
theorem searchesForget_iff (d : Dispatcher) :
    (proxynameUseSystem.Reachable d → ∀ order rid,
      (Forgotten d.store.proxynames (clientProxynameTableDropAll d.store.proxynames order rid) rid ↔
        SoleProxy d.store.proxynames rid)) ∧
    (proxynameUseSystem.ReachableWhen RoutesApart d → SearchesForget d) := by
  constructor
  · intro _ order rid
    exact ⟨fun h => soleProxy_of_unlisted h.unlisted, fun h => h.forgotten order⟩
  · intro h order rid
    exact (soleProxy_of_reachable h rid).forgotten order

theorem searchesForget_iff_routedOnce :
    (Forgotten routedTwiceState.store.proxynames
        (clientProxynameTableDropAll routedTwiceState.store.proxynames .inOrder "r") "r" ↔
      SoleProxy routedTwiceState.store.proxynames "r") ∧
    SearchesForget (proxynameUseSystem.run .empty (routedTwice.take 1)) := by
  refine ⟨(searchesForget_iff _).1 reachable_routedTwice .inOrder "r", (searchesForget_iff _).2 ?_⟩
  refine TransitionSystem.ReachableWhen.step (.init rfl) trivial ?_
  intro rid proxyName serviceName payload _ other hListed
  exact absurd hListed (not_listedUnder_empty other rid)

end Gonggo
