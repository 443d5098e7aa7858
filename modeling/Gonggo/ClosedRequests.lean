import Gonggo.CloseSteps

/-! # Drop requests of closed connections

A request that was handed over when its connection closed is followed by a drop request, unless the
closing caller came to the proxy before the activator had registered its channel.
-/

namespace Gonggo

namespace ChannelDispatch

variable {print : Printer} {proxyName : ProxyName} {s s' : ChannelDispatch}

/-- What is submitted was not stored before, and what is generated was not submitted. -/
def ApartStep (history : DispatchHistory) (generated : Rid) : CallerPc → Prop
  | .connectionSetting _ rid _ _ => rid ∉ history.stored.map Prod.fst
  | .dropStoring _ _ (_ :: _) _ _ => generated ∉ history.submitted.map Prod.snd
  | _ => True

/-- Ids are fresh among the submissions and the envelopes alike. -/
def FreshIds (s : ChannelDispatch) : DispatchEvent → Prop
  | .caller n c =>
      FreshStep s.history c.generated (s.callers n) ∧ ApartStep s.history c.generated (s.callers n)
  | _ => True

/-- No other thread takes a request of a closing connection or a drop request off the table. -/
def Undisturbed (s : ChannelDispatch) : DispatchEvent → Prop
  | .dropName _ rid => (∀ n, rid ∉ s.history.begun n) ∧ rid ∉ s.history.drops.map Prod.snd
  | _ => True

/-- Where a closing caller finds no channel of the proxy, none of its requests was handed over. -/
def ReachesStep (proxyName : ProxyName) (s : ChannelDispatch) : CallerPc → Prop
  | .dropFinding _ ((name, rids) :: _) =>
      name = proxyName → s.current.registered = false → ∀ rid ∈ rids, rid ∉ s.handedOverNow.map Prod.fst
  | _ => True

/-- What a closing caller passes over is not at the proxy, and is not handed over before it ends. -/
def Reaches (proxyName : ProxyName) (s : ChannelDispatch) : DispatchEvent → Prop
  | .caller n _ => s.ReachesStep proxyName (s.callers n)
  | .channel e => ∀ entry, s.current.handsOver e = some entry → ∀ n, entry.1 ∉ s.history.missed n
  | _ => True

theorem FreshIds.fresh {e : DispatchEvent} (h : s.FreshIds e) : s.Fresh e := by
  cases e with
  | caller n c => exact h.1
  | _ => trivial

/-- A drop request is listed for the request. -/
def FollowedUp (proxyName : ProxyName) (s : ChannelDispatch) (rid : Rid) : Prop :=
  ∃ drop, (rid, drop) ∈ s.history.drops ∧ (proxyName, drop) ∈ s.history.inserted

/-- What holds of a caller, with the requests that were listed when its close began and those whose
channel it did not find. -/
structure Closer (proxyName : ProxyName) (s : ChannelDispatch) (pc : CallerPc)
    (begun missed : List Rid) : Prop where
  rids : ∀ conn, pc.closing = some conn →
    pc.rids.Nodup ∧ ∀ rid ∈ pc.rids, (conn, rid) ∈ s.history.submitted
  begun : ∀ rid ∈ begun,
    (rid ∈ pc.ungrouped ∧ ListedUnder s.current.proxynames proxyName rid) ∨
      pc.Grouped proxyName rid ∨ s.FollowedUp proxyName rid ∨ rid ∈ missed
  grouped : ∀ name rid, pc.Grouped name rid → rid ∈ s.history.stored.map Prod.fst ∧
    (s.current.services.lookup rid = none ∨ pc.removing = some rid)
  dropping : ∀ pair, pc.dropping = some pair → pair ∈ s.history.drops
  missed : ∀ rid ∈ missed, rid ∉ s.handedOverNow.map Prod.fst

/-- What every step keeps. -/
structure CloseFrame (proxyName : ProxyName) (s s' : ChannelDispatch) : Prop where
  submitted : ∀ entry ∈ s.history.submitted, entry ∈ s'.history.submitted
  stored : ∀ entry ∈ s.history.stored, entry ∈ s'.history.stored
  drops : ∀ pair ∈ s.history.drops, pair ∈ s'.history.drops
  followed : ∀ rid, s.FollowedUp proxyName rid → s'.FollowedUp proxyName rid
  spent : ∀ rid ∈ s.history.stored.map Prod.fst, s.current.services.lookup rid = none →
    s'.current.services.lookup rid = none

theorem closeFrame_effect {e : DispatchEvent} (hFresh : s.Fresh e) :
    CloseFrame proxyName s (s.effect print proxyName e) := by
  have hActs : ActsOn proxyName s (s.effect print proxyName e) (s.tableAction print e) :=
    actsOn_effect s e
  have hSubmits : SubmitsOn s (s.effect print proxyName e) (s.submits e) (s.drops e) :=
    submitsOn_effect s e
  have hDrops : ∀ pair ∈ s.history.drops, pair ∈ (s.effect print proxyName e).history.drops := by
    intro pair hMem
    rw [hSubmits.drops]
    exact List.mem_append_left _ hMem
  refine ⟨fun entry hMem => ?_, fun entry hMem => ?_, hDrops, ?_, fun rid hMem hNone => ?_⟩
  · rw [hSubmits.submitted]
    exact List.mem_append_left _ hMem
  · rw [hActs.stored]
    exact List.mem_append_left _ hMem
  · rintro rid ⟨drop, hDrop, hInserted⟩
    refine ⟨drop, hDrops _ hDrop, ?_⟩
    rw [hActs.inserted]
    exact List.mem_append_left _ hInserted
  · rw [hActs.services]
    by_contra hSome
    obtain ⟨text, hText⟩ := Option.ne_none_iff_exists'.mp hSome
    rcases TableAction.lookup_services hText with hOld | hStores
    · rw [hNone] at hOld
      cases hOld
    · exact not_mem_of_stores hFresh (List.mem_map_of_mem hStores) hMem

theorem CloseFrame.storedKeys (h : CloseFrame proxyName s s') {rid : Rid}
    (hMem : rid ∈ s.history.stored.map Prod.fst) : rid ∈ s'.history.stored.map Prod.fst := by
  obtain ⟨entry, hEntry, rfl⟩ := List.mem_map.mp hMem
  exact List.mem_map_of_mem (h.stored entry hEntry)

namespace Closer

variable {pc pc' : CallerPc} {begun missed : List Rid}

theorem of_frame (h : s.Closer proxyName pc begun missed) (hFrame : CloseFrame proxyName s s')
    (hListed : ∀ rid ∈ begun, rid ∈ pc.ungrouped → ListedUnder s.current.proxynames proxyName rid →
      ListedUnder s'.current.proxynames proxyName rid)
    (hMissed : ∀ rid ∈ missed, rid ∉ s'.handedOverNow.map Prod.fst) :
    s'.Closer proxyName pc begun missed where
  rids conn hConn :=
    ⟨(h.rids conn hConn).1, fun rid hMem => hFrame.submitted _ ((h.rids conn hConn).2 rid hMem)⟩
  begun rid hMem := by
    rcases h.begun rid hMem with ⟨hUngrouped, hOld⟩ | hGrouped | hFollowed | hMiss
    · exact .inl ⟨hUngrouped, hListed rid hMem hUngrouped hOld⟩
    · exact .inr (.inl hGrouped)
    · exact .inr (.inr (.inl (hFrame.followed rid hFollowed)))
    · exact .inr (.inr (.inr hMiss))
  grouped name rid hGrouped := by
    obtain ⟨hStored, hSpent⟩ := h.grouped name rid hGrouped
    exact ⟨hFrame.storedKeys hStored, hSpent.imp_left (hFrame.spent rid hStored)⟩
  dropping pair hPair := hFrame.drops pair (h.dropping pair hPair)
  missed := hMissed

theorem of_pc (h : s.Closer proxyName pc begun missed)
    (hClosing : pc'.closing = none ∨ pc'.closing = pc.closing) (hRids : pc'.rids.Sublist pc.rids)
    (hUngrouped : ∀ rid ∈ pc.ungrouped, rid ∈ pc'.ungrouped)
    (hKept : ∀ rid, pc.Grouped proxyName rid → pc'.Grouped proxyName rid ∨ s.FollowedUp proxyName rid)
    (hOnly : ∀ name rid, pc'.Grouped name rid → pc.Grouped name rid)
    (hRemoving : ∀ rid, pc.removing = some rid → s.current.services.lookup rid = none)
    (hDropping : ∀ pair, pc'.dropping = some pair → pair ∈ s.history.drops) :
    s.Closer proxyName pc' begun missed where
  rids conn hConn := by
    rcases hClosing with hNone | hSame
    · rw [hNone] at hConn
      cases hConn
    · obtain ⟨hNodup, hMem⟩ := h.rids conn (hSame ▸ hConn)
      exact ⟨hNodup.sublist hRids, fun rid hRid => hMem rid (hRids.subset hRid)⟩
  begun rid hMem := by
    rcases h.begun rid hMem with ⟨hOld, hListed⟩ | hGrouped | hFollowed | hMiss
    · exact .inl ⟨hUngrouped rid hOld, hListed⟩
    · rcases hKept rid hGrouped with hStill | hFollowed
      · exact .inr (.inl hStill)
      · exact .inr (.inr (.inl hFollowed))
    · exact .inr (.inr (.inl hFollowed))
    · exact .inr (.inr (.inr hMiss))
  grouped name rid hGrouped := by
    obtain ⟨hStored, hSpent⟩ := h.grouped name rid (hOnly name rid hGrouped)
    exact ⟨hStored, .inl (hSpent.elim id (hRemoving rid))⟩
  dropping := hDropping
  missed := h.missed

theorem of_not_closing (hPc : pc.closing = none) (hGrouped : ∀ name rid, ¬ pc.Grouped name rid)
    (hDropping : pc.dropping = none) : s.Closer proxyName pc [] [] where
  rids conn hConn := by
    rw [hPc] at hConn
    cases hConn
  begun rid hMem := by cases hMem
  grouped name rid hAt := (hGrouped name rid hAt).elim
  dropping pair hPair := by
    rw [hDropping] at hPair
    cases hPair
  missed rid hMem := by cases hMem

end Closer

/-- A request is listed under one proxy only. -/
theorem Recorded.listed_unique (h : s.Recorded) {name name' : ProxyName} {rid : Rid}
    (hListed : ListedUnder s.current.proxynames name rid)
    (hListed' : ListedUnder s.current.proxynames name' rid) : name = name' :=
  congrArg Prod.fst
    (List.inj_on_of_nodup_map h.insertedOnce (h.listed name rid hListed) (h.listed name' rid hListed') rfl)

namespace Closer

variable {pc pc' : CallerPc} {begun missed : List Rid}

theorem grouping {conn : Conn} {rid : Rid} {rids begun missed : List Rid}
    {grouped : ClientProxynameTable} (h : s.Closer proxyName (.grouping conn (rid :: rids) grouped) begun missed)
    (hRecorded : s.Recorded) (order : Traversal ProxyName) :
    s.Closer proxyName
      (.serviceRemoving conn rid rids
        (match clientProxynameTableProxyNameDup s.current.proxynames order rid with
          | some name => clientProxynameTableSet grouped name rid
          | none => grouped)) begun missed := by
  cases hName : clientProxynameTableProxyNameDup s.current.proxynames order rid with
  | none =>
    refine ⟨h.rids, fun other hMem => ?_, fun name other hGrouped => ?_, (fun _ hPair => by cases hPair),
      h.missed⟩
    · refine (h.begun other hMem).imp_left fun ⟨hUngrouped, hListed⟩ => ⟨?_, hListed⟩
      refine (List.mem_cons.mp hUngrouped).resolve_left ?_
      rintro rfl
      exact clientProxynameTableProxyNameDup_eq_none hName proxyName hListed
    · obtain ⟨hStored, hSpent⟩ := h.grouped name other hGrouped
      exact ⟨hStored, .inl (hSpent.resolve_right fun hRemoving => by cases hRemoving)⟩
  | some name =>
    have hAt := listedUnder_of_clientProxynameTableProxyNameDup hName
    refine ⟨h.rids, fun other hMem => ?_, fun name' other hGrouped => ?_, (fun _ hPair => by cases hPair),
      h.missed⟩
    · rcases h.begun other hMem with ⟨hUngrouped, hListed⟩ | hGrouped | hFollowed | hMiss
      · rcases List.mem_cons.mp hUngrouped with rfl | hLater
        · refine .inr (.inl ?_)
          exact (listedUnder_clientProxynameTableSet ..).mpr
            (.inr ⟨hRecorded.listed_unique hListed hAt, rfl⟩)
        · exact .inl ⟨hLater, hListed⟩
      · exact .inr (.inl ((listedUnder_clientProxynameTableSet ..).mpr (.inl hGrouped)))
      · exact .inr (.inr (.inl hFollowed))
      · exact .inr (.inr (.inr hMiss))
    · rcases (listedUnder_clientProxynameTableSet ..).mp hGrouped with hOld | ⟨-, rfl⟩
      · obtain ⟨hStored, hSpent⟩ := h.grouped name' other hOld
        exact ⟨hStored, .inl (hSpent.resolve_right fun hRemoving => by cases hRemoving)⟩
      · exact ⟨hRecorded.inserted name other (hRecorded.listed name other hAt), .inr rfl⟩

theorem skipping {conn : Conn} {name : ProxyName} {rids begun missed : List Rid}
    {todo : List (ProxyName × List Rid)}
    (h : s.Closer proxyName (.dropFinding conn ((name, rids) :: todo)) begun missed)
    (hName : name ≠ proxyName) : s.Closer proxyName (.dropFinding conn todo) begun missed :=
  h.of_pc (.inr rfl) (.refl _) (fun _ hMem => hMem)
    (fun _ hGrouped => .inl ((CallerPc.targetOf_cons.mp hGrouped).resolve_left fun hAt => hName hAt.1))
    (fun _ _ hGrouped => CallerPc.targetOf_cons.mpr (.inr hGrouped)) (fun _ hRemoving => by cases hRemoving)
    fun _ hPair => by cases hPair

theorem missing {conn : Conn} {rids begun missed : List Rid} {todo : List (ProxyName × List Rid)}
    (h : s.Closer proxyName (.dropFinding conn ((proxyName, rids) :: todo)) begun missed)
    (hAway : ∀ rid ∈ rids, rid ∉ s.handedOverNow.map Prod.fst) :
    s.Closer proxyName (.dropFinding conn todo) begun (missed ++ rids) where
  rids := h.rids
  begun rid hMem := by
    rcases h.begun rid hMem with ⟨hUngrouped, -⟩ | hGrouped | hFollowed | hMiss
    · cases hUngrouped
    · rcases CallerPc.targetOf_cons.mp hGrouped with ⟨-, hRid⟩ | hLater
      · exact .inr (.inr (.inr (List.mem_append_right _ hRid)))
      · exact .inr (.inl hLater)
    · exact .inr (.inr (.inl hFollowed))
    · exact .inr (.inr (.inr (List.mem_append_left _ hMiss)))
  grouped name rid hGrouped := h.grouped name rid (CallerPc.targetOf_cons.mpr (.inr hGrouped))
  dropping pair hPair := by cases hPair
  missed rid hMem := (List.mem_append.mp hMem).elim (h.missed rid) (hAway rid)

theorem listing {conn : Conn} {name : ProxyName} {requestUuid drop : Rid} {rids begun missed : List Rid}
    {listed listed' : Bool} {todo : List (ProxyName × List Rid)}
    (h : s.Closer proxyName (.dropListing conn name requestUuid drop rids listed todo) begun missed)
    (hInserted : (name, drop) ∈ s.history.inserted) :
    s.Closer proxyName (.dropStoring conn name rids listed' todo) begun missed := by
  refine h.of_pc (.inr rfl) (.refl _) (fun _ hMem => hMem) (fun rid hGrouped => ?_)
    (fun other rid hGrouped => ?_) (fun _ hRemoving => by cases hRemoving) fun _ hPair => by cases hPair
  · rcases CallerPc.targetOf_cons.mp hGrouped with ⟨rfl, hRid⟩ | hLater
    · rcases List.mem_cons.mp hRid with rfl | hRid
      · exact .inr ⟨drop, h.dropping _ rfl, hInserted⟩
      · exact .inl (CallerPc.targetOf_cons.mpr (.inl ⟨rfl, hRid⟩))
    · exact .inl (CallerPc.targetOf_cons.mpr (.inr hLater))
  · refine CallerPc.targetOf_cons.mpr ((CallerPc.targetOf_cons.mp hGrouped).imp_left fun hAt => ?_)
    exact ⟨hAt.1, List.mem_cons_of_mem _ hAt.2⟩

/-- A step that changes no group. -/
theorem of_quiet (h : s.Closer proxyName pc begun missed)
    (hClosing : pc'.closing = none ∨ pc'.closing = pc.closing) (hRids : pc'.rids.Sublist pc.rids)
    (hUngrouped : pc.ungrouped = pc'.ungrouped) (hGrouped : ∀ name rid, pc'.Grouped name rid ↔ pc.Grouped name rid)
    (hRemoving : pc.removing = none) (hDropping : pc'.dropping = none) :
    s.Closer proxyName pc' begun missed := by
  refine h.of_pc hClosing hRids (fun rid hMem => hUngrouped ▸ hMem)
    (fun rid hAt => .inl ((hGrouped proxyName rid).mpr hAt))
    (fun name rid hAt => (hGrouped name rid).mp hAt) (fun rid hSome => ?_) fun pair hSome => ?_
  · rw [hRemoving] at hSome
    cases hSome
  · rw [hDropping] at hSome
    cases hSome

/-! ### One step of a caller -/

section Step

variable {n : Nat} {c : CallerChoice} {conn : Conn} {name : ProxyName} {rid : Rid} {rids : List Rid}
  {grouped : ClientProxynameTable} {listed : Bool} {todo : List (ProxyName × List Rid)}

/-- What holds of the caller when it has taken its step. -/
def After (print : Printer) (proxyName : ProxyName) (s : ChannelDispatch) (n : Nat) (c : CallerChoice) : Prop :=
  (s.callerEffect print proxyName n c).Closer proxyName
    ((s.callerEffect print proxyName n c).callers n)
    ((s.callerEffect print proxyName n c).history.begun n)
    ((s.callerEffect print proxyName n c).history.missed n)

theorem after_finding (hPc : s.callers n = .finding name)
    (h : (s.callerEffect print proxyName n c).Closer proxyName (.finding name) (s.history.begun n)
      (s.history.missed n)) : After print proxyName s n c := by
  simp only [After, ChannelDispatch.callerEffect, hPc, setCaller_self] at h ⊢
  by_cases hFound : name = proxyName ∧ s.current.registered = true
  · simp only [if_pos hFound] at h ⊢
    exact h.of_quiet (.inl rfl) (.refl _) rfl (fun _ _ => .rfl) rfl rfl
  · simp only [if_neg hFound] at h ⊢
    exact h.of_quiet (.inl rfl) (.refl _) rfl (fun _ _ => .rfl) rfl rfl

theorem after_grouping (hRecorded : (s.callerEffect print proxyName n c).Recorded)
    (hPc : s.callers n = .grouping conn rids grouped)
    (h : (s.callerEffect print proxyName n c).Closer proxyName (.grouping conn rids grouped)
      (s.history.begun n) (s.history.missed n)) : After print proxyName s n c := by
  cases rids with
  | nil =>
    simp only [After, ChannelDispatch.callerEffect, hPc, setCaller_self] at h ⊢
    exact h.of_quiet (.inr rfl) (.refl _) rfl (fun _ _ => .rfl) rfl rfl
  | cons rid rids =>
    simp only [After, ChannelDispatch.callerEffect, hPc, setCaller_self] at h hRecorded ⊢
    exact h.grouping hRecorded c.order

theorem after_nameDropping {names : List ProxyName}
    (hPc : s.callers n = .nameDropping conn rid names rids grouped)
    (h : (s.callerEffect print proxyName n c).Closer proxyName (.nameDropping conn rid names rids grouped)
      (s.history.begun n) (s.history.missed n)) : After print proxyName s n c := by
  cases names with
  | nil =>
    simp only [After, ChannelDispatch.callerEffect, hPc, setCaller_self] at h ⊢
    exact h.of_quiet (.inr rfl) (List.sublist_cons_self ..) rfl (fun _ _ => .rfl) rfl rfl
  | cons name names =>
    simp only [After, ChannelDispatch.callerEffect, hPc, setCaller_self] at h ⊢
    cases hFound : (clientProxynameTableDrop s.current.proxynames name rid).1 with
    | true =>
      simp only [hFound, if_true] at h ⊢
      exact h.of_quiet (.inr rfl) (List.sublist_cons_self ..) rfl (fun _ _ => .rfl) rfl rfl
    | false =>
      simp only [hFound, Bool.false_eq_true, if_false] at h ⊢
      exact h.of_quiet (.inr rfl) (.refl _) rfl (fun _ _ => .rfl) rfl rfl

/-- A channel that is not found is passed over; that of this proxy only before it was handed any of the
requests. -/
theorem after_dropFinding (hPc : s.callers n = .dropFinding conn todo)
    (hReaches : s.Reaches proxyName (.caller n c))
    (h : (s.callerEffect print proxyName n c).Closer proxyName (.dropFinding conn todo)
      (s.history.begun n) (s.history.missed n)) : After print proxyName s n c := by
  cases todo with
  | nil =>
    simp only [After, ChannelDispatch.callerEffect, hPc, setCaller_self] at h ⊢
    refine h.of_quiet (.inr rfl) (.refl _) rfl (fun name rid => ?_) rfl rfl
    exact ⟨fun hAt => hAt.elim, fun hAt => by simp [CallerPc.Grouped, CallerPc.TargetOf] at hAt⟩
  | cons target todo =>
    obtain ⟨name, rids⟩ := target
    simp only [After, ChannelDispatch.callerEffect, hPc] at h ⊢
    simp only [Reaches, ReachesStep, hPc] at hReaches
    by_cases hName : name = proxyName
    · subst hName
      cases hRegistered : s.current.registered with
      | true =>
        simp only [hRegistered, if_true, setCaller_self] at h ⊢
        exact h.of_quiet (.inr rfl) (.refl _) rfl (fun _ _ => .rfl) rfl rfl
      | false =>
        simp only [hRegistered, if_true, Bool.false_eq_true, if_false, setCaller_self,
          Function.update_self] at h ⊢
        exact h.missing (hReaches rfl hRegistered)
    · simp only [if_neg hName, setCaller_self] at h ⊢
      cases hFound : c.found with
      | true =>
        simp only [hFound, if_true] at h ⊢
        exact h.of_quiet (.inr rfl) (.refl _) rfl (fun _ _ => .rfl) rfl rfl
      | false =>
        simp only [hFound, Bool.false_eq_true, if_false] at h ⊢
        exact h.skipping hName

theorem after_dropStoring (hPc : s.callers n = .dropStoring conn name rids listed todo)
    (h : (s.callerEffect print proxyName n c).Closer proxyName (.dropStoring conn name rids listed todo)
      (s.history.begun n) (s.history.missed n)) : After print proxyName s n c := by
  cases rids with
  | nil =>
    simp only [After, ChannelDispatch.callerEffect, hPc, setCaller_self] at h ⊢
    refine h.of_quiet (.inr rfl) (.refl _) rfl (fun other rid => ?_) rfl rfl
    exact ⟨fun hAt => CallerPc.targetOf_cons.mpr (.inr hAt), fun hAt =>
      (CallerPc.targetOf_cons.mp hAt).resolve_left fun hMem => List.not_mem_nil hMem.2⟩
  | cons requestUuid rids =>
    simp only [After, ChannelDispatch.callerEffect, hPc, setCaller_self] at h ⊢
    refine h.of_pc (.inr rfl) (.refl _) (fun _ hMem => hMem) (fun _ hAt => .inl hAt)
      (fun _ _ hAt => hAt) (fun _ hRemoving => by cases hRemoving) fun pair hPair => ?_
    cases hPair
    exact List.mem_append_right _ (List.mem_singleton_self _)

theorem callerEffect (hRecorded : (s.callerEffect print proxyName n c).Recorded)
    (hEnabled : s.callerEnabled proxyName n = true) (hReaches : s.Reaches proxyName (.caller n c))
    (h : (s.callerEffect print proxyName n c).Closer proxyName (s.callers n) (s.history.begun n)
      (s.history.missed n)) : After print proxyName s n c := by
  cases hPc : s.callers n with
  | ready => simp [callerEnabled, hPc] at hEnabled
  | connectionSetting | serviceSetting | nameSetting | tableLocking | waking | tableUnlocking =>
    rw [hPc] at h
    simp only [After, ChannelDispatch.callerEffect, hPc, setCaller_self] at h ⊢
    exact h.of_quiet (.inl rfl) (.refl _) rfl (fun _ _ => .rfl) rfl rfl
  | finding name => exact after_finding hPc (hPc ▸ h)
  | grouping conn rids grouped => exact after_grouping hRecorded hPc (hPc ▸ h)
  | serviceRemoving conn rid rids grouped =>
    rw [hPc] at h
    simp only [After, ChannelDispatch.callerEffect, hPc, setCaller_self] at h ⊢
    refine h.of_pc (.inr rfl) (.refl _) (fun _ hMem => hMem) (fun _ hAt => .inl hAt) (fun _ _ hAt => hAt)
      (fun other hRemoving => ?_) fun _ hPair => by cases hPair
    cases hRemoving
    exact HashTable.lookup_remove_self ..
  | keysCopying conn rid rids grouped =>
    rw [hPc] at h
    simp only [After, ChannelDispatch.callerEffect, hPc, setCaller_self] at h ⊢
    exact h.of_quiet (.inr rfl) (.refl _) rfl (fun _ _ => .rfl) rfl rfl
  | nameDropping conn rid names rids grouped => exact after_nameDropping hPc (hPc ▸ h)
  | dropLocking conn grouped =>
    rw [hPc] at h
    simp only [After, ChannelDispatch.callerEffect, hPc, setCaller_self] at h ⊢
    exact h.of_quiet (.inr rfl) (.refl _) rfl (fun _ _ => CallerPc.targetOf_groupedTargets) rfl rfl
  | dropFinding conn todo => exact after_dropFinding hPc hReaches (hPc ▸ h)
  | dropStoring conn name rids listed todo => exact after_dropStoring hPc (hPc ▸ h)
  | dropListing conn name requestUuid rid rids listed todo =>
    rw [hPc] at h
    simp only [After, ChannelDispatch.callerEffect, hPc, setCaller_self] at h ⊢
    exact h.listing (List.mem_append_right _ (List.mem_singleton_self _))
  | dropWaking conn name todo =>
    rw [hPc] at h
    simp only [After, ChannelDispatch.callerEffect, hPc, setCaller_self] at h ⊢
    exact h.of_quiet (.inr rfl) (.refl _) rfl (fun _ _ => .rfl) rfl rfl
  | dropUnlocking conn =>
    rw [hPc] at h
    simp only [After, ChannelDispatch.callerEffect, hPc, setCaller_self] at h ⊢
    exact h.of_quiet (.inr rfl) (.refl _) rfl (fun _ _ => .rfl) rfl rfl
  | connectionRemoving conn =>
    simp only [After, ChannelDispatch.callerEffect, hPc, setCaller_self, Function.update_self]
    exact of_not_closing rfl (fun _ _ hAt => hAt) rfl

end Step

end Closer

/-! ## Drop requests -/

/-- What holds of a drop request and the request that it names. -/
structure Dropped (print : Printer) (proxyName : ProxyName) (s : ChannelDispatch) (rid drop : Rid) :
    Prop where
  stored : (drop, requestDropText print rid) ∈ s.history.stored
  apart : drop ∉ s.history.submitted.map Prod.snd
  ne : rid ≠ drop
  named : rid ∈ s.history.stored.map Prod.fst
  spent : s.current.services.lookup rid = none
  late : ∀ text, s.current.channel.inHand = some (rid, text) → drop ∉ s.history.handedOver.map Prod.fst
  order : rid ∈ s.history.handedOver.map Prod.fst → drop ∈ s.history.handedOver.map Prod.fst →
    [rid, drop].Sublist (s.history.handedOver.map Prod.fst)
  waiting : (proxyName, drop) ∈ s.history.inserted →
    EntryOf s.current.proxynames proxyName drop false ∨ drop ∈ s.history.handedOver.map Prod.fst

/-- What holds along a run. -/
structure CloseRecord (print : Printer) (proxyName : ProxyName) (s : ChannelDispatch) : Prop where
  submittedOnce : (s.history.submitted.map Prod.snd).Nodup
  listedIn : ∀ conn rid, ListedIn s.connections conn rid → (conn, rid) ∈ s.history.submitted
  alone : ∀ n m conn, (s.callers n).closing = some conn → (s.callers m).closing = some conn → n = m
  closer : ∀ n, s.Closer proxyName (s.callers n) (s.history.begun n) (s.history.missed n)
  dropped : ∀ rid drop, (rid, drop) ∈ s.history.drops → s.Dropped print proxyName rid drop
  handing : ∀ rid, s.current.channel.handing = some rid → rid ∈ s.history.handedOver.map Prod.fst
  owed : ∀ rid ∈ s.history.owed, s.FollowedUp proxyName rid ∧ rid ∈ s.history.handedOver.map Prod.fst

theorem not_mem_of_submits {e : DispatchEvent} (hFresh : s.FreshIds e) {rid : Rid}
    (h : rid ∈ (s.submits e).map Prod.snd) : rid ∉ s.history.stored.map Prod.fst := by
  cases e with
  | caller n c =>
    have hStored := hFresh.2
    cases hPc : s.callers n with
    | connectionSetting conn other name text =>
      simp only [submits, hPc, List.map_cons, List.map_nil, List.mem_singleton] at h
      simp only [ApartStep, hPc] at hStored
      exact h ▸ hStored
    | _ => simp [submits, hPc] at h
  | _ => cases h

namespace Dropped

variable {rid drop : Rid}

theorem order_effect (h : s.Dropped print proxyName rid drop) {e : DispatchEvent}
    (hGuard : s.guard proxyName e)
    (hRid : rid ∈ (s.effect print proxyName e).history.handedOver.map Prod.fst)
    (hDrop : drop ∈ (s.effect print proxyName e).history.handedOver.map Prod.fst) :
    [rid, drop].Sublist ((s.effect print proxyName e).history.handedOver.map Prod.fst) := by
  rw [(handedOver_effect hGuard).1, List.map_append, List.mem_append] at hRid hDrop
  rw [(handedOver_effect hGuard).1, List.map_append]
  have hLast : ∀ {other : Rid}, other ∈ (s.handsOver e).toList.map Prod.fst →
      (s.handsOver e).toList.map Prod.fst = [other] := by
    intro other hMem
    obtain ⟨entry, hEntry, rfl⟩ := List.mem_map.mp hMem
    rw [Option.mem_toList.mp hEntry]
    rfl
  rcases hDrop with hDrop | hDrop
  · rcases hRid with hRid | hRid
    · exact (h.order hRid hDrop).trans (List.sublist_append_left ..)
    · exfalso
      obtain ⟨⟨other, text⟩, hEntry, rfl⟩ := List.mem_map.mp hRid
      cases e with
      | channel e =>
        exact h.late text (ProxyChannel.inHand_of_handsOver hGuard (Option.mem_toList.mp hEntry)) hDrop
      | _ => cases hEntry
  · rcases hRid with hRid | hRid
    · rw [hLast hDrop]
      exact List.Sublist.append (List.singleton_sublist.mpr hRid) (.refl _)
    · have hSame := (hLast hRid).symm.trans (hLast hDrop)
      exact absurd (List.singleton_inj.mp hSame) h.ne

theorem late_effect (h : s.Dropped print proxyName rid drop) {e : DispatchEvent}
    (hGuard : s.guard proxyName e) {text : String}
    (hHand : (s.effect print proxyName e).current.channel.inHand = some (rid, text)) :
    drop ∉ (s.effect print proxyName e).history.handedOver.map Prod.fst := by
  have hOld : s.current.channel.inHand = some (rid, text) := by
    rcases @channel_effect print proxyName s e hGuard with hSame | hStarted | ⟨e, rfl, hChannel⟩
    · exact hSame ▸ hHand
    · rw [hStarted] at hHand
      cases hHand
    · refine (ProxyChannel.inHand_channelEffect hChannel hHand).resolve_right fun hText => ?_
      rw [h.spent] at hText
      cases hText
  rw [(handedOver_effect hGuard).1, List.map_append, List.mem_append]
  rintro (hDrop | hDrop)
  · exact h.late text hOld hDrop
  · obtain ⟨⟨other, text'⟩, hEntry, rfl⟩ := List.mem_map.mp hDrop
    cases e with
    | channel e =>
      have hNow := ProxyChannel.inHand_of_handsOver hGuard (Option.mem_toList.mp hEntry)
      rw [hOld, Option.some.injEq, Prod.mk.injEq] at hNow
      exact h.ne hNow.1
    | _ => cases hEntry

theorem waiting_effect (h : s.Dropped print proxyName rid drop) (hPair : (rid, drop) ∈ s.history.drops)
    (hRecorded : s.Recorded) (hRecord : s.CloseRecord print proxyName) {e : DispatchEvent}
    (hGuard : s.guard proxyName e) (hFresh : s.FreshIds e) (hUndisturbed : s.Undisturbed e)
    (hInserted : (proxyName, drop) ∈ (s.effect print proxyName e).history.inserted) :
    EntryOf (s.effect print proxyName e).current.proxynames proxyName drop false ∨
      drop ∈ (s.effect print proxyName e).history.handedOver.map Prod.fst := by
  have hActs : ActsOn proxyName s (s.effect print proxyName e) (s.tableAction print e) :=
    actsOn_effect s e
  have hHandedOver : drop ∈ s.history.handedOver.map Prod.fst →
      drop ∈ (s.effect print proxyName e).history.handedOver.map Prod.fst := by
    intro hMem
    rw [(handedOver_effect hGuard).1, List.map_append]
    exact List.mem_append_left _ hMem
  rw [hActs.inserted, List.mem_append] at hInserted
  rw [hActs.proxynames]
  rcases hInserted with hOld | hNew
  · rcases h.waiting hOld with hEntry | hDone
    · cases hAction : s.tableAction print e with
      | list name other => exact .inl ((entryOf_clientProxynameTableSet ..).mpr (.inl hEntry))
      | unlist name other =>
        refine .inl ((entryOf_clientProxynameTableDrop ..).mpr ⟨hEntry, ?_⟩)
        rintro ⟨rfl, rfl⟩
        rcases caller_of_unlist hAction with rfl | ⟨n, c, conn, rfl, hConn, hRids⟩
        · exact hUndisturbed.2 (List.mem_map_of_mem hPair)
        · have hSubmitted := ((hRecord.closer n).rids conn hConn).2 drop (by simp [hRids])
          exact h.apart (List.mem_map_of_mem hSubmitted)
      | sent other =>
        by_cases hEq : drop = other
        · subst hEq
          refine .inr (hHandedOver ?_)
          obtain ⟨pending, rfl⟩ := channel_of_sent hAction
          apply hRecord.handing
          rw [show s.current.channel = .sending drop pending from hGuard]
          rfl
        · exact .inl ((entryOf_clientProxynameTableRequestSent ..).mpr (.inr ⟨by simp [hEq], hEntry⟩))
      | unsent => exact .inl ((entryOf_clientProxynameTableRequestUnsent ..).mpr (.inl ⟨rfl, rfl, false, hEntry⟩))
      | none | store | unstore => exact .inl hEntry
    · exact .inr (hHandedOver hDone)
  · left
    have hNot := not_mem_of_inserts hFresh.fresh hNew
    cases hAction : s.tableAction print e with
    | list name other =>
      rw [hAction] at hNew
      cases List.mem_singleton.mp hNew
      refine (entryOf_clientProxynameTableSet ..).mpr (.inr ⟨rfl, rfl, rfl, ?_⟩)
      rintro ⟨sent, hEntry⟩
      exact hNot (List.mem_map_of_mem (hRecorded.listed proxyName drop ⟨sent, hEntry⟩))
    | _ =>
      rw [hAction] at hNew
      cases hNew

theorem effect (h : s.Dropped print proxyName rid drop) (hPair : (rid, drop) ∈ s.history.drops)
    (hRecorded : s.Recorded) (hRecord : s.CloseRecord print proxyName) {e : DispatchEvent}
    (hGuard : s.guard proxyName e) (hFresh : s.FreshIds e) (hUndisturbed : s.Undisturbed e) :
    (s.effect print proxyName e).Dropped print proxyName rid drop := by
  have hFrame : CloseFrame proxyName s (s.effect print proxyName e) := closeFrame_effect hFresh.fresh
  have hSubmits : SubmitsOn s (s.effect print proxyName e) (s.submits e) (s.drops e) :=
    submitsOn_effect s e
  exact
    { stored := hFrame.stored _ h.stored
      apart := by
        rw [hSubmits.submitted, List.map_append, List.mem_append]
        rintro (hOld | hNew)
        · exact h.apart hOld
        · exact not_mem_of_submits hFresh hNew (List.mem_map_of_mem h.stored)
      ne := h.ne
      named := hFrame.storedKeys h.named
      spent := hFrame.spent rid h.named h.spent
      late := fun text => h.late_effect hGuard
      order := h.order_effect hGuard
      waiting := h.waiting_effect hPair hRecorded hRecord hGuard hFresh hUndisturbed }

end Dropped

theorem dropped_of_drops (hRecorded : s.Recorded) (hEnveloped : s.Enveloped)
    (hRecord : s.CloseRecord print proxyName) {e : DispatchEvent} (hFresh : s.FreshIds e)
    {rid drop : Rid} (hNew : (rid, drop) ∈ s.drops e) :
    (s.effect print proxyName e).Dropped print proxyName rid drop := by
  have hFrame : CloseFrame proxyName s (s.effect print proxyName e) := closeFrame_effect hFresh.fresh
  obtain ⟨n, c, conn, name, rids, listed, todo, rfl, hPc, rfl⟩ := caller_of_drops hNew
  obtain ⟨hStored, hSubmitted⟩ := hFresh
  simp only [FreshStep, ApartStep, hPc] at hStored hSubmitted
  have hGrouped : (s.callers n).Grouped name rid := by
    rw [hPc]
    exact CallerPc.targetOf_cons.mpr (.inl ⟨rfl, List.mem_cons_self⟩)
  obtain ⟨hNamed, hSpent⟩ := (hRecord.closer n).grouped name rid hGrouped
  rw [hPc] at hSpent
  have hSpentNow := hSpent.resolve_right fun hRemoving => by cases hRemoving
  have hNot : c.generated ∉ s.history.handedOver.map Prod.fst := by
    intro hMem
    obtain ⟨entry, hEntry, hKey⟩ := List.mem_map.mp hMem
    exact hStored (hKey ▸ List.mem_map_of_mem (hEnveloped.handedOver entry hEntry))
  have hUnlisted : (proxyName, c.generated) ∉ s.history.inserted := fun hMem =>
    hStored (hRecorded.inserted proxyName c.generated hMem)
  have hNamedNow := hFrame.storedKeys hNamed
  have hSpentNext := hFrame.spent rid hNamed hSpentNow
  simp only [effect, callerEffect, hPc] at hNamedNow hSpentNext ⊢
  exact
    { stored := List.mem_append_right _ (List.mem_singleton_self _)
      apart := hSubmitted
      ne := fun hEq => hStored (hEq ▸ hNamed)
      named := hNamedNow
      spent := hSpentNext
      late := fun _ _ => hNot
      order := fun _ hMem => absurd hMem hNot
      waiting := fun hMem => absurd hMem hUnlisted }

/-! ## Runs -/

theorem submits_nodup (s : ChannelDispatch) (e : DispatchEvent) : ((s.submits e).map Prod.snd).Nodup := by
  cases e with
  | caller n c => cases hPc : s.callers n <;> simp [submits, hPc]
  | _ => exact List.nodup_nil

theorem not_submitted_of_submits {e : DispatchEvent} (hFresh : s.FreshIds e) {rid : Rid}
    (h : rid ∈ (s.submits e).map Prod.snd) : rid ∉ s.history.submitted.map Prod.snd := by
  cases e with
  | caller n c =>
    have hSubmitted := hFresh.1
    cases hPc : s.callers n with
    | connectionSetting conn other name text =>
      simp only [submits, hPc, List.map_cons, List.map_nil, List.mem_singleton] at h
      simp only [hPc, FreshStep] at hSubmitted
      exact h ▸ hSubmitted
    | _ => simp [submits, hPc] at h
  | _ => cases h

namespace CloseRecord

/-- A listed request of a closing connection is taken off the table by its own caller only, in its
turn. -/
theorem listed_effect (h : s.CloseRecord print proxyName) {e : DispatchEvent}
    (hUndisturbed : s.Undisturbed e) {m : Nat} {rid : Rid} (hBegun : rid ∈ s.history.begun m)
    (hUngrouped : rid ∈ (s.callers m).ungrouped)
    (hListed : ListedUnder s.current.proxynames proxyName rid) :
    ListedUnder (s.effect print proxyName e).current.proxynames proxyName rid := by
  have hActs : ActsOn proxyName s (s.effect print proxyName e) (s.tableAction print e) :=
    actsOn_effect s e
  rw [hActs.proxynames]
  cases hAction : s.tableAction print e with
  | list name other => exact (listedUnder_clientProxynameTableSet ..).mpr (.inl hListed)
  | unlist name other =>
    refine (listedUnder_clientProxynameTableDrop ..).mpr ⟨hListed, ?_⟩
    rintro ⟨rfl, rfl⟩
    rcases caller_of_unlist hAction with rfl | ⟨n, c, conn, rfl, hConn, hRids⟩
    · exact hUndisturbed.1 m hBegun
    · obtain ⟨conn', hConn'⟩ := CallerPc.closing_of_ungrouped hUngrouped
      obtain ⟨hNodup, hOwn⟩ := (h.closer n).rids conn hConn
      have hOther := ((h.closer m).rids conn' hConn').2 rid
        ((s.callers m).ungrouped_sublist_rids.subset hUngrouped)
      have hMine := hOwn rid (by simp [hRids])
      have hSame : conn = conn' :=
        congrArg Prod.fst (List.inj_on_of_nodup_map h.submittedOnce hMine hOther rfl)
      subst hSame
      obtain rfl := h.alone n m conn hConn hConn'
      rw [hRids] at hNodup
      exact (List.nodup_cons.mp hNodup).1 hUngrouped
  | sent other => exact (listedUnder_clientProxynameTableRequestSent ..).mpr hListed
  | unsent => exact (listedUnder_clientProxynameTableRequestUnsent ..).mpr hListed
  | none | store | unstore => exact hListed

theorem closer_frame (h : s.CloseRecord print proxyName) {e : DispatchEvent}
    (hGuard : s.guard proxyName e) (hFresh : s.FreshIds e) (hUndisturbed : s.Undisturbed e)
    (hReaches : s.Reaches proxyName e) (m : Nat) :
    (s.effect print proxyName e).Closer proxyName (s.callers m) (s.history.begun m)
      (s.history.missed m) := by
  refine (h.closer m).of_frame (closeFrame_effect hFresh.fresh)
    (fun rid hBegun hUngrouped => h.listed_effect hUndisturbed hBegun hUngrouped) fun rid hMem hNow => ?_
  rcases mem_handedOverNow_effect hGuard hNow with hOld | ⟨text, hText⟩
  · exact (h.closer m).missed rid hMem hOld
  · cases e with
    | channel e => exact hReaches _ hText m hMem
    | _ => cases hText

theorem closer_dropConnStart (h : s.CloseRecord print proxyName) {conn : Conn} {rids : List Rid}
    (hDup : clientConnectionTableRequestDup s.connections conn = some rids) {t : ChannelDispatch}
    (hSubmitted : t.history.submitted = s.history.submitted)
    (hProxynames : t.current.proxynames = s.current.proxynames) :
    t.Closer proxyName (.grouping conn rids HashTable.empty) (s.listedOf proxyName conn) [] := by
  obtain ⟨arr, hArr, rfl⟩ := Option.map_eq_some_iff.mp hDup
  refine ⟨fun other hConn => ?_, fun rid hMem => ?_,
    fun name rid hGrouped => (not_listedUnder_empty name rid hGrouped).elim,
    (fun pair hPair => by cases hPair), fun rid hMem => by cases hMem⟩
  · cases hConn
    refine ⟨arr.nodup, fun rid hMem => ?_⟩
    rw [hSubmitted]
    exact h.listedIn conn rid ⟨arr, hArr, hMem⟩
  · rw [listedOf, hDup] at hMem
    obtain ⟨hRid, hListed⟩ := List.mem_filter.mp hMem
    refine .inl ⟨hRid, ?_⟩
    rw [hProxynames]
    exact of_decide_eq_true hListed

theorem closer_effect (h : s.CloseRecord print proxyName) (hRecorded : s.Recorded) {e : DispatchEvent}
    (hGuard : s.guard proxyName e) (hFresh : s.FreshIds e) (hUndisturbed : s.Undisturbed e)
    (hReaches : s.Reaches proxyName e) (m : Nat) :
    (s.effect print proxyName e).Closer proxyName ((s.effect print proxyName e).callers m)
      ((s.effect print proxyName e).history.begun m) ((s.effect print proxyName e).history.missed m) := by
  have hFrame := h.closer_frame hGuard hFresh hUndisturbed hReaches m
  have hClosings := @closings_effect print proxyName s e
  cases e with
  | caller n c =>
    by_cases hEq : m = n
    · subst hEq
      exact Closer.callerEffect (hRecorded.effect hGuard hFresh.fresh) hGuard hReaches hFrame
    · have hOthers : OthersKept n s (s.callerEffect print proxyName n c) := othersKept_callerEffect s n c
      simp only [effect] at hFrame ⊢
      rw [hOthers.callers m hEq, hOthers.begun m hEq, hOthers.missed m hEq]
      exact hFrame
  | route n conn rid name text =>
    by_cases hEq : m = n
    · subst hEq
      have hReady : s.callers m = .ready := by
        cases hPc : s.callers m <;> simp [guard, hPc, CallerPc.isReady] at hGuard ⊢
      rw [hReady] at hFrame
      simp only [effect, setCaller_self] at hFrame ⊢
      exact hFrame.of_pc (.inl rfl) (.refl _) (fun _ hMem => hMem) (fun _ hAt => .inl hAt)
        (fun _ _ hAt => hAt) (fun _ hRemoving => by cases hRemoving) fun _ hPair => by cases hPair
    · simp only [effect] at hFrame ⊢
      rw [setCaller_ne _ _ hEq]
      exact hFrame
  | dropConn n conn =>
    simp only [effect, dropConnStart] at hFrame ⊢
    cases hDup : clientConnectionTableRequestDup s.connections conn with
    | none =>
      simp only [hDup] at hFrame ⊢
      exact hFrame
    | some rids =>
      simp only [hDup] at hFrame ⊢
      by_cases hEq : m = n
      · subst hEq
        simp only [setCaller_self, Function.update_self]
        exact h.closer_dropConnStart hDup rfl rfl
      · simp only [setCaller_ne _ _ hEq, Function.update_of_ne hEq]
        exact hFrame
  | channel | proxy | activate | activator | pick | terminator | killer | removeService | dropName
  | spurious =>
    have hSame := hClosings trivial
    simp only [closings, Prod.mk.injEq] at hSame
    rw [hSame.2.1, hSame.2.2.1, hSame.2.2.2.1]
    exact hFrame

theorem alone_effect (h : s.CloseRecord print proxyName) {e : DispatchEvent}
    (hGuard : s.guard proxyName e) {n m : Nat} {conn : Conn}
    (hn : ((s.effect print proxyName e).callers n).closing = some conn)
    (hm : ((s.effect print proxyName e).callers m).closing = some conn) : n = m := by
  have hClosings := @closings_effect print proxyName s e
  cases e with
  | caller k c =>
    have hOld : ∀ {i : Nat}, ((s.callerEffect print proxyName k c).callers i).closing = some conn →
        (s.callers i).closing = some conn := by
      intro i hi
      by_cases hEq : i = k
      · subst hEq
        rcases @closing_callerEffect print proxyName s i c with hNone | hSame
        · rw [hNone] at hi
          cases hi
        · exact hSame ▸ hi
      · rwa [callers_callerEffect_ne s c hEq] at hi
    exact h.alone n m conn (hOld hn) (hOld hm)
  | route k conn' rid name text =>
    have hOld : ∀ {i : Nat}, ((s.setCaller k (.connectionSetting conn' rid name text)).callers i).closing =
        some conn → (s.callers i).closing = some conn := by
      intro i hi
      by_cases hEq : i = k
      · subst hEq
        rw [setCaller_self] at hi
        cases hi
      · rwa [setCaller_ne _ _ hEq] at hi
    exact h.alone n m conn (hOld hn) (hOld hm)
  | dropConn k conn' =>
    simp only [effect, dropConnStart] at hn hm
    cases hDup : clientConnectionTableRequestDup s.connections conn' with
    | none =>
      simp only [hDup] at hn hm
      exact h.alone n m conn hn hm
    | some rids =>
      simp only [hDup] at hn hm
      have hNew : ∀ {i : Nat}, ((s.setCaller k (.grouping conn' rids HashTable.empty)).callers i).closing =
          some conn → i = k ∧ conn = conn' ∨ i ≠ k ∧ (s.callers i).closing = some conn := by
        intro i hi
        by_cases hEq : i = k
        · subst hEq
          rw [setCaller_self] at hi
          cases hi
          exact .inl ⟨rfl, rfl⟩
        · rw [setCaller_ne _ _ hEq] at hi
          exact .inr ⟨hEq, hi⟩
      rcases hNew hn with ⟨rfl, rfl⟩ | ⟨-, hOldN⟩
      · rcases hNew hm with ⟨rfl, -⟩ | ⟨-, hOldM⟩
        · rfl
        · exact absurd hOldM (hGuard.2 m)
      · rcases hNew hm with ⟨rfl, rfl⟩ | ⟨-, hOldM⟩
        · exact absurd hOldN (hGuard.2 n)
        · exact h.alone n m conn hOldN hOldM
  | channel | proxy | activate | activator | pick | terminator | killer | removeService | dropName
  | spurious =>
    have hSame := hClosings trivial
    simp only [closings, Prod.mk.injEq] at hSame
    rw [hSame.2.1] at hn hm
    exact h.alone n m conn hn hm

theorem listedIn_effect (h : s.CloseRecord print proxyName) {e : DispatchEvent} {conn : Conn} {rid : Rid}
    (hListed : ListedIn (s.effect print proxyName e).connections conn rid) :
    (conn, rid) ∈ (s.effect print proxyName e).history.submitted := by
  have hSubmits : SubmitsOn s (s.effect print proxyName e) (s.submits e) (s.drops e) :=
    submitsOn_effect s e
  have hClosings := @closings_effect print proxyName s e
  rw [hSubmits.submitted, List.mem_append]
  cases e with
  | caller n c => exact (listedIn_callerEffect hListed).imp_left (h.listedIn conn rid)
  | route n conn' other name text => exact .inl (h.listedIn conn rid hListed)
  | dropConn n conn' =>
    simp only [effect, dropConnStart] at hListed
    split at hListed <;> exact .inl (h.listedIn conn rid hListed)
  | channel | proxy | activate | activator | pick | terminator | killer | removeService | dropName
  | spurious =>
    have hSame := hClosings trivial
    simp only [closings, Prod.mk.injEq] at hSame
    rw [hSame.1] at hListed
    exact .inl (h.listedIn conn rid hListed)

theorem owed_effect (h : s.CloseRecord print proxyName) {e : DispatchEvent}
    (hGuard : s.guard proxyName e) (hFresh : s.FreshIds e) {rid : Rid}
    (hOwed : rid ∈ (s.effect print proxyName e).history.owed) :
    (s.effect print proxyName e).FollowedUp proxyName rid ∧
      rid ∈ (s.effect print proxyName e).history.handedOver.map Prod.fst := by
  have hFrame : CloseFrame proxyName s (s.effect print proxyName e) := closeFrame_effect hFresh.fresh
  have hClosings := @closings_effect print proxyName s e
  have hKeep : s.FollowedUp proxyName rid → rid ∈ s.history.handedOver.map Prod.fst →
      (s.effect print proxyName e).FollowedUp proxyName rid ∧
        rid ∈ (s.effect print proxyName e).history.handedOver.map Prod.fst := by
    intro hFollowed hMem
    refine ⟨hFrame.followed rid hFollowed, ?_⟩
    rw [(handedOver_effect hGuard).1, List.map_append]
    exact List.mem_append_left _ hMem
  have hOld : rid ∈ s.history.owed → (s.effect print proxyName e).FollowedUp proxyName rid ∧
      rid ∈ (s.effect print proxyName e).history.handedOver.map Prod.fst := fun hMem =>
    hKeep (h.owed rid hMem).1 (h.owed rid hMem).2
  cases e with
  | caller n c =>
    rcases owed_callerEffect hOwed with hMem | ⟨⟨conn, hPc⟩, hBegun, hNow⟩
    · exact hOld hMem
    · obtain ⟨entry, hEntry, hKey⟩ := List.mem_map.mp hNow
      have hHandedOver : rid ∈ s.history.handedOver.map Prod.fst :=
        hKey ▸ List.mem_map_of_mem (List.mem_of_mem_drop hEntry)
      have hCloser := h.closer n
      rw [hPc] at hCloser
      rcases hCloser.begun rid hBegun with ⟨hUngrouped, -⟩ | hGrouped | hFollowed | hMissed
      · cases hUngrouped
      · exact hGrouped.elim
      · exact hKeep hFollowed hHandedOver
      · exact absurd hNow (hCloser.missed rid hMissed)
  | route n conn other name text => exact hOld hOwed
  | dropConn n conn =>
    refine hOld ?_
    simp only [effect, dropConnStart] at hOwed
    split at hOwed <;> exact hOwed
  | channel | proxy | activate | activator | pick | terminator | killer | removeService | dropName
  | spurious =>
    have hSame := hClosings trivial
    simp only [closings, Prod.mk.injEq] at hSame
    rw [hSame.2.2.2.2] at hOwed
    exact hOld hOwed

theorem handing_effect (h : s.CloseRecord print proxyName) {e : DispatchEvent}
    (hGuard : s.guard proxyName e) {rid : Rid}
    (hHanding : (s.effect print proxyName e).current.channel.handing = some rid) :
    rid ∈ (s.effect print proxyName e).history.handedOver.map Prod.fst := by
  rw [(handedOver_effect hGuard).1, List.map_append, List.mem_append]
  rcases @channel_effect print proxyName s e hGuard with hSame | hStarted | ⟨e, rfl, hChannel⟩
  · exact .inl (h.handing rid (hSame ▸ hHanding))
  · rw [hStarted] at hHanding
    cases hHanding
  · rcases ProxyChannel.handing_channelEffect hChannel hHanding with hOld | ⟨text, hText⟩
    · exact .inl (h.handing rid hOld)
    · exact .inr (List.mem_map_of_mem (Option.mem_toList.mpr hText))

theorem effect (h : s.CloseRecord print proxyName) (hRecorded : s.Recorded) (hEnveloped : s.Enveloped)
    {e : DispatchEvent} (hGuard : s.guard proxyName e) (hFresh : s.FreshIds e)
    (hUndisturbed : s.Undisturbed e) (hReaches : s.Reaches proxyName e) :
    (s.effect print proxyName e).CloseRecord print proxyName := by
  have hSubmits : SubmitsOn s (s.effect print proxyName e) (s.submits e) (s.drops e) :=
    submitsOn_effect s e
  exact
    { submittedOnce := by
        rw [hSubmits.submitted, List.map_append]
        exact h.submittedOnce.append (submits_nodup s e) fun rid hOld hNew =>
          not_submitted_of_submits hFresh hNew hOld
      listedIn := fun conn rid => h.listedIn_effect
      alone := fun n m conn => h.alone_effect hGuard
      closer := h.closer_effect hRecorded hGuard hFresh hUndisturbed hReaches
      dropped := by
        intro rid drop hPair
        rw [hSubmits.drops, List.mem_append] at hPair
        rcases hPair with hOld | hNew
        · exact (h.dropped rid drop hOld).effect hOld hRecorded h hGuard hFresh hUndisturbed
        · exact dropped_of_drops hRecorded hEnveloped h hFresh hNew
      handing := fun rid => h.handing_effect hGuard
      owed := fun rid => h.owed_effect hGuard hFresh }

end CloseRecord

theorem closeRecord_started : ChannelDispatch.started.CloseRecord print proxyName where
  submittedOnce := List.nodup_nil
  listedIn conn rid hListed := by
    obtain ⟨arr, hArr, -⟩ := hListed
    cases hArr
  alone n m conn hn := by cases hn
  closer _ := .of_not_closing rfl (fun _ _ hAt => hAt) rfl
  dropped rid drop hMem := by cases hMem
  handing rid hHanding := by cases hHanding
  owed rid hMem := by cases hMem

theorem closeRecord_of_reachable
    (h : (channelDispatchSystem print proxyName).ReachableWhen
      (fun s e => s.FreshIds e ∧ s.Undisturbed e ∧ s.Reaches proxyName e) s) :
    s.Recorded ∧ s.Enveloped ∧ s.CloseRecord print proxyName := by
  refine h.invariant (fun s => s.Recorded ∧ s.Enveloped ∧ s.CloseRecord print proxyName) ?_ ?_
  · rintro s rfl
    exact ⟨invariant_started.recorded, enveloped_started, closeRecord_started⟩
  · rintro s e ⟨hRecorded, hEnveloped, hRecord⟩ hGuard ⟨hFresh, hUndisturbed, hReaches⟩
    exact ⟨hRecorded.effect hGuard hFresh.fresh, hEnveloped.effect hRecorded hGuard,
      hRecord.effect hRecorded hEnveloped hGuard hFresh hUndisturbed hReaches⟩

instance decidableApartStep (history : DispatchHistory) (generated : Rid) :
    ∀ pc, Decidable (ApartStep history generated pc)
  | .connectionSetting _ _ _ _ | .dropStoring _ _ (_ :: _) _ _ => inferInstanceAs (Decidable (_ ∉ _))
  | .ready | .serviceSetting _ _ _ | .nameSetting _ _ | .tableLocking _ | .finding _ | .waking
  | .tableUnlocking | .grouping _ _ _ | .serviceRemoving _ _ _ _ | .keysCopying _ _ _ _
  | .nameDropping _ _ _ _ _ | .dropLocking _ _ | .dropFinding _ _ | .dropStoring _ _ [] _ _
  | .dropListing _ _ _ _ _ _ _ | .dropWaking _ _ _ | .dropUnlocking _ | .connectionRemoving _ =>
      inferInstanceAs (Decidable True)

instance decidableFreshIds (s : ChannelDispatch) : ∀ e, Decidable (s.FreshIds e)
  | .caller n c =>
      @instDecidableAnd _ _ (decidableFreshStep s.history c.generated (s.callers n))
        (decidableApartStep s.history c.generated (s.callers n))
  | .route _ _ _ _ _ | .dropConn _ _ | .channel _ | .proxy _ | .activate | .activator _ _ _ _ | .pick
  | .terminator | .killer _ _ _ | .removeService _ | .dropName _ _ | .spurious =>
      inferInstanceAs (Decidable True)

/-- What the callers began with is not decided. -/
noncomputable instance decidableUndisturbed (s : ChannelDispatch) : ∀ e, Decidable (s.Undisturbed e)
  | .dropName _ _ => Classical.propDecidable _
  | .caller _ _ | .route _ _ _ _ _ | .dropConn _ _ | .channel _ | .proxy _ | .activate
  | .activator _ _ _ _ | .pick | .terminator | .killer _ _ _ | .removeService _ | .spurious =>
      inferInstanceAs (Decidable True)

/-- What the callers passed over is not decided where a request is handed over. -/
noncomputable def decidableHandOver (s : ChannelDispatch) (e : ChannelEvent) :
    Decidable (∀ entry, s.current.handsOver e = some entry → ∀ n, entry.1 ∉ s.history.missed n) :=
  match s.current.handsOver e with
  | none => isTrue fun _ hSome => absurd hSome (by simp)
  | some _ => Classical.propDecidable _

instance decidableReachesStep (proxyName : ProxyName) (s : ChannelDispatch) :
    ∀ pc, Decidable (s.ReachesStep proxyName pc)
  | .dropFinding _ ((_, _) :: _) => inferInstanceAs (Decidable (_ → _ → ∀ rid ∈ _, rid ∉ _))
  | .ready | .connectionSetting _ _ _ _ | .serviceSetting _ _ _ | .nameSetting _ _ | .tableLocking _
  | .finding _ | .waking | .tableUnlocking | .grouping _ _ _ | .serviceRemoving _ _ _ _
  | .keysCopying _ _ _ _ | .nameDropping _ _ _ _ _ | .dropLocking _ _ | .dropFinding _ []
  | .dropStoring _ _ _ _ _ | .dropListing _ _ _ _ _ _ _ | .dropWaking _ _ _ | .dropUnlocking _
  | .connectionRemoving _ => inferInstanceAs (Decidable True)

noncomputable instance decidableReaches (proxyName : ProxyName) (s : ChannelDispatch) :
    ∀ e, Decidable (s.Reaches proxyName e)
  | .caller n _ => decidableReachesStep proxyName s (s.callers n)
  | .channel e => s.decidableHandOver e
  | .route _ _ _ _ _ | .dropConn _ _ | .proxy _ | .activate | .activator _ _ _ _ | .pick | .terminator
  | .killer _ _ _ | .removeService _ | .dropName _ _ | .spurious => inferInstanceAs (Decidable True)

/-- Every request that was handed over when its connection was dropped is followed, once the proxy is
done with it, by a drop request that names it. -/
def CloseFollows (print : Printer) (proxyName : ProxyName) (s : ChannelDispatch) : Prop :=
  ∀ rid ∈ s.history.owed, s.current.channel.handing ≠ some rid →
    ∃ drop text, (drop, text) ∈ s.history.stored ∧ DropText print text rid ∧
      (EntryOf s.current.proxynames proxyName drop false ∨
        [rid, drop].Sublist (s.history.handedOver.map Prod.fst))

theorem closeFollows_of_reaches
    (hReach : (channelDispatchSystem print proxyName).ReachableWhen
      (fun s e => s.FreshIds e ∧ s.Undisturbed e ∧ s.Reaches proxyName e) s) :
    s.CloseFollows print proxyName := by
  obtain ⟨-, -, hRecord⟩ := closeRecord_of_reachable hReach
  intro rid hOwed _
  obtain ⟨⟨drop, hPair, hInserted⟩, hHandedOver⟩ := hRecord.owed rid hOwed
  have hDropped := hRecord.dropped rid drop hPair
  exact ⟨drop, _, hDropped.stored, dropText_requestDropText print rid,
    (hDropped.waiting hInserted).imp_right (hDropped.order hHandedOver)⟩

/-- A request on its way to a registered channel. -/
def registeredListing : ChannelDispatch :=
  (channelDispatchSystem printUnformatted "weather").run .started
    (List.flatten
      [sampleActivation, sampleRegistration, sampleReaction, sampleListing 0 2 "r1" "weather" "today",
        [.channel .start, .channel .check, .channel (.take "r1" [])]])

def registeredHandedOver : ChannelDispatch :=
  (channelDispatchSystem printUnformatted "weather").effect registeredListing
    (.channel (.idleLock (.request "r1" "today" []) true))

def registeredDispatched : ChannelDispatch :=
  (channelDispatchSystem printUnformatted "weather").run registeredHandedOver
    (sampleReaction ++ [.channel (.answer "r1" []), .channel (.sent "r1" []), .channel .sleep])

/-- Its connection begins to be dropped, and has been. -/
def registeredClosing : ChannelDispatch :=
  (channelDispatchSystem printUnformatted "weather").effect registeredDispatched (.dropConn 1 2)

def registeredClosed : ChannelDispatch :=
  (channelDispatchSystem printUnformatted "weather").run registeredClosing
    (List.replicate 14 (.caller 1 (sampleChoice "d1")))

theorem notDropping_registeredDispatched (m : Nat) :
    (registeredDispatched.callers m).closing ≠ some 2 := by
  cases m with
  | zero => decide
  | succ m => exact fun hClosing => by cases hClosing

set_option maxRecDepth 4000 in
theorem closeFollows_of_reaches_registeredClosed :
    registeredClosed.history.owed = ["r1"] ∧
      registeredClosed.CloseFollows printUnformatted "weather" := by
  have hListing : (channelDispatchSystem printUnformatted "weather").ReachableWhen
      (fun s e => s.FreshIds e ∧ s.Undisturbed e ∧ s.Reaches "weather" e) registeredListing :=
    .run (.init rfl) _ (by decide)
  have hIdle : registeredListing.guard "weather"
      (.channel (.idleLock (.request "r1" "today" []) true)) := by decide
  have hHandedOver : (channelDispatchSystem printUnformatted "weather").ReachableWhen
      (fun s e => s.FreshIds e ∧ s.Undisturbed e ∧ s.Reaches "weather" e) registeredHandedOver :=
    hListing.step hIdle ⟨trivial, trivial, fun _ _ _ => List.not_mem_nil⟩
  have hDispatched : (channelDispatchSystem printUnformatted "weather").ReachableWhen
      (fun s e => s.FreshIds e ∧ s.Undisturbed e ∧ s.Reaches "weather" e) registeredDispatched :=
    hHandedOver.run _ (by decide)
  have hReady : registeredDispatched.guard "weather" (.dropConn 1 2) :=
    ⟨rfl, notDropping_registeredDispatched⟩
  have hClosing : (channelDispatchSystem printUnformatted "weather").ReachableWhen
      (fun s e => s.FreshIds e ∧ s.Undisturbed e ∧ s.Reaches "weather" e) registeredClosing :=
    hDispatched.step hReady ⟨trivial, trivial, trivial⟩
  have hClosed : (channelDispatchSystem printUnformatted "weather").ReachableWhen
      (fun s e => s.FreshIds e ∧ s.Undisturbed e ∧ s.Reaches "weather" e) registeredClosed :=
    hClosing.run _ (by decide)
  exact ⟨rfl, closeFollows_of_reaches hClosed⟩

/-! ## The window before the registration -/

/-- A request that is handed over by a channel thread that is not registered yet. -/
def unregisteredDispatch : List DispatchEvent :=
  List.flatten
    [sampleActivation, sampleReaction, sampleListing 0 2 "r1" "weather" "today",
      [.channel .start, .channel .check, .channel (.take "r1" []),
        .channel (.idleLock (.request "r1" "today" []) true)], sampleReaction,
      [.channel (.answer "r1" []), .channel (.sent "r1" []), .channel .sleep]]

/-- The state after it, and the one in which its connection begins to be dropped. -/
def unregisteredDispatched : ChannelDispatch :=
  (channelDispatchSystem printUnformatted "weather").run .started unregisteredDispatch

def unregisteredClosing : ChannelDispatch :=
  (channelDispatchSystem printUnformatted "weather").effect unregisteredDispatched (.dropConn 1 2)

def unregisteredClosed : ChannelDispatch :=
  (channelDispatchSystem printUnformatted "weather").run unregisteredClosing
    (List.replicate 10 (.caller 1 (sampleChoice "d1")))

theorem notDropping_unregisteredDispatched (m : Nat) :
    (unregisteredDispatched.callers m).closing ≠ some 2 := by
  cases m with
  | zero => decide
  | succ m => exact fun hClosing => by cases hClosing

set_option maxRecDepth 4000 in
theorem not_closeFollows : ¬ ∀ s : ChannelDispatch,
    (channelDispatchSystem printUnformatted "weather").ReachableWhen
      (fun s e => s.FreshIds e ∧ s.Undisturbed e) s → s.CloseFollows printUnformatted "weather" := by
  intro hAll
  have hDispatched : (channelDispatchSystem printUnformatted "weather").ReachableWhen
      (fun s e => s.FreshIds e ∧ s.Undisturbed e) unregisteredDispatched :=
    .run (.init rfl) unregisteredDispatch (by decide)
  have hGuard : unregisteredDispatched.guard "weather" (.dropConn 1 2) :=
    ⟨rfl, notDropping_unregisteredDispatched⟩
  have hClosing : (channelDispatchSystem printUnformatted "weather").ReachableWhen
      (fun s e => s.FreshIds e ∧ s.Undisturbed e) unregisteredClosing :=
    hDispatched.step hGuard ⟨trivial, trivial⟩
  have hClosed : (channelDispatchSystem printUnformatted "weather").ReachableWhen
      (fun s e => s.FreshIds e ∧ s.Undisturbed e) unregisteredClosed :=
    hClosing.run (List.replicate 10 (.caller 1 (sampleChoice "d1"))) (by decide)
  obtain ⟨drop, text, hStored, -, hLater⟩ := hAll unregisteredClosed hClosed "r1" (by decide) (by decide)
  have hOnly : unregisteredClosed.history.stored = [("r1", "today")] := rfl
  rw [hOnly, List.mem_singleton, Prod.mk.injEq] at hStored
  rw [hStored.1] at hLater
  exact absurd hLater (by decide)

end ChannelDispatch

end Gonggo
