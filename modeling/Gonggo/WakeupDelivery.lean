import Gonggo.DispatchInvariants

/-! # Wake-ups of the channel thread

A request that is listed while the channel thread is in a pass or asleep is not forgotten: the thread
comes to it in its snapshot, or someone has yet to signal.
-/

namespace Gonggo

/-- The caller has listed a request under the proxy and has not sent its signal yet. -/
def CallerPc.beforeSignal (proxyName : ProxyName) : CallerPc → Bool
  | .tableLocking name | .finding name | .dropWaking _ name _ => name = proxyName
  | .waking => true
  | .dropStoring _ name _ listed _ | .dropListing _ name _ _ _ listed _ => name = proxyName && listed
  | _ => false

namespace ChannelDispatch

variable {print : Printer} {proxyName : ProxyName} {s s' : ChannelDispatch}

/-- The request is to be handed over. -/
def Waits (proxyName : ProxyName) (s : ChannelDispatch) (rid : Rid) : Prop :=
  EntryOf s.current.proxynames proxyName rid false ∧ s.current.services.lookup rid ≠ none

/-- The requests that the channel thread comes to without another signal; `none` when it looks at the
table again first, or never. -/
def attention (c : ProxyChannel) : Option (List Rid) :=
  match c.channel with
  | .exchanging pending => some pending
  | .locking (.request rid _ pending) | .waiting (.request rid _ pending)
  | .answering rid pending | .sending rid pending => some (rid :: pending)
  | .asleep => if ChannelThread.channel ∈ c.wakeup then some [] else none
  | _ => none

/-- The terminator has reset the flags and its kill has not ended the channel thread yet. -/
def Resetting (s : ChannelDispatch) : Prop :=
  s.terminator = .waiting ∨ ∃ turn, s.kill = some turn ∧ turn.byTerminator = true ∧
    (turn.pc = .tableLocking ∨ turn.pc = .finding ∨ turn.pc.hasFound = true)

/-- A signal is still to come, or the end of the incarnation. -/
def Expected (proxyName : ProxyName) (s : ChannelDispatch) : Prop :=
  (∃ n, (s.callers n).beforeSignal proxyName = true) ∨ s.history.drained = false ∨ s.Resetting

def Attended (proxyName : ProxyName) (s : ChannelDispatch) : Prop :=
  ∀ rids, attention s.current = some rids → ∀ rid, s.Waits proxyName rid →
    rid ∈ rids ∨ s.Expected proxyName

/-! ## Steps -/

theorem holdsCtx_or_asleep_of_attention {c : ProxyChannel} {rids : List Rid}
    (h : attention c = some rids) :
    c.channel.holdsCtx = true ∨ c.channel = .asleep ∧ ChannelThread.channel ∈ c.wakeup := by
  unfold attention at h
  split at h
  case h_6 hPc =>
    split at h
    · rename_i hMem
      exact .inr ⟨hPc, hMem⟩
    · cases h
  case h_7 => cases h
  all_goals
    rename_i hPc
    exact .inl (by rw [hPc]; rfl)

theorem attention_of_frame {c c' : ProxyChannel} (hSeated : Seated c) (hFrame : CurrentFrame c c')
    {rids : List Rid} (h : attention c' = some rids) : attention c = some rids ∧ ¬ Signals c c' := by
  have hNot : ¬ Signals c c' := by
    intro hSignals
    obtain ⟨hFree, hGone⟩ := hSeated.awake_of_signals hSignals
    rcases holdsCtx_or_asleep_of_attention h with hHolds | ⟨-, hMem⟩
    · rw [hFrame.channel, hFree] at hHolds
      cases hHolds
    · exact hGone hMem
  refine ⟨?_, hNot⟩
  rw [← h]
  unfold attention
  rw [hFrame.channel, hFrame.wakeup.resolve_right hNot]

theorem waits_of_effect (hRecorded : s.Recorded) {e : DispatchEvent} (hOrderly : s.Orderly e)
    (hAction : s.tableAction print e ≠ .unsent) {rid : Rid}
    (h : (s.effect print proxyName e).Waits proxyName rid) :
    s.Waits proxyName rid ∨ (proxyName, rid) ∈ (s.tableAction print e).inserts := by
  have hActs : ActsOn proxyName s (s.effect print proxyName e) (s.tableAction print e) :=
    actsOn_effect s e
  obtain ⟨hEntry, hService⟩ := h
  rw [hActs.proxynames] at hEntry
  rw [hActs.services] at hService
  rcases TableAction.entryOf_proxynames hAction hEntry with hOld | hNew
  · refine .inl ⟨hOld, fun hNone => ?_⟩
    obtain ⟨text, hText⟩ := Option.ne_none_iff_exists'.mp hService
    rcases TableAction.lookup_services hText with hSame | hStores
    · rw [hNone] at hSame
      cases hSame
    · exact hRecorded.not_stores hOrderly.fresh ⟨false, hOld⟩ (List.mem_map_of_mem hStores)
  · exact .inr hNew

/-- A caller leaves the place before its signal by the signal, or where it finds no channel. -/
theorem beforeSignal_callerEffect {n : Nat} {c : CallerChoice}
    (h : (s.callers n).beforeSignal proxyName = true) (hEnabled : s.callerEnabled proxyName n = true) :
    ((s.callerEffect print proxyName n c).callers n).beforeSignal proxyName = true ∨
      Signals s.current (s.callerEffect print proxyName n c).current ∨
      s.current.registered = false := by
  cases hPc : s.callers n with
  | tableLocking name =>
    rw [hPc] at h
    simp only [callerEffect, hPc]
    exact .inl (by rw [setCaller_self]; exact h)
  | finding name =>
    rw [hPc] at h
    have hName : name = proxyName := of_decide_eq_true h
    simp only [callerEffect, hPc, hName, true_and]
    cases hRegistered : s.current.registered with
    | true => exact .inl (by rw [setCaller_self]; rfl)
    | false => exact .inr (.inr rfl)
  | waking =>
    have hFree : s.current.ctxLock = none := by simpa [callerEnabled, hPc] using hEnabled
    simp only [callerEffect, hPc]
    exact .inr (.inl ⟨hFree, c.pick, rfl⟩)
  | dropStoring conn name rids listed todo =>
    rw [hPc] at h
    cases rids with
    | nil =>
      simp only [callerEffect, hPc]
      exact .inl (by rw [setCaller_self]; exact (Bool.and_eq_true_iff.mp h).1)
    | cons requestUuid rids =>
      simp only [callerEffect, hPc]
      exact .inl (by rw [setCaller_self]; exact h)
  | dropListing conn name requestUuid rid rids listed todo =>
    rw [hPc] at h
    simp only [callerEffect, hPc]
    refine .inl ?_
    rw [setCaller_self]
    exact Bool.and_eq_true_iff.mpr ⟨(Bool.and_eq_true_iff.mp h).1, rfl⟩
  | dropWaking conn name todo =>
    rw [hPc] at h
    have hName : name = proxyName := of_decide_eq_true h
    have hFree : s.current.ctxLock = none := by simpa [callerEnabled, hPc, hName] using hEnabled
    simp only [callerEffect, hPc, hName, if_true]
    exact .inr (.inl ⟨hFree, c.pick, rfl⟩)
  | ready | connectionSetting | serviceSetting | nameSetting | tableUnlocking | grouping
  | serviceRemoving | keysCopying | nameDropping | dropLocking | dropFinding | dropUnlocking
  | connectionRemoving =>
    rw [hPc] at h
    cases h

theorem beforeSignal_of_inserts {n : Nat} {c : CallerChoice} {rid : Rid}
    (h : (proxyName, rid) ∈ (s.callerAction print n c).inserts) :
    ((s.callerEffect print proxyName n c).callers n).beforeSignal proxyName = true := by
  cases hPc : s.callers n with
  | nameSetting other name =>
    simp only [callerAction, hPc, TableAction.inserts, List.mem_singleton, Prod.mk.injEq] at h
    simp only [callerEffect, hPc]
    rw [setCaller_self]
    exact decide_eq_true h.1.symm
  | dropListing conn name requestUuid other rids listed todo =>
    simp only [callerAction, hPc, TableAction.inserts, List.mem_singleton, Prod.mk.injEq] at h
    simp only [callerEffect, hPc]
    rw [setCaller_self]
    exact Bool.and_eq_true_iff.mpr ⟨decide_eq_true h.1.symm, rfl⟩
  | nameDropping conn other names rids grouped =>
    cases names <;> simp [callerAction, hPc, TableAction.inserts] at h
  | dropStoring conn name rids listed todo =>
    cases rids <;> simp [callerAction, hPc, TableAction.inserts] at h
  | _ => simp [callerAction, hPc, TableAction.inserts] at h

namespace Attended

theorem of_frame (h : s.Attended proxyName) (hSeated : Seated s.current)
    (hFrame : CurrentFrame s.current s'.current)
    (hStep : ¬ Signals s.current s'.current → attention s.current ≠ none → ∀ rid,
      s'.Waits proxyName rid → s.Waits proxyName rid ∧
        (s.Expected proxyName → s'.Expected proxyName) ∨ s'.Expected proxyName) :
    s'.Attended proxyName := by
  intro rids hRids rid hWaits
  obtain ⟨hOld, hNot⟩ := attention_of_frame hSeated hFrame hRids
  rcases hStep hNot (by rw [hOld]; simp) rid hWaits with ⟨hWaited, hExpected⟩ | hNew
  · exact (h rids hOld rid hWaited).imp_right hExpected
  · exact .inr hNew

theorem expected_of_same (hCallers : s'.callers = s.callers)
    (hDrained : s'.history.drained = s.history.drained) (hTerminator : s'.terminator = s.terminator)
    (hKill : s'.kill = s.kill) (h : s.Expected proxyName) : s'.Expected proxyName := by
  unfold Expected Resetting at h ⊢
  rw [hCallers, hDrained, hTerminator, hKill]
  exact h

/-- With the channel thread at work, either the drain signal is still to come or the context is
registered. -/
theorem not_drained (hIncarnated : s.Incarnated) (hAttention : attention s.current ≠ none)
    (hRegistered : s.current.registered = false) : s.history.drained = false := by
  rw [Bool.eq_false_iff]
  intro hDrained
  have hRuns : s.current.channel ≠ .finished := by
    intro hPc
    exact hAttention (by simp [attention, hPc])
  rw [hIncarnated.drained hDrained hRuns] at hRegistered
  cases hRegistered

theorem caller (h : s.Attended proxyName) (hInv : s.Invariant) {n : Nat} {c : CallerChoice}
    (hEnabled : s.callerEnabled proxyName n = true) (hOrderly : s.Orderly (.caller n c)) :
    (s.callerEffect print proxyName n c).Attended proxyName := by
  have hFrame : ThreadFrame s (s.callerEffect print proxyName n c) := callerEffect_frame s n c hEnabled
  refine h.of_frame hInv.seated hFrame.toCurrentFrame fun hNot hAttention rid hWaits => ?_
  have hAction : s.tableAction print (.caller n c) ≠ .unsent := by
    simp only [tableAction, callerAction]
    split <;> simp
  rcases waits_of_effect hInv.recorded hOrderly hAction hWaits with hOld | hNew
  · by_cases hUndrained : s.history.drained = false
    · exact .inr (.inr (.inl (hFrame.drained.trans hUndrained)))
    · refine .inl ⟨hOld, ?_⟩
      rintro (⟨m, hBefore⟩ | hDrained | hResetting)
      · by_cases hEq : m = n
        · subst hEq
          have hNext : ((s.callerEffect print proxyName m c).callers m).beforeSignal proxyName = true ∨
              Signals s.current (s.callerEffect print proxyName m c).current ∨
              s.current.registered = false := beforeSignal_callerEffect hBefore hEnabled
          rcases hNext with hStill | hSignals | hRegistered
          · exact .inl ⟨m, hStill⟩
          · exact absurd hSignals hNot
          · exact absurd (not_drained hInv.incarnated hAttention hRegistered) hUndrained
        · refine .inl ⟨m, ?_⟩
          rw [callers_callerEffect_ne s c hEq]
          exact hBefore
      · exact absurd hDrained hUndrained
      · refine .inr (.inr ?_)
        unfold Resetting at hResetting ⊢
        rw [hFrame.terminator, hFrame.kill]
        exact hResetting
  · exact .inr (.inl ⟨n, beforeSignal_of_inserts hNew⟩)

theorem channel (h : s.Attended proxyName) (hInv : s.Invariant) {e : ChannelEvent}
    (hGuard : s.current.channelGuard e) (hOrderly : s.Orderly (.channel e)) :
    (s.effect print proxyName (.channel e)).Attended proxyName := by
  intro rids hRids rid hWaits
  have hExpected : s.Expected proxyName → (s.effect print proxyName (.channel e)).Expected proxyName :=
    expected_of_same rfl rfl rfl rfl
  have hWaited : s.Waits proxyName rid := by
    have hAction : s.tableAction print (.channel e) ≠ .unsent := by cases e <;> simp [tableAction]
    rcases waits_of_effect hInv.recorded hOrderly hAction hWaits with hOld | hNew
    · exact hOld
    · obtain ⟨n, c, hEq, -⟩ := caller_of_inserts hNew
      cases hEq
  /- A step that goes on with the same requests at hand. -/
  have hKeep : ∀ {rids'}, attention s.current = some rids' → (rid ∈ rids' → rid ∈ rids) →
      rid ∈ rids ∨ (s.effect print proxyName (.channel e)).Expected proxyName :=
    fun hOld hSub => (h _ hOld rid hWaited).imp hSub hExpected
  change attention (s.current.channelEffect proxyName e) = some rids at hRids
  have hWait : ∀ outcome job, (s.current.channel = .locking job ∨ s.current.channel = .waiting job) →
      attention (s.current.channelIdleWait outcome job true) = some rids →
      ∃ rids', attention s.current = some rids' ∧ rids' = rids := by
    intro outcome job hPc hNew
    cases job with
    | stopRequest => cases outcome <;> cases hNew
    | request other text pending =>
      refine ⟨other :: pending, by rcases hPc with hPc | hPc <;> simp [attention, hPc], ?_⟩
      cases outcome <;> cases hNew <;> rfl
  cases e with
  | start | wake | drop | leave | exit => cases hRids
  | check =>
    simp only [ProxyChannel.channelEffect] at hRids
    split_ifs at hRids with hStop hArray
    · cases hRids
    · cases hRids
    · obtain ⟨snapshot, hSnapshot, hMem⟩ := mem_clientProxynameTableRequestDup.mpr hWaited.1
      simp only [attention, hSnapshot, Option.getD_some, Option.some.injEq] at hRids
      exact .inl (hRids ▸ hMem)
  | take other pending =>
    have hOld : attention s.current = some (other :: pending) := by
      rw [attention, show s.current.channel = _ from hGuard]
    simp only [ProxyChannel.channelEffect] at hRids
    split at hRids
    · refine hKeep hOld fun hMem => ?_
      cases hRids
      exact hMem
    · rename_i hNone
      refine hKeep hOld fun hMem => ?_
      cases hRids
      refine (List.mem_cons.mp hMem).resolve_left ?_
      rintro rfl
      exact hWaited.2 hNone
  | sleep =>
    have hOld : attention s.current = some [] := by
      rw [attention, show s.current.channel = _ from hGuard]
    exact hKeep hOld fun hMem => absurd hMem List.not_mem_nil
  | idleLock job created =>
    obtain rfl : created = true := hOrderly
    obtain ⟨rids', hOld, rfl⟩ := hWait _ job (.inl hGuard.1) hRids
    exact hKeep hOld id
  | idleRelock job created =>
    obtain rfl : created = true := hOrderly
    obtain ⟨rids', hOld, rfl⟩ := hWait _ job (.inr hGuard.1) hRids
    exact hKeep hOld id
  | answer other pending =>
    obtain ⟨hPc, hWoken, -⟩ := hGuard
    have hOld : attention s.current = some (other :: pending) := by rw [attention, hPc]
    have hAnswered := hInv.answered.woken (by rw [hPc]; rfl) hWoken
    simp only [ProxyChannel.channelEffect, ProxyChannel.channelAnswer] at hRids
    split_ifs at hRids with hEnded hDone
    · cases hRids
    · refine hKeep hOld fun hMem => ?_
      cases hRids
      exact hMem
    · rcases hAnswered with hState | hState | hState
      · exact absurd (.inl hState) hDone
      · exact absurd (.inr hState) hDone
      · exact absurd (.inr hState) hEnded
  | sent other pending =>
    have hOld : attention s.current = some (other :: pending) := by
      rw [attention, show s.current.channel = _ from hGuard]
    refine hKeep hOld fun hMem => ?_
    cases hRids
    refine (List.mem_cons.mp hMem).resolve_left ?_
    rintro rfl
    rcases (entryOf_clientProxynameTableRequestSent ..).mp hWaits.1 with ⟨-, -, hSent, -⟩ | ⟨hNe, -⟩
    · cases hSent
    · exact hNe ⟨rfl, rfl⟩

theorem of_quiet (h : s.Attended proxyName) (hSeated : Seated s.current)
    (hFrame : CurrentFrame s.current s'.current)
    (hServices : s'.current.services = s.current.services)
    (hProxynames : s'.current.proxynames = s.current.proxynames)
    (hExpected : ¬ Signals s.current s'.current → attention s.current ≠ none →
      s.Expected proxyName → s'.Expected proxyName) : s'.Attended proxyName := by
  refine h.of_frame hSeated hFrame fun hNot hAttention rid hWaits => .inl ⟨?_, hExpected hNot hAttention⟩
  unfold Waits at hWaits
  rwa [hServices, hProxynames] at hWaits

theorem of_woken (h : attention s'.current = none) : s'.Attended proxyName := by
  intro rids hRids
  rw [h] at hRids
  cases hRids

theorem stopContext_attention (hSeated : Seated s.current) (hFree : s.current.ctxLock = none)
    (pick : Nat) : attention (s.current.stopContext pick) = none := by
  have hSignals : Signals s.current (s.current.stopContext pick) := ⟨hFree, pick, rfl⟩
  obtain ⟨hHolds, hGone⟩ := hSeated.awake_of_signals hSignals
  by_contra hSome
  obtain ⟨rids, hRids⟩ := Option.ne_none_iff_exists'.mp hSome
  rcases holdsCtx_or_asleep_of_attention hRids with hStill | ⟨-, hMem⟩
  · exact absurd (hHolds.symm.trans hStill) (by decide)
  · exact hGone hMem

theorem stopSegment_quiet (h : s.Attended proxyName) {pickIdle pickDispatcher : Nat}
    (hCurrent : s'.current = s.current.stopSegment pickIdle pickDispatcher)
    (hExpected : s.Expected proxyName → s'.Expected proxyName) : s'.Attended proxyName := by
  intro rids hRids rid hWaits
  unfold Waits at hWaits
  rw [hCurrent] at hRids hWaits
  exact (h rids hRids rid hWaits).imp_right hExpected

theorem activator (h : s.Attended proxyName) (hInv : s.Invariant) (outcome : ActivationOutcome)
    (hEnabled : s.activatorEnabled = true) (pickIdle pickDispatcher pick : Nat) :
    (s.activatorEffect outcome pickIdle pickDispatcher pick).Attended proxyName := by
  have hWake : ∀ {s' : ChannelDispatch}, s.current.ctxLock = none →
      s'.current = s.current.wake pick → s'.Attended proxyName := fun hFree hCurrent => by
    apply of_woken
    rw [hCurrent]
    exact stopContext_attention hInv.seated hFree pick
  cases hPc : s.activator with
  | idle | killing => simp [activatorEnabled, hPc] at hEnabled
  | waiting =>
    have hNone : s.kill = none := by simpa [activatorEnabled, hPc] using hEnabled
    simp only [activatorEffect, hPc]
    refine h.of_quiet hInv.seated (.refl _) rfl rfl fun _ _ hExpected => ?_
    rcases hExpected with hBefore | hDrained | hWaiting | ⟨turn, hTurn, -⟩
    · exact .inl hBefore
    · exact .inr (.inl hDrained)
    · exact .inr (.inr (.inl hWaiting))
    · rw [hNone] at hTurn
      cases hTurn
  | creating =>
    simp only [activatorEffect, hPc]
    split
    · exact of_woken rfl
    · exact h.of_quiet hInv.seated (.refl _) rfl rfl fun _ _ => expected_of_same rfl rfl rfl rfl
  | responding | joining =>
    simp only [activatorEffect, hPc]
    exact h.of_quiet hInv.seated (.refl _) rfl rfl fun _ _ => expected_of_same rfl rfl rfl rfl
  | arraySetting | registering =>
    simp only [activatorEffect, hPc]
    exact h.of_quiet hInv.seated ⟨rfl, rfl, rfl, rfl, rfl, rfl, .inl rfl⟩ rfl rfl
      fun _ _ => expected_of_same rfl rfl rfl rfl
  | waking | draining =>
    have hFree : s.current.ctxLock = none := by simpa [activatorEnabled, hPc] using hEnabled
    simp only [activatorEffect, hPc]
    exact hWake hFree rfl
  | terminating =>
    simp only [activatorEffect, hPc]
    exact h.stopSegment_quiet rfl (expected_of_same rfl rfl rfl rfl)
  | stopping =>
    have hFree : s.current.ctxLock = none := by simpa [activatorEnabled, hPc] using hEnabled
    simp only [activatorEffect, hPc]
    exact of_woken (stopContext_attention hInv.seated hFree pick)

theorem terminator (h : s.Attended proxyName) (hInv : s.Invariant)
    (hEnabled : s.terminatorEnabled = true) : (s.terminatorEffect proxyName).Attended proxyName := by
  cases hPc : s.terminator with
  | idle | killing => simp [terminatorEnabled, hPc] at hEnabled
  | unsenting =>
    simp only [terminatorEffect, hPc]
    exact h.of_frame hInv.seated ⟨rfl, rfl, rfl, rfl, rfl, rfl, .inl rfl⟩
      fun _ _ _ _ => .inr (.inr (.inr (.inl rfl)))
  | waiting =>
    simp only [terminatorEffect, hPc]
    exact h.of_frame hInv.seated (.refl _)
      fun _ _ _ _ => .inr (.inr (.inr (.inr ⟨_, rfl, rfl, .inl rfl⟩)))
  | dropping =>
    simp only [terminatorEffect, hPc]
    refine h.of_quiet hInv.seated (.refl _) rfl rfl fun _ _ hExpected => ?_
    rcases hExpected with hBefore | hDrained | hWaiting | hTurn
    · exact .inl hBefore
    · exact .inr (.inl hDrained)
    · rw [hPc] at hWaiting
      cases hWaiting
    · exact .inr (.inr (.inr hTurn))

/-- A step of the call of `proxy_thread_kill` keeps what is expected, except where the call finds no
channel and where it has removed it. -/
theorem expected_killTo {turn : KillTurn} (hTurn : s.kill = some turn) {pc : KillerPc}
    (hCallers : s'.callers = s.callers) (hDrained : s'.history.drained = s.history.drained)
    (hTerminator : s'.terminator = s.terminator) (hKill : s'.kill = some { turn with pc := pc })
    (hPc : turn.pc = .tableLocking ∨ turn.pc = .finding ∨ turn.pc.hasFound = true →
      s.history.drained = false ∨ pc = .tableLocking ∨ pc = .finding ∨ pc.hasFound = true)
    (h : s.Expected proxyName) : s'.Expected proxyName := by
  unfold Expected
  rw [hCallers, hDrained]
  rcases h with hBefore | hUndrained | hWaiting | ⟨turn', hTurn', hBy, hAt⟩
  · exact .inl hBefore
  · exact .inr (.inl hUndrained)
  · exact .inr (.inr (.inl (hTerminator.trans hWaiting)))
  · rw [hTurn, Option.some.injEq] at hTurn'
    subst hTurn'
    rcases hPc hAt with hUndrained | hStill
    · exact .inr (.inl hUndrained)
    · exact .inr (.inr (.inr ⟨_, hKill, hBy, hStill⟩))

theorem killer (h : s.Attended proxyName) (hInv : s.Invariant) {turn : KillTurn}
    (hTurn : s.kill = some turn) (hEnabled : s.killerEnabled = true) (pickIdle pickDispatcher pick : Nat) :
    (s.killEffect turn pickIdle pickDispatcher pick).Attended proxyName := by
  cases hPc : turn.pc with
  | ready =>
    simp only [killEffect, hPc]
    exact h
  | tableLocking =>
    simp only [killEffect, hPc]
    exact h.of_quiet hInv.seated (.refl _) rfl rfl fun _ _ =>
      expected_killTo hTurn rfl rfl rfl rfl fun _ => .inr (.inr (.inl rfl))
  | finding =>
    simp only [killEffect, hPc]
    refine h.of_quiet hInv.seated (.refl _) rfl rfl fun _ hAttention => ?_
    cases hRegistered : s.current.registered with
    | true => exact expected_killTo hTurn rfl rfl rfl rfl fun _ => .inr (.inr (.inr rfl))
    | false =>
      have hUndrained := not_drained hInv.incarnated hAttention hRegistered
      exact expected_killTo hTurn rfl rfl rfl rfl fun _ => .inl hUndrained
  | terminating =>
    simp only [killEffect, hPc]
    exact h.stopSegment_quiet rfl (expected_killTo hTurn rfl rfl rfl rfl fun _ => .inr (.inr (.inr rfl)))
  | stopping =>
    have hFree : s.current.ctxLock = none := by simpa [killerEnabled, hTurn, hPc] using hEnabled
    simp only [killEffect, hPc]
    exact of_woken (stopContext_attention hInv.seated hFree pick)
  | tableUnlocking found =>
    simp only [killEffect, hPc]
    refine h.of_quiet hInv.seated (.refl _) rfl rfl fun _ _ =>
      expected_killTo hTurn rfl rfl rfl rfl fun hAt => .inr (.inr (.inr ?_))
    cases found with
    | true => rfl
    | false => simp [hPc, KillerPc.hasFound] at hAt
  | joining =>
    simp only [killEffect, hPc]
    exact h.of_quiet hInv.seated (.refl _) rfl rfl fun _ _ =>
      expected_killTo hTurn rfl rfl rfl rfl fun _ => .inr (.inr (.inr rfl))
  | removing =>
    have hFinished := hInv.incarnated.joined turn hTurn hPc
    simp only [killEffect, hPc]
    apply of_woken
    simp [attention, killTo, setCurrent, hFinished]
  | killed =>
    simp only [killEffect, hPc]
    refine h.of_quiet hInv.seated (.refl _) rfl rfl fun _ _ hExpected => ?_
    rcases hExpected with hBefore | hUndrained | hWaiting | ⟨turn', hTurn', -, hAt⟩
    · exact .inl hBefore
    · exact .inr (.inl hUndrained)
    · refine .inr (.inr (.inl ?_))
      cases hBy : turn.byTerminator with
      | true =>
        rw [hInv.incarnated.terminator turn hTurn hBy] at hWaiting
        cases hWaiting
      | false => simp [killLeave, hBy, hWaiting]
    · rw [hTurn, Option.some.injEq] at hTurn'
      subst hTurn'
      simp [hPc, KillerPc.hasFound] at hAt

theorem expected_of_begin (h : s.Expected proxyName) {n : Nat} (hReady : (s.callers n).isReady = true)
    (hCallers : ∀ m, m ≠ n → s'.callers m = s.callers m)
    (hDrained : s'.history.drained = s.history.drained) (hTerminator : s'.terminator = s.terminator)
    (hKill : s'.kill = s.kill) : s'.Expected proxyName := by
  unfold Expected Resetting at h ⊢
  rw [hDrained, hTerminator, hKill]
  refine h.imp_left fun ⟨m, hBefore⟩ => ⟨m, ?_⟩
  rw [hCallers m, hBefore]
  rintro rfl
  cases hPc : s.callers m <;> simp [hPc, CallerPc.isReady, CallerPc.beforeSignal] at hReady hBefore

theorem of_removal (h : s.Attended proxyName) (hInv : s.Invariant) {e : DispatchEvent}
    (hGuard : s.guard proxyName e) (hOrderly : s.Orderly e)
    (hEvent : (∃ rid, e = .removeService rid) ∨ ∃ name rid, e = .dropName name rid) :
    (s.effect print proxyName e).Attended proxyName := by
  have hFrame : ThreadFrame s (s.effect print proxyName e) :=
    threadFrame_effect hGuard (by rcases hEvent with ⟨rid, rfl⟩ | ⟨name, rid, rfl⟩ <;> trivial)
  refine h.of_frame hInv.seated hFrame.toCurrentFrame fun _ _ rid hWaits => .inl ⟨?_, ?_⟩
  · have hAction : s.tableAction print e ≠ .unsent := by
      rcases hEvent with ⟨rid, rfl⟩ | ⟨name, rid, rfl⟩ <;> simp [tableAction]
    rcases waits_of_effect hInv.recorded hOrderly hAction hWaits with hOld | hNew
    · exact hOld
    · obtain ⟨n, c, rfl, -⟩ := caller_of_inserts hNew
      simp at hEvent
  · rcases hEvent with ⟨rid, rfl⟩ | ⟨name, rid, rfl⟩ <;> exact expected_of_same rfl rfl rfl rfl

theorem effect (h : s.Attended proxyName) (hInv : s.Invariant) {e : DispatchEvent}
    (hGuard : s.guard proxyName e) (hOrderly : s.Orderly e) :
    (s.effect print proxyName e).Attended proxyName := by
  cases e with
  | route n conn rid name text =>
    refine h.of_quiet hInv.seated (.refl _) rfl rfl fun _ _ hExpected => ?_
    exact expected_of_begin hExpected hGuard (fun m hNe => setCaller_ne _ _ hNe) rfl rfl rfl
  | dropConn n conn =>
    simp only [ChannelDispatch.effect, dropConnStart]
    split
    · exact h
    · refine h.of_quiet hInv.seated (.refl _) rfl rfl fun _ _ hExpected => ?_
      exact expected_of_begin hExpected hGuard.1 (fun m hNe => setCaller_ne _ _ hNe) rfl rfl rfl
  | caller n c => exact h.caller hInv hGuard hOrderly
  | channel e => exact h.channel hInv hGuard hOrderly
  | proxy e =>
    obtain ⟨hFrame, hProxynames, hChannel, hWakeup, -⟩ := proxyEffect_frame s.current e
    intro rids hRids rid hWaits
    refine (h rids ?_ rid ?_).imp_right (expected_of_same rfl rfl rfl rfl)
    · rw [← hRids]
      simp only [attention, ChannelDispatch.effect, setCurrent, hChannel, hWakeup]
    · simpa only [Waits, ChannelDispatch.effect, setCurrent, hFrame.services, hProxynames] using hWaits
  | activate =>
    exact h.of_quiet hInv.seated (.refl _) rfl rfl fun _ _ => expected_of_same rfl rfl rfl rfl
  | pick =>
    refine h.of_quiet hInv.seated (.refl _) rfl rfl fun _ _ hExpected => ?_
    rcases hExpected with hBefore | hDrained | hWaiting | hTurn
    · exact .inl hBefore
    · exact .inr (.inl hDrained)
    · rw [hGuard] at hWaiting
      cases hWaiting
    · exact .inr (.inr (.inr hTurn))
  | activator outcome pickIdle pickDispatcher pick =>
    exact h.activator hInv outcome hGuard pickIdle pickDispatcher pick
  | terminator => exact h.terminator hInv hGuard
  | killer pickIdle pickDispatcher pick =>
    simp only [ChannelDispatch.effect]
    split
    · exact h
    · rename_i turn hTurn
      exact h.killer hInv hTurn hGuard pickIdle pickDispatcher pick
  | removeService rid => exact h.of_removal hInv hGuard hOrderly (.inl ⟨rid, rfl⟩)
  | dropName name rid => exact h.of_removal hInv hGuard hOrderly (.inr ⟨name, rid, rfl⟩)
  | spurious => exact hOrderly.elim

end Attended

theorem attended_of_reachable
    (h : (channelDispatchSystem print proxyName).ReachableWhen (fun s e => s.Orderly e) s) :
    s.Invariant ∧ s.Attended proxyName := by
  refine h.invariant (fun s => s.Invariant ∧ s.Attended proxyName) ?_ ?_
  · rintro s rfl
    exact ⟨invariant_started, Attended.of_woken rfl⟩
  · rintro s e ⟨hInv, hAttended⟩ hGuard hOrderly
    exact ⟨hInv.effect hGuard hOrderly, hAttended.effect hInv hGuard hOrderly⟩

/-- The channel thread sleeps, the drain signal of its incarnation was sent, no caller has yet to
signal and the terminator is not at work on the proxy. -/
structure Resting (proxyName : ProxyName) (s : ChannelDispatch) : Prop where
  asleep : s.current.channel = .asleep
  parked : ChannelThread.channel ∈ s.current.wakeup
  signalled : ∀ n, (s.callers n).beforeSignal proxyName = false
  drained : s.history.drained = true
  unterminated : s.terminator = .idle

/-- A channel thread at rest has left no request behind. -/
theorem sent_at_rest
    (hReach : (channelDispatchSystem print proxyName).ReachableWhen (fun s e => s.Orderly e) s)
    (hResting : s.Resting proxyName) {rid : Rid}
    (hListed : ListedUnder s.current.proxynames proxyName rid)
    (hService : s.current.services.lookup rid ≠ none) :
    EntryOf s.current.proxynames proxyName rid true := by
  obtain ⟨hInv, hAttended⟩ := attended_of_reachable hReach
  obtain ⟨sent, hEntry⟩ := hListed
  cases sent with
  | true => exact hEntry
  | false =>
    exfalso
    have hRids : attention s.current = some [] := by
      simp [attention, hResting.asleep, hResting.parked]
    rcases hAttended [] hRids rid ⟨hEntry, hService⟩ with hMem | ⟨n, hBefore⟩ | hDrained | hWaiting |
      ⟨turn, hTurn, hBy, -⟩
    · exact absurd hMem List.not_mem_nil
    · rw [hResting.signalled n] at hBefore
      cases hBefore
    · rw [hResting.drained] at hDrained
      cases hDrained
    · rw [hResting.unterminated] at hWaiting
      cases hWaiting
    · have hKilling := hInv.incarnated.terminator turn hTurn hBy
      rw [hResting.unterminated] at hKilling
      cases hKilling

/-- A request for a running proxy, from its acknowledgement to the next sleep of the channel thread. -/
def sampleDispatch : List DispatchEvent :=
  List.flatten
    [sampleActivation, sampleRegistration, sampleReaction, [.channel .start, .channel .check,
      .channel .sleep], sampleListing 0 2 "r1" "weather" "today",
      List.replicate 4 (.caller 0 (sampleChoice "")),
      [.channel .wake, .channel .check, .channel (.take "r1" []),
        .channel (.idleLock (.request "r1" "today" []) true)], sampleReaction,
      [.channel (.answer "r1" []), .channel (.sent "r1" []), .channel .sleep]]

set_option maxRecDepth 4000 in
theorem sent_at_rest_sampleDispatch :
    EntryOf ((channelDispatchSystem printUnformatted "weather").run .started
      sampleDispatch).current.proxynames "weather" "r1" true := by
  have hReach : (channelDispatchSystem printUnformatted "weather").ReachableWhen (fun s e => s.Orderly e)
      ((channelDispatchSystem printUnformatted "weather").run .started sampleDispatch) :=
    .run (.init rfl) sampleDispatch (by decide)
  refine sent_at_rest hReach ⟨rfl, by decide, fun n => ?_, rfl, rfl⟩ (by decide) (by decide)
  cases n <;> rfl

end ChannelDispatch

end Gonggo
