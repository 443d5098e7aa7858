import Gonggo.ProxyChannel

/-! # Requests across the death of a proxy

The terminator marks the requests of a dead proxy as not sent, kills the threads of the proxy and
takes its name off the terminating list. The channel thread runs on until it is killed.
-/

namespace Gonggo

namespace ProxyChannel

variable {proxyName : ProxyName} {s : ProxyChannel}

/-- The step marks a request of the proxy as sent while the terminator handles its death. -/
def MarksSentLate (proxyName : ProxyName) (s : ProxyChannel) : ProxyChannelEvent → Prop
  | .channel (.sent rid _) => s.handling = true ∧ ListedUnder s.proxynames proxyName rid
  | _ => False

instance decidableMarksSentLate (proxyName : ProxyName) (s : ProxyChannel) :
    ∀ e, Decidable (s.MarksSentLate proxyName e)
  | .channel (.sent _ _) => inferInstanceAs (Decidable (_ ∧ _))
  | .channel .start | .channel .check | .channel (.take _ _) | .channel .sleep | .channel .wake
  | .channel (.idleLock _ _) | .channel (.idleRelock _ _) | .channel (.answer _ _)
  | .channel .drop | .channel .leave | .channel .exit
  | .worker _ _ | .killer _ | .proxy _ | .table _ | .spurious _ => inferInstanceAs (Decidable False)

/-- No request of the proxy counts as sent. -/
def AllUnsent (proxyName : ProxyName) (table : ClientProxynameTable) : Prop :=
  ∀ rid sent, EntryOf table proxyName rid sent → sent = false

theorem allUnsent_clientProxynameTableSet {table : ClientProxynameTable} (h : AllUnsent proxyName table)
    (name : ProxyName) (rid : Rid) : AllUnsent proxyName (clientProxynameTableSet table name rid) := by
  intro other sent hSent
  rcases (entryOf_clientProxynameTableSet ..).mp hSent with hOld | ⟨-, -, hFalse, -⟩
  · exact h other sent hOld
  · exact hFalse

theorem allUnsent_clientProxynameTableDrop {table : ClientProxynameTable}
    (h : AllUnsent proxyName table) (name : ProxyName) (rid : Rid) :
    AllUnsent proxyName (clientProxynameTableDrop table name rid).2 :=
  fun other sent hSent => h other sent ((entryOf_clientProxynameTableDrop ..).mp hSent).1

theorem allUnsent_clientProxynameTableRequestUnsent (table : ClientProxynameTable) :
    AllUnsent proxyName (clientProxynameTableRequestUnsent table proxyName) := by
  intro rid sent hSent
  rcases (entryOf_clientProxynameTableRequestUnsent ..).mp hSent with ⟨-, hFalse, -⟩ | ⟨hNe, -⟩
  · exact hFalse
  · exact absurd rfl hNe

theorem allUnsent_clientProxynameTableRequestSent {table : ClientProxynameTable}
    (h : AllUnsent proxyName table) {rid : Rid} (hNot : ¬ ListedUnder table proxyName rid) :
    AllUnsent proxyName (clientProxynameTableRequestSent table proxyName rid) := by
  intro other sent hSent
  rcases (entryOf_clientProxynameTableRequestSent ..).mp hSent with ⟨-, -, -, hListed⟩ | ⟨-, hOld⟩
  · exact absurd hListed hNot
  · exact h other sent hOld

theorem channelEffect_tables (proxyName : ProxyName) (s : ProxyChannel) {e : ChannelEvent}
    (h : ∀ rid pending, e ≠ .sent rid pending) :
    (s.channelEffect proxyName e).proxynames = s.proxynames := by
  cases e with
  | sent rid pending => exact absurd rfl (h rid pending)
  | idleLock job created =>
    cases hOutcome : s.shm.idleWaitLocked <;> cases job <;> cases created <;>
      simp [channelEffect, channelIdleWait, channelProceed, channelRefused, hOutcome]
  | idleRelock job created =>
    cases hOutcome : s.shm.idleWaitWoken <;> cases job <;> cases created <;>
      simp [channelEffect, channelIdleWait, channelProceed, channelRefused, hOutcome]
  | answer rid pending =>
    simp only [channelEffect, channelAnswer]
    split_ifs <;> rfl
  | _ => rfl

theorem channelEffect_handling (proxyName : ProxyName) (s : ProxyChannel) (e : ChannelEvent) :
    (s.channelEffect proxyName e).handling = s.handling := by
  cases e with
  | idleLock job created =>
    cases hOutcome : s.shm.idleWaitLocked <;> cases job <;> cases created <;>
      simp [channelEffect, channelIdleWait, channelProceed, channelRefused, hOutcome]
  | idleRelock job created =>
    cases hOutcome : s.shm.idleWaitWoken <;> cases job <;> cases created <;>
      simp [channelEffect, channelIdleWait, channelProceed, channelRefused, hOutcome]
  | answer rid pending =>
    simp only [channelEffect, channelAnswer]
    split_ifs <;> rfl
  | _ => rfl

theorem workerEffect_tables (s : ProxyChannel) (n : Nat) (e : WorkerEvent) :
    (s.workerEffect n e).proxynames = s.proxynames ∧ (s.workerEffect n e).handling = s.handling := by
  cases e with
  | idleLock rid text created =>
    cases hOutcome : s.shm.idleWaitLocked <;> cases created <;>
      simp [workerEffect, workerIdleWait, setWorker, hOutcome]
  | idleRelock rid text created =>
    cases hOutcome : s.shm.idleWaitWoken <;> cases created <;>
      simp [workerEffect, workerIdleWait, setWorker, hOutcome]
  | _ => exact ⟨rfl, rfl⟩

theorem proxyEffect_tables (s : ProxyChannel) (e : ProxyEvent) :
    (s.proxyEffect e).proxynames = s.proxynames ∧ (s.proxyEffect e).handling = s.handling := by
  cases e with
  | react fails pick =>
    simp only [proxyEffect, proxyReact]
    split <;> exact ⟨rfl, rfl⟩
  | _ => exact ⟨rfl, rfl⟩

/-- While the terminator handles the death of the proxy, none of its requests counts as sent. -/
def ResetHeld (proxyName : ProxyName) (s : ProxyChannel) : Prop :=
  s.handling = true → AllUnsent proxyName s.proxynames

theorem ResetHeld.effect (h : s.ResetHeld proxyName) (e : ProxyChannelEvent)
    (hPrompt : ¬ s.MarksSentLate proxyName e) : (s.effect proxyName e).ResetHeld proxyName := by
  intro hHandling
  cases e with
  | channel e =>
    change (s.channelEffect proxyName e).handling = true at hHandling
    show AllUnsent proxyName (s.channelEffect proxyName e).proxynames
    rw [channelEffect_handling] at hHandling
    by_cases hSent : ∃ rid pending, e = .sent rid pending
    · obtain ⟨rid, pending, rfl⟩ := hSent
      exact allUnsent_clientProxynameTableRequestSent (h hHandling) fun hListed =>
        hPrompt ⟨hHandling, hListed⟩
    · rw [channelEffect_tables _ _ fun rid pending hEq => hSent ⟨rid, pending, hEq⟩]
      exact h hHandling
  | worker n e =>
    change (s.workerEffect n e).handling = true at hHandling
    show AllUnsent proxyName (s.workerEffect n e).proxynames
    rw [(workerEffect_tables s n e).2] at hHandling
    rw [(workerEffect_tables s n e).1]
    exact h hHandling
  | killer e =>
    cases e with
    | unsent => exact allUnsent_clientProxynameTableRequestUnsent s.proxynames
    | drop => cases hHandling
    | _ => exact h hHandling
  | proxy e =>
    change (s.proxyEffect e).handling = true at hHandling
    show AllUnsent proxyName (s.proxyEffect e).proxynames
    rw [(proxyEffect_tables s e).2] at hHandling
    rw [(proxyEffect_tables s e).1]
    exact h hHandling
  | table e =>
    cases e with
    | proxynameSet name rid => exact allUnsent_clientProxynameTableSet (h hHandling) name rid
    | proxynameDrop name rid => exact allUnsent_clientProxynameTableDrop (h hHandling) name rid
    | _ => exact h hHandling
  | spurious t => exact h hHandling

/-- When the terminator takes the proxy off the terminating list, every request still listed under it
waits for the next incarnation, provided none was marked as sent since the flags were reset. -/
theorem allUnsent_at_drop
    (hReach : (proxyChannelSystem proxyName).ReachableWhen (fun s e => ¬ s.MarksSentLate proxyName e) s)
    (hDrop : s.killerGuard .drop) : AllUnsent proxyName s.proxynames := by
  have hReset : s.ResetHeld proxyName := by
    refine hReach.invariant _ ?_ fun s e hs _ hPrompt => ResetHeld.effect hs e hPrompt
    intro s hStarts hHandling
    rw [hStarts.handling] at hHandling
    cases hHandling
  exact hReset hDrop.2

/-- A proxy with one waiting request. -/
def sampleRestart : ProxyChannel :=
  startedProxyChannel (clientServiceTableSet .empty "r" "y") (clientProxynameTableSet .empty "p" "r")

/-- The proxy takes the request and dies, and the channel thread is done with it before the flags
are reset. -/
def promptAcknowledgement : List ProxyChannelEvent :=
  [.channel .start, .channel .check, .channel (.take "r" []),
    .channel (.idleLock (.request "r" "y" []) true),
    .proxy .lock, .proxy (.react false 0), .proxy .unlock, .proxy .die,
    .channel (.answer "r" []), .channel (.sent "r" []), .channel .sleep,
    .killer .unsent, .killer .takeTable, .killer .find, .killer (.terminate 0 0), .killer (.stop 0),
    .killer (.releaseTable true),
    .channel .wake, .channel .check, .channel .leave, .channel .exit,
    .killer .join, .killer .remove]

theorem allUnsent_at_drop_sample :
    AllUnsent "p" ((proxyChannelSystem "p").run sampleRestart promptAcknowledgement).proxynames :=
  allUnsent_at_drop (.run (.init (starts_startedProxyChannel _ _)) promptAcknowledgement (by decide))
    (by decide)

/-- The flags are reset first, and then the channel thread, which the acknowledgement had woken,
marks the request as sent. -/
def lateAcknowledgement : List ProxyChannelEvent :=
  [.channel .start, .channel .check, .channel (.take "r" []),
    .channel (.idleLock (.request "r" "y" []) true),
    .proxy .lock, .proxy (.react false 0), .proxy .unlock, .proxy .die,
    .killer .unsent,
    .channel (.answer "r" []), .channel (.sent "r" []), .channel .sleep,
    .killer .takeTable, .killer .find, .killer (.terminate 0 0), .killer (.stop 0),
    .killer (.releaseTable true),
    .channel .wake, .channel .check, .channel .leave, .channel .exit,
    .killer .join, .killer .remove]

theorem sent_at_drop :
    ¬ ∀ s, (proxyChannelSystem "p").Reachable s → s.killerGuard .drop → AllUnsent "p" s.proxynames := by
  intro h
  have hReach : (proxyChannelSystem "p").Reachable
      ((proxyChannelSystem "p").run sampleRestart lateAcknowledgement) :=
    .run (.init (starts_startedProxyChannel _ _)) lateAcknowledgement (by decide)
  exact absurd (h _ hReach (by decide) "r" true (by decide)) (by decide)

end ProxyChannel

end Gonggo
