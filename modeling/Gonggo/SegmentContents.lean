import Gonggo.SegmentNames

/-! # Contents of the payload segments

A proxy reads the payload segment while the exchange is posted, so what it gets is what the segment
holds then. Which segment a path names is left to the C library: glibc skips the slashes in front, so
that two ids may name one segment.
-/

namespace Gonggo

/-- glibc skips the slashes in front of the name of a segment. -/
def shmName (path : String) : String := String.ofList (path.toList.dropWhile (· == '/'))

/-- A path and what its segment holds from now on; without a text the segment is unlinked, or it is
one of the control segments of a proxy. -/
abbrev SegmentWrite := String × Option String

/-- The segments after the writes. -/
def writeSegments (segment : String → String) (contents : String → Option String)
    (writes : List SegmentWrite) : String → Option String :=
  writes.foldl (fun contents write => Function.update contents (segment write.1) write.2) contents

theorem writeSegments_of_ne {segment : String → String} {contents : String → Option String}
    {writes : List SegmentWrite} {name : String} (h : ∀ write ∈ writes, segment write.1 ≠ name) :
    writeSegments segment contents writes name = contents name := by
  induction writes generalizing contents with
  | nil => rfl
  | cons write writes ih =>
    have hRest : ∀ other ∈ writes, segment other.1 ≠ name :=
      fun other hMem => h other (List.mem_cons_of_mem _ hMem)
    calc
      writeSegments segment contents (write :: writes) name =
          Function.update contents (segment write.1) write.2 name := ih hRest
      _ = contents name := Function.update_of_ne (h write List.mem_cons_self).symm _ _

/-- `proxy_channel_create_request` fills the segment, or unlinks it when it cannot be mapped; the end
of the exchange unlinks it. -/
def Exchange.writes (x : Exchange) (reply : ChannelReply) : List SegmentWrite :=
  match x.stage with
  | .creating => [(payloadPath x.rid, if reply.created then some x.text else none)]
  | .posted => []
  | .unlinking => [(payloadPath x.rid, none)]

/-- A thread that carries out exchanges: the channel thread of a proxy, or that of the REST request. -/
inductive ExchangeThread
  | channel (proxyName : ProxyName)
  | rest

namespace ProxyTraffic

variable (s : ProxyTraffic)

def exchangeAt : ExchangeThread → Option (ProxyName × Exchange)
  | .channel proxyName => (s.passes proxyName).exchange.map fun x => (proxyName, x)
  | .rest => s.rest.exchange

/-- The thread whose exchange the step takes further, with what the channel answers. -/
def moves : TrafficEvent → Option (ExchangeThread × ChannelReply)
  | .channel proxyName reply => some (.channel proxyName, reply)
  | .worker _ reply => some (.rest, reply)
  | _ => none

/-- A proxy makes its control segments, and the end of its threads unlinks them. -/
def segmentWrites : TrafficEvent → List SegmentWrite
  | .activate proxyName => (proxyPaths proxyName).map fun path => (path, none)
  | .terminate proxyName =>
      if proxyName ∈ s.active then (proxyPaths proxyName).map fun path => (path, none) else []
  | .channel proxyName reply =>
      ((s.exchangeAt (.channel proxyName)).map fun y => y.2.writes reply).getD []
  | .worker _ reply => ((s.exchangeAt .rest).map fun y => y.2.writes reply).getD []
  | _ => []

variable {json : JsonLibrary} {gonggoName : String} {s} {e : TrafficEvent} {proxyName : ProxyName}
  {rid : Rid} {thread : ExchangeThread} {reply : ChannelReply} {x : Exchange}

/-- A step writes the control segments of a proxy that comes or goes, or the payload segment of the
exchange it takes further. -/
theorem mem_segmentWrites {write : SegmentWrite} (h : write ∈ s.segmentWrites e) :
    (∃ proxyName, (e = .activate proxyName ∨ e = .terminate proxyName ∧ proxyName ∈ s.active) ∧
        write.1 ∈ proxyPaths proxyName) ∨
      ∃ thread reply y, moves e = some (thread, reply) ∧ s.exchangeAt thread = some y ∧
        write.1 = payloadPath y.2.rid := by
  have hPaths {proxyName : ProxyName} (hMem : write ∈ (proxyPaths proxyName).map fun path => (path, none)) :
      write.1 ∈ proxyPaths proxyName := by
    obtain ⟨path, hPath, rfl⟩ := List.mem_map.mp hMem
    exact hPath
  have hWrites {thread : ExchangeThread} {reply : ChannelReply}
      (hMem : write ∈ ((s.exchangeAt thread).map fun y => y.2.writes reply).getD []) :
      ∃ y, s.exchangeAt thread = some y ∧ write.1 = payloadPath y.2.rid := by
    cases hExchange : s.exchangeAt thread with
    | none => simp [hExchange] at hMem
    | some y =>
      refine ⟨y, rfl, ?_⟩
      simp only [hExchange, Option.map_some, Option.getD_some, Exchange.writes] at hMem
      split at hMem
      · rw [List.mem_singleton.mp hMem]
      · cases hMem
      · rw [List.mem_singleton.mp hMem]
  cases e with
  | activate proxyName => exact .inl ⟨proxyName, .inl rfl, hPaths h⟩
  | terminate proxyName =>
    simp only [segmentWrites] at h
    split at h
    · rename_i hActive
      exact .inl ⟨proxyName, .inr ⟨rfl, hActive⟩, hPaths h⟩
    · cases h
  | channel proxyName reply =>
    obtain ⟨y, hExchange, hPath⟩ := hWrites h
    exact .inr ⟨.channel proxyName, reply, y, rfl, hExchange, hPath⟩
  | worker generated reply =>
    obtain ⟨y, hExchange, hPath⟩ := hWrites h
    exact .inr ⟨.rest, reply, y, rfl, hExchange, hPath⟩
  | store | register | unsent | pass | rest => cases h

theorem segmentWrites_of_moves {y : ProxyName × Exchange} (hMoves : moves e = some (thread, reply))
    (h : s.exchangeAt thread = some y) : s.segmentWrites e = y.2.writes reply := by
  cases e with
  | channel name reply' =>
    cases hMoves
    simp only [segmentWrites, h, Option.map_some, Option.getD_some]
  | worker generated reply' =>
    cases hMoves
    simp only [segmentWrites, h, Option.map_some, Option.getD_some]
  | store | activate | register | unsent | terminate | pass | rest => cases hMoves

/-! ## The course of an exchange -/

/-- A thread that the step does not move begins no exchange. -/
theorem exchangeAt_effect_of_rest (hMoves : ∀ reply, moves e ≠ some (thread, reply)) {y : ProxyName × Exchange}
    (h : (s.effect json gonggoName e).exchangeAt thread = some y) : s.exchangeAt thread = some y := by
  cases e with
  | pass name =>
    cases thread with
    | channel other =>
      by_cases hName : other = name
      · subst hName
        simp [exchangeAt, effect, setPass, ChannelPassPc.exchange] at h
      · simpa [exchangeAt, effect, setPass, Function.update_of_ne hName] using h
    | rest => exact h
  | channel name reply =>
    cases thread with
    | channel other =>
      have hName : other ≠ name := by
        rintro rfl
        exact hMoves reply rfl
      have hPass : ∀ pc, Function.update s.passes name pc other = s.passes other :=
        fun pc => Function.update_of_ne hName _ _
      have hPasses : (s.effect json gonggoName (.channel name reply)).passes other = s.passes other := by
        simp only [effect, channelEffect]
        split
        · rfl
        · exact hPass _
        · exact hPass _
        · exact hPass _
        · split <;> exact hPass _
        · split <;> exact hPass _
        · exact hPass _
      rwa [exchangeAt, hPasses] at h
    | rest =>
      have hRest : (s.effect json gonggoName (.channel name reply)).rest = s.rest := by
        simp only [effect, channelEffect]
        split
        any_goals rfl
        all_goals split <;> rfl
      rwa [exchangeAt, hRest] at h
  | rest request =>
    simp only [effect, restEffect] at h
    split at h
    · exact h
    · cases thread with
      | channel other => exact h
      | rest => cases h
  | worker generated reply =>
    cases thread with
    | channel other =>
      have hPasses : (s.effect json gonggoName (.worker generated reply)).passes = s.passes := by
        simp only [effect, workerEffect]
        split
        any_goals rfl
        split <;> rfl
      rwa [exchangeAt, hPasses] at h
    | rest => exact (hMoves reply rfl).elim
  | store | activate | register | unsent | terminate => cases thread <;> exact h

/-- An exchange begins with the creation of its segment, goes on when the segment is made, and ends
with the removal. -/
inductive Continues (s : ProxyTraffic) (thread : ExchangeThread) (reply : ChannelReply)
    (proxyName : ProxyName) : Exchange → Prop
  | begun (rid : Rid) (text : String) : Continues s thread reply proxyName ⟨rid, text, .creating⟩
  | posted (rid : Rid) (text : String)
      (h : s.exchangeAt thread = some (proxyName, ⟨rid, text, .creating⟩)) (hCreated : reply.created = true) :
      Continues s thread reply proxyName ⟨rid, text, .posted⟩
  | answered (rid : Rid) (text : String)
      (h : s.exchangeAt thread = some (proxyName, ⟨rid, text, .posted⟩)) :
      Continues s thread reply proxyName ⟨rid, text, .unlinking⟩

theorem continues_channelEffect {name : ProxyName}
    (h : (s.channelEffect name reply).exchangeAt (.channel name) = some (proxyName, x))
    (hStart : s.passes name ≠ .asleep) : s.Continues (.channel name) reply proxyName x := by
  have hSet {s' : ProxyTraffic} {pc : ChannelPassPc}
      (hMem : (s'.setPass name pc).exchangeAt (.channel name) = some (proxyName, x)) :
      name = proxyName ∧ pc.exchange = some x := by
    simp only [exchangeAt, setPass, Function.update_self] at hMem
    obtain ⟨x', hPc, hEq⟩ := Option.map_eq_some_iff.mp hMem
    cases hEq
    exact ⟨rfl, hPc⟩
  have hAt {x' : Exchange} {pending : List Rid} (hPc : s.passes name = .exchanging x' pending) :
      s.exchangeAt (.channel name) = some (name, x') := by
    rw [exchangeAt, hPc, ChannelPassPc.exchange, Option.map_some]
  unfold channelEffect at h
  split at h
  · rename_i hPc
    exact (hStart hPc).elim
  · cases (hSet h).2
  · have hExchange := (hSet h).2
    split at hExchange <;> cases hExchange
  · have hExchange := (hSet h).2
    split at hExchange
    · cases hExchange
      exact .begun _ _
    · cases hExchange
  · rename_i hPc
    split at h
    · rename_i hCreated
      obtain ⟨rfl, hExchange⟩ := hSet h
      cases hExchange
      exact .posted _ _ (hAt hPc) hCreated
    · cases (hSet h).2
  · rename_i hPc
    obtain ⟨rfl, hExchange⟩ := hSet h
    cases hExchange
    exact .answered _ _ (hAt hPc)
  · cases (hSet h).2

theorem continues_workerEffect {generated : Rid}
    (h : (s.workerEffect json generated reply).exchangeAt .rest = some (proxyName, x))
    (hStart : s.rest ≠ .idle) : s.Continues .rest reply proxyName x := by
  have hAt {x' : Exchange} {name : ProxyName} (hPc : s.rest = .exchanging name x') :
      s.exchangeAt .rest = some (name, x') := by
    rw [exchangeAt, hPc, RestPc.exchange]
  unfold workerEffect at h
  split at h
  · rename_i hPc
    exact (hStart hPc).elim
  · simp only [exchangeAt, setRest] at h
    split at h
    · cases h
      exact .begun _ _
    · cases h
  · rename_i hPc
    split at h
    · rename_i hCreated
      cases h
      exact .posted _ _ (hAt hPc) hCreated
    · cases h
  · rename_i hPc
    cases h
    exact .answered _ _ (hAt hPc)
  · cases h

theorem continues_effect (hGuard : s.guard json e) (hMoves : moves e = some (thread, reply))
    (h : (s.effect json gonggoName e).exchangeAt thread = some (proxyName, x)) :
    s.Continues thread reply proxyName x := by
  cases e with
  | channel name reply' =>
    cases hMoves
    refine continues_channelEffect h fun hPc => ?_
    have hAwake : (s.passes name).isAsleep = false := hGuard
    rw [hPc] at hAwake
    cases hAwake
  | worker generated reply' =>
    cases hMoves
    refine continues_workerEffect h fun hPc => ?_
    have hBusy : s.rest.isIdle = false := hGuard
    rw [hPc] at hBusy
    cases hBusy
  | store | activate | register | unsent | terminate | pass | rest => cases hMoves

theorem eq_of_exchangeAt_channel {name : ProxyName}
    (h : s.exchangeAt (.channel name) = some (proxyName, x)) : name = proxyName := by
  obtain ⟨x', -, hEq⟩ := Option.map_eq_some_iff.mp h
  cases hEq
  rfl

theorem atWork_of_exchangeAt (h : s.exchangeAt thread = some (proxyName, x)) : s.AtWork proxyName x.rid := by
  refine atWork_of_uses ⟨x, rfl, ?_⟩
  cases thread with
  | channel name =>
    obtain ⟨x', hPass, hEq⟩ := Option.map_eq_some_iff.mp h
    cases hEq
    exact .inl hPass
  | rest => exact .inr h

/-! ## Ids outside the REST request -/

/-- The id is at work for the proxy outside the exchange of the REST request. -/
def AtWorkOutside (s : ProxyTraffic) (proxyName : ProxyName) (rid : Rid) : Prop :=
  (s.setRest .idle).AtWork proxyName rid

theorem AtWorkOutside.atWork (h : s.AtWorkOutside proxyName rid) : s.AtWork proxyName rid := by
  cases h with
  | worker conn hListing => exact .worker conn hListing
  | listed hListed => exact .listed hListed
  | pass hMem => exact .pass hMem
  | rest x hX hRid => cases hX

theorem AtWorkOutside.of_eq {s' : ProxyTraffic} (h : s'.AtWorkOutside proxyName rid)
    (hThreads : s'.threads = s.threads) (hPasses : s'.passes = s.passes) : s.AtWorkOutside proxyName rid := by
  cases h with
  | worker conn hListing =>
    simp only [setRest, hThreads] at hListing
    exact .worker conn hListing
  | listed hListed =>
    simp only [setRest, hThreads] at hListed
    exact .listed hListed
  | pass hMem =>
    simp only [setRest, hPasses] at hMem
    exact .pass hMem
  | rest x hX hRid => cases hX

theorem atWorkOutside_of_exchangeAt {name : ProxyName}
    (h : s.exchangeAt (.channel name) = some (proxyName, x)) : s.AtWorkOutside proxyName x.rid := by
  have hIdle : (s.setRest .idle).exchangeAt (.channel name) = some (proxyName, x) := h
  exact atWork_of_exchangeAt hIdle

/-- Only a step outside the REST request brings an id to work there. -/
theorem atWorkOutside_effect (h : (s.effect json gonggoName e).AtWorkOutside proxyName rid) :
    s.AtWorkOutside proxyName rid ∨
      s.brings json e = some (proxyName, rid) ∧ ∀ reply, moves e ≠ some (.rest, reply) := by
  have hApply (hEq : (s.effect json gonggoName e).setRest .idle = (s.setRest .idle).effect json gonggoName e)
      (hBrings : (s.setRest .idle).brings json e = s.brings json e)
      (hMoves : ∀ reply, moves e ≠ some (.rest, reply)) :
      s.AtWorkOutside proxyName rid ∨
        s.brings json e = some (proxyName, rid) ∧ ∀ reply, moves e ≠ some (.rest, reply) := by
    rw [AtWorkOutside, hEq] at h
    rcases atWork_effect h with hOld | hNew
    · exact .inl hOld
    · exact .inr ⟨hBrings ▸ hNew, hMoves⟩
  cases e with
  | store e =>
    refine hApply rfl ?_ fun _ hEq => by cases hEq
    obtain ⟨ctx, action⟩ := e
    cases action <;> rfl
  | channel name reply =>
    refine hApply ?_ rfl fun _ hEq => by cases hEq
    simp only [effect, channelEffect, setRest]
    split
    any_goals rfl
    all_goals split <;> rfl
  | rest request =>
    refine .inl (h.of_eq ?_ ?_)
    all_goals
      simp only [effect, restEffect]
      split <;> rfl
  | worker generated reply =>
    refine .inl (h.of_eq ?_ ?_)
    all_goals
      simp only [effect, workerEffect]
      split
      any_goals rfl
      split <;> rfl
  | activate | register | unsent | terminate | pass => exact hApply rfl rfl fun _ hEq => by cases hEq

end ProxyTraffic

end Gonggo
