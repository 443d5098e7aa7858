import Gonggo.ClientProxynameTable
import Gonggo.Library.ArrivalMap
import Gonggo.Library.DataRefinement

/-! # The proxy name table as a map of requests in arrival order

The two arrays of a proxy, indexed by one search result, stand for one list of request ids with
their flags. A call on the table is a call on the map of these lists, with the same answer.
-/

namespace Gonggo

inductive ProxynameCall where
  | set (proxyName : ProxyName) (requestUuid : Rid)
  | requestSent (proxyName : ProxyName) (requestUuid : Rid)
  | requestUnsent (proxyName : ProxyName)
  | drop (proxyName : ProxyName) (requestUuid : Rid)
  | requestDup (proxyName : ProxyName) (notSentOnly : Bool)
  | proxyNameDup (order : Traversal ProxyName) (requestUuid : Rid)

inductive ProxynameAnswer where
  | done
  | found (hit : Bool)
  | requests (rids : Option (List Rid))
  | name (proxyName : Option ProxyName)
  deriving DecidableEq

namespace ProxynameCall

def apply (table : ClientProxynameTable) : ProxynameCall → ProxynameAnswer × ClientProxynameTable
  | .set proxyName requestUuid => (.done, clientProxynameTableSet table proxyName requestUuid)
  | .requestSent proxyName requestUuid =>
      (.done, clientProxynameTableRequestSent table proxyName requestUuid)
  | .requestUnsent proxyName => (.done, clientProxynameTableRequestUnsent table proxyName)
  | .drop proxyName requestUuid =>
      (.found (clientProxynameTableDrop table proxyName requestUuid).1,
        (clientProxynameTableDrop table proxyName requestUuid).2)
  | .requestDup proxyName notSentOnly =>
      (.requests (clientProxynameTableRequestDup table proxyName notSentOnly), table)
  | .proxyNameDup order requestUuid =>
      (.name (clientProxynameTableProxyNameDup table order requestUuid), table)

/-- What a call may answer and do, in terms of the lists alone. -/
def Allowed (m : ArrivalMap ProxyName Rid) :
    ProxynameCall → ProxynameAnswer → ArrivalMap ProxyName Rid → Prop
  | .set proxyName rid, reply, next => reply = .done ∧ next = m.add proxyName rid
  | .requestSent proxyName rid, reply, next => reply = .done ∧ next = m.mark proxyName rid
  | .requestUnsent proxyName, reply, next => reply = .done ∧ next = m.unmark proxyName
  | .drop proxyName rid, reply, next =>
      reply = .found (m.Lists proxyName rid) ∧ next = m.discard proxyName rid
  | .requestDup proxyName notSentOnly, reply, next =>
      reply = .requests (if notSentOnly then m.pending proxyName else m.items proxyName) ∧ next = m
  | .proxyNameDup _ rid, reply, next =>
      next = m ∧
        ((∃ proxyName, m.Lists proxyName rid ∧ reply = .name (some proxyName)) ∨
          ((∀ proxyName, ¬ m.Lists proxyName rid) ∧ reply = .name none))

def spec : CallSpec (ArrivalMap ProxyName Rid) ProxynameCall ProxynameAnswer where
  init := ArrivalMap.empty
  allows m call reply next := call.Allowed m reply next

end ProxynameCall

namespace ClientProxynameTable

/-- Every key of the table holds exactly the list of the map, and no other key is there. -/
def Represents (table : ClientProxynameTable) (m : ArrivalMap ProxyName Rid) : Prop :=
  ∀ proxyName, (table.lookup proxyName).map ClientProxynameTableValue.pairs =
    (m proxyName).map ArrivalList.entries

/-- A proxy goes from the table with its last request. -/
def NoneEmpty (table : ClientProxynameTable) : Prop :=
  ∀ proxyName value, table.lookup proxyName = some value → value.pairs ≠ []

variable {table : ClientProxynameTable} {m : ArrivalMap ProxyName Rid}

theorem represents_empty : Represents HashTable.empty ArrivalMap.empty := by
  intro proxyName
  rw [HashTable.lookup_empty]
  rfl

theorem Represents.pairsUnder_eq (h : Represents table m) (proxyName : ProxyName) :
    pairsUnder table proxyName = m.entriesAt proxyName := by
  unfold pairsUnder ArrivalMap.entriesAt
  rw [h proxyName]

theorem Represents.noneEmpty (h : Represents table m) : NoneEmpty table := by
  intro proxyName value hValue hNil
  have hEntries := h proxyName
  rw [hValue, Option.map_some, hNil] at hEntries
  obtain ⟨l, -, hl⟩ := Option.map_eq_some_iff.mp hEntries.symm
  exact l.nonempty hl

/-- Lists that agree, in a table without empty lists, are the whole table. -/
theorem represents_of_pairsUnder (hNone : NoneEmpty table)
    (h : ∀ proxyName, pairsUnder table proxyName = m.entriesAt proxyName) : Represents table m := by
  intro proxyName
  rw [m.map_entries, ← h proxyName]
  cases hValue : table.lookup proxyName with
  | none =>
    rw [pairsUnder, hValue]
    rfl
  | some value =>
    rw [pairsUnder_of_lookup hValue, if_neg (hNone proxyName value hValue)]
    rfl

theorem Represents.lists_iff (h : Represents table m) (proxyName : ProxyName) (rid : Rid) :
    m.Lists proxyName rid ↔ ListedUnder table proxyName rid := by
  unfold ArrivalMap.Lists ListedUnder
  rw [← h.pairsUnder_eq]
  simp only [← mem_pairsUnder, List.mem_map, Prod.exists, exists_and_right, exists_eq_right]

theorem noneEmpty_insert (hNone : NoneEmpty table) (proxyName : ProxyName)
    {value : ClientProxynameTableValue} (hValue : value.pairs ≠ []) :
    NoneEmpty (table.insert proxyName value) := by
  intro other held hHeld
  rw [HashTable.lookup_insert] at hHeld
  split at hHeld
  · cases hHeld
    exact hValue
  · exact hNone other held hHeld

theorem noneEmpty_remove (hNone : NoneEmpty table) (proxyName : ProxyName) :
    NoneEmpty (table.remove proxyName) := by
  intro other held hHeld
  rw [HashTable.lookup_remove] at hHeld
  split at hHeld
  · cases hHeld
  · exact hNone other held hHeld

theorem noneEmpty_set (hNone : NoneEmpty table) (proxyName : ProxyName) (rid : Rid) :
    NoneEmpty (clientProxynameTableSet table proxyName rid) := by
  unfold clientProxynameTableSet
  split
  · apply noneEmpty_insert hNone
    rw [ClientProxynameTableValue.pairs_add]
    simp
  · split
    · exact hNone
    · apply noneEmpty_insert hNone
      rw [ClientProxynameTableValue.pairs_add]
      simp

theorem noneEmpty_requestSent (hNone : NoneEmpty table) (proxyName : ProxyName) (rid : Rid) :
    NoneEmpty (clientProxynameTableRequestSent table proxyName rid) := by
  cases hValue : table.lookup proxyName with
  | none => simpa only [clientProxynameTableRequestSent, hValue] using hNone
  | some value =>
    cases hIdx : value.requestUuids.find rid with
    | none => simpa only [clientProxynameTableRequestSent, hValue, hIdx] using hNone
    | some idx =>
      simp only [clientProxynameTableRequestSent, hValue, hIdx]
      apply noneEmpty_insert hNone
      rw [value.pairs_setSent hIdx]
      simpa using hNone proxyName value hValue

theorem noneEmpty_requestUnsent (hNone : NoneEmpty table) (proxyName : ProxyName) :
    NoneEmpty (clientProxynameTableRequestUnsent table proxyName) := by
  cases hValue : table.lookup proxyName with
  | none => simpa only [clientProxynameTableRequestUnsent, hValue] using hNone
  | some value =>
    simp only [clientProxynameTableRequestUnsent, hValue]
    apply noneEmpty_insert hNone
    rw [value.pairs_clearSents]
    simpa using hNone proxyName value hValue

theorem noneEmpty_drop (hNone : NoneEmpty table) (proxyName : ProxyName) (rid : Rid) :
    NoneEmpty (clientProxynameTableDrop table proxyName rid).2 := by
  cases hValue : table.lookup proxyName with
  | none => simpa only [clientProxynameTableDrop, hValue] using hNone
  | some value =>
    cases hIdx : value.requestUuids.find rid with
    | none => simpa only [clientProxynameTableDrop, hValue, hIdx] using hNone
    | some idx =>
      simp only [clientProxynameTableDrop, hValue, hIdx]
      split
      · exact noneEmpty_remove hNone proxyName
      · rename_i hLen
        apply noneEmpty_insert hNone
        intro hNil
        apply hLen
        rw [← ClientProxynameTableValue.map_fst_pairs, hNil]
        exact Nat.one_pos

theorem Represents.requestDup (h : Represents table m) (proxyName : ProxyName) (notSentOnly : Bool) :
    clientProxynameTableRequestDup table proxyName notSentOnly =
      if notSentOnly then m.pending proxyName else m.items proxyName := by
  have hKey := h proxyName
  unfold clientProxynameTableRequestDup ArrivalMap.pending ArrivalMap.items
  cases hValue : table.lookup proxyName with
  | none =>
    rw [hValue] at hKey
    have hNone : m proxyName = none := Option.map_eq_none_iff.mp hKey.symm
    rw [hNone]
    cases notSentOnly <;> rfl
  | some value =>
    rw [hValue] at hKey
    obtain ⟨l, hl, hEntries⟩ := Option.map_eq_some_iff.mp hKey.symm
    rw [hl]
    cases notSentOnly with
    | false => simp [hEntries, value.map_fst_pairs]
    | true => simp [hEntries]

theorem Represents.apply : ProxynameCall.spec.Simulates ProxynameCall.apply Represents := by
  intro table m call h
  cases call with
  | set proxyName rid =>
    refine ⟨m.add proxyName rid, ⟨rfl, rfl⟩, ?_⟩
    apply represents_of_pairsUnder (noneEmpty_set h.noneEmpty proxyName rid)
    intro other
    rw [pairsUnder_clientProxynameTableSet, ArrivalMap.entriesAt_add, h.pairsUnder_eq]
    simp only [h.lists_iff]
  | requestSent proxyName rid =>
    refine ⟨m.mark proxyName rid, ⟨rfl, rfl⟩, ?_⟩
    apply represents_of_pairsUnder (noneEmpty_requestSent h.noneEmpty proxyName rid)
    intro other
    rw [pairsUnder_clientProxynameTableRequestSent, ArrivalMap.entriesAt_mark, h.pairsUnder_eq,
      h.pairsUnder_eq]
  | requestUnsent proxyName =>
    refine ⟨m.unmark proxyName, ⟨rfl, rfl⟩, ?_⟩
    apply represents_of_pairsUnder (noneEmpty_requestUnsent h.noneEmpty proxyName)
    intro other
    rw [pairsUnder_clientProxynameTableRequestUnsent, ArrivalMap.entriesAt_unmark, h.pairsUnder_eq,
      h.pairsUnder_eq]
  | drop proxyName rid =>
    have hFound := clientProxynameTableDrop_found table proxyName rid
    rw [← h.lists_iff] at hFound
    refine ⟨m.discard proxyName rid, ⟨?_, rfl⟩, ?_⟩
    · show ProxynameAnswer.found (clientProxynameTableDrop table proxyName rid).1 = _
      rw [Bool.eq_iff_iff.mpr (hFound.trans decide_eq_true_iff.symm)]
    · apply represents_of_pairsUnder (noneEmpty_drop h.noneEmpty proxyName rid)
      intro other
      show pairsUnder (clientProxynameTableDrop table proxyName rid).2 other = _
      rw [pairsUnder_clientProxynameTableDrop, ArrivalMap.entriesAt_discard, h.pairsUnder_eq]
      split
      · rename_i hEq
        rw [hEq]
      · rfl
  | requestDup proxyName notSentOnly =>
    exact ⟨m, ⟨congrArg ProxynameAnswer.requests (h.requestDup proxyName notSentOnly), rfl⟩, h⟩
  | proxyNameDup order rid =>
    refine ⟨m, ⟨rfl, ?_⟩, h⟩
    show (∃ _, _ ∧ ProxynameAnswer.name (clientProxynameTableProxyNameDup table order rid) = _) ∨
      (_ ∧ ProxynameAnswer.name (clientProxynameTableProxyNameDup table order rid) = _)
    simp only [h.lists_iff]
    cases hName : clientProxynameTableProxyNameDup table order rid with
    | none => exact .inr ⟨clientProxynameTableProxyNameDup_eq_none hName, rfl⟩
    | some proxyName =>
      exact .inl ⟨proxyName, listedUnder_of_clientProxynameTableProxyNameDup hName, rfl⟩

/-- Every sequence of calls on the table is the same sequence of calls on the map. -/
theorem refines_arrivalMap (calls : List ProxynameCall) :
    ∃ m, ProxynameCall.spec.Run ArrivalMap.empty calls
        (CallSpec.answers ProxynameCall.apply HashTable.empty calls).1 m ∧
      Represents (CallSpec.answers ProxynameCall.apply HashTable.empty calls).2 m :=
  Represents.apply.run represents_empty calls

end ClientProxynameTable

end Gonggo
