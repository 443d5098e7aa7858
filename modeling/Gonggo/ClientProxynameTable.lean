import Gonggo.ClientTables

/-! # The proxy name table

clientproxynametable.c: each proxy name has two parallel arrays, the ids of its requests and the
flags that say which of them were handed over. The arrays are indexed by one search result and
shifted independently; `pairs` reads them as one list, and the lemmas below say what every
operation does to that list.
-/

namespace Gonggo

structure ClientProxynameTableValue where
  requestUuids : UuidArray
  sents : List Bool
  parallel : sents.length = requestUuids.uuids.length
  deriving DecidableEq

namespace ClientProxynameTableValue

def empty : ClientProxynameTableValue := ⟨UuidArray.empty, [], rfl⟩

theorem not_mem_empty (rid : Rid) : rid ∉ empty.requestUuids.uuids := UuidArray.not_mem_empty rid

def add (value : ClientProxynameTableValue) (rid : Rid) (h : rid ∉ value.requestUuids.uuids) :
    ClientProxynameTableValue :=
  ⟨value.requestUuids.add rid h, value.sents ++ [false], by simp [UuidArray.add, value.parallel]⟩

def setSent (value : ClientProxynameTableValue) (idx : Nat) : ClientProxynameTableValue :=
  ⟨value.requestUuids, value.sents.set idx true, by simp [value.parallel]⟩

def clearSents (value : ClientProxynameTableValue) : ClientProxynameTableValue :=
  ⟨value.requestUuids, value.sents.map fun _ => false, by simp [value.parallel]⟩

def removeIndex (value : ClientProxynameTableValue) (idx : Nat) : ClientProxynameTableValue :=
  ⟨value.requestUuids.removeIndex idx, value.sents.eraseIdx idx, by
    simp [UuidArray.removeIndex, List.length_eraseIdx, value.parallel]⟩

/-- The two arrays read side by side. -/
def pairs (value : ClientProxynameTableValue) : List (Rid × Bool) :=
  value.requestUuids.uuids.zip value.sents

theorem map_fst_pairs (value : ClientProxynameTableValue) :
    value.pairs.map Prod.fst = value.requestUuids.uuids :=
  List.map_fst_zip (Nat.le_of_eq value.parallel.symm)

theorem mem_uuids_iff (value : ClientProxynameTableValue) (rid : Rid) :
    rid ∈ value.requestUuids.uuids ↔ ∃ sent, (rid, sent) ∈ value.pairs := by
  rw [← value.map_fst_pairs]
  simp

theorem pairs_add (value : ClientProxynameTableValue) (rid : Rid)
    (h : rid ∉ value.requestUuids.uuids) :
    (value.add rid h).pairs = value.pairs ++ [(rid, false)] :=
  List.zip_append value.parallel.symm

theorem pairs_clearSents (value : ClientProxynameTableValue) :
    value.clearSents.pairs = value.pairs.map fun entry => (entry.1, false) := by
  show List.zip _ (List.map _ _) = _
  rw [List.zip_map_right]
  rfl

theorem zip_set_true {l : List Rid} (hl : l.Nodup) (flags : List Bool) {rid : Rid} {idx : Nat}
    (h : l.idxOf? rid = some idx) :
    l.zip (flags.set idx true) =
      (l.zip flags).map fun entry => if entry.1 = rid then (entry.1, true) else entry := by
  induction l generalizing flags idx with
  | nil => cases h
  | cons head tail ih =>
    obtain ⟨hHead, hTail⟩ := List.nodup_cons.mp hl
    cases flags with
    | nil => rfl
    | cons flag flags =>
      rw [List.idxOf?_cons] at h
      by_cases he : head = rid
      · subst he
        simp only [beq_self_eq_true, if_true, Option.some.injEq] at h
        subst h
        have hKeep : (tail.zip flags).map (fun entry => if entry.1 = head then (entry.1, true) else entry) =
            tail.zip flags := by
          conv_rhs => rw [← List.map_id (tail.zip flags)]
          apply List.map_congr_left
          rintro ⟨other, sent⟩ hMem
          simp [ne_of_mem_of_not_mem (List.of_mem_zip hMem).1 hHead]
        simp [hKeep]
      · simp only [beq_iff_eq, he, if_false, Option.map_eq_some_iff] at h
        obtain ⟨i, hi, rfl⟩ := h
        simp [he, ih hTail flags hi]

theorem zip_eraseIdx {l : List Rid} (hl : l.Nodup) (flags : List Bool) {rid : Rid} {idx : Nat}
    (h : l.idxOf? rid = some idx) :
    (l.eraseIdx idx).zip (flags.eraseIdx idx) = (l.zip flags).filter fun entry => entry.1 ≠ rid := by
  induction l generalizing flags idx with
  | nil => cases h
  | cons head tail ih =>
    obtain ⟨hHead, hTail⟩ := List.nodup_cons.mp hl
    cases flags with
    | nil => simp
    | cons flag flags =>
      rw [List.idxOf?_cons] at h
      by_cases he : head = rid
      · subst he
        simp only [beq_self_eq_true, if_true, Option.some.injEq] at h
        subst h
        have hKeep : (tail.zip flags).filter (fun entry => entry.1 ≠ head) = tail.zip flags := by
          apply List.filter_eq_self.mpr
          rintro ⟨other, sent⟩ hMem
          simpa using ne_of_mem_of_not_mem (List.of_mem_zip hMem).1 hHead
        simpa using hKeep.symm
      · simp only [beq_iff_eq, he, if_false, Option.map_eq_some_iff] at h
        obtain ⟨i, hi, rfl⟩ := h
        simp [he, ih hTail flags hi]

theorem pairs_setSent (value : ClientProxynameTableValue) {rid : Rid} {idx : Nat}
    (h : value.requestUuids.find rid = some idx) :
    (value.setSent idx).pairs =
      value.pairs.map fun entry => if entry.1 = rid then (entry.1, true) else entry :=
  zip_set_true value.requestUuids.nodup value.sents h

theorem pairs_removeIndex (value : ClientProxynameTableValue) {rid : Rid} {idx : Nat}
    (h : value.requestUuids.find rid = some idx) :
    (value.removeIndex idx).pairs = value.pairs.filter fun entry => entry.1 ≠ rid :=
  zip_eraseIdx value.requestUuids.nodup value.sents h

end ClientProxynameTableValue

abbrev ClientProxynameTable := HashTable ProxyName ClientProxynameTableValue

def clientProxynameTableSet (table : ClientProxynameTable) (proxyName : ProxyName)
    (requestUuid : Rid) : ClientProxynameTable :=
  match table.lookup proxyName with
  | none =>
      table.insert proxyName
        (ClientProxynameTableValue.empty.add requestUuid (ClientProxynameTableValue.not_mem_empty _))
  | some value =>
      if h : requestUuid ∈ value.requestUuids.uuids then table
      else table.insert proxyName (value.add requestUuid h)

def clientProxynameTableRequestSent (table : ClientProxynameTable) (proxyName : ProxyName)
    (requestUuid : Rid) : ClientProxynameTable :=
  match table.lookup proxyName with
  | none => table
  | some value =>
      match value.requestUuids.find requestUuid with
      | none => table
      | some idx => table.insert proxyName (value.setSent idx)

def clientProxynameTableRequestUnsent (table : ClientProxynameTable) (proxyName : ProxyName) :
    ClientProxynameTable :=
  match table.lookup proxyName with
  | none => table
  | some value => table.insert proxyName value.clearSents

def clientProxynameTableDrop (table : ClientProxynameTable) (proxyName : ProxyName)
    (requestUuid : Rid) : Bool × ClientProxynameTable :=
  match table.lookup proxyName with
  | none => (false, table)
  | some value =>
      match value.requestUuids.find requestUuid with
      | none => (false, table)
      | some idx =>
          (true,
            if (value.removeIndex idx).requestUuids.uuids.length < 1 then table.remove proxyName
            else table.insert proxyName (value.removeIndex idx))

/-- The loop of `client_proxyname_table_drop_all` over the copied keys, left at the first hit. -/
def clientProxynameTableDropEach (table : ClientProxynameTable) (requestUuid : Rid) :
    List ProxyName → ClientProxynameTable
  | [] => table
  | proxyName :: rest =>
      if (clientProxynameTableDrop table proxyName requestUuid).1 then
        (clientProxynameTableDrop table proxyName requestUuid).2
      else clientProxynameTableDropEach (clientProxynameTableDrop table proxyName requestUuid).2
        requestUuid rest

def clientProxynameTableDropAll (table : ClientProxynameTable) (order : Traversal ProxyName)
    (requestUuid : Rid) : ClientProxynameTable :=
  clientProxynameTableDropEach table requestUuid (order.visit table.keys)

def clientProxynameTableRequestDup (table : ClientProxynameTable) (proxyName : ProxyName)
    (notSentOnly : Bool) : Option (List Rid) :=
  (table.lookup proxyName).map fun value =>
    if notSentOnly then (value.pairs.filter fun entry => !entry.2).map Prod.fst
    else value.requestUuids.uuids

def clientProxynameTableProxyNameDup (table : ClientProxynameTable) (order : Traversal ProxyName)
    (requestUuid : Rid) : Option ProxyName :=
  (order.visit table.keys).find? fun proxyName =>
    (table.lookup proxyName).any fun value => decide (requestUuid ∈ value.requestUuids.uuids)

/-- The request is listed under the proxy with the given sent flag. -/
def EntryOf (table : ClientProxynameTable) (proxyName : ProxyName) (rid : Rid) (sent : Bool) : Prop :=
  ∃ value, table.lookup proxyName = some value ∧ (rid, sent) ∈ value.pairs

def ListedUnder (table : ClientProxynameTable) (proxyName : ProxyName) (rid : Rid) : Prop :=
  ∃ sent, EntryOf table proxyName rid sent

theorem listedUnder_iff (table : ClientProxynameTable) (proxyName : ProxyName) (rid : Rid) :
    ListedUnder table proxyName rid ↔
      ∃ value, table.lookup proxyName = some value ∧ rid ∈ value.requestUuids.uuids := by
  constructor
  · rintro ⟨sent, value, hValue, hMem⟩
    exact ⟨value, hValue, (value.mem_uuids_iff rid).mpr ⟨sent, hMem⟩⟩
  · rintro ⟨value, hValue, hMem⟩
    obtain ⟨sent, hSent⟩ := (value.mem_uuids_iff rid).mp hMem
    exact ⟨sent, value, hValue, hSent⟩

theorem entryOf_iff_any (table : ClientProxynameTable) (proxyName : ProxyName) (rid : Rid) (sent : Bool) :
    EntryOf table proxyName rid sent ↔
      ((table.lookup proxyName).any fun value => decide ((rid, sent) ∈ value.pairs)) = true := by
  cases hValue : table.lookup proxyName with
  | none => simp [EntryOf, hValue]
  | some value => simp [EntryOf, hValue]

instance decidableEntryOf (table : ClientProxynameTable) (proxyName : ProxyName) (rid : Rid)
    (sent : Bool) : Decidable (EntryOf table proxyName rid sent) :=
  decidable_of_iff _ (entryOf_iff_any table proxyName rid sent).symm

instance decidableListedUnder (table : ClientProxynameTable) (proxyName : ProxyName) (rid : Rid) :
    Decidable (ListedUnder table proxyName rid) :=
  decidable_of_iff (EntryOf table proxyName rid false ∨ EntryOf table proxyName rid true)
    Bool.exists_bool.symm

theorem listedUnder_of_lookup {table : ClientProxynameTable} {proxyName : ProxyName}
    {value : ClientProxynameTableValue} (h : table.lookup proxyName = some value) (rid : Rid) :
    ListedUnder table proxyName rid ↔ rid ∈ value.requestUuids.uuids := by
  rw [listedUnder_iff, h]
  simp

theorem not_listedUnder_empty (proxyName : ProxyName) (rid : Rid) :
    ¬ ListedUnder HashTable.empty proxyName rid := by
  rintro ⟨sent, value, hValue, -⟩
  rw [HashTable.lookup_empty] at hValue
  cases hValue

theorem entryOf_of_lookup {table : ClientProxynameTable} {proxyName : ProxyName}
    {value : ClientProxynameTableValue} (h : table.lookup proxyName = some value) (rid : Rid)
    (sent : Bool) : EntryOf table proxyName rid sent ↔ (rid, sent) ∈ value.pairs := by
  simp [EntryOf, h]

/-- A request is listed once under a proxy, so with one flag. -/
theorem EntryOf.sent_unique {table : ClientProxynameTable} {proxyName : ProxyName} {rid : Rid}
    {sent sent' : Bool} (h : EntryOf table proxyName rid sent) (h' : EntryOf table proxyName rid sent') :
    sent = sent' := by
  obtain ⟨value, hValue, hMem⟩ := h
  rw [entryOf_of_lookup hValue] at h'
  have hKeys : (value.pairs.map Prod.fst).Nodup := by
    rw [value.map_fst_pairs]
    exact value.requestUuids.nodup
  exact congrArg Prod.snd (List.inj_on_of_nodup_map hKeys hMem h' rfl)

theorem mem_clientProxynameTableRequestDup {table : ClientProxynameTable} {proxyName : ProxyName}
    {rid : Rid} : (∃ rids, clientProxynameTableRequestDup table proxyName true = some rids ∧ rid ∈ rids) ↔
      EntryOf table proxyName rid false := by
  cases hValue : table.lookup proxyName with
  | none => simp [clientProxynameTableRequestDup, EntryOf, hValue]
  | some value => simp [clientProxynameTableRequestDup, EntryOf, hValue]

theorem not_entryOf_of_lookup_none {table : ClientProxynameTable} {proxyName : ProxyName}
    (h : table.lookup proxyName = none) (rid : Rid) (sent : Bool) :
    ¬ EntryOf table proxyName rid sent := by
  simp [EntryOf, h]

theorem entryOf_insert (table : ClientProxynameTable) (proxyName other : ProxyName)
    (value : ClientProxynameTableValue) (rid : Rid) (sent : Bool) :
    EntryOf (table.insert proxyName value) other rid sent ↔
      (other = proxyName ∧ (rid, sent) ∈ value.pairs) ∨
        (other ≠ proxyName ∧ EntryOf table other rid sent) := by
  by_cases h : other = proxyName
  · subst h
    simp [EntryOf]
  · simp [EntryOf, HashTable.lookup_insert_ne _ _ h, h]

theorem entryOf_remove (table : ClientProxynameTable) (proxyName other : ProxyName) (rid : Rid)
    (sent : Bool) :
    EntryOf (table.remove proxyName) other rid sent ↔
      other ≠ proxyName ∧ EntryOf table other rid sent := by
  by_cases h : other = proxyName
  · subst h
    simp [EntryOf]
  · simp [EntryOf, HashTable.lookup_remove_ne _ h, h]

theorem entryOf_clientProxynameTableSet (table : ClientProxynameTable) (proxyName other : ProxyName)
    (requestUuid rid : Rid) (sent : Bool) :
    EntryOf (clientProxynameTableSet table proxyName requestUuid) other rid sent ↔
      EntryOf table other rid sent ∨
        (other = proxyName ∧ rid = requestUuid ∧ sent = false ∧
          ¬ ListedUnder table proxyName requestUuid) := by
  cases hValue : table.lookup proxyName with
  | none =>
    have hNone := not_entryOf_of_lookup_none hValue
    simp only [clientProxynameTableSet, hValue]
    rw [entryOf_insert, ClientProxynameTableValue.pairs_add]
    by_cases h : other = proxyName
    · subst h
      simp [hNone, ListedUnder, ClientProxynameTableValue.empty, ClientProxynameTableValue.pairs,
        UuidArray.empty]
    · simp [h]
  | some value =>
    rw [listedUnder_of_lookup hValue]
    by_cases hMem : requestUuid ∈ value.requestUuids.uuids
    · simp [clientProxynameTableSet, hValue, hMem]
    · simp only [clientProxynameTableSet, hValue, hMem, dif_neg, not_false_iff]
      rw [entryOf_insert, ClientProxynameTableValue.pairs_add]
      by_cases h : other = proxyName
      · subst h
        simp [entryOf_of_lookup hValue]
      · simp [h]

theorem entryOf_clientProxynameTableRequestSent (table : ClientProxynameTable)
    (proxyName other : ProxyName) (requestUuid rid : Rid) (sent : Bool) :
    EntryOf (clientProxynameTableRequestSent table proxyName requestUuid) other rid sent ↔
      (other = proxyName ∧ rid = requestUuid ∧ sent = true ∧
          ListedUnder table proxyName requestUuid) ∨
        (¬ (other = proxyName ∧ rid = requestUuid) ∧ EntryOf table other rid sent) := by
  cases hValue : table.lookup proxyName with
  | none =>
    have hNone := not_entryOf_of_lookup_none hValue
    simp only [clientProxynameTableRequestSent, hValue]
    by_cases h : other = proxyName
    · subst h
      simp [hNone, ListedUnder]
    · simp [h]
  | some value =>
    rw [listedUnder_of_lookup hValue]
    cases hIdx : value.requestUuids.find requestUuid with
    | none =>
      have hNot := (value.requestUuids.find_eq_none_iff requestUuid).mp hIdx
      simp only [clientProxynameTableRequestSent, hValue, hIdx]
      by_cases h : other = proxyName
      · subst h
        simp only [hNot, and_false, false_or, true_and, entryOf_of_lookup hValue]
        refine ⟨fun hMem => ⟨?_, hMem⟩, And.right⟩
        rintro rfl
        exact hNot ((value.mem_uuids_iff rid).mpr ⟨sent, hMem⟩)
      · simp [h]
    | some idx =>
      have hMem : requestUuid ∈ value.requestUuids.uuids := by
        by_contra hNot
        rw [(value.requestUuids.find_eq_none_iff requestUuid).mpr hNot] at hIdx
        cases hIdx
      simp only [clientProxynameTableRequestSent, hValue, hIdx]
      rw [entryOf_insert, value.pairs_setSent hIdx]
      by_cases h : other = proxyName
      · subst h
        rw [value.mem_uuids_iff] at hMem ⊢
        obtain ⟨flag, hFlag⟩ := hMem
        rw [entryOf_of_lookup hValue, List.mem_map]
        constructor
        · rintro (⟨-, ⟨r, b⟩, hPair, hEq⟩ | ⟨h, -⟩)
          · split at hEq
            · rename_i hr
              cases hEq
              exact .inl ⟨rfl, hr, rfl, flag, hFlag⟩
            · rename_i hr
              cases hEq
              exact .inr ⟨fun h => hr h.2, hPair⟩
          · exact absurd rfl h
        · rintro (⟨-, rfl, rfl, -⟩ | ⟨hNe, hPair⟩)
          · exact .inl ⟨rfl, (rid, flag), hFlag, if_pos rfl⟩
          · exact .inl ⟨rfl, (rid, sent), hPair, if_neg fun hr => hNe ⟨rfl, hr⟩⟩
      · simp [h]

theorem entryOf_clientProxynameTableRequestUnsent (table : ClientProxynameTable)
    (proxyName other : ProxyName) (rid : Rid) (sent : Bool) :
    EntryOf (clientProxynameTableRequestUnsent table proxyName) other rid sent ↔
      (other = proxyName ∧ sent = false ∧ ListedUnder table proxyName rid) ∨
        (other ≠ proxyName ∧ EntryOf table other rid sent) := by
  cases hValue : table.lookup proxyName with
  | none =>
    have hNone := not_entryOf_of_lookup_none hValue
    simp only [clientProxynameTableRequestUnsent, hValue]
    by_cases h : other = proxyName
    · subst h
      simp [hNone, ListedUnder]
    · simp [h]
  | some value =>
    simp only [clientProxynameTableRequestUnsent, hValue]
    rw [entryOf_insert, value.pairs_clearSents, listedUnder_of_lookup hValue, value.mem_uuids_iff,
      List.mem_map]
    constructor
    · rintro (⟨rfl, ⟨r, flag⟩, hPair, hEq⟩ | h)
      · cases hEq
        exact .inl ⟨rfl, rfl, flag, hPair⟩
      · exact .inr h
    · rintro (⟨rfl, rfl, flag, hPair⟩ | h)
      · exact .inl ⟨rfl, (rid, flag), hPair, rfl⟩
      · exact .inr h

theorem entryOf_clientProxynameTableDrop (table : ClientProxynameTable) (proxyName other : ProxyName)
    (requestUuid rid : Rid) (sent : Bool) :
    EntryOf (clientProxynameTableDrop table proxyName requestUuid).2 other rid sent ↔
      EntryOf table other rid sent ∧ ¬ (other = proxyName ∧ rid = requestUuid) := by
  cases hValue : table.lookup proxyName with
  | none =>
    have hNone := not_entryOf_of_lookup_none hValue
    simp only [clientProxynameTableDrop, hValue]
    by_cases h : other = proxyName
    · subst h
      simp [hNone]
    · simp [h]
  | some value =>
    cases hIdx : value.requestUuids.find requestUuid with
    | none =>
      have hNot := (value.requestUuids.find_eq_none_iff requestUuid).mp hIdx
      simp only [clientProxynameTableDrop, hValue, hIdx]
      refine ⟨fun hEntry => ⟨hEntry, ?_⟩, And.left⟩
      rintro ⟨rfl, rfl⟩
      exact hNot ((listedUnder_of_lookup hValue rid).mp ⟨sent, hEntry⟩)
    | some idx =>
      simp only [clientProxynameTableDrop, hValue, hIdx]
      have hPairs := value.pairs_removeIndex hIdx
      have hMem : (rid, sent) ∈ (value.removeIndex idx).pairs ↔
          (rid, sent) ∈ value.pairs ∧ rid ≠ requestUuid := by
        rw [hPairs]
        simp
      by_cases h : other = proxyName
      · subst h
        rw [entryOf_of_lookup hValue]
        split
        · rename_i hLen
          have hNil : (value.removeIndex idx).pairs = [] := by
            apply List.map_eq_nil_iff.mp
            rw [ClientProxynameTableValue.map_fst_pairs]
            exact List.length_eq_zero_iff.mp (by omega)
          rw [hNil] at hMem
          rw [entryOf_remove]
          simpa using hMem
        · rw [entryOf_insert]
          simpa using hMem
      · split
        · simp [entryOf_remove, h]
        · simp [entryOf_insert, h]

theorem listedUnder_clientProxynameTableSet (table : ClientProxynameTable)
    (proxyName other : ProxyName) (requestUuid rid : Rid) :
    ListedUnder (clientProxynameTableSet table proxyName requestUuid) other rid ↔
      ListedUnder table other rid ∨ (other = proxyName ∧ rid = requestUuid) := by
  simp only [ListedUnder, entryOf_clientProxynameTableSet]
  constructor
  · rintro ⟨sent, h | ⟨rfl, rfl, -, -⟩⟩
    · exact .inl ⟨sent, h⟩
    · exact .inr ⟨rfl, rfl⟩
  · rintro (⟨sent, h⟩ | ⟨rfl, rfl⟩)
    · exact ⟨sent, .inl h⟩
    · by_cases h : ∃ sent, EntryOf table other rid sent
      · obtain ⟨sent, h⟩ := h
        exact ⟨sent, .inl h⟩
      · exact ⟨false, .inr ⟨rfl, rfl, rfl, h⟩⟩

theorem listedUnder_clientProxynameTableRequestSent (table : ClientProxynameTable)
    (proxyName other : ProxyName) (requestUuid rid : Rid) :
    ListedUnder (clientProxynameTableRequestSent table proxyName requestUuid) other rid ↔
      ListedUnder table other rid := by
  constructor
  · rintro ⟨sent, h⟩
    rcases (entryOf_clientProxynameTableRequestSent ..).mp h with ⟨rfl, rfl, -, h⟩ | ⟨-, h⟩
    · exact h
    · exact ⟨sent, h⟩
  · rintro ⟨sent, h⟩
    by_cases hAt : other = proxyName ∧ rid = requestUuid
    · obtain ⟨rfl, rfl⟩ := hAt
      exact ⟨true, (entryOf_clientProxynameTableRequestSent ..).mpr (.inl ⟨rfl, rfl, rfl, sent, h⟩)⟩
    · exact ⟨sent, (entryOf_clientProxynameTableRequestSent ..).mpr (.inr ⟨hAt, h⟩)⟩

theorem listedUnder_clientProxynameTableRequestUnsent (table : ClientProxynameTable)
    (proxyName other : ProxyName) (rid : Rid) :
    ListedUnder (clientProxynameTableRequestUnsent table proxyName) other rid ↔
      ListedUnder table other rid := by
  constructor
  · rintro ⟨sent, h⟩
    rcases (entryOf_clientProxynameTableRequestUnsent ..).mp h with ⟨rfl, -, h⟩ | ⟨-, h⟩
    · exact h
    · exact ⟨sent, h⟩
  · rintro ⟨sent, h⟩
    by_cases hAt : other = proxyName
    · subst hAt
      exact ⟨false, (entryOf_clientProxynameTableRequestUnsent ..).mpr (.inl ⟨rfl, rfl, sent, h⟩)⟩
    · exact ⟨sent, (entryOf_clientProxynameTableRequestUnsent ..).mpr (.inr ⟨hAt, h⟩)⟩

theorem listedUnder_clientProxynameTableDrop (table : ClientProxynameTable)
    (proxyName other : ProxyName) (requestUuid rid : Rid) :
    ListedUnder (clientProxynameTableDrop table proxyName requestUuid).2 other rid ↔
      ListedUnder table other rid ∧ ¬ (other = proxyName ∧ rid = requestUuid) := by
  simp only [ListedUnder, entryOf_clientProxynameTableDrop, exists_and_right]

theorem clientProxynameTableDrop_found (table : ClientProxynameTable) (proxyName : ProxyName)
    (requestUuid : Rid) :
    (clientProxynameTableDrop table proxyName requestUuid).1 = true ↔
      ListedUnder table proxyName requestUuid := by
  cases hValue : table.lookup proxyName with
  | none => simp [clientProxynameTableDrop, ListedUnder, EntryOf, hValue]
  | some value =>
    rw [listedUnder_of_lookup hValue]
    have hNone := value.requestUuids.find_eq_none_iff requestUuid
    cases hIdx : value.requestUuids.find requestUuid with
    | none => simpa [clientProxynameTableDrop, hValue, hIdx] using hNone.mp hIdx
    | some idx =>
      simp only [clientProxynameTableDrop, hValue, hIdx, true_iff]
      by_contra hNot
      rw [hNone.mpr hNot] at hIdx
      cases hIdx

theorem clientProxynameTableDrop_of_not_found {table : ClientProxynameTable} {proxyName : ProxyName}
    {requestUuid : Rid} (h : ¬ ListedUnder table proxyName requestUuid) :
    (clientProxynameTableDrop table proxyName requestUuid).2 = table := by
  rw [← clientProxynameTableDrop_found] at h
  unfold clientProxynameTableDrop at h ⊢
  cases hValue : table.lookup proxyName with
  | none => rfl
  | some value =>
    cases hIdx : value.requestUuids.find requestUuid with
    | none => simp [hIdx]
    | some idx => simp [hValue, hIdx] at h

theorem lookup_clientProxynameTableDrop_ne (table : ClientProxynameTable) {proxyName other : ProxyName}
    (requestUuid : Rid) (h : other ≠ proxyName) :
    (clientProxynameTableDrop table proxyName requestUuid).2.lookup other = table.lookup other := by
  cases hValue : table.lookup proxyName with
  | none => simp only [clientProxynameTableDrop, hValue]
  | some value =>
    cases hIdx : value.requestUuids.find requestUuid with
    | none => simp only [clientProxynameTableDrop, hValue, hIdx]
    | some idx =>
      simp only [clientProxynameTableDrop, hValue, hIdx]
      split
      · exact HashTable.lookup_remove_ne _ h
      · exact HashTable.lookup_insert_ne _ _ h

theorem mem_keys_of_listedUnder {table : ClientProxynameTable} {proxyName : ProxyName} {rid : Rid}
    (h : ListedUnder table proxyName rid) : proxyName ∈ table.keys := by
  obtain ⟨value, hValue, -⟩ := (listedUnder_iff ..).mp h
  exact (table.mem_keys_iff proxyName).mpr ⟨value, hValue⟩

/-- The search ends at the first proxy that lists the id. -/
theorem clientProxynameTableDropEach_cases (table : ClientProxynameTable) (requestUuid : Rid)
    (names : List ProxyName) :
    ((∀ proxyName ∈ names, ¬ ListedUnder table proxyName requestUuid) ∧
        clientProxynameTableDropEach table requestUuid names = table) ∨
      ∃ proxyName, ListedUnder table proxyName requestUuid ∧
        clientProxynameTableDropEach table requestUuid names =
          (clientProxynameTableDrop table proxyName requestUuid).2 := by
  induction names with
  | nil => exact .inl ⟨fun _ h => absurd h List.not_mem_nil, rfl⟩
  | cons proxyName rest ih =>
    unfold clientProxynameTableDropEach
    by_cases hListed : ListedUnder table proxyName requestUuid
    · rw [if_pos ((clientProxynameTableDrop_found ..).mpr hListed)]
      exact .inr ⟨proxyName, hListed, rfl⟩
    · rw [if_neg fun h => hListed ((clientProxynameTableDrop_found ..).mp h),
        clientProxynameTableDrop_of_not_found hListed]
      rcases ih with ⟨hRest, hSame⟩ | hDrop
      · exact .inl ⟨List.forall_mem_cons.mpr ⟨hListed, hRest⟩, hSame⟩
      · exact .inr hDrop

theorem clientProxynameTableDropAll_cases (table : ClientProxynameTable) (order : Traversal ProxyName)
    (requestUuid : Rid) :
    ((∀ proxyName, ¬ ListedUnder table proxyName requestUuid) ∧
        clientProxynameTableDropAll table order requestUuid = table) ∨
      ∃ proxyName, ListedUnder table proxyName requestUuid ∧
        clientProxynameTableDropAll table order requestUuid =
          (clientProxynameTableDrop table proxyName requestUuid).2 := by
  rcases clientProxynameTableDropEach_cases table requestUuid (order.visit table.keys) with
    ⟨hNone, hSame⟩ | hDrop
  · refine .inl ⟨fun proxyName h => ?_, hSame⟩
    exact hNone proxyName ((order.mem_visit_iff _ _).mpr (mem_keys_of_listedUnder h)) h
  · exact .inr hDrop

theorem entryOf_clientProxynameTableDropAll_ne (table : ClientProxynameTable)
    (order : Traversal ProxyName) (requestUuid : Rid) (other : ProxyName) {rid : Rid}
    (hNe : rid ≠ requestUuid) (sent : Bool) :
    EntryOf (clientProxynameTableDropAll table order requestUuid) other rid sent ↔
      EntryOf table other rid sent := by
  rcases clientProxynameTableDropAll_cases table order requestUuid with
    ⟨-, hSame⟩ | ⟨proxyName, -, hDrop⟩
  · rw [hSame]
  · rw [hDrop, entryOf_clientProxynameTableDrop]
    simp [hNe]

/-- Dropping an id that is listed under at most one proxy removes it from the whole table. -/
theorem listedUnder_clientProxynameTableDropAll (table : ClientProxynameTable)
    (order : Traversal ProxyName) (requestUuid : Rid)
    (hUnique : ∀ m n, ListedUnder table m requestUuid → ListedUnder table n requestUuid → m = n)
    (other : ProxyName) (rid : Rid) :
    ListedUnder (clientProxynameTableDropAll table order requestUuid) other rid ↔
      ListedUnder table other rid ∧ rid ≠ requestUuid := by
  rcases clientProxynameTableDropAll_cases table order requestUuid with
    ⟨hNone, hSame⟩ | ⟨proxyName, hListed, hDrop⟩
  · rw [hSame]
    refine ⟨fun h => ⟨h, ?_⟩, And.left⟩
    rintro rfl
    exact hNone other h
  · rw [hDrop, listedUnder_clientProxynameTableDrop]
    refine and_congr_right fun hOther => not_congr ⟨And.right, ?_⟩
    rintro rfl
    exact ⟨hUnique _ _ hOther hListed, rfl⟩

theorem listedUnder_of_clientProxynameTableProxyNameDup {table : ClientProxynameTable}
    {order : Traversal ProxyName} {requestUuid : Rid} {proxyName : ProxyName}
    (h : clientProxynameTableProxyNameDup table order requestUuid = some proxyName) :
    ListedUnder table proxyName requestUuid := by
  have hFound := List.find?_some h
  cases hValue : table.lookup proxyName with
  | none => simp [hValue] at hFound
  | some value => exact (listedUnder_of_lookup hValue _).mpr (by simpa [hValue] using hFound)

theorem clientProxynameTableProxyNameDup_eq_none {table : ClientProxynameTable}
    {order : Traversal ProxyName} {requestUuid : Rid}
    (h : clientProxynameTableProxyNameDup table order requestUuid = none) (proxyName : ProxyName) :
    ¬ ListedUnder table proxyName requestUuid := by
  intro hListed
  have hKey := (order.mem_visit_iff _ _).mpr (mem_keys_of_listedUnder hListed)
  obtain ⟨value, hValue, hMem⟩ := (listedUnder_iff ..).mp hListed
  have := List.find?_eq_none.mp h proxyName hKey
  simp [hValue, hMem] at this

/-! ## The entries of a proxy in their order -/

/-- The requests of a proxy with their flags, in the order of the array. -/
def pairsUnder (table : ClientProxynameTable) (proxyName : ProxyName) : List (Rid × Bool) :=
  ((table.lookup proxyName).map ClientProxynameTableValue.pairs).getD []

theorem pairsUnder_of_lookup {table : ClientProxynameTable} {proxyName : ProxyName}
    {value : ClientProxynameTableValue} (h : table.lookup proxyName = some value) :
    pairsUnder table proxyName = value.pairs := by
  rw [pairsUnder, h]
  rfl

theorem pairsUnder_insert (table : ClientProxynameTable) (proxyName other : ProxyName)
    (value : ClientProxynameTableValue) :
    pairsUnder (table.insert proxyName value) other =
      if other = proxyName then value.pairs else pairsUnder table other := by
  unfold pairsUnder
  rw [HashTable.lookup_insert]
  split <;> rfl

theorem mem_pairsUnder {table : ClientProxynameTable} {proxyName : ProxyName} {rid : Rid} {sent : Bool} :
    (rid, sent) ∈ pairsUnder table proxyName ↔ EntryOf table proxyName rid sent := by
  cases hValue : table.lookup proxyName with
  | none => simp [pairsUnder, EntryOf, hValue]
  | some value => simp [pairsUnder, EntryOf, hValue]

theorem pairsUnder_clientProxynameTableSet (table : ClientProxynameTable) (proxyName other : ProxyName)
    (rid : Rid) :
    pairsUnder (clientProxynameTableSet table proxyName rid) other =
      if other = proxyName ∧ ¬ ListedUnder table proxyName rid then pairsUnder table other ++ [(rid, false)]
      else pairsUnder table other := by
  cases hValue : table.lookup proxyName with
  | none =>
    have hNot : ¬ ListedUnder table proxyName rid := fun ⟨sent, hEntry⟩ =>
      not_entryOf_of_lookup_none hValue rid sent hEntry
    simp only [clientProxynameTableSet, hValue, hNot, not_false_iff, and_true]
    rw [pairsUnder_insert, ClientProxynameTableValue.pairs_add]
    split
    · rename_i hEq
      subst hEq
      rw [pairsUnder, hValue]
      rfl
    · rfl
  | some value =>
    simp only [listedUnder_of_lookup hValue]
    by_cases hMem : rid ∈ value.requestUuids.uuids
    · simp [clientProxynameTableSet, hValue, hMem]
    · simp only [clientProxynameTableSet, hValue, hMem, dif_neg, not_false_iff, and_true]
      rw [pairsUnder_insert, ClientProxynameTableValue.pairs_add]
      split
      · rename_i hEq
        subst hEq
        rw [pairsUnder_of_lookup hValue]
      · rfl

theorem pairsUnder_clientProxynameTableRequestSent (table : ClientProxynameTable)
    (proxyName other : ProxyName) (rid : Rid) :
    pairsUnder (clientProxynameTableRequestSent table proxyName rid) other =
      if other = proxyName then
        (pairsUnder table proxyName).map fun entry => if entry.1 = rid then (entry.1, true) else entry
      else pairsUnder table other := by
  cases hValue : table.lookup proxyName with
  | none =>
    simp only [clientProxynameTableRequestSent, hValue]
    split
    · rename_i hEq
      rw [hEq, pairsUnder, hValue]
      rfl
    · rfl
  | some value =>
    cases hIdx : value.requestUuids.find rid with
    | none =>
      have hNot := (UuidArray.find_eq_none_iff _ _).mp hIdx
      simp only [clientProxynameTableRequestSent, hValue, hIdx]
      split
      · rename_i hEq
        rw [hEq, pairsUnder_of_lookup hValue]
        conv_lhs => rw [← List.map_id value.pairs]
        apply List.map_congr_left
        rintro ⟨listed, sent⟩ hMem
        have hListed := (value.mem_uuids_iff listed).mpr ⟨sent, hMem⟩
        simp [ne_of_mem_of_not_mem hListed hNot]
      · rfl
    | some idx =>
      simp only [clientProxynameTableRequestSent, hValue, hIdx]
      rw [pairsUnder_insert, value.pairs_setSent hIdx, pairsUnder_of_lookup hValue]

theorem pairsUnder_clientProxynameTableRequestUnsent (table : ClientProxynameTable)
    (proxyName other : ProxyName) :
    pairsUnder (clientProxynameTableRequestUnsent table proxyName) other =
      if other = proxyName then (pairsUnder table proxyName).map fun entry => (entry.1, false)
      else pairsUnder table other := by
  cases hValue : table.lookup proxyName with
  | none =>
    simp only [clientProxynameTableRequestUnsent, hValue]
    split
    · rename_i hEq
      rw [hEq, pairsUnder, hValue]
      rfl
    · rfl
  | some value =>
    simp only [clientProxynameTableRequestUnsent, hValue]
    rw [pairsUnder_insert, value.pairs_clearSents, pairsUnder_of_lookup hValue]

theorem pairsUnder_clientProxynameTableDrop (table : ClientProxynameTable) (proxyName other : ProxyName)
    (rid : Rid) :
    pairsUnder (clientProxynameTableDrop table proxyName rid).2 other =
      if other = proxyName then (pairsUnder table other).filter fun entry => entry.1 ≠ rid
      else pairsUnder table other := by
  cases hValue : table.lookup proxyName with
  | none =>
    simp only [clientProxynameTableDrop, hValue]
    split
    · rename_i hEq
      rw [hEq, pairsUnder, hValue]
      rfl
    · rfl
  | some value =>
    cases hIdx : value.requestUuids.find rid with
    | none =>
      have hNot := (UuidArray.find_eq_none_iff _ _).mp hIdx
      simp only [clientProxynameTableDrop, hValue, hIdx]
      split
      · rename_i hEq
        rw [hEq, pairsUnder_of_lookup hValue]
        refine (List.filter_eq_self.mpr ?_).symm
        rintro ⟨kept, sent⟩ hMem
        have hKept := (value.mem_uuids_iff kept).mpr ⟨sent, hMem⟩
        simpa using ne_of_mem_of_not_mem hKept hNot
      · rfl
    | some idx =>
      have hPairs := value.pairs_removeIndex hIdx
      simp only [clientProxynameTableDrop, hValue, hIdx]
      by_cases hEq : other = proxyName
      · subst hEq
        rw [if_pos rfl, pairsUnder_of_lookup hValue, ← hPairs]
        split
        · rename_i hEmpty
          have hNil : (value.removeIndex idx).pairs = [] := by
            apply List.map_eq_nil_iff.mp
            rw [ClientProxynameTableValue.map_fst_pairs]
            exact List.length_eq_zero_iff.mp (by omega)
          rw [pairsUnder, HashTable.lookup_remove_self, hNil]
          rfl
        · rw [pairsUnder_insert, if_pos rfl]
      · rw [if_neg hEq]
        split
        · rw [pairsUnder, HashTable.lookup_remove_ne _ hEq]
          rfl
        · rw [pairsUnder_insert, if_neg hEq]

end Gonggo
