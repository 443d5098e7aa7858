import Gonggo.CJson
import Gonggo.Library.HashTable
import Mathlib.Data.List.Nodup

/-! # The request, service and connection tables

clientrequesttable.c, clientservicetable.c and clientconnectiontable.c. Every function is one
critical section of the source; the clock reading that the source takes inside it is an argument.
-/

namespace Gonggo

/-! ## Map of request id to connection, timestamp and timeout -/

structure ClientRequestTableContext where
  conn : Conn
  timestamp : Time
  timeoutsec : Time
  deriving DecidableEq, Repr

abbrev ClientRequestTable := HashTable Rid ClientRequestTableContext

def clientRequestTableSet (table : ClientRequestTable) (requestUuid : Rid) (conn : Conn)
    (timeoutsec now : Time) : ClientRequestTable :=
  (table.remove requestUuid).insert requestUuid
    { conn := conn, timestamp := now, timeoutsec := timeoutsec }

def clientRequestTableGetConn (table : ClientRequestTable) (requestUuid : Rid)
    (updateTime removeRequest : Bool) (now : Time) : Option Conn × ClientRequestTable :=
  match table.lookup requestUuid with
  | none => (none, table)
  | some p =>
      (some p.conn,
        if removeRequest then table.remove requestUuid
        else if updateTime then table.insert requestUuid { p with timestamp := now }
        else table)

def clientRequestTableRemove (table : ClientRequestTable) (requestUuid : Rid) : ClientRequestTable :=
  table.remove requestUuid

def ClientRequestTableContext.overdue (ctx : ClientRequestTableContext) (now : Time) : Bool :=
  decide (0 < ctx.timeoutsec) && decide (timeAdd ctx.timestamp ctx.timeoutsec < now)

def clientRequestTableExpired (table : ClientRequestTable) (order : Traversal Rid) (now : Time) :
    List Rid :=
  (order.visit table.keys).filter fun requestUuid =>
    (table.lookup requestUuid).any fun ctx => ctx.overdue now

theorem lookup_clientRequestTableSet (table : ClientRequestTable) (rid other : Rid) (conn : Conn)
    (timeoutsec now : Time) :
    (clientRequestTableSet table rid conn timeoutsec now).lookup other =
      if other = rid then some ⟨conn, now, timeoutsec⟩ else table.lookup other := by
  unfold clientRequestTableSet
  rw [HashTable.lookup_insert]
  split
  · rfl
  · rename_i h
    rw [HashTable.lookup_remove_ne _ h]

theorem clientRequestTableGetConn_conn (table : ClientRequestTable) (rid : Rid)
    (updateTime removeRequest : Bool) (now : Time) :
    (clientRequestTableGetConn table rid updateTime removeRequest now).1 =
      (table.lookup rid).map ClientRequestTableContext.conn := by
  unfold clientRequestTableGetConn
  cases table.lookup rid <;> rfl

theorem lookup_clientRequestTableGetConn_ne (table : ClientRequestTable) {rid other : Rid}
    (updateTime removeRequest : Bool) (now : Time) (h : other ≠ rid) :
    (clientRequestTableGetConn table rid updateTime removeRequest now).2.lookup other =
      table.lookup other := by
  unfold clientRequestTableGetConn
  cases table.lookup rid with
  | none => rfl
  | some p =>
    cases removeRequest <;> cases updateTime <;>
      simp [HashTable.lookup_insert_ne _ _ h, HashTable.lookup_remove_ne _ h]

theorem lookup_clientRequestTableGetConn_remove (table : ClientRequestTable) (rid other : Rid)
    (updateTime : Bool) (now : Time) :
    (clientRequestTableGetConn table rid updateTime true now).2.lookup other =
      if other = rid then none else table.lookup other := by
  split
  · rename_i h
    subst h
    unfold clientRequestTableGetConn
    cases hp : table.lookup other with
    | none => exact hp
    | some p => simp
  · rename_i h
    exact lookup_clientRequestTableGetConn_ne table _ _ now h

theorem conn_clientRequestTableGetConn_keep (table : ClientRequestTable) (rid other : Rid)
    (updateTime : Bool) (now : Time) :
    ((clientRequestTableGetConn table rid updateTime false now).2.lookup other).map
        ClientRequestTableContext.conn =
      (table.lookup other).map ClientRequestTableContext.conn := by
  by_cases h : other = rid
  · subst h
    unfold clientRequestTableGetConn
    cases hp : table.lookup other with
    | none => simp [hp]
    | some p => cases updateTime <;> simp [hp]
  · rw [lookup_clientRequestTableGetConn_ne table _ _ now h]

theorem clientRequestTableExpired_nodup (table : ClientRequestTable) (order : Traversal Rid)
    (now : Time) : (clientRequestTableExpired table order now).Nodup :=
  (order.visit_nodup table.keys_nodup).filter _

theorem mem_clientRequestTableExpired (table : ClientRequestTable) (order : Traversal Rid)
    (now : Time) (rid : Rid) :
    rid ∈ clientRequestTableExpired table order now ↔
      ∃ ctx, table.lookup rid = some ctx ∧ ctx.overdue now = true := by
  unfold clientRequestTableExpired
  rw [List.mem_filter, order.mem_visit_iff, HashTable.mem_keys_iff]
  constructor
  · rintro ⟨⟨ctx, hctx⟩, hdue⟩
    exact ⟨ctx, hctx, by simpa [hctx] using hdue⟩
  · rintro ⟨ctx, hctx, hdue⟩
    exact ⟨⟨ctx, hctx⟩, by simpa [hctx] using hdue⟩

/-! ## Map of request id to the text of its service and payload -/

abbrev ClientServiceTable := HashTable Rid String

def clientServiceTableServicePayloadCreate (print : Printer) (serviceName : String)
    (payload : Option CJson) : String :=
  let j := (CJson.object []).addItemToObject serviceServiceKey (.string serviceName)
  print (match payload with
    | some payload => j.addItemToObject servicePayloadKey payload
    | none => j)

def clientServiceTableSet (table : ClientServiceTable) (requestUuid : Rid) (servicePayload : String) :
    ClientServiceTable :=
  (table.remove requestUuid).insert requestUuid servicePayload

def clientServiceTableDup (table : ClientServiceTable) (requestUuid : Rid) : Option String :=
  table.lookup requestUuid

def clientServiceTableRemove (table : ClientServiceTable) (requestUuid : Rid) : ClientServiceTable :=
  table.remove requestUuid

theorem lookup_clientServiceTableSet (table : ClientServiceTable) (rid other : Rid)
    (servicePayload : String) :
    (clientServiceTableSet table rid servicePayload).lookup other =
      if other = rid then some servicePayload else table.lookup other := by
  unfold clientServiceTableSet
  rw [HashTable.lookup_insert]
  split
  · rfl
  · rename_i h
    rw [HashTable.lookup_remove_ne _ h]

/-! ## Map of connection to the ids of its requests -/

/-- The pointer array of a connection: the setter refuses an id that is already there. -/
structure UuidArray where
  uuids : List Rid
  nodup : uuids.Nodup
  deriving DecidableEq

namespace UuidArray

def empty : UuidArray := ⟨[], List.nodup_nil⟩

theorem not_mem_empty (rid : Rid) : rid ∉ empty.uuids := List.not_mem_nil

def add (arr : UuidArray) (rid : Rid) (h : rid ∉ arr.uuids) : UuidArray :=
  ⟨arr.uuids ++ [rid], arr.nodup.append (List.nodup_singleton rid) (by simpa using h)⟩

def find (arr : UuidArray) (rid : Rid) : Option Nat := arr.uuids.idxOf? rid

def removeIndex (arr : UuidArray) (idx : Nat) : UuidArray :=
  ⟨arr.uuids.eraseIdx idx, arr.nodup.eraseIdx idx⟩

theorem find_eq_none_iff (arr : UuidArray) (rid : Rid) : arr.find rid = none ↔ rid ∉ arr.uuids :=
  List.idxOf?_eq_none_iff

end UuidArray

theorem eraseIdx_eq_filter_of_idxOf? {l : List Rid} (hl : l.Nodup) {rid : Rid} {idx : Nat}
    (h : l.idxOf? rid = some idx) : l.eraseIdx idx = l.filter (· ≠ rid) := by
  induction l generalizing idx with
  | nil => cases h
  | cons head tail ih =>
    obtain ⟨hHead, hTail⟩ := List.nodup_cons.mp hl
    rw [List.idxOf?_cons] at h
    by_cases he : head = rid
    · subst he
      simp only [beq_self_eq_true, if_true, Option.some.injEq] at h
      subst h
      have hKeep : tail.filter (· ≠ head) = tail :=
        List.filter_eq_self.mpr fun a ha => by simpa using ne_of_mem_of_not_mem ha hHead
      simpa using hKeep.symm
    · simp only [beq_iff_eq, he, if_false, Option.map_eq_some_iff] at h
      obtain ⟨i, hi, rfl⟩ := h
      simp [he, ih hTail hi]

theorem UuidArray.mem_removeIndex (arr : UuidArray) {rid : Rid} {idx : Nat}
    (h : arr.find rid = some idx) (other : Rid) :
    other ∈ (arr.removeIndex idx).uuids ↔ other ∈ arr.uuids ∧ other ≠ rid := by
  show other ∈ arr.uuids.eraseIdx idx ↔ _
  rw [eraseIdx_eq_filter_of_idxOf? arr.nodup h]
  simp

abbrev ClientConnectionTable := HashTable Conn UuidArray

def clientConnectionTableSet (table : ClientConnectionTable) (conn : Conn) (requestUuid : Rid) :
    ClientConnectionTable :=
  match table.lookup conn with
  | none => table.insert conn (UuidArray.empty.add requestUuid (UuidArray.not_mem_empty _))
  | some arr =>
      if h : requestUuid ∈ arr.uuids then table else table.insert conn (arr.add requestUuid h)

def clientConnectionTableDrop (table : ClientConnectionTable) (conn : Conn) (requestUuid : Rid) :
    ClientConnectionTable :=
  match table.lookup conn with
  | none => table
  | some arr =>
      match arr.find requestUuid with
      | none => table
      | some idx =>
          if (arr.removeIndex idx).uuids.length < 1 then table.remove conn
          else table.insert conn (arr.removeIndex idx)

def clientConnectionTableRequestDup (table : ClientConnectionTable) (conn : Conn) :
    Option (List Rid) :=
  (table.lookup conn).map UuidArray.uuids

def clientConnectionTableRemove (table : ClientConnectionTable) (conn : Conn) :
    ClientConnectionTable :=
  table.remove conn

/-- The id occurs in the list of the connection. -/
def ListedIn (table : ClientConnectionTable) (conn : Conn) (rid : Rid) : Prop :=
  ∃ arr, table.lookup conn = some arr ∧ rid ∈ arr.uuids

theorem listedIn_insert (table : ClientConnectionTable) (conn other : Conn) (arr : UuidArray) (rid : Rid) :
    ListedIn (table.insert conn arr) other rid ↔
      (other = conn ∧ rid ∈ arr.uuids) ∨ (other ≠ conn ∧ ListedIn table other rid) := by
  by_cases h : other = conn
  · subst h
    simp [ListedIn]
  · simp [ListedIn, HashTable.lookup_insert_ne _ _ h, h]

theorem listedIn_remove (table : ClientConnectionTable) (conn other : Conn) (rid : Rid) :
    ListedIn (table.remove conn) other rid ↔ other ≠ conn ∧ ListedIn table other rid := by
  by_cases h : other = conn
  · subst h
    simp [ListedIn]
  · simp [ListedIn, HashTable.lookup_remove_ne _ h, h]

theorem listedIn_clientConnectionTableSet (table : ClientConnectionTable) (conn other : Conn)
    (requestUuid rid : Rid) :
    ListedIn (clientConnectionTableSet table conn requestUuid) other rid ↔
      ListedIn table other rid ∨ (other = conn ∧ rid = requestUuid) := by
  unfold clientConnectionTableSet
  cases hArr : table.lookup conn with
  | none =>
    rw [listedIn_insert]
    by_cases h : other = conn
    · subst h
      simp [ListedIn, hArr, UuidArray.add, UuidArray.empty]
    · simp [h]
  | some arr =>
    by_cases hMem : requestUuid ∈ arr.uuids
    · simp only [hMem, dif_pos]
      constructor
      · exact Or.inl
      · rintro (h | ⟨rfl, rfl⟩)
        · exact h
        · exact ⟨arr, hArr, hMem⟩
    · simp only [hMem, dif_neg, not_false_iff]
      rw [listedIn_insert]
      by_cases h : other = conn
      · subst h
        simp [ListedIn, hArr, UuidArray.add]
      · simp [h]

theorem listedIn_clientConnectionTableDrop (table : ClientConnectionTable) (conn other : Conn)
    (requestUuid rid : Rid) :
    ListedIn (clientConnectionTableDrop table conn requestUuid) other rid ↔
      ListedIn table other rid ∧ ¬ (other = conn ∧ rid = requestUuid) := by
  cases hArr : table.lookup conn with
  | none =>
    simp only [clientConnectionTableDrop, hArr]
    refine ⟨fun h => ⟨h, ?_⟩, And.left⟩
    rintro ⟨rfl, rfl⟩
    obtain ⟨arr, h, _⟩ := h
    rw [hArr] at h
    cases h
  | some arr =>
    cases hIdx : arr.find requestUuid with
    | none =>
      simp only [clientConnectionTableDrop, hArr, hIdx]
      refine ⟨fun h => ⟨h, ?_⟩, And.left⟩
      rintro ⟨rfl, rfl⟩
      obtain ⟨arr', h, hMem⟩ := h
      rw [hArr, Option.some.injEq] at h
      subst h
      exact (arr.find_eq_none_iff rid).mp hIdx hMem
    | some idx =>
      simp only [clientConnectionTableDrop, hArr, hIdx]
      have hMem := arr.mem_removeIndex hIdx rid
      by_cases h : other = conn
      · subst h
        have hOld : ListedIn table other rid ↔ rid ∈ arr.uuids := by simp [ListedIn, hArr]
        rw [hOld]
        split
        · rename_i hLen
          have hNil : (arr.removeIndex idx).uuids = [] := List.length_eq_zero_iff.mp (by omega)
          rw [hNil] at hMem
          rw [listedIn_remove]
          simpa using hMem
        · rw [listedIn_insert]
          simpa using hMem
      · split
        · simp [listedIn_remove, h]
        · simp [listedIn_insert, h]

end Gonggo
