import Gonggo.ClientProxynameTable

/-! # Accesses to the tables that the channel threads read

A step changes the envelopes and the lists of the proxies by one access at most.
-/

namespace Gonggo

/-- An access to the tables that the channel thread reads. -/
inductive TableAction
  | none
  | store (rid : Rid) (text : String)
  | unstore (rid : Rid)
  | list (name : ProxyName) (rid : Rid)
  | unlist (name : ProxyName) (rid : Rid)
  | sent (rid : Rid)
  | unsent

namespace TableAction

def services (table : ClientServiceTable) : TableAction → ClientServiceTable
  | store rid text => clientServiceTableSet table rid text
  | unstore rid => clientServiceTableRemove table rid
  | _ => table

def proxynames (proxyName : ProxyName) (table : ClientProxynameTable) :
    TableAction → ClientProxynameTable
  | list name rid => clientProxynameTableSet table name rid
  | unlist name rid => (clientProxynameTableDrop table name rid).2
  | sent rid => clientProxynameTableRequestSent table proxyName rid
  | unsent => clientProxynameTableRequestUnsent table proxyName
  | _ => table

def stores : TableAction → List (Rid × String)
  | store rid text => [(rid, text)]
  | _ => []

def inserts : TableAction → List (ProxyName × Rid)
  | list name rid => [(name, rid)]
  | _ => []

variable {proxyName name : ProxyName} {rid : Rid}

theorem lookup_services {action : TableAction} {table : ClientServiceTable} {text : String}
    (h : (action.services table).lookup rid = some text) :
    table.lookup rid = some text ∨ (rid, text) ∈ action.stores := by
  cases action with
  | store other stored =>
    rw [services, lookup_clientServiceTableSet] at h
    split at h
    · rename_i hEq
      subst hEq
      cases h
      exact .inr (List.mem_singleton_self _)
    · exact .inl h
  | unstore other =>
    rw [services, clientServiceTableRemove, HashTable.lookup_remove] at h
    split at h
    · cases h
    · exact .inl h
  | none | list | unlist | sent | unsent => exact .inl h

theorem listedUnder_proxynames {action : TableAction} {table : ClientProxynameTable}
    (h : ListedUnder (action.proxynames proxyName table) name rid) :
    ListedUnder table name rid ∨ (name, rid) ∈ action.inserts := by
  cases action with
  | list other listed =>
    rcases (listedUnder_clientProxynameTableSet ..).mp h with hOld | ⟨rfl, rfl⟩
    · exact .inl hOld
    · exact .inr (List.mem_singleton_self _)
  | unlist other dropped => exact .inl ((listedUnder_clientProxynameTableDrop ..).mp h).1
  | sent marked => exact .inl ((listedUnder_clientProxynameTableRequestSent ..).mp h)
  | unsent => exact .inl ((listedUnder_clientProxynameTableRequestUnsent ..).mp h)
  | none | store | unstore => exact .inl h

/-- A request that waits under the proxy waited before, or was listed now, unless all flags were
reset. -/
theorem entryOf_proxynames {action : TableAction} {table : ClientProxynameTable}
    (hAction : action ≠ .unsent) (h : EntryOf (action.proxynames proxyName table) proxyName rid false) :
    EntryOf table proxyName rid false ∨ (proxyName, rid) ∈ action.inserts := by
  cases action with
  | list other listed =>
    rcases (entryOf_clientProxynameTableSet ..).mp h with hOld | ⟨rfl, rfl, -, -⟩
    · exact .inl hOld
    · exact .inr (List.mem_singleton_self _)
  | unlist other dropped => exact .inl ((entryOf_clientProxynameTableDrop ..).mp h).1
  | sent marked =>
    rcases (entryOf_clientProxynameTableRequestSent ..).mp h with ⟨-, -, hSent, -⟩ | ⟨-, hOld⟩
    · cases hSent
    · exact .inl hOld
  | unsent => exact absurd rfl hAction
  | none | store | unstore => exact .inl h

end TableAction

end Gonggo
