import Gonggo.ClientReply

/-! # The headers of a reply

`client_service_reply` writes two members of its own and then, for each member of the proxy's
headers, its name with the value of the first member that a lookup of that name finds. The lookup
ignores case, and a member is added whether or not its name is there already.
-/

namespace Gonggo

def ownHeaders (rid : Rid) : List (String × CJson) :=
  [(clientReplyServiceRidKey, .string rid),
    (clientReplyRequestStatusKey, .ofInt ServiceStatus.requestStatusAnswered.code)]

/-- What the loop appends: the names of the members with the values that are looked up again. -/
def refetched (proxyHeaders : List (String × CJson)) : List (String × CJson) :=
  proxyHeaders.filterMap fun child =>
    ((CJson.object proxyHeaders).getObjectItem child.1).map (Prod.mk child.1)

/-- A loop that adds what it finds under each name adds the found ones in their order. -/
theorem foldl_addItemToObject {found : String × CJson → Option CJson}
    {add : CJson → String × CJson → CJson}
    (hNone : ∀ headers child, found child = none → add headers child = headers)
    (hSome : ∀ headers child value, found child = some value →
      add headers child = headers.addItemToObject child.1 value)
    (children added : List (String × CJson)) :
    children.foldl add (.object added) =
      .object (added ++ children.filterMap fun child => (found child).map (Prod.mk child.1)) := by
  induction children generalizing added with
  | nil => simp
  | cons child children ih =>
    rw [List.foldl_cons, List.filterMap_cons]
    cases hFound : found child with
    | none =>
      rw [hNone _ _ hFound, ih]
      rfl
    | some value =>
      rw [hSome _ _ _ hFound, CJson.addItemToObject, ih, List.append_assoc]
      rfl

theorem mergeHeaders_eq (rid : Rid) (proxyHeaders : List (String × CJson)) :
    mergeHeaders rid (.object proxyHeaders) = .object (ownHeaders rid ++ refetched proxyHeaders) := by
  apply foldl_addItemToObject
  · intro headers child hFound
    simp only [hFound]
  · intro headers child value hFound
    simp only [hFound]

/-- Whatever the proxy's headers are, the dispatcher's own members come first. -/
theorem exists_mergeHeaders (rid : Rid) (proxyHeaders : CJson) :
    ∃ more, mergeHeaders rid proxyHeaders = .object (ownHeaders rid ++ more) := by
  cases proxyHeaders with
  | object members => exact ⟨_, mergeHeaders_eq rid members⟩
  | null | bool _ | number _ | string _ | array _ => exact ⟨[], rfl⟩

theorem caseInsensitiveEq_iff {a b : String} :
    caseInsensitiveEq a b = true ↔ a.toList.map Char.toLower = b.toList.map Char.toLower :=
  beq_iff_eq

theorem caseInsensitiveEq_congr {a b : String} (h : caseInsensitiveEq a b = true) (name : String) :
    caseInsensitiveEq a name = caseInsensitiveEq b name := by
  unfold caseInsensitiveEq
  rw [caseInsensitiveEq_iff.mp h]

/-- A member is found under its own name, or another one that the lookup takes for it. -/
theorem exists_getObjectItem {proxyHeaders : List (String × CJson)} {child : String × CJson}
    (h : child ∈ proxyHeaders) :
    ∃ found ∈ proxyHeaders, caseInsensitiveEq child.1 found.1 = true ∧
      (CJson.object proxyHeaders).getObjectItem child.1 = some found.2 := by
  have hSelf : caseInsensitiveEq child.1 child.1 = true := caseInsensitiveEq_iff.mpr rfl
  obtain ⟨found, hFound⟩ := Option.isSome_iff_exists.mp
    (List.find?_isSome.mpr ⟨child, h, hSelf⟩ :
      (proxyHeaders.find? fun member => caseInsensitiveEq child.1 member.1).isSome)
  have hEq := List.find?_some hFound
  refine ⟨found, List.mem_of_find?_eq_some hFound, hEq, ?_⟩
  rw [CJson.getObjectItem, hFound, Option.map_some]

theorem names_refetched (proxyHeaders : List (String × CJson)) :
    (refetched proxyHeaders).map Prod.fst = proxyHeaders.map Prod.fst := by
  rw [refetched, List.map_filterMap, ← List.filterMap_eq_map]
  apply List.filterMap_congr
  intro child hChild
  obtain ⟨found, -, -, hItem⟩ := exists_getObjectItem hChild
  simp [hItem]

theorem getObjectItem_of_mem_refetched {proxyHeaders : List (String × CJson)} {member : String × CJson}
    (h : member ∈ refetched proxyHeaders) :
    (CJson.object proxyHeaders).getObjectItem member.1 = some member.2 := by
  obtain ⟨child, -, hChild⟩ := List.mem_filterMap.mp h
  obtain ⟨value, hValue, rfl⟩ := Option.map_eq_some_iff.mp hChild
  exact hValue

/-! ## Faithful headers -/

/-- The members with the names that the dispatcher does not use, and that no other member has. -/
def foreignOnce (proxyHeaders : List (String × CJson)) : List (String × CJson) :=
  proxyHeaders.filter fun member =>
    decide (member.1 ≠ clientReplyServiceRidKey ∧ member.1 ≠ clientReplyRequestStatusKey ∧
      (proxyHeaders.map Prod.fst).count member.1 = 1)

structure FaithfulHeaders (rid : Rid) (proxyHeaders headers : List (String × CJson)) : Prop where
  unique : (headers.map Prod.fst).Nodup
  rid : (clientReplyServiceRidKey, .string rid) ∈ headers
  requestStatus :
    (clientReplyRequestStatusKey, .ofInt ServiceStatus.requestStatusAnswered.code) ∈ headers
  carried : (foreignOnce proxyHeaders).Sublist headers

/-- The headers of the reply to the id are faithful to the proxy's. -/
def FaithfulReply (rid : Rid) (proxyHeaders : List (String × CJson)) (reply : CJson) : Prop :=
  ∃ headers, reply.getObjectItem clientReplyHeadersKey = some (.object headers) ∧
    FaithfulHeaders rid proxyHeaders headers

/-- The names are distinct, none is the dispatcher's, and two that differ in case only have the
same value. -/
structure ApartHeaders (proxyHeaders : List (String × CJson)) : Prop where
  distinct : (proxyHeaders.map Prod.fst).Nodup
  foreign : ∀ member ∈ proxyHeaders,
    member.1 ≠ clientReplyServiceRidKey ∧ member.1 ≠ clientReplyRequestStatusKey
  sameValue : ∀ member ∈ proxyHeaders, ∀ other ∈ proxyHeaders,
    caseInsensitiveEq member.1 other.1 = true → member.2 = other.2

theorem getObjectItem_serviceReplyText (rid : Rid) (proxyHeaders : List (String × CJson))
    (payload : Option CJson) :
    (serviceReplyText rid (.object proxyHeaders) payload).getObjectItem clientReplyHeadersKey =
      some (.object (ownHeaders rid ++ refetched proxyHeaders)) := by
  have hName : caseInsensitiveEq clientReplyHeadersKey clientReplyHeadersKey = true :=
    caseInsensitiveEq_iff.mpr rfl
  rw [← mergeHeaders_eq]
  cases payload <;> simp [serviceReplyText, CJson.addItemToObject, CJson.getObjectItem, hName]

theorem foreignOnce_of_apart {proxyHeaders : List (String × CJson)}
    (hDistinct : (proxyHeaders.map Prod.fst).Nodup)
    (hForeign : ∀ member ∈ proxyHeaders,
      member.1 ≠ clientReplyServiceRidKey ∧ member.1 ≠ clientReplyRequestStatusKey) :
    foreignOnce proxyHeaders = proxyHeaders := by
  apply List.filter_eq_self.mpr
  intro member hMember
  have hOnce := List.count_eq_one_of_mem hDistinct (List.mem_map_of_mem hMember)
  exact decide_eq_true ⟨(hForeign member hMember).1, (hForeign member hMember).2, hOnce⟩

theorem names_nodup_iff (rid : Rid) (proxyHeaders : List (String × CJson)) :
    ((ownHeaders rid ++ refetched proxyHeaders).map Prod.fst).Nodup ↔
      (proxyHeaders.map Prod.fst).Nodup ∧ ∀ member ∈ proxyHeaders,
        member.1 ≠ clientReplyServiceRidKey ∧ member.1 ≠ clientReplyRequestStatusKey := by
  have hOwn : clientReplyServiceRidKey ≠ clientReplyRequestStatusKey := by decide
  rw [List.map_append, names_refetched]
  simp only [ownHeaders, List.map_cons, List.map_nil, List.cons_append, List.nil_append,
    List.nodup_cons, List.mem_cons, hOwn, false_or, List.mem_map, not_exists, not_and]
  constructor
  · rintro ⟨hRid, hStatus, hNodup⟩
    exact ⟨hNodup, fun member h => ⟨hRid member h, hStatus member h⟩⟩
  · rintro ⟨hNodup, hForeign⟩
    exact ⟨fun member h => (hForeign member h).1, fun member h => (hForeign member h).2, hNodup⟩

theorem FaithfulHeaders.apart {rid : Rid} {proxyHeaders : List (String × CJson)}
    (h : FaithfulHeaders rid proxyHeaders (ownHeaders rid ++ refetched proxyHeaders)) :
    ApartHeaders proxyHeaders := by
  obtain ⟨hDistinct, hForeign⟩ := (names_nodup_iff rid proxyHeaders).mp h.unique
  have hCarried := h.carried
  rw [foreignOnce_of_apart hDistinct hForeign] at hCarried
  -- Every member was looked up again with its own value.
  have hOwnValue : ∀ member ∈ proxyHeaders,
      (CJson.object proxyHeaders).getObjectItem member.1 = some member.2 := by
    intro member hMember
    obtain ⟨hRid, hStatus⟩ := hForeign member hMember
    rcases List.mem_append.mp (hCarried.subset hMember) with hOwn | hRefetched
    · rcases List.mem_cons.mp hOwn with rfl | hOwn
      · exact absurd rfl hRid
      · rw [List.mem_singleton.mp hOwn] at hStatus
        exact absurd rfl hStatus
    · exact getObjectItem_of_mem_refetched hRefetched
  refine { distinct := hDistinct, foreign := hForeign, sameValue := ?_ }
  intro member hMember other hOther hEq
  have hSame : (CJson.object proxyHeaders).getObjectItem member.1 =
      (CJson.object proxyHeaders).getObjectItem other.1 := by
    unfold CJson.getObjectItem
    simp only [caseInsensitiveEq_congr hEq]
  rw [hOwnValue member hMember, hOwnValue other hOther] at hSame
  exact Option.some.inj hSame

theorem ApartHeaders.refetched_eq {proxyHeaders : List (String × CJson)}
    (h : ApartHeaders proxyHeaders) : refetched proxyHeaders = proxyHeaders := by
  conv_rhs => rw [← List.filterMap_some (l := proxyHeaders)]
  apply List.filterMap_congr
  intro child hChild
  obtain ⟨found, hFound, hEq, hItem⟩ := exists_getObjectItem hChild
  rw [hItem, ← h.sameValue child hChild found hFound hEq, Option.map_some]

theorem ApartHeaders.faithful {proxyHeaders : List (String × CJson)} (h : ApartHeaders proxyHeaders)
    (rid : Rid) : FaithfulHeaders rid proxyHeaders (ownHeaders rid ++ refetched proxyHeaders) where
  unique := (names_nodup_iff rid proxyHeaders).mpr ⟨h.distinct, h.foreign⟩
  rid := List.mem_append_left _ List.mem_cons_self
  requestStatus := List.mem_append_left _ (List.mem_cons_of_mem _ List.mem_cons_self)
  carried := by
    rw [h.refetched_eq, foreignOnce_of_apart h.distinct h.foreign]
    exact List.sublist_append_right ..

/-- A proxy's header named "rid" makes a second member of that name. -/
theorem not_reply_faithful :
    ¬ ∀ (rid : Rid) (proxyHeaders : List (String × CJson)) (payload : Option CJson),
      FaithfulReply rid proxyHeaders (serviceReplyText rid (.object proxyHeaders) payload) := by
  intro h
  obtain ⟨headers, hHeaders, hFaithful⟩ := h "r" [("rid", .string "q")] none
  rw [getObjectItem_serviceReplyText, Option.some.injEq, CJson.object.injEq] at hHeaders
  rw [← hHeaders] at hFaithful
  exact (hFaithful.apart.foreign _ List.mem_cons_self).1 rfl

/-- A reply is faithful exactly when the names in the proxy's headers keep apart from one another
and from the dispatcher's. -/
theorem reply_faithful_iff (rid : Rid) (proxyHeaders : List (String × CJson)) (payload : Option CJson) :
    FaithfulReply rid proxyHeaders (serviceReplyText rid (.object proxyHeaders) payload) ↔
      ApartHeaders proxyHeaders := by
  constructor
  · rintro ⟨headers, hHeaders, hFaithful⟩
    rw [getObjectItem_serviceReplyText, Option.some.injEq, CJson.object.injEq] at hHeaders
    rw [← hHeaders] at hFaithful
    exact hFaithful.apart
  · intro hApart
    exact ⟨_, getObjectItem_serviceReplyText rid proxyHeaders payload, hApart.faithful rid⟩

end Gonggo
