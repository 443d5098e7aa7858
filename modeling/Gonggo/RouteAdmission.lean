import Gonggo.ClientService
import Mathlib.Data.Rat.Floor

/-! # Messages that are acknowledged

What the published schema admits, against what the chain of checks in `client_service_route` lets
through. The schema names members exactly; the checks read the first member whose name matches up to
case, look at the proxy's name only to tell whether there is one, and read a count as the integer
beside the item whatever its type.
-/

namespace Gonggo

/-! ## Numbers -/

theorem ratTrunc_of_nonneg {value : Rat} (h : 0 ≤ value) : ratTrunc value = ⌊value⌋ := by
  rw [ratTrunc, Int.tdiv_eq_ediv_of_nonneg (Rat.num_nonneg.mpr h), Rat.floor_def']

theorem one_le_ratTrunc_iff {value : Rat} : 1 ≤ ratTrunc value ↔ 1 ≤ value := by
  by_cases h : 0 ≤ value
  · rw [ratTrunc_of_nonneg h, Int.le_floor, Int.cast_one]
  · have hNeg : value < 0 := not_le.mp h
    have hOpposite : 0 ≤ (-value.num).tdiv value.den :=
      Int.tdiv_nonneg (neg_nonneg.mpr (Rat.num_nonpos.mpr hNeg.le)) (Int.natCast_nonneg _)
    rw [Int.neg_tdiv] at hOpposite
    refine iff_of_false ?_ fun hOne => h (le_trans zero_le_one hOne)
    unfold ratTrunc
    omega

/-- Infinity is what a numeral beyond all doubles is read as. -/
def Double.FromOne : Double → Prop
  | .finite value => 1 ≤ value
  | .infinite negative => negative = false

theorem Double.one_le_saturated_iff (value : Double) : 1 ≤ value.saturated ↔ value.FromOne := by
  cases value with
  | finite value =>
    unfold saturated FromOne
    simp only
    split
    · rename_i hHigh
      have hOne : (1 : Rat) ≤ value := by
        refine le_trans ?_ hHigh
        norm_num
      exact iff_of_true (by decide) hOne
    · split
      · rename_i hLow
        have hNot : ¬ (1 : Rat) ≤ value := by
          intro hOne
          have := le_trans hOne hLow
          norm_num at this
        exact iff_of_false (by decide) hNot
      · exact one_le_ratTrunc_iff
  | infinite negative =>
    cases negative
    · exact iff_of_true (by decide) rfl
    · exact iff_of_false (by decide) (by simp [FromOne])

/-- The timeouts that a `time_t` holds. -/
def Double.FitsTimeout : Double → Prop
  | .finite value => 1 ≤ value ∧ value < 2 ^ 63
  | .infinite _ => False

theorem Double.one_le_toSigned_iff (value : Double) : 1 ≤ value.toSigned 64 ↔ value.FitsTimeout := by
  cases value with
  | finite value =>
    unfold toSigned FitsTimeout
    simp only
    by_cases hOne : 1 ≤ value
    · have hNonneg : (0 : Rat) ≤ value := le_trans zero_le_one hOne
      have hTrunc : 1 ≤ ratTrunc value := one_le_ratTrunc_iff.mpr hOne
      have hFits : ratTrunc value < 2 ^ 63 ↔ value < 2 ^ 63 := by
        rw [ratTrunc_of_nonneg hNonneg, Int.floor_lt]
        norm_num
      rw [← hFits]
      split
      · rename_i hRange
        exact iff_of_true hTrunc ⟨hOne, hRange.2⟩
      · rename_i hRange
        refine iff_of_false (by decide) ?_
        rintro ⟨-, hLess⟩
        exact hRange ⟨by omega, hLess⟩
    · have hTrunc : ¬ 1 ≤ ratTrunc value := mt one_le_ratTrunc_iff.mp hOne
      refine iff_of_false ?_ fun h => hOne h.1
      split
      · exact hTrunc
      · decide
  | infinite negative => exact iff_of_false (show ¬ (1 : Int) ≤ -(2 ^ 63) by decide) id

/-! ## Members -/

/-- A reading of objects: the member of exactly the given name. Which one counts where a name stands
twice is left open. -/
structure MemberReading where
  read : List (String × CJson) → String → Option CJson
  mem_of_read : ∀ {members name value}, read members name = some value → (name, value) ∈ members
  read_of_mem : ∀ {members name value}, (name, value) ∈ members → (read members name).isSome = true

namespace MemberReading

/-- The first member of the name. -/
def first : MemberReading where
  read members name := (members.find? fun member => member.1 = name).map Prod.snd
  mem_of_read h := by
    obtain ⟨member, hFind, rfl⟩ := Option.map_eq_some_iff.mp h
    obtain rfl : member.1 = _ := by simpa using List.find?_some hFind
    exact List.mem_of_find?_eq_some hFind
  read_of_mem h := by
    rw [Option.isSome_map, List.find?_isSome]
    exact ⟨_, h, by simp⟩

def find (reading : MemberReading) (item : CJson) (name : String) : Option CJson :=
  reading.read item.members name

end MemberReading

theorem caseInsensitiveEq_self (name : String) : caseInsensitiveEq name name = true := by
  simp [caseInsensitiveEq]

/-- Each of the names is carried by one member at most, and by that one in exactly these letters. -/
def Clear (item : CJson) (names : List String) : Prop :=
  ∀ name ∈ names, ∀ member ∈ item.members, ∀ other ∈ item.members,
    caseInsensitiveEq name member.1 = true → caseInsensitiveEq name other.1 = true →
      member.1 = name ∧ other = member

theorem mem_of_getObjectItem {item value : CJson} {name : String}
    (h : item.getObjectItem name = some value) :
    ∃ member ∈ item.members, caseInsensitiveEq name member.1 = true ∧ member.2 = value := by
  cases item with
  | object members =>
    obtain ⟨member, hFind, hValue⟩ := Option.map_eq_some_iff.mp h
    exact ⟨member, List.mem_of_find?_eq_some hFind, by simpa using List.find?_some hFind, hValue⟩
  | null | bool _ | number _ | string _ | array _ => cases h

theorem isSome_getObjectItem {item : CJson} {name : String} {member : String × CJson}
    (hMem : member ∈ item.members) (hName : caseInsensitiveEq name member.1 = true) :
    (item.getObjectItem name).isSome = true := by
  cases item with
  | object members =>
    rw [CJson.getObjectItem, Option.isSome_map, List.find?_isSome]
    exact ⟨member, hMem, hName⟩
  | null | bool _ | number _ | string _ | array _ => cases hMem

/-- Where the names are clear, every reading finds what the checks find. -/
theorem Clear.find_eq {item : CJson} {names : List String} (h : Clear item names)
    (reading : MemberReading) {name : String} (hName : name ∈ names) :
    reading.find item name = item.getObjectItem name := by
  cases hRead : reading.find item name with
  | some value =>
    have hMem := reading.mem_of_read hRead
    have hSelf := caseInsensitiveEq_self name
    obtain ⟨found, hFound⟩ := Option.isSome_iff_exists.mp (isSome_getObjectItem hMem hSelf)
    obtain ⟨member, hMember, hMatch, rfl⟩ := mem_of_getObjectItem hFound
    have hSame := (h name hName _ hMem member hMember hSelf hMatch).2
    rw [hFound, hSame]
  | none =>
    cases hFound : item.getObjectItem name with
    | none => rfl
    | some value =>
      obtain ⟨⟨written, value'⟩, hMember, hMatch, -⟩ := mem_of_getObjectItem hFound
      obtain rfl : written = name := (h name hName _ hMember _ hMember hMatch hMatch).1
      have hSome := reading.read_of_mem hMember
      rw [MemberReading.find] at hRead
      rw [hRead] at hSome
      cases hSome

theorem stringOf_eq_some_iff {item : CJson} {name value : String} :
    item.stringOf name = some value ↔ item.getObjectItem name = some (.string value) := by
  unfold CJson.stringOf
  cases item.getObjectItem name with
  | none => simp
  | some found => cases found <;> simp [CJson.valuestring]

theorem stringOf_eq_none_iff {item : CJson} {name : String} :
    item.stringOf name = none ↔ ∀ value, item.getObjectItem name ≠ some (.string value) := by
  rw [Option.eq_none_iff_forall_ne_some]
  exact forall_congr' fun value => not_congr stringOf_eq_some_iff

/-! ## Messages -/

/-- The headers that every admitted message has, its members being looked up by `find`. -/
structure Addressed (find : CJson → String → Option CJson) (root headers : CJson) (rid : Rid)
    (serviceName : String) : Prop where
  hasHeaders : find root serviceHeadersKey = some headers
  hasRid : find headers serviceRidKey = some (.string rid)
  ridLength : 1 ≤ rid.utf8ByteSize ∧ rid.utf8ByteSize ≤ 36
  hasService : find headers serviceServiceKey = some (.string serviceName)
  named : 1 ≤ serviceName.utf8ByteSize
  unreserved : serviceName ≠ gonggoServiceRequestDrop

/-- The payload of a dump request, with its two counts. -/
structure DumpPayload (find : CJson → String → Option CJson) (root : CJson) (dumpRid : Rid)
    (start size : CJson) : Prop where
  payload : ∃ payload, find root servicePayloadKey = some payload ∧
    find payload serviceRidKey = some (.string dumpRid) ∧ find payload "start" = some start ∧
    find payload "size" = some size
  named : 1 ≤ dumpRid.utf8ByteSize

def TimeoutItem (item : CJson) : Prop := ∃ value, item = .number value ∧ value.FitsTimeout

def CountItem (item : CJson) : Prop := ∃ value, item = .number value ∧ value.FromOne

/-- The messages of the three kinds, with what is asked of a proxy's name and of a count. -/
inductive Message (find : CJson → String → Option CJson) (names : ProxyName → Prop)
    (counts : CJson → Prop) (root : CJson) : Prop
  | test {headers : CJson} {rid : Rid} (hAddressed : Addressed find root headers rid "test")
      (hProxy : ∀ proxyName, find headers serviceProxyKey ≠ some (.string proxyName)) :
      Message find names counts root
  | responseDump {headers start size : CJson} {rid dumpRid : Rid}
      (hAddressed : Addressed find root headers rid "responseDump")
      (hProxy : ∀ proxyName, find headers serviceProxyKey ≠ some (.string proxyName))
      (hPayload : DumpPayload find root dumpRid start size) (hStart : counts start)
      (hSize : counts size) : Message find names counts root
  | proxyRequest {headers timeout : CJson} {rid : Rid} {serviceName : String} {proxyName : ProxyName}
      (hAddressed : Addressed find root headers rid serviceName)
      (hProxy : find headers serviceProxyKey = some (.string proxyName)) (hName : names proxyName)
      (hItem : find headers clientReplyTimeoutKey = some timeout)
      (hTimeout : TimeoutItem timeout) : Message find names counts root

/-- The names that the activator can register: they fit its buffer of 51 bytes and are not empty. -/
def RegistrableName (proxyName : ProxyName) : Prop :=
  1 ≤ proxyName.utf8ByteSize ∧ proxyName.utf8ByteSize ≤ 50

/-- The published schema. -/
def Published (reading : MemberReading) (root : CJson) : Prop :=
  Message reading.find RegistrableName CountItem root

/-- What the checks look at: the first members up to case, any name, and an integer of at least one
beside the count. -/
def LetThrough (root : CJson) : Prop :=
  Message CJson.getObjectItem (fun _ => True) (fun item => 1 ≤ item.valueint) root

/-- The schema with the members that the checks find. -/
def PublishedUpToCase (root : CJson) : Prop :=
  Message CJson.getObjectItem RegistrableName CountItem root

/-! ## The verdict -/

def RouteVerdict.Acknowledging : RouteVerdict → Prop
  | .refused _ _ => False
  | _ => True

variable {root headers : CJson} {rid : Rid} {serviceName : String}

theorem Addressed.passes {find : CJson → String → Option CJson}
    (h : Addressed find root headers rid serviceName) :
    ¬ rid.utf8ByteSize < 1 ∧ ¬ uuidBufLen - 1 < rid.utf8ByteSize ∧ ¬ serviceName.utf8ByteSize < 1 := by
  have hLength := h.ridLength
  have hNamed := h.named
  unfold uuidBufLen
  omega

theorem Addressed.verdict_of_none (h : Addressed CJson.getObjectItem root headers rid serviceName)
    (hProxy : headers.stringOf serviceProxyKey = none) :
    clientServiceRouteVerdict root =
      gonggoServiceVerdict rid serviceName (root.getObjectItem servicePayloadKey) := by
  obtain ⟨hShort, hLong, hNamed⟩ := h.passes
  simp only [clientServiceRouteVerdict, h.hasHeaders, stringOf_eq_some_iff.mpr h.hasRid,
    stringOf_eq_some_iff.mpr h.hasService, hProxy, if_neg hShort, if_neg hLong, if_neg hNamed,
    if_neg h.unreserved]

theorem Addressed.verdict_of_some (h : Addressed CJson.getObjectItem root headers rid serviceName) {proxyName : ProxyName}
    (hProxy : headers.stringOf serviceProxyKey = some proxyName) :
    clientServiceRouteVerdict root =
      proxyServiceVerdict headers rid proxyName serviceName (root.getObjectItem servicePayloadKey) := by
  obtain ⟨hShort, hLong, hNamed⟩ := h.passes
  simp only [clientServiceRouteVerdict, h.hasHeaders, stringOf_eq_some_iff.mpr h.hasRid,
    stringOf_eq_some_iff.mpr h.hasService, hProxy, if_neg hShort, if_neg hLong, if_neg hNamed,
    if_neg h.unreserved]

/-- Every check of the headers refuses what it finds, with a status of its own. -/
theorem exists_addressed_or_refused (root : CJson) :
    (∃ headers rid serviceName, Addressed CJson.getObjectItem root headers rid serviceName) ∨
      ∃ rid status, clientServiceRouteVerdict root = .refused rid status ∧
        status ≠ .requestParseStatusAcknowledged := by
  unfold clientServiceRouteVerdict
  split
  · exact .inr ⟨_, _, rfl, by decide⟩
  rename_i headers hHeaders
  split
  · exact .inr ⟨_, _, rfl, by decide⟩
  rename_i rid hRid
  split
  · exact .inr ⟨_, _, rfl, by decide⟩
  rename_i hShort
  split
  · exact .inr ⟨_, _, rfl, by decide⟩
  rename_i hLong
  split
  · exact .inr ⟨_, _, rfl, by decide⟩
  rename_i serviceName hService
  split
  · exact .inr ⟨_, _, rfl, by decide⟩
  rename_i hNamed
  split
  · exact .inr ⟨_, _, rfl, by decide⟩
  rename_i hReserved
  unfold uuidBufLen at hLong
  exact .inl ⟨headers, rid, serviceName, hHeaders, stringOf_eq_some_iff.mp hRid, ⟨by omega, by omega⟩,
    stringOf_eq_some_iff.mp hService, by omega, hReserved⟩

theorem count_iff (item : Option CJson) :
    ¬ (item.map CJson.valueint).getD 0 < 1 ↔ ∃ found, item = some found ∧ 1 ≤ found.valueint := by
  cases item <;> simp

theorem timeoutItem_iff (item : CJson) : 1 ≤ item.valuedouble.toSigned 64 ↔ TimeoutItem item := by
  cases item with
  | number value =>
    rw [CJson.valuedouble, Double.one_le_toSigned_iff]
    simp [TimeoutItem]
  | null | bool _ | string _ | array _ | object _ =>
    exact iff_of_false (show ¬ (1 : Int) ≤ (Double.finite 0).toSigned 64 by decide) (by simp [TimeoutItem])

/-- The verdict on a message without a proxy. -/
theorem gonggoServiceVerdict_cases (rid : Rid) (serviceName : String) (payload : Option CJson) :
    (gonggoServiceVerdict rid serviceName payload).Acknowledging ∧
        (serviceName = "test" ∨ serviceName = "responseDump" ∧ ∃ found dumpRid start size,
          payload = some found ∧ found.stringOf serviceRidKey = some dumpRid ∧
          1 ≤ dumpRid.utf8ByteSize ∧ found.getObjectItem "start" = some start ∧
          found.getObjectItem "size" = some size ∧ 1 ≤ start.valueint ∧ 1 ≤ size.valueint) ∨
      ∃ status, gonggoServiceVerdict rid serviceName payload = .refused (some rid) status ∧
        status ≠ .requestParseStatusAcknowledged := by
  unfold gonggoServiceVerdict
  split
  · exact .inl ⟨trivial, .inl ‹_›⟩
  split
  · rename_i hDump
    split
    · exact .inr ⟨_, rfl, by decide⟩
    rename_i found
    simp only
    split
    · exact .inr ⟨_, rfl, by decide⟩
    rename_i dumpRid hRid
    split
    · exact .inr ⟨_, rfl, by decide⟩
    rename_i hChecks
    simp only [not_or] at hChecks
    obtain ⟨start, hStart, hStartCount⟩ := (count_iff _).mp hChecks.2.1
    obtain ⟨size, hSize, hSizeCount⟩ := (count_iff _).mp hChecks.2.2
    exact .inl ⟨trivial, .inr ⟨hDump, found, dumpRid, start, size, rfl, hRid, not_lt.mp hChecks.1, hStart,
      hSize, hStartCount, hSizeCount⟩⟩
  · exact .inr ⟨_, rfl, by decide⟩

theorem proxyServiceVerdict_cases (headers : CJson) (rid : Rid) (proxyName : ProxyName)
    (serviceName : String) (payload : Option CJson) :
    (proxyServiceVerdict headers rid proxyName serviceName payload).Acknowledging ∧
        (∃ timeout, headers.getObjectItem clientReplyTimeoutKey = some timeout ∧ TimeoutItem timeout) ∨
      ∃ status, proxyServiceVerdict headers rid proxyName serviceName payload =
        .refused (some rid) status ∧ status ≠ .requestParseStatusAcknowledged := by
  unfold proxyServiceVerdict
  split
  · exact .inr ⟨_, rfl, by decide⟩
  rename_i timeout hItem
  simp only
  split
  · exact .inr ⟨_, rfl, by decide⟩
  · rename_i hTimeout
    exact .inl ⟨trivial, timeout, hItem, (timeoutItem_iff timeout).mp (not_lt.mp hTimeout)⟩

/-- A message is let through, or refused with a status that is no acknowledgement. -/
theorem letThrough_or_refused (root : CJson) :
    LetThrough root ∧ (clientServiceRouteVerdict root).Acknowledging ∨
      ∃ rid status, clientServiceRouteVerdict root = .refused rid status ∧
        status ≠ .requestParseStatusAcknowledged := by
  rcases exists_addressed_or_refused root with ⟨headers, rid, serviceName, hAddressed⟩ | hRefused
  · cases hProxy : headers.stringOf serviceProxyKey with
    | none =>
      rw [hAddressed.verdict_of_none hProxy]
      rcases gonggoServiceVerdict_cases rid serviceName (root.getObjectItem servicePayloadKey) with
        ⟨hAck, hForm⟩ | ⟨status, hRefused, hStatus⟩
      · refine .inl ⟨?_, hAck⟩
        rcases hForm with rfl | ⟨rfl, payload, dumpRid, start, size, hPayload, hRid, hNamed, hStart, hSize,
          hStartCount, hSizeCount⟩
        · exact .test hAddressed (stringOf_eq_none_iff.mp hProxy)
        · exact .responseDump hAddressed (stringOf_eq_none_iff.mp hProxy)
            ⟨⟨payload, hPayload, stringOf_eq_some_iff.mp hRid, hStart, hSize⟩, hNamed⟩
            hStartCount hSizeCount
      · exact .inr ⟨_, status, hRefused, hStatus⟩
    | some proxyName =>
      rw [hAddressed.verdict_of_some hProxy]
      rcases proxyServiceVerdict_cases headers rid proxyName serviceName
        (root.getObjectItem servicePayloadKey) with ⟨hAck, timeout, hItem, hTimeout⟩ | ⟨status, hRefused, hStatus⟩
      · exact .inl ⟨.proxyRequest hAddressed (stringOf_eq_some_iff.mp hProxy) trivial hItem hTimeout, hAck⟩
      · exact .inr ⟨_, status, hRefused, hStatus⟩
  · exact .inr hRefused

theorem LetThrough.acknowledging (h : LetThrough root) :
    (clientServiceRouteVerdict root).Acknowledging := by
  cases h with
  | test hAddressed hProxy =>
    rw [hAddressed.verdict_of_none (stringOf_eq_none_iff.mpr hProxy)]
    exact trivial
  | @responseDump headers start size rid dumpRid hAddressed hProxy hPayload hStart hSize =>
    obtain ⟨payload, hPayloadItem, hRid, hStartItem, hSizeItem⟩ := hPayload.payload
    have hNamed := hPayload.named
    have hChecks : ¬ (dumpRid.utf8ByteSize < 1 ∨ start.valueint < 1 ∨ size.valueint < 1) := by omega
    rw [hAddressed.verdict_of_none (stringOf_eq_none_iff.mpr hProxy)]
    simp only [gonggoServiceVerdict, hPayloadItem, stringOf_eq_some_iff.mpr hRid, hStartItem, hSizeItem, Option.map_some,
      Option.getD_some, if_neg hChecks]
    rw [if_neg (by decide), if_pos trivial]
    exact trivial
  | @proxyRequest headers timeout rid serviceName proxyName hAddressed hProxy hName hItem hTimeout =>
    have hLong : ¬ timeout.valuedouble.toSigned 64 < 1 := not_lt.mpr ((timeoutItem_iff timeout).mpr hTimeout)
    rw [hAddressed.verdict_of_some (stringOf_eq_some_iff.mpr hProxy)]
    simp only [proxyServiceVerdict, hItem, if_neg hLong]
    exact trivial

/-! ## What the checks overlook -/

/-- The names that the checks read are clear in the message, its headers and its payload. -/
structure ClearNames (root : CJson) : Prop where
  ofRoot : Clear root [serviceHeadersKey, servicePayloadKey]
  ofHeaders : ∀ headers, root.getObjectItem serviceHeadersKey = some headers →
    Clear headers [serviceRidKey, serviceServiceKey, serviceProxyKey, clientReplyTimeoutKey]
  ofPayload : ∀ payload, root.getObjectItem servicePayloadKey = some payload →
    Clear payload [serviceRidKey, "start", "size"]

/-- A message that is treated against the schema. Let through: a proxy's name that no activator
registers, a dump request with the literal `true` for a count, or members that match up to case
alone. Refused: members that stand behind others that match up to case. -/
inductive Overlooked (reading : MemberReading) (root : CJson) : Prop
  | proxyName {headers timeout : CJson} {rid : Rid} {serviceName : String} {proxyName : ProxyName}
      (hAddressed : Addressed CJson.getObjectItem root headers rid serviceName)
      (hProxy : headers.getObjectItem serviceProxyKey = some (.string proxyName))
      (hName : ¬ RegistrableName proxyName)
      (hItem : headers.getObjectItem clientReplyTimeoutKey = some timeout)
      (hTimeout : TimeoutItem timeout) (hNot : ¬ Published reading root) : Overlooked reading root
  | trueCount {headers start size : CJson} {rid dumpRid : Rid}
      (hAddressed : Addressed CJson.getObjectItem root headers rid "responseDump")
      (hProxy : ∀ proxyName, headers.getObjectItem serviceProxyKey ≠ some (.string proxyName))
      (hPayload : DumpPayload CJson.getObjectItem root dumpRid start size)
      (hTrue : start = .bool true ∨ size = .bool true)
      (hStart : CountItem start ∨ start = .bool true) (hSize : CountItem size ∨ size = .bool true)
      (hNot : ¬ Published reading root) : Overlooked reading root
  | cased (hUnclear : ¬ ClearNames root) (hMessage : PublishedUpToCase root)
      (hNot : ¬ Published reading root) : Overlooked reading root
  | shadowed (hUnclear : ¬ ClearNames root) (hMessage : Published reading root)
      (hNot : ¬ LetThrough root) : Overlooked reading root

theorem one_le_valueint_iff (item : CJson) : 1 ≤ item.valueint ↔ CountItem item ∨ item = .bool true := by
  cases item with
  | number value =>
    rw [CJson.valueint, Double.one_le_saturated_iff]
    simp [CountItem]
  | bool value => cases value <;> simp [CJson.valueint, CountItem]
  | null | string _ | array _ | object _ => simp [CJson.valueint, CountItem]

theorem PublishedUpToCase.letThrough (h : PublishedUpToCase root) : LetThrough root := by
  cases h with
  | test hAddressed hProxy => exact .test hAddressed hProxy
  | responseDump hAddressed hProxy hPayload hStart hSize =>
    exact .responseDump hAddressed hProxy hPayload ((one_le_valueint_iff _).mpr (.inl hStart))
      ((one_le_valueint_iff _).mpr (.inl hSize))
  | proxyRequest hAddressed hProxy hName hItem hTimeout =>
    exact .proxyRequest hAddressed hProxy trivial hItem hTimeout

/-- Two lookups that agree on the names of a message see the same message. -/
theorem Message.of_agreeing {find find' : CJson → String → Option CJson} {names : ProxyName → Prop}
    {counts : CJson → Prop}
    (hRoot : ∀ name ∈ [serviceHeadersKey, servicePayloadKey], find' root name = find root name)
    (hHeaders : ∀ headers, find root serviceHeadersKey = some headers →
      ∀ name ∈ [serviceRidKey, serviceServiceKey, serviceProxyKey, clientReplyTimeoutKey],
        find' headers name = find headers name)
    (hPayload : ∀ payload, find root servicePayloadKey = some payload →
      ∀ name ∈ [serviceRidKey, "start", "size"], find' payload name = find payload name)
    (h : Message find names counts root) : Message find' names counts root := by
  have hAddress : ∀ {headers rid serviceName}, Addressed find root headers rid serviceName →
      Addressed find' root headers rid serviceName := by
    intro headers rid serviceName hAddressed
    have hSame := hHeaders headers hAddressed.hasHeaders
    exact ⟨(hRoot _ (by simp)).trans hAddressed.hasHeaders, (hSame _ (by simp)).trans hAddressed.hasRid,
      hAddressed.ridLength, (hSame _ (by simp)).trans hAddressed.hasService, hAddressed.named,
      hAddressed.unreserved⟩
  cases h with
  | test hAddressed hProxy =>
    refine .test (hAddress hAddressed) fun proxyName => ?_
    rw [hHeaders _ hAddressed.hasHeaders _ (by simp)]
    exact hProxy proxyName
  | responseDump hAddressed hProxy hDump hStart hSize =>
    obtain ⟨⟨payload, hFound, hRid, hStartItem, hSizeItem⟩, hNamed⟩ := hDump
    have hSame := hPayload payload hFound
    have hDump' : DumpPayload find' root _ _ _ :=
      ⟨⟨payload, (hRoot _ (by simp)).trans hFound, (hSame _ (by simp)).trans hRid,
        (hSame _ (by simp)).trans hStartItem, (hSame _ (by simp)).trans hSizeItem⟩, hNamed⟩
    refine .responseDump (hAddress hAddressed) (fun proxyName => ?_) hDump' hStart hSize
    rw [hHeaders _ hAddressed.hasHeaders _ (by simp)]
    exact hProxy proxyName
  | proxyRequest hAddressed hProxy hName hItem hTimeout =>
    have hSame := hHeaders _ hAddressed.hasHeaders
    exact .proxyRequest (hAddress hAddressed) ((hSame _ (by simp)).trans hProxy) hName
      ((hSame _ (by simp)).trans hItem) hTimeout

theorem ClearNames.published_iff (h : ClearNames root) (reading : MemberReading) :
    Published reading root ↔ PublishedUpToCase root := by
  have hRoot : ∀ name ∈ [serviceHeadersKey, servicePayloadKey],
      reading.find root name = root.getObjectItem name := fun name => h.ofRoot.find_eq reading
  constructor
  · refine Message.of_agreeing (fun name hName => (hRoot name hName).symm) (fun headers hFound name hName => ?_)
      fun payload hFound name hName => ?_
    · rw [hRoot _ (by simp)] at hFound
      exact ((h.ofHeaders headers hFound).find_eq reading hName).symm
    · rw [hRoot _ (by simp)] at hFound
      exact ((h.ofPayload payload hFound).find_eq reading hName).symm
  · exact Message.of_agreeing hRoot
      (fun headers hFound name hName => (h.ofHeaders headers hFound).find_eq reading hName)
      fun payload hFound name hName => (h.ofPayload payload hFound).find_eq reading hName

/-- What is let through is published up to case, but for the name of a proxy and the literal `true`. -/
theorem LetThrough.published_or_overlooked {reading : MemberReading} (h : LetThrough root)
    (hNot : ¬ Published reading root) : PublishedUpToCase root ∨ Overlooked reading root := by
  cases h with
  | test hAddressed hProxy => exact .inl (.test hAddressed hProxy)
  | responseDump hAddressed hProxy hPayload hStart hSize =>
    have hStartItem := (one_le_valueint_iff _).mp hStart
    have hSizeItem := (one_le_valueint_iff _).mp hSize
    rcases hStartItem with hStartNumber | hStartTrue
    · rcases hSizeItem with hSizeNumber | hSizeTrue
      · exact .inl (.responseDump hAddressed hProxy hPayload hStartNumber hSizeNumber)
      · exact .inr (.trueCount hAddressed hProxy hPayload (.inr hSizeTrue) (.inl hStartNumber)
          (.inr hSizeTrue) hNot)
    · exact .inr (.trueCount hAddressed hProxy hPayload (.inl hStartTrue) (.inr hStartTrue) hSizeItem hNot)
  | @proxyRequest _ _ _ _ proxyName hAddressed hProxy hName hItem hTimeout =>
    by_cases hRegistrable : RegistrableName proxyName
    · exact .inl (.proxyRequest hAddressed hProxy hRegistrable hItem hTimeout)
    · exact .inr (.proxyName hAddressed hProxy hRegistrable hItem hTimeout hNot)

/-- The checks and the schema part exactly on the overlooked messages. -/
theorem not_overlooked_iff (reading : MemberReading) :
    ¬ Overlooked reading root ↔ (LetThrough root ↔ Published reading root) := by
  constructor
  · intro hNot
    by_cases hClear : ClearNames root
    · rw [hClear.published_iff reading]
      refine ⟨fun hLet => ?_, PublishedUpToCase.letThrough⟩
      by_contra hUnpublished
      have hStrict := mt (hClear.published_iff reading).mp hUnpublished
      exact (hLet.published_or_overlooked hStrict).elim hUnpublished hNot
    · constructor
      · intro hLet
        by_contra hUnpublished
        rcases hLet.published_or_overlooked hUnpublished with hUpToCase | hOverlooked
        · exact hNot (.cased hClear hUpToCase hUnpublished)
        · exact hNot hOverlooked
      · intro hPublished
        by_contra hRefused
        exact hNot (.shadowed hClear hPublished hRefused)
  · intro hIff hOverlooked
    cases hOverlooked with
    | proxyName hAddressed hProxy hName hItem hTimeout hNot =>
      exact hNot (hIff.mp (.proxyRequest hAddressed hProxy trivial hItem hTimeout))
    | trueCount hAddressed hProxy hPayload hTrue hStart hSize hNot =>
      exact hNot (hIff.mp (.responseDump hAddressed hProxy hPayload ((one_le_valueint_iff _).mpr hStart)
        ((one_le_valueint_iff _).mpr hSize)))
    | cased hUnclear hMessage hNot => exact hNot (hIff.mp hMessage.letThrough)
    | shadowed hUnclear hMessage hNot => exact hNot (hIff.mpr hMessage)

/-! ## What the client is told -/

/-- The texts of different statuses differ. -/
def StatusesApart (print : Printer) : Prop :=
  ∀ rid rid' status status', print (parsingStatusText rid status) = print (parsingStatusText rid' status') →
    status = status'

/-- The answer begins with the acknowledgement. -/
def Acknowledges (print : Printer) (d d' : Dispatcher) (conn : Conn) : Prop :=
  ∃ rid more, d'.written = d.written ++
    (conn, print (parsingStatusText (some rid) .requestParseStatusAcknowledged)) :: more

/-- The answer is one other status, and the tables are as they were. -/
def Refuses (print : Printer) (d d' : Dispatcher) (conn : Conn) : Prop :=
  d'.store = d.store ∧ ∃ rid status, status ≠ .requestParseStatusAcknowledged ∧
    d'.written = d.written ++ [(conn, print (parsingStatusText rid status))]

/-- A message is admitted as published; a text that is no JSON goes without an answer. -/
def AdmitsAsPublished (reading : MemberReading) (print : Printer) (d d' : Dispatcher) (conn : Conn) :
    Option CJson → Prop
  | none => d'.store = d.store ∧ d'.written = d.written
  | some root =>
      (Acknowledges print d d' conn ↔ Published reading root) ∧
        (¬ Published reading root → Refuses print d d' conn)

theorem Refuses.not_acknowledges {print : Printer} {d d' : Dispatcher} {conn : Conn}
    (hPrint : StatusesApart print) (h : Refuses print d d' conn) : ¬ Acknowledges print d d' conn := by
  rintro ⟨rid, more, hWritten⟩
  obtain ⟨-, rid', status, hStatus, hOne⟩ := h
  rw [hWritten, List.append_cancel_left_eq, List.cons.injEq, Prod.mk.injEq] at hOne
  exact hStatus (hPrint _ _ _ _ hOne.1.2).symm

variable {ctx : RouteContext} {uri data : String} {conn : Conn}

theorem clientServiceRoute_of_refused (hPath : ctx.gonggoPath = some uri)
    (hParse : ctx.json.parse data = some root) {rid : Option Rid} {status : ServiceStatus}
    (hVerdict : clientServiceRouteVerdict root = .refused rid status) (d : Dispatcher) :
    clientServiceRoute ctx d uri data conn = clientParsingStatusReply ctx.json d conn rid status := by
  simp [clientServiceRoute, hPath, hParse, hVerdict]

theorem acknowledges_clientServiceRoute (hPath : ctx.gonggoPath = some uri)
    (hParse : ctx.json.parse data = some root) (h : (clientServiceRouteVerdict root).Acknowledging)
    (d : Dispatcher) :
    Acknowledges ctx.json.print d (clientServiceRoute ctx d uri data conn) conn := by
  have hAnswers : ∀ (rid : Rid) (d' : Dispatcher), (∃ more, d'.written = (clientParsingStatusReply
      ctx.json d conn (some rid) .requestParseStatusAcknowledged).written ++ more) →
      Acknowledges ctx.json.print d d' conn := by
    rintro rid d' ⟨more, hMore⟩
    refine ⟨rid, more, ?_⟩
    rw [hMore, clientParsingStatusReply, Dispatcher.mgWebsocketWrite, List.append_assoc]
    rfl
  cases hVerdict : clientServiceRouteVerdict root with
  | refused rid status =>
    rw [hVerdict] at h
    exact h.elim
  | test rid =>
    have hRoute : clientServiceRoute ctx d uri data conn = gonggoTest ctx (clientParsingStatusReply
        ctx.json d conn (some rid) .requestParseStatusAcknowledged) conn rid := by
      simp [clientServiceRoute, hPath, hParse, hVerdict]
    rw [hRoute]
    exact hAnswers rid _ ⟨_, Dispatcher.written_deliver ..⟩
  | responseDump rid dumpRid start size =>
    have hRoute : clientServiceRoute ctx d uri data conn = gonggoResponseDump ctx
        (clientParsingStatusReply ctx.json d conn (some rid) .requestParseStatusAcknowledged) conn rid
        dumpRid start size := by
      simp [clientServiceRoute, hPath, hParse, hVerdict]
    rw [hRoute]
    apply hAnswers rid
    unfold gonggoResponseDump
    split <;> exact ⟨_, Dispatcher.written_deliver ..⟩
  | proxyRequest rid proxyName serviceName payload timeout =>
    apply hAnswers rid
    exact ⟨[], by simp [clientServiceRoute, hPath, hParse, hVerdict]⟩

/-- A message is admitted as published unless the checks overlook something in it. -/
theorem route_admits_iff (reading : MemberReading) (ctx : RouteContext)
    (hPrint : StatusesApart ctx.json.print) (d : Dispatcher) (uri data : String) (conn : Conn)
    (hPath : ctx.gonggoPath = some uri) :
    AdmitsAsPublished reading ctx.json.print d (clientServiceRoute ctx d uri data conn) conn
        (ctx.json.parse data) ↔
      ∀ root, ctx.json.parse data = some root → ¬ Overlooked reading root := by
  cases hParse : ctx.json.parse data with
  | none =>
    refine iff_of_true ?_ nofun
    have hRoute : clientServiceRoute ctx d uri data conn = d := by
      simp [clientServiceRoute, hPath, hParse]
    rw [hRoute]
    exact ⟨rfl, rfl⟩
  | some root =>
    simp only [Option.some.injEq, forall_eq']
    rw [not_overlooked_iff]
    rcases letThrough_or_refused root with ⟨hLetThrough, hAck⟩ | ⟨rid, status, hVerdict, hStatus⟩
    · have hAcknowledges : Acknowledges ctx.json.print d (clientServiceRoute ctx d uri data conn) conn :=
        acknowledges_clientServiceRoute hPath hParse hAck d
      constructor
      · rintro ⟨hIff, -⟩
        exact iff_of_true hLetThrough (hIff.mp hAcknowledges)
      · intro hIff
        have hPublished := hIff.mp hLetThrough
        exact ⟨iff_of_true hAcknowledges hPublished, fun h => absurd hPublished h⟩
    · have hNot : ¬ LetThrough root := by
        intro hLetThrough
        have hAck := hLetThrough.acknowledging
        rw [hVerdict] at hAck
        exact hAck
      have hRefuses : Refuses ctx.json.print d (clientServiceRoute ctx d uri data conn) conn := by
        rw [clientServiceRoute_of_refused hPath hParse hVerdict]
        exact ⟨rfl, rid, status, hStatus, rfl⟩
      have hSilent := hRefuses.not_acknowledges hPrint
      constructor
      · rintro ⟨hIff, -⟩
        exact iff_of_false hNot (mt hIff.mpr hSilent)
      · intro hIff
        exact ⟨iff_of_false hSilent (mt hIff.mpr hNot), fun _ => hRefuses⟩

/-! ## A printer whose statuses are apart -/

/-- The codes are apart in print, too. -/
theorem codeText_injective : Function.Injective fun status : ServiceStatus => toString status.code := by
  intro status status' h
  cases status <;> cases status' <;> first | rfl | exact absurd h (by decide)

theorem ratTrunc_intCast (n : Int) : ratTrunc n = n := by
  rw [ratTrunc, Rat.num_intCast, Rat.den_intCast, Nat.cast_one, Int.tdiv_one]

theorem toList_printEscaped_status (rid : Option Rid) (status : ServiceStatus) :
    (printEscaped (parsingStatusText rid status)).toList =
      "\x7b\"headers\":\x7b\"rid\":\"".toList ++ ((rid.getD "").toList.flatMap escapeChar ++
        '"' :: (",\"requestStatus\":".toList ++ ((toString status.code).toList ++ "\x7d\x7d".toList))) := by
  have hHeaders : escapeString clientReplyHeadersKey = "headers" := by decide
  have hRid : escapeString clientReplyServiceRidKey = "rid" := by decide
  have hStatus : escapeString clientReplyRequestStatusKey = "requestStatus" := by decide
  simp [parsingStatusText, printEscaped, escapeStrings, escapeMembers, printUnformatted, printMembers,
    CJson.ofInt, hHeaders, hRid, hStatus, ratTrunc_intCast, toList_escapeString]

theorem statusesApart_printEscaped : StatusesApart printEscaped := by
  intro rid rid' status status' h
  have hBoth := congrArg String.toList h
  rw [toList_printEscaped_status, toList_printEscaped_status, List.append_cancel_left_eq] at hBoth
  have hRid := eq_of_escapeChar hBoth
  rw [hRid, List.append_cancel_left_eq, List.cons.injEq, List.append_cancel_left_eq,
    List.append_cancel_right_eq] at hBoth
  exact codeText_injective (String.toList_injective hBoth.2)

def escapedRouteContext (item : CJson) : RouteContext :=
  { sampleRouteContext item 0 with
    json :=
      { print := printEscaped
        parse := fun text => if text = printEscaped item then some item else none } }

/-! ## Messages with clear names -/

theorem clear_of_distinct {item : CJson} {names : List String}
    (hDistinct : (item.members.map fun member => member.1.toList.map Char.toLower).Nodup)
    (hExact : ∀ name ∈ names, ∀ written ∈ item.members.map Prod.fst,
      caseInsensitiveEq name written = true → written = name) : Clear item names := by
  intro name hName member hMember other hOther hMatch hMatch'
  refine ⟨hExact name hName _ (List.mem_map_of_mem hMember) hMatch, ?_⟩
  apply List.inj_on_of_nodup_map hDistinct hOther hMember
  rw [caseInsensitiveEq, beq_iff_eq] at hMatch hMatch'
  exact hMatch'.symm.trans hMatch

def sampleHeaders (rid : Rid) (proxyName : ProxyName) (serviceName : String) : CJson :=
  .object [(serviceRidKey, .string rid), (serviceProxyKey, .string proxyName),
    (serviceServiceKey, .string serviceName), (clientReplyTimeoutKey, .ofInt 5)]

variable {proxyName : ProxyName}

theorem headers_sampleRequest : (sampleRequest rid proxyName serviceName).getObjectItem
    serviceHeadersKey = some (sampleHeaders rid proxyName serviceName) := by
  simp [sampleRequest, sampleHeaders, CJson.getObjectItem, caseInsensitiveEq_self]

theorem payload_sampleRequest :
    (sampleRequest rid proxyName serviceName).getObjectItem servicePayloadKey = none := by
  have hOther : caseInsensitiveEq servicePayloadKey serviceHeadersKey = false := by decide
  simp [sampleRequest, CJson.getObjectItem, hOther]

theorem items_sampleHeaders :
    (sampleHeaders rid proxyName serviceName).getObjectItem serviceRidKey = some (.string rid) ∧
      (sampleHeaders rid proxyName serviceName).getObjectItem serviceProxyKey =
        some (.string proxyName) ∧
      (sampleHeaders rid proxyName serviceName).getObjectItem serviceServiceKey =
        some (.string serviceName) ∧
      (sampleHeaders rid proxyName serviceName).getObjectItem clientReplyTimeoutKey =
        some (.ofInt 5) := by
  have hProxy : caseInsensitiveEq serviceProxyKey serviceRidKey = false := by decide
  have hService : caseInsensitiveEq serviceServiceKey serviceRidKey = false ∧
      caseInsensitiveEq serviceServiceKey serviceProxyKey = false := by decide
  have hTimeout : caseInsensitiveEq clientReplyTimeoutKey serviceRidKey = false ∧
      caseInsensitiveEq clientReplyTimeoutKey serviceProxyKey = false ∧
      caseInsensitiveEq clientReplyTimeoutKey serviceServiceKey = false := by decide
  simp [sampleHeaders, CJson.getObjectItem, caseInsensitiveEq_self, hProxy, hService, hTimeout]

theorem clearNames_sampleRequest : ClearNames (sampleRequest rid proxyName serviceName) where
  ofRoot := clear_of_distinct (by simp [sampleRequest, CJson.members]) (by
    show ∀ name ∈ [serviceHeadersKey, servicePayloadKey], ∀ written ∈ [serviceHeadersKey],
      caseInsensitiveEq name written = true → written = name
    decide)
  ofHeaders headers hFound := by
    obtain rfl := Option.some.inj (headers_sampleRequest.symm.trans hFound)
    apply clear_of_distinct
    · show ([serviceRidKey, serviceProxyKey, serviceServiceKey, clientReplyTimeoutKey].map fun name =>
        name.toList.map Char.toLower).Nodup
      decide
    · show ∀ name ∈ [serviceRidKey, serviceServiceKey, serviceProxyKey, clientReplyTimeoutKey],
        ∀ written ∈ [serviceRidKey, serviceProxyKey, serviceServiceKey, clientReplyTimeoutKey],
          caseInsensitiveEq name written = true → written = name
      decide
  ofPayload payload hFound := by cases payload_sampleRequest.symm.trans hFound

theorem timeoutItem_five : TimeoutItem (.ofInt 5) := ⟨.finite (5 : Int), rfl, by norm_num, by norm_num⟩

theorem addressed_sampleRequest (hRid : 1 ≤ rid.utf8ByteSize ∧ rid.utf8ByteSize ≤ 36)
    (hNamed : 1 ≤ serviceName.utf8ByteSize) (hUnreserved : serviceName ≠ gonggoServiceRequestDrop) :
    Addressed CJson.getObjectItem (sampleRequest rid proxyName serviceName)
      (sampleHeaders rid proxyName serviceName) rid serviceName :=
  ⟨headers_sampleRequest, items_sampleHeaders.1, hRid, items_sampleHeaders.2.2.1, hNamed, hUnreserved⟩

theorem message_sampleRequest (hRid : 1 ≤ rid.utf8ByteSize ∧ rid.utf8ByteSize ≤ 36)
    (hNamed : 1 ≤ serviceName.utf8ByteSize) (hUnreserved : serviceName ≠ gonggoServiceRequestDrop)
    {names : ProxyName → Prop} {counts : CJson → Prop} (hName : names proxyName) :
    Message CJson.getObjectItem names counts (sampleRequest rid proxyName serviceName) :=
  .proxyRequest (addressed_sampleRequest hRid hNamed hUnreserved) items_sampleHeaders.2.1 hName
    items_sampleHeaders.2.2.2 timeoutItem_five

/-- A well-formed request of a proxy's service is acknowledged, as the schema has it. -/
theorem route_admits_iff_sampleRequest :
    AdmitsAsPublished .first printEscaped Dispatcher.empty
      (clientServiceRoute (escapedRouteContext (sampleRequest "r" "weather" "today")) Dispatcher.empty
        "/gonggo" (printEscaped (sampleRequest "r" "weather" "today")) 1) 1
      (some (sampleRequest "r" "weather" "today")) := by
  have hParse : (escapedRouteContext (sampleRequest "r" "weather" "today")).json.parse
      (printEscaped (sampleRequest "r" "weather" "today")) = some (sampleRequest "r" "weather" "today") := by
    simp [escapedRouteContext]
  have hUpToCase : PublishedUpToCase (sampleRequest "r" "weather" "today") :=
    message_sampleRequest (by decide) (by decide) (by decide) ⟨by decide, by decide⟩
  have hPublished := (clearNames_sampleRequest.published_iff .first).mpr hUpToCase
  have hAdmits := route_admits_iff .first (escapedRouteContext (sampleRequest "r" "weather" "today"))
    statusesApart_printEscaped Dispatcher.empty "/gonggo"
    (printEscaped (sampleRequest "r" "weather" "today")) 1 rfl
  rw [hParse] at hAdmits
  refine hAdmits.mpr ?_
  rintro root ⟨⟩
  exact (not_overlooked_iff .first).mpr (iff_of_true hUpToCase.letThrough hPublished)

/-- A message that names a proxy is published under a registrable name only. -/
theorem registrableName_of_publishedUpToCase
    (h : PublishedUpToCase (sampleRequest rid proxyName serviceName)) : RegistrableName proxyName := by
  have hSame : ∀ {found : CJson}, (sampleRequest rid proxyName serviceName).getObjectItem
      serviceHeadersKey = some found → found = sampleHeaders rid proxyName serviceName :=
    fun hFound => Option.some.inj (hFound.symm.trans headers_sampleRequest)
  cases h with
  | test hAddressed hProxy | responseDump hAddressed hProxy =>
    rw [hSame hAddressed.hasHeaders] at hProxy
    exact absurd items_sampleHeaders.2.1 (hProxy proxyName)
  | proxyRequest hAddressed hProxy hName =>
    rw [hSame hAddressed.hasHeaders, items_sampleHeaders.2.1] at hProxy
    cases hProxy
    exact hName

/-- A request to a proxy without a name is acknowledged, against every reading of the schema. -/
theorem not_route_admits : ¬ ∃ reading, ∀ (ctx : RouteContext) (d : Dispatcher) (uri data : String)
    (conn : Conn), StatusesApart ctx.json.print → ctx.gonggoPath = some uri →
    AdmitsAsPublished reading ctx.json.print d (clientServiceRoute ctx d uri data conn) conn
      (ctx.json.parse data) := by
  rintro ⟨reading, h⟩
  let item := sampleRequest "r" "" "today"
  have hParse : (escapedRouteContext item).json.parse (printEscaped item) = some item := by
    simp [escapedRouteContext]
  have hAdmits := h (escapedRouteContext item) Dispatcher.empty "/gonggo" (printEscaped item) 1
    statusesApart_printEscaped rfl
  rw [hParse] at hAdmits
  have hLetThrough : LetThrough item :=
    message_sampleRequest (by decide) (by decide) (by decide) trivial
  have hAcknowledges : Acknowledges (escapedRouteContext item).json.print Dispatcher.empty
      (clientServiceRoute (escapedRouteContext item) Dispatcher.empty "/gonggo" (printEscaped item) 1) 1 :=
    acknowledges_clientServiceRoute rfl hParse hLetThrough.acknowledging Dispatcher.empty
  have hPublished := (clearNames_sampleRequest.published_iff reading).mp (hAdmits.1.mp hAcknowledges)
  exact absurd (registrableName_of_publishedUpToCase hPublished).1 (by decide)

end Gonggo
