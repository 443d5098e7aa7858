import Gonggo.ChannelCalls
import Gonggo.RestHandler

/-! # Whether a REST call ends with a response that can be sent

proxy_channel_rest makes up a response of its own when it cannot get one from the proxy, and takes
code, error and JSON from the answer otherwise. It leaves the response as it was at the start when
the channel is in any other state than the one of an answer.
-/

namespace Gonggo

namespace RestRespond

def isOk (respond : RestRespond) : Prop := 200 ≤ respond.code ∧ respond.code ≤ 299

instance (respond : RestRespond) : Decidable respond.isOk := inferInstanceAs (Decidable (_ ∧ _))

/-- An HTTP status, with the text that goes with it. -/
structure Complete (respond : RestRespond) : Prop where
  status : 100 ≤ respond.code ∧ respond.code ≤ 599
  json : respond.isOk → respond.json.isSome = true
  err : ¬ respond.isOk → respond.err.isSome = true

/-- The end of `rest_handler`: the status and the body that it sends, or `none` where it reads the
text behind a null pointer. -/
def send (respond : RestRespond) : Option (Int × String) :=
  if respond.isOk then respond.json.map fun json => (200, json ++ "\n")
  else respond.err.map fun err => (respond.code, err ++ "\n")

theorem Complete.send {respond : RestRespond} (h : respond.Complete) : respond.send.isSome = true := by
  unfold RestRespond.send
  split
  · rename_i hOk
    rw [Option.isSome_map]
    exact h.json hOk
  · rename_i hOk
    rw [Option.isSome_map]
    exact h.err hOk

theorem complete_failed (err : String) : (failed err).Complete :=
  have hCode : (failed err).code = 500 := rfl
  ⟨by rw [hCode]; decide, fun hOk => absurd hOk.2 (by rw [hCode]; decide), fun _ => rfl⟩

theorem Complete.not_code_lt {respond : RestRespond} (h : respond.Complete) : ¬ respond.code < 100 :=
  not_lt.mpr h.status.1

end RestRespond

/-- The answer of a proxy that follows the rules: an HTTP status, with JSON for a status of success
and with a text of the error for any other, and no error that is no text. -/
structure AnswersRest (answer : CJson) : Prop where
  code : ∃ item, answer.getObjectItem "code" = some item ∧ 100 ≤ item.getNumberValue ∧
    item.getNumberValue ≤ 599 ∧
      if 200 ≤ item.getNumberValue ∧ item.getNumberValue ≤ 299 then
        (answer.getObjectItem "json").isSome = true
      else (answer.getObjectItem "err").isSome = true
  err : ∀ item, answer.getObjectItem "err" = some item → item.valuestring.isSome = true

/-- The call of the proxy fails early, the proxy dies or leaves no answer segment, or it answers by
the rules. -/
def RestRun.Answered (library : JsonLibrary) (run : RestRun) : Prop :=
  run.idle.Refuses ∨ run.created = false ∨ run.answered.result = .ownerDead ∨
    run.answered.state = .channelRestRespond ∧
      ∀ text, run.answer = some text → ∃ answer, library.parse text = some answer ∧ AnswersRest answer

theorem answersRest_iff {answer code : CJson} (hCode : answer.getObjectItem "code" = some code) :
    AnswersRest answer ↔
      (100 ≤ code.getNumberValue ∧ code.getNumberValue ≤ 599 ∧
        if 200 ≤ code.getNumberValue ∧ code.getNumberValue ≤ 299 then
          (answer.getObjectItem "json").isSome = true
        else (answer.getObjectItem "err").isSome = true) ∧
      ∀ err, answer.getObjectItem "err" = some err → err.valuestring.isSome = true := by
  constructor
  · rintro ⟨⟨item, hItem, hFits⟩, hErr⟩
    rw [hCode, Option.some.injEq] at hItem
    subst hItem
    exact ⟨hFits, hErr⟩
  · rintro ⟨hFits, hErr⟩
    exact ⟨⟨code, hCode, hFits⟩, hErr⟩

/-- The code that stands for a missing one is no HTTP status. -/
theorem not_complete_of_nan {err json : Option String} :
    ¬ RestRespond.Complete ⟨CJson.getNumberValue .null, err, json⟩ :=
  fun h => h.not_code_lt (show CJson.getNumberValue .null < 100 by decide)

theorem complete_iff {code : Int} {err json : Option String} :
    RestRespond.Complete ⟨code, err, json⟩ ↔
      100 ≤ code ∧ code ≤ 599 ∧
        if 200 ≤ code ∧ code ≤ 299 then json.isSome = true else err.isSome = true := by
  constructor
  · rintro ⟨⟨hLow, hHigh⟩, hJson, hErr⟩
    refine ⟨hLow, hHigh, ?_⟩
    split
    · rename_i hOk
      exact hJson hOk
    · rename_i hOk
      exact hErr hOk
  · rintro ⟨hLow, hHigh, hText⟩
    split at hText
    · rename_i hOk
      exact ⟨⟨hLow, hHigh⟩, fun _ => hText, fun hNot => absurd hOk hNot⟩
    · rename_i hNot
      exact ⟨⟨hLow, hHigh⟩, fun hOk => absurd hOk hNot, fun _ => hText⟩

theorem complete_restRespondOf (print : Printer) (answer : Option CJson) :
    (∃ respond, restRespondOf print answer = some respond ∧ respond.Complete) ↔
      ∃ item, answer = some item ∧ AnswersRest item := by
  cases answer with
  | none =>
    refine iff_of_false ?_ ?_
    · rintro ⟨respond, hRespond, hComplete⟩
      cases hRespond
      exact not_complete_of_nan hComplete
    · rintro ⟨item, hItem, -⟩
      cases hItem
  | some item =>
    simp only [Option.some.injEq, exists_eq_left', restRespondOf, Option.bind_some]
    cases hCode : item.getObjectItem "code" with
    | none =>
      refine iff_of_false ?_ ?_
      · rintro ⟨respond, hRespond, hComplete⟩
        rw [Option.map_none, Option.getD_none] at hRespond
        split at hRespond
        · cases hRespond
          exact not_complete_of_nan hComplete
        · obtain ⟨text, -, rfl⟩ := Option.map_eq_some_iff.mp hRespond
          exact not_complete_of_nan hComplete
      · rintro ⟨⟨code, hSome, -⟩, -⟩
        rw [hCode] at hSome
        cases hSome
    | some code =>
      rw [answersRest_iff hCode, Option.map_some, Option.getD_some]
      cases hErr : item.getObjectItem "err" with
      | none => simp [complete_iff]
      | some err =>
        cases hText : err.valuestring with
        | none => simp [hText]
        | some text => simp [complete_iff, hText]

/-- A REST call returns with a response that can be sent exactly when the proxy does not end the
wait in another way than by its death or by an answer that follows the rules. -/
theorem restRespond_complete_iff (library : JsonLibrary) (run : RestRun) :
    (∃ returned, proxyChannelRest library run = some returned ∧ returned.respond.Complete) ↔
      run.Answered library := by
  have hIdle := proxyChannelIdleWait_iff run.idle
  unfold RestRun.Answered
  simp only [proxyChannelRest]
  by_cases hRefuses : run.idle.Refuses
  · rw [if_neg fun hTrue => hIdle.mp hTrue hRefuses]
    exact iff_of_true ⟨_, rfl, RestRespond.complete_failed _⟩ (.inl hRefuses)
  rw [if_pos (hIdle.mpr hRefuses)]
  cases run.created with
  | false => exact iff_of_true ⟨_, rfl, RestRespond.complete_failed _⟩ (.inr (.inl rfl))
  | true =>
    simp only [if_true, hRefuses, false_or, reduceCtorEq]
    split
    · rename_i hDead
      exact iff_of_true ⟨_, rfl, RestRespond.complete_failed _⟩ (.inl hDead)
    · rename_i hAlive
      simp only [hAlive, false_or]
      split
      · rename_i hResponds
        simp only [hResponds, true_and]
        cases run.answer with
        | none =>
          refine iff_of_true ⟨_, rfl, RestRespond.complete_failed _⟩ ?_
          intro text hText
          cases hText
        | some text =>
          have hAnswer := complete_restRespondOf library.print (library.parse text)
          simpa [Option.map_eq_some_iff] using hAnswer
      · rename_i hOther
        refine iff_of_false ?_ fun h => hOther h.1
        rintro ⟨returned, hReturned, hComplete⟩
        cases hReturned
        exact hComplete.not_code_lt (show (0 : Int) < 100 by decide)

/-- `proxy_channel_stop` terminates the channel while the call waits for the answer. -/
def terminatedCall : RestRun where
  idle := ⟨⟨.zero, .channelIdle⟩, ⟨.zero, .channelIdle⟩⟩
  created := true
  answered := ⟨.zero, .channelTermination⟩
  answer := none

theorem not_restRespond_complete :
    ¬ ∀ (library : JsonLibrary) (run : RestRun),
      ∃ returned, proxyChannelRest library run = some returned ∧ returned.respond.Complete := by
  intro h
  obtain ⟨returned, hReturned, hComplete⟩ := h ⟨printUnformatted, fun _ => none⟩ terminatedCall
  cases hReturned
  exact hComplete.not_code_lt (by decide)

end Gonggo
