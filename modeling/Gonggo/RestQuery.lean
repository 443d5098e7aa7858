import Gonggo.Library.CString
import Gonggo.RestHandler
import Mathlib.Data.List.TakeWhile

/-! # Query strings of REST requests

The loop of `rest_handler` over the query string, on the copy that it cuts in place: a terminator
is written over each '&', and `rest_param_parse` writes one over the first '=' of the piece. What the
handler decodes is the list of the pieces.
-/

namespace Gonggo

open CString

/-- `rest_param_parse` on the text at a position, with the buffer that it leaves. -/
def restParamParseAt (buffer : List Char) (s : Nat) (json : CJson) : List Char × CJson :=
  if 0 < (textAt buffer s).length then
    match strchr buffer s '=' with
    | some p =>
        let cut := poke buffer p terminator
        (cut, json.addItemToObject (String.ofList (textAt cut s))
          (.string (String.ofList (textAt cut (p + 1)))))
    | none => (buffer, json.addItemToObject (String.ofList (textAt buffer s)) (.string "true"))
  else (buffer, json)

/-- The loop, with a bound on its turns; the text behind the last '&' is parsed after it. -/
def restParamsLoop : Nat → List Char → Nat → CJson → CJson
  | 0, _, _, json => json
  | turns + 1, buffer, run, json =>
      match strchr buffer run '&' with
      | some p =>
          let parsed := restParamParseAt (poke buffer p terminator) run json
          restParamsLoop turns parsed.1 (p + 1) parsed.2
      | none => (restParamParseAt buffer run json).2

/-- The object of a GET request: each turn but the last takes up one '&'. -/
def restParamJson (queryString : String) : CJson :=
  restParamsLoop (queryString.toList.length + 1) (strdup queryString.toList) 0 (.object [])

/-! ## The loop on the buffer -/

theorem strchrCut_of_first {separator : Char} {before : List Char} (hFirst : separator ∉ before)
    (after : List Char) :
    strchrCut separator (String.ofList (before ++ separator :: after)) =
      (String.ofList before, some (String.ofList after)) := by
  have hBefore := bne_of_not_mem hFirst
  rw [strchrCut, String.toList_ofList, List.takeWhile_append_of_pos hBefore,
    List.dropWhile_append_of_pos hBefore]
  simp

theorem strchrCut_of_not_mem {separator : Char} {text : List Char} (h : separator ∉ text) :
    strchrCut separator (String.ofList text) = (String.ofList text, none) := by
  have hText := bne_of_not_mem h
  rw [strchrCut, String.toList_ofList, List.takeWhile_eq_self_iff.mpr hText,
    List.dropWhile_eq_nil_iff.mpr hText]
  rfl

/-- Parsing a piece leaves the terminator behind it, and what stands there, in place. -/
theorem restParamParseAt_eq (front rest : List Char) {piece : List Char} (h : terminator ∉ piece)
    (json : CJson) :
    ∃ cut : List Char, cut.length = piece.length ∧
      restParamParseAt (front ++ (piece ++ terminator :: rest)) front.length json =
        (front ++ (cut ++ terminator :: rest), restParamParse json (String.ofList piece)) := by
  unfold restParamParseAt restParamParse
  rw [textAt_append h]
  cases piece with
  | nil => exact ⟨[], rfl, by simp⟩
  | cons head tail =>
    rw [if_pos (by simp), if_neg (by simp [String.ofList_eq_empty_iff])]
    by_cases hMem : '=' ∈ head :: tail
    · obtain ⟨before, after, hPiece, hFirst⟩ := List.eq_append_cons_of_mem hMem
      rw [hPiece] at h ⊢
      have hBefore : terminator ∉ before := fun hIn => h (List.mem_append_left _ hIn)
      have hAfter : terminator ∉ after := fun hIn =>
        h (List.mem_append_right _ (List.mem_cons_of_mem _ hIn))
      refine ⟨before ++ terminator :: after, by simp, ?_⟩
      rw [strchr_of_first h hFirst, strchrCut_of_first hFirst]
      simp only [List.append_assoc, List.cons_append, poke_append, textAt_append hBefore,
        textAt_behind hAfter, Option.getD_some]
    · refine ⟨head :: tail, rfl, ?_⟩
      rw [strchr_of_not_mem h hMem, strchrCut_of_not_mem hMem]
      rfl

theorem restParamsLoop_eq (front rest : List Char) {text : List Char} (h : terminator ∉ text)
    {turns : Nat} (hTurns : text.count '&' < turns) (json : CJson) :
    restParamsLoop turns (front ++ (text ++ terminator :: rest)) front.length json =
      ((text.splitOn '&').map String.ofList).foldl restParamParse json := by
  -- every turn takes up one '&', so there are turns enough for the text behind it
  induction turns generalizing front text json with
  | zero => exact absurd hTurns (Nat.not_lt_zero _)
  | succ turns ih =>
    unfold restParamsLoop
    by_cases hMem : '&' ∈ text
    · obtain ⟨before, after, rfl, hFirst⟩ := List.eq_append_cons_of_mem hMem
      have hBefore : terminator ∉ before := fun hIn => h (List.mem_append_left _ hIn)
      have hAfter : terminator ∉ after := fun hIn =>
        h (List.mem_append_right _ (List.mem_cons_of_mem _ hIn))
      have hLeft : after.count '&' < turns := by
        rw [List.count_append, List.count_cons_self] at hTurns
        omega
      rw [strchr_of_first h hFirst, List.splitOn_append_cons_self, List.splitOn_eq_singleton hFirst]
      simp only [List.append_assoc, List.cons_append, poke_append]
      obtain ⟨cut, hLength, hParsed⟩ := restParamParseAt_eq front
        (after ++ terminator :: rest) hBefore json
      rw [hParsed]
      have hRest := ih (front ++ (cut ++ [terminator])) hAfter hLeft
        (restParamParse json (String.ofList before))
      have hLength : front.length + before.length + 1 = (front ++ (cut ++ [terminator])).length := by
        simp [hLength, Nat.add_assoc]
      rw [hLength]
      simpa using hRest
    · rw [strchr_of_not_mem h hMem, List.splitOn_eq_singleton hMem]
      obtain ⟨cut, -, hParsed⟩ := restParamParseAt_eq front rest h json
      rw [hParsed]
      rfl

/-- The copy that is cut in place gives the object of the pieces. -/
theorem restParamJson_eq {queryString : String} (h : terminator ∉ queryString.toList) :
    restParamJson queryString = restQueryParse queryString := by
  have hTurns : queryString.toList.count '&' < queryString.toList.length + 1 :=
    Nat.lt_succ_of_le List.count_le_length
  exact restParamsLoop_eq [] [] h hTurns (.object [])

/-! ## The pieces -/

/-- The name and the value of a piece. -/
def pieceParam (piece : List Char) : String × String :=
  (String.ofList (piece.takeWhile (· ≠ '=')),
    if '=' ∈ piece then String.ofList ((piece.dropWhile (· ≠ '=')).drop 1) else "true")

def queryParams (queryString : String) : List (String × String) :=
  ((queryString.toList.splitOn '&').filter (· ≠ [])).map pieceParam

def stringMember (param : String × String) : String × CJson := (param.1, .string param.2)

theorem pieceParam_of_first {before : List Char} (hFirst : '=' ∉ before) (after : List Char) :
    pieceParam (before ++ '=' :: after) = (String.ofList before, String.ofList after) := by
  have hBefore := decide_ne_of_not_mem hFirst
  rw [pieceParam, List.takeWhile_append_of_pos hBefore, List.dropWhile_append_of_pos hBefore]
  simp

theorem pieceParam_of_not_mem {piece : List Char} (h : '=' ∉ piece) :
    pieceParam piece = (String.ofList piece, "true") := by
  have hPiece := decide_ne_of_not_mem h
  rw [pieceParam, List.takeWhile_eq_self_iff.mpr hPiece, if_neg h]

theorem restParamParse_object (members : List (String × CJson)) (piece : List Char) :
    restParamParse (.object members) (String.ofList piece) =
      .object (members ++ (([piece].filter (· ≠ [])).map pieceParam).map stringMember) := by
  unfold restParamParse
  by_cases hNil : piece = []
  · subst hNil
    simp
  · have hFilter : [piece].filter (· ≠ []) = [piece] := by simp [hNil]
    rw [if_neg (mt String.ofList_eq_empty_iff.mp hNil), hFilter, List.map_singleton,
      List.map_singleton]
    by_cases hMem : '=' ∈ piece
    · obtain ⟨before, after, rfl, hFirst⟩ := List.eq_append_cons_of_mem hMem
      rw [strchrCut_of_first hFirst, pieceParam_of_first hFirst]
      rfl
    · rw [strchrCut_of_not_mem hMem, pieceParam_of_not_mem hMem]
      rfl

theorem restQueryParse_eq (queryString : String) :
    restQueryParse queryString = .object ((queryParams queryString).map stringMember) := by
  have hPieces : ∀ (pieces : List (List Char)) (members : List (String × CJson)),
      (pieces.map String.ofList).foldl restParamParse (.object members) =
        .object (members ++ ((pieces.filter (· ≠ [])).map pieceParam).map stringMember) := by
    intro pieces
    induction pieces with
    | nil => simp
    | cons piece pieces ih =>
      intro members
      have hFilter : (piece :: pieces).filter (· ≠ []) =
          [piece].filter (· ≠ []) ++ pieces.filter (· ≠ []) := by
        rw [← List.filter_append, List.singleton_append]
      rw [List.map_cons, List.foldl_cons, restParamParse_object, ih, hFilter, List.map_append,
        List.map_append, List.append_assoc]
  exact hPieces (queryString.toList.splitOn '&') []

/-! ## Lists of parameters -/

/-- The parameters as a query string. -/
def joinParams (params : List (String × String)) : String :=
  String.ofList (List.intercalate ['&'] (params.map fun param =>
    param.1.toList ++ '=' :: param.2.toList))

/-- A parameter that a query string can hold. -/
structure PlainParam (param : String × String) : Prop where
  named : param.1 ≠ ""
  name : '&' ∉ param.1.toList ∧ '=' ∉ param.1.toList ∧ terminator ∉ param.1.toList
  value : '&' ∉ param.2.toList ∧ terminator ∉ param.2.toList

theorem PlainParam.pieceParam_eq {param : String × String} (h : PlainParam param) :
    pieceParam (param.1.toList ++ '=' :: param.2.toList) = param := by
  rw [pieceParam_of_first h.name.2.1, String.ofList_toList, String.ofList_toList]

theorem queryParams_joinParams {params : List (String × String)}
    (h : ∀ param ∈ params, PlainParam param) : queryParams (joinParams params) = params := by
  cases params with
  | nil => rfl
  | cons first others =>
    have hNoAmp : ∀ piece ∈ (first :: others).map fun param : String × String =>
        param.1.toList ++ '=' :: param.2.toList, '&' ∉ piece := by
      intro piece hPiece
      obtain ⟨param, hParam, rfl⟩ := List.mem_map.mp hPiece
      have hPlain := h param hParam
      simp [hPlain.name.1, hPlain.value.1]
    rw [queryParams, joinParams, String.toList_ofList,
      List.splitOn_intercalate '&' hNoAmp (by simp), List.filter_eq_self.mpr, List.map_map]
    · conv_rhs => rw [← List.map_id (first :: others)]
      apply List.map_congr_left
      intro param hParam
      exact (h param hParam).pieceParam_eq
    · intro piece hPiece
      obtain ⟨param, -, rfl⟩ := List.mem_map.mp hPiece
      simp

theorem not_mem_intercalate {c separator : Char} (hSeparator : c ≠ separator) :
    ∀ {pieces : List (List Char)}, (∀ piece ∈ pieces, c ∉ piece) →
      c ∉ List.intercalate [separator] pieces
  | [], _ => List.not_mem_nil
  | [piece], h => by
    rw [List.intercalate_singleton]
    exact h piece List.mem_cons_self
  | piece :: next :: rest, h => by
    have hRest : c ∉ List.intercalate [separator] (next :: rest) :=
      not_mem_intercalate hSeparator fun other hOther => h other (List.mem_cons_of_mem _ hOther)
    rw [List.intercalate_cons_cons]
    simp [h piece List.mem_cons_self, hSeparator, hRest]

theorem not_mem_joinParams {params : List (String × String)}
    (h : ∀ param ∈ params, PlainParam param) : terminator ∉ (joinParams params).toList := by
  rw [joinParams, String.toList_ofList]
  apply not_mem_intercalate (by decide)
  intro piece hPiece
  obtain ⟨param, hParam, rfl⟩ := List.mem_map.mp hPiece
  have hPlain := h param hParam
  have hEquals : terminator ≠ '=' := by decide
  simp [hPlain.name.2.2, hPlain.value.2, hEquals]

/-- The handler decodes the pieces of every query string, and so gets back every list of parameters
that a query string can hold. -/
theorem restQuery_lossless :
    (∀ queryString : String, terminator ∉ queryString.toList →
      restParamJson queryString = .object ((queryParams queryString).map stringMember)) ∧
    ∀ params : List (String × String), (∀ param ∈ params, PlainParam param) →
      restParamJson (joinParams params) = .object (params.map stringMember) := by
  constructor
  · intro queryString h
    rw [restParamJson_eq h, restQueryParse_eq]
  · intro params h
    rw [restParamJson_eq (not_mem_joinParams h), restQueryParse_eq, queryParams_joinParams h]

def sampleParams : List (String × String) := [("city", "oslo"), ("city", "a=b"), ("unit", "")]

theorem restQuery_lossless_sampleParams :
    restParamJson "&city=oslo&&raw&=x" =
        .object ((queryParams "&city=oslo&&raw&=x").map stringMember) ∧
      restParamJson (joinParams sampleParams) = .object (sampleParams.map stringMember) := by
  refine ⟨restQuery_lossless.1 _ (by decide), restQuery_lossless.2 sampleParams ?_⟩
  intro param hParam
  simp only [sampleParams, List.mem_cons, List.not_mem_nil, or_false] at hParam
  rcases hParam with rfl | rfl | rfl <;> exact ⟨by decide, by decide, by decide⟩

example : queryParams "&city=oslo&&raw&=x" = [("city", "oslo"), ("raw", "true"), ("", "x")] := by decide

end Gonggo

