import Gonggo.Library.CString

/-! # The configuration file

The lines of the file become a list of keys with their values. A line is cut at its first '=' before
anything is known of a comment, and each half is then cut at its own '#'.
-/

namespace Gonggo

open CString

/-- An entry of the list; a key without a value makes none. -/
structure ConfVar where
  name : String
  value : String
  filled : value ≠ ""
deriving DecidableEq

/-- The lines that `getline` returns one after the other, each with its newline. -/
def getlines : List Char → List (List Char)
  | [] => []
  | c :: rest =>
      if c = '\n' then [c] :: getlines rest
      else
        match getlines rest with
        | [] => [[c]]
        | line :: lines => (c :: line) :: lines

/-- The loop of `squeeze_space`: one pointer reads, and one writes behind it. -/
def squeezeLoop : Nat → List Char → Nat → Nat → List Char × Nat
  | 0, buffer, _, run => (buffer, run)
  | turns + 1, buffer, p, run =>
      let c := charAt buffer p
      if c ≠ terminator ∧ c ≠ '#' then
        if c ≠ ' ' ∧ c ≠ '\t' then squeezeLoop turns (poke buffer run c) (p + 1) (run + 1)
        else squeezeLoop turns buffer (p + 1) run
      else (buffer, run)

def squeezeSpace (buffer : List Char) (stmt : Nat) : List Char :=
  let squeezed := squeezeLoop buffer.length buffer stmt stmt
  poke squeezed.1 squeezed.2 terminator

/-- `parse` behind the cut at the newline. -/
def ConfVar.parseCut (line : List Char) : Option ConfVar :=
  match strchr line 0 '=' with
  | none => none
  | some t =>
      let key := squeezeSpace (poke line t terminator) 0
      let val := squeezeSpace key (t + 1)
      if h : 0 < (textAt val (t + 1)).length then
        some {
          name := String.ofList (textAt val 0)
          value := String.ofList (textAt val (t + 1))
          filled := mt String.ofList_eq_empty_iff.mp (List.length_pos_iff.mp h) }
      else none

def ConfVar.parse (line : List Char) : Option ConfVar :=
  match strchr line 0 '\n' with
  | some t => ConfVar.parseCut (poke line t terminator)
  | none => ConfVar.parseCut line

def ConfVar.create (content : String) : List ConfVar :=
  (getlines content.toList).filterMap fun line => ConfVar.parse (strdup line)

/-- The list of a file, empty when the file cannot be opened. -/
def confvarCreate (file : Option String) : List ConfVar :=
  match file with
  | none => []
  | some content => ConfVar.create content

def confvarValue (head : List ConfVar) (key : String) : Option String :=
  (head.find? fun p => p.name = key).map ConfVar.value

/-! ## The grammar of the file -/

def unspaced (text : List Char) : List Char := text.filter fun c => c ≠ ' ' ∧ c ≠ '\t'

def beforeComment (text : List Char) : List Char := text.takeWhile (· ≠ '#')

/-- What stands behind the first '='. -/
def behindEquals (text : List Char) : List Char := (text.dropWhile (· ≠ '=')).drop 1

/-- A pair is kept when it has a value. -/
def keptPair (key value : List Char) : Option (String × String) :=
  if unspaced value = [] then none
  else some (String.ofList (unspaced key), String.ofList (unspaced value))

/-- The pair of a line: the comment is dropped first. -/
def referencePair (line : List Char) : Option (String × String) :=
  if '=' ∈ beforeComment line then
    keptPair ((beforeComment line).takeWhile (· ≠ '=')) (behindEquals (beforeComment line))
  else none

/-- The first pair of a key wins. -/
def firstValue (pairs : List (String × String)) (key : String) : Option String :=
  (pairs.find? fun pair => pair.1 = key).map Prod.snd

def referenceIn (lines : List (List Char)) (key : String) : Option String :=
  firstValue (lines.filterMap referencePair) key

def referenceValue (content key : String) : Option String :=
  referenceIn (content.toList.splitOn '\n') key

/-- The pair of a line whose first '=' stands in its comment: the text in front of the comment
becomes the key. -/
def commentPair (line : List Char) : Option (String × String) :=
  if '=' ∉ beforeComment line ∧ '=' ∈ line then
    keptPair (beforeComment line) (beforeComment (behindEquals line))
  else none

/-- The pair that the code makes of a line. -/
def linePair (line : List Char) : Option (String × String) :=
  if '=' ∈ line then
    keptPair (beforeComment (line.takeWhile (· ≠ '='))) (beforeComment (behindEquals line))
  else none

/-! ## Squeezing in place -/

/-- Writing a character behind what is kept leaves as much in between as before. -/
theorem exists_poke_behind (front gap tail : List Char) (c : Char) :
    ∃ gap' : List Char, gap'.length = gap.length ∧
      poke (front ++ (gap ++ c :: tail)) front.length c = front ++ c :: (gap' ++ tail) := by
  cases gap with
  | nil => exact ⟨[], rfl, by simp [poke]⟩
  | cons first gap => exact ⟨gap ++ [c], by simp, by simp [poke]⟩

theorem beforeComment_cons {c : Char} (h : c ≠ '#') (text : List Char) :
    beforeComment (c :: text) = c :: beforeComment text := by
  simp [beforeComment, h]

theorem beforeComment_comment (text : List Char) : beforeComment ('#' :: text) = [] := by
  simp [beforeComment]

/-- The loop keeps what stands in front of the comment, without its blanks. -/
theorem squeezeLoop_eq (front gap rest : List Char) {text : List Char} (h : terminator ∉ text)
    {turns : Nat} (hTurns : text.length < turns) :
    ∃ gap' : List Char,
      (unspaced (beforeComment text) ++ gap').length = (gap ++ text).length ∧
      squeezeLoop turns (front ++ (gap ++ (text ++ terminator :: rest)))
          (front ++ gap).length front.length =
        (front ++ (unspaced (beforeComment text) ++ (gap' ++ terminator :: rest)),
          front.length + (unspaced (beforeComment text)).length) := by
  induction turns generalizing front gap text with
  | zero => exact absurd hTurns (Nat.not_lt_zero _)
  | succ turns ih =>
    cases text with
    | nil =>
      refine ⟨gap, by simp [beforeComment, unspaced], ?_⟩
      have hChar : charAt (front ++ (gap ++ ([] ++ terminator :: rest))) (front ++ gap).length =
          terminator := by
        rw [List.nil_append, ← List.append_assoc]
        exact charAt_append
      unfold squeezeLoop
      rw [hChar, if_neg fun hGo => hGo.1 rfl]
      simp [beforeComment, unspaced]
    | cons c text =>
      have hText : terminator ∉ text := fun hIn => h (List.mem_cons_of_mem _ hIn)
      have hLess : text.length < turns := Nat.lt_of_succ_lt_succ hTurns
      have hEnd : c ≠ terminator := fun hEq => h (hEq ▸ List.mem_cons_self)
      have hChar : charAt (front ++ (gap ++ (c :: text ++ terminator :: rest))) (front ++ gap).length =
          c := by
        rw [List.cons_append, ← List.append_assoc]
        exact charAt_append
      by_cases hHash : c = '#'
      · subst hHash
        refine ⟨gap ++ '#' :: text, by simp [beforeComment_comment, unspaced], ?_⟩
        unfold squeezeLoop
        rw [hChar, if_neg fun hGo => hGo.2 rfl]
        simp [beforeComment_comment, unspaced]
      · rw [beforeComment_cons hHash]
        by_cases hBlank : c ≠ ' ' ∧ c ≠ '\t'
        · obtain ⟨moved, hMoved, hPoke⟩ := exists_poke_behind front gap (text ++ terminator :: rest) c
          obtain ⟨gap', hLength, hLoop⟩ := ih (front ++ [c]) moved hText hLess
          have hKeep : unspaced (c :: beforeComment text) = c :: unspaced (beforeComment text) := by
            simp [unspaced, hBlank]
          refine ⟨gap', ?_, ?_⟩
          · rw [hKeep]
            simp only [List.length_append, List.length_cons] at hLength ⊢
            omega
          · have hRead : (front ++ [c] ++ moved).length = (front ++ gap).length + 1 := by
              simp [hMoved]
              omega
            unfold squeezeLoop
            rw [hChar, hKeep, if_pos ⟨hEnd, hHash⟩, if_pos hBlank, List.cons_append, hPoke]
            rw [hRead] at hLoop
            simpa [Nat.add_assoc, Nat.add_left_comm, Nat.add_comm] using hLoop
        · obtain ⟨gap', hLength, hLoop⟩ := ih front (gap ++ [c]) hText hLess
          have hDrop : unspaced (c :: beforeComment text) = unspaced (beforeComment text) := by
            simp only [unspaced]
            exact List.filter_cons_of_neg (by simpa using hBlank)
          refine ⟨gap', ?_, ?_⟩
          · rw [hDrop]
            simpa using hLength
          · unfold squeezeLoop
            rw [hChar, hDrop, if_pos ⟨hEnd, hHash⟩, if_neg hBlank]
            simpa [Nat.add_assoc] using hLoop

theorem not_mem_unspaced {text : List Char} (h : terminator ∉ text) :
    terminator ∉ unspaced (beforeComment text) := fun hIn =>
  h ((List.takeWhile_prefix _).subset (List.mem_filter.mp hIn |>.1))

/-- A text is squeezed in its own place, and what stands behind it stays. -/
theorem squeezeSpace_eq (front rest : List Char) {text : List Char} (h : terminator ∉ text) :
    ∃ cut : List Char, cut.length = text.length ∧
      (cut.takeWhile fun c => c != terminator) = unspaced (beforeComment text) ∧
      squeezeSpace (front ++ (text ++ terminator :: rest)) front.length =
        front ++ (cut ++ terminator :: rest) := by
  obtain ⟨gap, hLength, hLoop⟩ := squeezeLoop_eq front [] rest h
    (show text.length < (front ++ (text ++ terminator :: rest)).length by simp; omega)
  rw [List.append_nil, List.nil_append] at hLoop
  have hKept := not_mem_unspaced h
  have hWhole := bne_of_not_mem hKept
  rw [squeezeSpace, hLoop]
  cases gap with
  | nil =>
    refine ⟨unspaced (beforeComment text), by simpa using hLength,
      List.takeWhile_eq_self_iff.mpr hWhole, ?_⟩
    rw [List.nil_append, poke_append]
  | cons first gap =>
    refine ⟨unspaced (beforeComment text) ++ terminator :: gap, by simpa using hLength, ?_, ?_⟩
    · rw [List.takeWhile_append_of_pos hWhole]
      simp
    · rw [List.cons_append, poke_append]
      simp

/-! ## The pair of a line -/

def ConfVar.pair (p : ConfVar) : String × String := (p.name, p.value)

theorem splitEquals_of_first {before : List Char} (hFirst : '=' ∉ before) (after : List Char) :
    (before ++ '=' :: after).takeWhile (· ≠ '=') = before ∧
      behindEquals (before ++ '=' :: after) = after := by
  have hBefore := decide_ne_of_not_mem hFirst
  rw [behindEquals, List.takeWhile_append_of_pos hBefore, List.dropWhile_append_of_pos hBefore]
  simp

theorem pair_parseCut (rest : List Char) {line : List Char} (h : terminator ∉ line) :
    (ConfVar.parseCut (line ++ terminator :: rest)).map ConfVar.pair = linePair line := by
  unfold ConfVar.parseCut linePair
  by_cases hMem : '=' ∈ line
  · obtain ⟨before, after, rfl, hFirst⟩ := List.eq_append_cons_of_mem hMem
    have hBefore : terminator ∉ before := fun hIn => h (List.mem_append_left _ hIn)
    have hAfter : terminator ∉ after := fun hIn =>
      h (List.mem_append_right _ (List.mem_cons_of_mem _ hIn))
    have hPoke : poke (before ++ '=' :: after ++ terminator :: rest) before.length terminator =
        before ++ terminator :: (after ++ terminator :: rest) := by
      rw [List.append_assoc, List.cons_append, poke_start]
    obtain ⟨key, hLength, hKey, hKeySqueezed⟩ :=
      squeezeSpace_eq [] (after ++ terminator :: rest) hBefore
    obtain ⟨val, -, hVal, hValSqueezed⟩ := squeezeSpace_eq (key ++ [terminator]) rest hAfter
    have hBehind : (key ++ [terminator]).length = before.length + 1 := by simp [hLength]
    have hKeyText : textAt (key ++ [terminator] ++ (val ++ terminator :: rest)) 0 =
        unspaced (beforeComment before) := by
      rw [← hKey, List.append_assoc, List.singleton_append, textAt_start]
    have hValText : textAt (key ++ [terminator] ++ (val ++ terminator :: rest)) (before.length + 1) =
        unspaced (beforeComment after) := by
      rw [← hVal, ← hBehind]
      exact textAt_append_takeWhile
    have hSqueezed : squeezeSpace (squeezeSpace (before ++ terminator :: (after ++ terminator :: rest)) 0)
        (before.length + 1) = key ++ [terminator] ++ (val ++ terminator :: rest) := by
      rw [hBehind] at hValSqueezed
      simp only [List.nil_append, List.length_nil] at hKeySqueezed
      rw [hKeySqueezed, ← hValSqueezed, List.append_assoc, List.singleton_append]
    obtain ⟨hTake, hDrop⟩ := splitEquals_of_first hFirst after
    rw [strchr_start_of_first h hFirst, if_pos hMem, hTake, hDrop]
    simp only [hPoke, hSqueezed, hKeyText, hValText, List.length_pos_iff, keptPair]
    by_cases hNil : unspaced (beforeComment after) = []
    · rw [dif_neg (not_not_intro hNil), if_pos hNil]
      rfl
    · rw [dif_pos hNil, if_neg hNil]
      rfl
  · rw [strchr_start_of_not_mem h hMem, if_neg hMem]
    rfl

/-- With its newline or without, a line makes the same pair. -/
theorem pair_parse_newline {line : List Char} (h : terminator ∉ line) (hLine : '\n' ∉ line) :
    (ConfVar.parse (strdup (line ++ ['\n']))).map ConfVar.pair = linePair line := by
  have hText : terminator ∉ line ++ '\n' :: [] := by
    simp [h, show terminator ≠ '\n' by decide]
  have hNewline : strchr (strdup (line ++ ['\n'])) 0 '\n' = some line.length :=
    strchr_start_of_first hText hLine
  have hPoke : poke (strdup (line ++ ['\n'])) line.length terminator =
      line ++ terminator :: [terminator] := by
    rw [strdup, List.append_assoc, List.singleton_append, poke_start]
  rw [ConfVar.parse, hNewline, ← pair_parseCut [terminator] h, ← hPoke]

theorem pair_parse {line : List Char} (h : terminator ∉ line) (hLine : '\n' ∉ line) :
    (ConfVar.parse (strdup line)).map ConfVar.pair = linePair line := by
  have hNone : strchr (strdup line) 0 '\n' = none := strchr_start_of_not_mem h hLine
  rw [ConfVar.parse, hNone, ← pair_parseCut [] h]
  rfl

/-! ## The pairs of a file -/

theorem getlines_of_not_mem {line : List Char} (h : '\n' ∉ line) :
    getlines line = if line = [] then [] else [line] := by
  induction line with
  | nil => rfl
  | cons c line ih =>
    have hChar : c ≠ '\n' := fun hEq => h (hEq ▸ List.mem_cons_self)
    rw [getlines, if_neg hChar, ih fun hIn => h (List.mem_cons_of_mem _ hIn),
      if_neg (List.cons_ne_nil c line)]
    by_cases hNil : line = []
    · rw [if_pos hNil, hNil]
    · rw [if_neg hNil]

theorem getlines_append {line : List Char} (h : '\n' ∉ line) (rest : List Char) :
    getlines (line ++ '\n' :: rest) = (line ++ ['\n']) :: getlines rest := by
  induction line with
  | nil => simp [getlines]
  | cons c line ih =>
    have hChar : c ≠ '\n' := fun hEq => h (hEq ▸ List.mem_cons_self)
    rw [List.cons_append, getlines, if_neg hChar, ih fun hIn => h (List.mem_cons_of_mem _ hIn)]
    rfl

/-- The list holds the pairs of the lines, however the last line ends. -/
theorem pairs_getlines {text : List Char} (h : terminator ∉ text) :
    ((getlines text).filterMap fun line => (ConfVar.parse (strdup line)).map ConfVar.pair) =
      (text.splitOn '\n').filterMap linePair := by
  induction hCount : text.count '\n' generalizing text with
  | zero =>
    have hLine : '\n' ∉ text := List.count_eq_zero.mp hCount
    rw [getlines_of_not_mem hLine, List.splitOn_eq_singleton hLine]
    by_cases hNil : text = []
    · subst hNil
      rfl
    · rw [if_neg hNil, List.filterMap_cons, List.filterMap_cons, pair_parse h hLine]
      rfl
  | succ count ih =>
    have hMem : '\n' ∈ text := List.count_pos_iff.mp (by omega)
    obtain ⟨line, rest, rfl, hLine⟩ := List.eq_append_cons_of_mem hMem
    have hBefore : terminator ∉ line := fun hIn => h (List.mem_append_left _ hIn)
    have hRest : terminator ∉ rest := fun hIn =>
      h (List.mem_append_right _ (List.mem_cons_of_mem _ hIn))
    have hLess : rest.count '\n' = count := by
      rw [List.count_append, List.count_cons_self, List.count_eq_zero.mpr hLine] at hCount
      omega
    rw [getlines_append hLine, List.splitOn_append_cons_self, List.splitOn_eq_singleton hLine,
      List.singleton_append, List.filterMap_cons, List.filterMap_cons,
      pair_parse_newline hBefore hLine, ih hRest hLess]

theorem confvarValue_eq (content key : String) (h : terminator ∉ content.toList) :
    confvarValue (confvarCreate (some content)) key =
      firstValue ((content.toList.splitOn '\n').filterMap linePair) key := by
  rw [firstValue, ← pairs_getlines h, ← List.map_filterMap, List.find?_map, Option.map_map]
  rfl

/-! ## Comments that set a key -/

theorem beforeComment_append_of_mem {text : List Char} (h : '#' ∈ text) (rest : List Char) :
    beforeComment (text ++ rest) = beforeComment text := by
  obtain ⟨before, after, rfl, hFirst⟩ := List.eq_append_cons_of_mem h
  have hBefore := decide_ne_of_not_mem hFirst
  rw [List.append_assoc, beforeComment, beforeComment, List.takeWhile_append_of_pos hBefore,
    List.takeWhile_append_of_pos hBefore]
  simp

theorem beforeComment_append_of_not_mem {text : List Char} (h : '#' ∉ text) (rest : List Char) :
    beforeComment (text ++ rest) = text ++ beforeComment rest :=
  List.takeWhile_append_of_pos (decide_ne_of_not_mem h)

/-- A line makes the pair of the grammar, or one that is set by its comment. -/
theorem linePair_eq (line : List Char) :
    linePair line = (referencePair line).or (commentPair line) := by
  unfold linePair referencePair commentPair
  by_cases hMem : '=' ∈ line
  · obtain ⟨before, after, rfl, hFirst⟩ := List.eq_append_cons_of_mem hMem
    obtain ⟨hTake, hDrop⟩ := splitEquals_of_first hFirst after
    by_cases hHash : '#' ∈ before
    · have hNone : '=' ∉ beforeComment before := fun hIn =>
        hFirst ((List.takeWhile_prefix _).subset hIn)
      rw [if_pos hMem, hTake, hDrop, beforeComment_append_of_mem hHash, if_neg hNone,
        if_pos ⟨hNone, hMem⟩, Option.none_or]
    · have hCode : beforeComment (before ++ '=' :: after) = before ++ '=' :: beforeComment after := by
        rw [beforeComment_append_of_not_mem hHash, beforeComment_cons (by decide)]
      have hBefore : beforeComment before = before := by
        simpa [beforeComment] using beforeComment_append_of_not_mem hHash []
      have hIn : '=' ∈ before ++ '=' :: beforeComment after := by simp
      obtain ⟨hCodeTake, hCodeDrop⟩ := splitEquals_of_first hFirst (beforeComment after)
      rw [if_pos hMem, hTake, hDrop, hCode, hBefore, if_pos hIn, hCodeTake, hCodeDrop,
        if_neg fun hNot => hNot.1 hIn, Option.or_none]
  · have hNone : '=' ∉ beforeComment line := fun hIn => hMem ((List.takeWhile_prefix _).subset hIn)
    rw [if_neg hMem, if_neg hNone, if_neg fun hBoth => hMem hBoth.2]
    rfl

theorem referencePair_of_commentPair {line : List Char} {pair : String × String}
    (h : commentPair line = some pair) : referencePair line = none := by
  unfold commentPair at h
  split at h
  · rename_i hComment
    exact if_neg hComment.1
  · cases h

/-- The first line for the key is one whose comment sets it, and the later lines do not give it the
same value. -/
inductive SetByComment (key : String) : List (List Char) → Prop
  | here {line : List Char} {lines : List (List Char)} {value : String}
      (hComment : commentPair line = some (key, value))
      (hLater : referenceIn lines key ≠ some value) : SetByComment key (line :: lines)
  | later {line : List Char} {lines : List (List Char)}
      (hReference : ∀ value, referencePair line ≠ some (key, value))
      (hComment : ∀ value, commentPair line ≠ some (key, value))
      (hLater : SetByComment key lines) : SetByComment key (line :: lines)

theorem firstValue_cons_self (key value : String) (pairs : List (String × String)) :
    firstValue ((key, value) :: pairs) key = some value := by
  simp [firstValue]

theorem firstValue_filterMap_of_ne {makePair : List Char → Option (String × String)} {key : String}
    {line : List Char} (h : ∀ value, makePair line ≠ some (key, value)) (lines : List (List Char)) :
    firstValue ((line :: lines).filterMap makePair) key = firstValue (lines.filterMap makePair) key := by
  cases hPair : makePair line with
  | none => rw [List.filterMap_cons_none hPair]
  | some pair =>
    have hName : pair.1 ≠ key := by
      rintro rfl
      exact h pair.2 hPair
    rw [List.filterMap_cons_some hPair, firstValue, List.find?_cons_of_neg (by simpa using hName)]
    rfl

theorem firstValue_lines_iff (key : String) (lines : List (List Char)) :
    firstValue (lines.filterMap linePair) key = referenceIn lines key ↔ ¬ SetByComment key lines := by
  induction lines with
  | nil => exact iff_of_true rfl nofun
  | cons line lines ih =>
    by_cases hReference : ∃ value, referencePair line = some (key, value)
    · -- The line sets the key in the grammar as in the code.
      obtain ⟨value, hReference⟩ := hReference
      have hLine : linePair line = some (key, value) := by
        rw [linePair_eq, hReference, Option.some_or]
      refine iff_of_true ?_ ?_
      · rw [referenceIn, List.filterMap_cons_some hLine, List.filterMap_cons_some hReference,
          firstValue_cons_self, firstValue_cons_self]
      · rintro (⟨hComment, -⟩ | ⟨hNot, -, -⟩)
        · rw [referencePair_of_commentPair hComment] at hReference
          cases hReference
        · exact hNot value hReference
    · simp only [not_exists] at hReference
      have hSkip : referenceIn (line :: lines) key = referenceIn lines key :=
        firstValue_filterMap_of_ne hReference lines
      by_cases hComment : ∃ value, commentPair line = some (key, value)
      · obtain ⟨value, hComment⟩ := hComment
        have hLine : linePair line = some (key, value) := by
          rw [linePair_eq, referencePair_of_commentPair hComment, Option.none_or, hComment]
        rw [hSkip, List.filterMap_cons_some hLine, firstValue_cons_self]
        constructor
        · rintro hSame (⟨hOther, hLater⟩ | ⟨-, hNot, -⟩)
          · rw [hComment, Option.some.injEq, Prod.mk.injEq] at hOther
            exact hLater (hOther.2 ▸ hSame.symm)
          · exact hNot value hComment
        · intro hNot
          by_contra hDiffers
          exact hNot (.here hComment fun hEq => hDiffers hEq.symm)
      · simp only [not_exists] at hComment
        have hLine : ∀ value, linePair line ≠ some (key, value) := by
          intro value hLine
          rw [linePair_eq, Option.or_eq_some_iff] at hLine
          rcases hLine with hLine | ⟨-, hLine⟩
          · exact hReference value hLine
          · exact hComment value hLine
        rw [hSkip, firstValue_filterMap_of_ne hLine, ih, not_iff_not]
        constructor
        · exact .later hReference hComment
        · rintro (⟨hHere, -⟩ | ⟨-, -, hLater⟩)
          · exact absurd hHere (hComment _)
          · exact hLater

/-- The lookup of the code is that of the grammar, unless a comment sets the key. -/
theorem confvarValue_reference_iff (content key : String) (h : terminator ∉ content.toList) :
    confvarValue (confvarCreate (some content)) key = referenceValue content key ↔
      ¬ SetByComment key (content.toList.splitOn '\n') := by
  rw [confvarValue_eq content key h, referenceValue, firstValue_lines_iff]

theorem confvarValue_reference_iff_commentedPort :
    confvarValue (confvarCreate (some "port # = 80\nport = 81")) "port" =
        referenceValue "port # = 80\nport = 81" "port" ↔
      ¬ SetByComment "port" ("port # = 80\nport = 81".toList.splitOn '\n') :=
  confvarValue_reference_iff _ _ (by decide)

example : confvarValue (confvarCreate (some "# c\n po rt = 80 80 # = 1\nport=1")) "port" = some "8080" := by
  decide

/-- The comment of a line without a value sets the port. -/
theorem not_confvarValue_reference :
    ¬ ∀ content key : String, terminator ∉ content.toList → key ≠ "" →
      confvarValue (confvarCreate (some content)) key = referenceValue content key := by
  intro h
  have hPort := h "port # = 80\nport = 81" "port" (by decide) (by decide)
  exact absurd hPort (by decide)

end Gonggo
