import Mathlib.Data.List.TakeWhile

/-! # C strings that are cut in place

A buffer holds texts that end at the next terminator. Programs cut such a text by writing a
terminator over one of its characters, and go on with a pointer behind it. The lemmas read a buffer
as what stands before the pointer, the text at the pointer, and what stands behind its terminator.
-/

namespace CString

def terminator : Char := '\x00'

/-- The text from a position on, up to its terminator. -/
def textAt (buffer : List Char) (p : Nat) : List Char :=
  (buffer.drop p).takeWhile fun c => c != terminator

def charAt (buffer : List Char) (p : Nat) : Char := buffer.getD p terminator

/-- The first place of a character in the text at a position. -/
def strchr (buffer : List Char) (p : Nat) (c : Char) : Option Nat :=
  ((textAt buffer p).findIdx? fun other => other == c).map fun i => p + i

def poke (buffer : List Char) (p : Nat) (c : Char) : List Char := buffer.set p c

/-- A fresh copy of a text. -/
def strdup (text : List Char) : List Char := text ++ [terminator]

variable {front text before after rest : List Char} {c : Char}

theorem bne_of_not_mem (h : c ∉ text) : ∀ other ∈ text, (other != c) = true := by
  intro other hOther
  simpa using ne_of_mem_of_not_mem hOther h

theorem decide_ne_of_not_mem (h : c ∉ text) : ∀ other ∈ text, decide (other ≠ c) = true := by
  intro other hOther
  simpa using ne_of_mem_of_not_mem hOther h

theorem findIdx?_of_not_mem (h : c ∉ text) : (text.findIdx? fun other => other == c) = none := by
  rw [List.findIdx?_eq_none_iff]
  intro other hOther
  simpa using ne_of_mem_of_not_mem hOther h

theorem charAt_append : charAt (front ++ c :: rest) front.length = c := by
  simp [charAt]

/-- A text ends at its own first terminator. -/
theorem textAt_append_takeWhile :
    textAt (front ++ (text ++ terminator :: rest)) front.length =
      text.takeWhile fun c => c != terminator := by
  rw [textAt, List.drop_left, List.takeWhile_append]
  split
  · rename_i hWhole
    rw [(List.takeWhile_prefix _).eq_of_length hWhole]
    simp
  · rfl

theorem textAt_append (h : terminator ∉ text) :
    textAt (front ++ (text ++ terminator :: rest)) front.length = text := by
  rw [textAt_append_takeWhile, List.takeWhile_eq_self_iff]
  exact bne_of_not_mem h

/-- The text behind a place that is cut. -/
theorem textAt_behind (h : terminator ∉ after) (old : Char) :
    textAt (front ++ (before ++ old :: (after ++ terminator :: rest)))
      (front.length + before.length + 1) = after := by
  have hText : textAt ((front ++ before ++ [old]) ++ (after ++ terminator :: rest))
      (front ++ before ++ [old]).length = after := textAt_append h
  simpa [Nat.add_assoc] using hText

theorem strchr_of_not_mem (h : terminator ∉ text) (hNot : c ∉ text) :
    strchr (front ++ (text ++ terminator :: rest)) front.length c = none := by
  rw [strchr, textAt_append h, findIdx?_of_not_mem hNot]
  rfl

theorem strchr_of_first (h : terminator ∉ before ++ c :: after) (hFirst : c ∉ before) :
    strchr (front ++ (before ++ c :: after ++ terminator :: rest)) front.length c =
      some (front.length + before.length) := by
  rw [strchr, textAt_append h, List.findIdx?_append, findIdx?_of_not_mem hFirst, List.findIdx?_cons]
  simp

theorem poke_append (old new : Char) :
    poke (front ++ (before ++ old :: after)) (front.length + before.length) new =
      front ++ (before ++ new :: after) := by
  rw [poke, List.set_append_right _ _ (by omega), List.set_append_right _ _ (by omega)]
  have hZero : front.length + before.length - front.length - before.length = 0 := by omega
  rw [hZero, List.set_cons_zero]

/-! ## At the start of a buffer -/

theorem textAt_start :
    textAt (text ++ terminator :: rest) 0 = text.takeWhile fun c => c != terminator :=
  (textAt_append_takeWhile : textAt ([] ++ (text ++ terminator :: rest)) [].length = _)

theorem strchr_start_of_not_mem (h : terminator ∉ text) (hNot : c ∉ text) :
    strchr (text ++ terminator :: rest) 0 c = none :=
  (strchr_of_not_mem h hNot : strchr ([] ++ (text ++ terminator :: rest)) [].length c = none)

theorem strchr_start_of_first (h : terminator ∉ before ++ c :: after) (hFirst : c ∉ before) :
    strchr (before ++ c :: after ++ terminator :: rest) 0 c = some before.length := by
  have hPlace : strchr ([] ++ (before ++ c :: after ++ terminator :: rest)) 0 c =
      some (0 + before.length) := strchr_of_first h hFirst
  rwa [List.nil_append, Nat.zero_add] at hPlace

theorem poke_start (old new : Char) :
    poke (before ++ old :: after) before.length new = before ++ new :: after := by
  have hCut : poke ([] ++ (before ++ old :: after)) (0 + before.length) new =
      [] ++ (before ++ new :: after) := poke_append old new
  rwa [List.nil_append, Nat.zero_add] at hCut

end CString
