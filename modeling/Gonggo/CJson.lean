import Gonggo.Define
import Mathlib.Data.Rat.Defs

/-! # cJSON items

The part of the cJSON tree the dispatcher reads: members are found by the first name that matches
up to ASCII case, and the number fields of an item that is no number keep their initial zero.
-/

namespace Gonggo

/-- The doubles that the text of a JSON number can denote. -/
inductive Double
  | finite (value : Rat)
  | infinite (negative : Bool)
  deriving DecidableEq, Repr

/-- Truncation towards zero. -/
def ratTrunc (value : Rat) : Int := value.num.tdiv value.den

/-- Conversion to a signed integer of `bits` bits; out of range it yields the least value, as the
x86-64 instruction does. -/
def Double.toSigned (bits : Nat) : Double → Int
  | .finite value =>
      let n := ratTrunc value
      if -(2 ^ (bits - 1)) ≤ n ∧ n < 2 ^ (bits - 1) then n else -(2 ^ (bits - 1))
  | .infinite _ => -(2 ^ (bits - 1))

theorem Double.toSigned_lt (value : Double) : value.toSigned 64 < 2 ^ 63 := by
  unfold toSigned
  split
  · simp only
    split
    · rename_i h
      exact h.2
    · decide
  · decide

/-- The `valueint` that the parser stores beside a double: saturated at both ends of `int`. -/
def Double.saturated : Double → Int
  | .finite value =>
      if (2 ^ 31 - 1 : Int) ≤ value then 2 ^ 31 - 1
      else if value ≤ (-(2 ^ 31) : Int) then -(2 ^ 31)
      else ratTrunc value
  | .infinite negative => if negative then -(2 ^ 31) else 2 ^ 31 - 1

inductive CJson
  | null
  | bool (value : Bool)
  | number (valuedouble : Double)
  | string (valuestring : String)
  | array (items : List CJson)
  | object (members : List (String × CJson))

def caseInsensitiveEq (a b : String) : Bool :=
  a.toList.map Char.toLower == b.toList.map Char.toLower

namespace CJson

def getObjectItem (item : CJson) (name : String) : Option CJson :=
  match item with
  | object members => (members.find? fun member => caseInsensitiveEq name member.1).map Prod.snd
  | _ => none

def valuestring : CJson → Option String
  | string value => some value
  | _ => none

def valuedouble : CJson → Double
  | number value => value
  | _ => .finite 0

def valueint : CJson → Int
  | number value => value.saturated
  | bool true => 1
  | _ => 0

/-- `(int)cJSON_GetNumberValue(item)`, where an item that is no number yields NaN. -/
def getNumberValue : CJson → Int
  | number value => value.toSigned 32
  | _ => -(2 ^ 31)

def members : CJson → List (String × CJson)
  | object members => members
  | _ => []

def ofInt (n : Int) : CJson := number (.finite n)

/-- `cJSON_AddItemToObject`: the new member goes to the end, whatever names are there already. -/
def addItemToObject (item : CJson) (name : String) (value : CJson) : CJson :=
  match item with
  | object members => object (members ++ [(name, value)])
  | other => other

/-- The string found by name in an object, as the callers read it: `none` stands for `NULL`. -/
def stringOf (item : CJson) (name : String) : Option String :=
  (item.getObjectItem name).bind valuestring

/-- What stands in the item under a path of names, in exactly these letters. It reads back what the
dispatcher writes. -/
def path (item : CJson) : List String → Option CJson
  | [] => some item
  | name :: rest =>
      match item.members.find? fun member => member.1 = name with
      | some member => member.2.path rest
      | none => none

end CJson

/-- `cJSON_PrintUnformatted`, a function of the JSON library. -/
abbrev Printer := CJson → String

/-! A printer for items whose strings need no escape and whose numbers are integers. -/

mutual

def printUnformatted : CJson → String
  | .null => "null"
  | .bool value => if value then "true" else "false"
  | .number (.finite value) => toString (ratTrunc value)
  | .number (.infinite _) => "null"
  | .string valuestring => "\"" ++ valuestring ++ "\""
  | .array items => "[" ++ printItems items ++ "]"
  | .object members => "\x7b" ++ printMembers members ++ "\x7d"

def printItems : List CJson → String
  | [] => ""
  | [item] => printUnformatted item
  | item :: rest => printUnformatted item ++ "," ++ printItems rest

def printMembers : List (String × CJson) → String
  | [] => ""
  | [(name, item)] => "\"" ++ name ++ "\":" ++ printUnformatted item
  | (name, item) :: rest => "\"" ++ name ++ "\":" ++ printUnformatted item ++ "," ++ printMembers rest

end

/-! A printer for items whose strings hold no control characters: quotes and backslashes are escaped. -/

def escapeChar (c : Char) : List Char := if c = '"' ∨ c = '\\' then ['\\', c] else [c]

def escapeString (text : String) : String := String.ofList (text.toList.flatMap escapeChar)

theorem toList_escapeString (text : String) : (escapeString text).toList = text.toList.flatMap escapeChar :=
  String.toList_ofList

mutual

def escapeStrings : CJson → CJson
  | .null => .null
  | .bool value => .bool value
  | .number value => .number value
  | .string valuestring => .string (escapeString valuestring)
  | .array items => .array (escapeItems items)
  | .object members => .object (escapeMembers members)

def escapeItems : List CJson → List CJson
  | [] => []
  | item :: rest => escapeStrings item :: escapeItems rest

def escapeMembers : List (String × CJson) → List (String × CJson)
  | [] => []
  | (name, item) :: rest => (escapeString name, escapeStrings item) :: escapeMembers rest

end

def printEscaped : Printer := fun item => printUnformatted (escapeStrings item)

/-- An escaped text that ends at a quote can be read back. -/
theorem eq_of_escapeChar {text text' rest rest' : List Char}
    (h : text.flatMap escapeChar ++ '"' :: rest = text'.flatMap escapeChar ++ '"' :: rest') :
    text = text' := by
  induction text generalizing text' with
  | nil =>
    cases text' with
    | nil => rfl
    | cons c text' =>
      rw [List.flatMap_nil, List.flatMap_cons, escapeChar] at h
      split at h
      · simp at h
      · rename_i hc
        simp at h
        exact (hc (.inl h.1.symm)).elim
  | cons c text ih =>
    cases text' with
    | nil =>
      rw [List.flatMap_nil, List.flatMap_cons, escapeChar] at h
      split at h
      · simp at h
      · rename_i hc
        simp at h
        exact (hc (.inl h.1)).elim
    | cons c' text' =>
      rw [List.flatMap_cons, List.flatMap_cons, escapeChar, escapeChar] at h
      by_cases hc : c = '"' ∨ c = '\\'
      · by_cases hc' : c' = '"' ∨ c' = '\\'
        · simp only [hc, hc', if_true, List.cons_append, List.nil_append, List.cons.injEq, true_and] at h
          rw [h.1, ih h.2]
        · simp only [hc, hc', if_true, if_false, List.cons_append, List.nil_append, List.cons.injEq] at h
          exact (hc' (.inr h.1.symm)).elim
      · by_cases hc' : c' = '"' ∨ c' = '\\'
        · simp only [hc, hc', if_true, if_false, List.cons_append, List.nil_append, List.cons.injEq] at h
          exact (hc (.inr h.1)).elim
        · simp only [hc, hc', if_false, List.cons_append, List.nil_append, List.cons.injEq] at h
          rw [h.1, ih h.2]

end Gonggo
