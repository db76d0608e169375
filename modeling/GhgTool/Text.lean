import Mathlib.Data.List.Infix

/-!
# The string operations of the calculation modules

Labels come from free-text columns and are compared with ASCII keywords after `strip` and
`lower`. `lower` changes exactly the characters whose lower case contains an ASCII letter; every
other character has a lower case outside ASCII and can match no keyword either way.
-/

namespace GhgTool

/-- The characters `str.strip` removes at both ends. -/
def isSpace (c : Char) : Bool :=
  let n := c.toNat
  (9 ≤ n && n ≤ 13) || (28 ≤ n && n ≤ 32) || n == 0x85 || n == 0xA0 || n == 0x1680 ||
    (0x2000 ≤ n && n ≤ 0x200A) || n == 0x2028 || n == 0x2029 || n == 0x202F || n == 0x205F ||
    n == 0x3000

def stripChars (cs : List Char) : List Char :=
  ((cs.dropWhile isSpace).reverse.dropWhile isSpace).reverse

def lowerChar (c : Char) : List Char :=
  -- LATIN CAPITAL LETTER I WITH DOT ABOVE and KELVIN SIGN lower to text with an ASCII letter
  if c.toNat = 0x130 then ['i', Char.ofNat 0x307]
  else if c.toNat = 0x212A then ['k']
  else [c.toLower]

def lowerChars (cs : List Char) : List Char :=
  cs.flatMap lowerChar

def upperChar (c : Char) : List Char :=
  -- the letters outside ASCII whose upper case is ASCII text
  if c.toNat = 0x131 then ['I']
  else if c.toNat = 0x17F then ['S']
  else if c.toNat = 0xDF then ['S', 'S']
  else if c.toNat = 0xFB00 then ['F', 'F']
  else if c.toNat = 0xFB01 then ['F', 'I']
  else if c.toNat = 0xFB02 then ['F', 'L']
  else if c.toNat = 0xFB03 then ['F', 'F', 'I']
  else if c.toNat = 0xFB04 then ['F', 'F', 'L']
  else if c.toNat = 0xFB05 ∨ c.toNat = 0xFB06 then ['S', 'T']
  else [c.toUpper]

def upperChars (cs : List Char) : List Char :=
  cs.flatMap upperChar

def strip (s : String) : String :=
  String.ofList (stripChars s.toList)

def lower (s : String) : String :=
  String.ofList (lowerChars s.toList)

def upper (s : String) : String :=
  String.ofList (upperChars s.toList)

/-- Python's `key in s`. -/
def Contains (s key : String) : Prop :=
  key.toList <:+: s.toList

instance (s key : String) : Decidable (Contains s key) :=
  inferInstanceAs (Decidable (key.toList <:+: s.toList))

/-- The first entry of a keyword table whose key occurs in the label. -/
def firstKeyword (table : List (String × String)) (label : String) : Option String :=
  (table.find? fun entry => decide (Contains label entry.1)).map Prod.snd

theorem mem_of_firstKeyword {table : List (String × String)} {label value : String}
    (h : firstKeyword table label = some value) : value ∈ table.map Prod.snd := by
  obtain ⟨entry, hfind, rfl⟩ := Option.map_eq_some_iff.mp h
  exact List.mem_map.mpr ⟨entry, List.mem_of_find?_eq_some hfind, rfl⟩

theorem entry_of_lookup {κ α : Type*} [BEq κ] [LawfulBEq κ] {table : List (κ × α)} {key : κ}
    {value : α} (h : table.lookup key = some value) : (key, value) ∈ table := by
  obtain ⟨before, after, rfl, -⟩ := List.lookup_eq_some_iff.mp h
  exact List.mem_append_right before List.mem_cons_self

theorem mem_of_lookup {table : List (String × String)} {key value : String}
    (h : table.lookup key = some value) : value ∈ table.map Prod.snd :=
  List.mem_map_of_mem (entry_of_lookup h)

/-- A `VARCHAR(n)` column takes a text whose characters beyond the length are blanks. -/
def varcharFits (n : ℕ) (s : String) : Bool :=
  (s.toList.drop n).all fun c => decide (c = ' ')

/-- What a `VARCHAR(n)` column keeps of a text that it takes. -/
def varchar (n : ℕ) (s : String) : String :=
  String.ofList (s.toList.take n)

/-- The number a text of decimal digits denotes. -/
def numericText (s : String) : Option ℕ :=
  if s.toList ≠ [] ∧ s.toList.all Char.isDigit then some (Nat.ofDigitChars 10 s.toList 0) else none

theorem numericText_toString (n : ℕ) : numericText (toString n) = some n := by
  have hlist : (toString n).toList = Nat.toDigits 10 n := Nat.toList_repr
  have hdigits : (Nat.toDigits 10 n).all Char.isDigit = true := by
    rw [List.all_eq_true]
    exact fun c hc => Nat.isDigit_of_mem_toDigits (by omega) (by omega) hc
  rw [numericText, hlist, if_pos ⟨Nat.toDigits_ne_nil, hdigits⟩, Nat.ofDigitChars_ten_toDigits]

end GhgTool
