import Mathlib.Data.List.Basic
import Mathlib.Data.Fin.Basic

/-!
# Base64

The encoding takes three octets to four digits and fills the last group up with `=`. The decoder is
the lenient automaton of `binascii.a2b_base64`: it skips what is no digit, stops at the padding that
completes a group and fails on a group that nothing completes. It reads back all that was encoded,
over any alphabet; a text whose padding was stripped is completed by its length alone.
-/

namespace Base64

abbrev Octet := Fin 256

/-- The octets of a text in Latin-1. -/
def latin1 (text : String) : List Octet := text.toList.map fun c => Fin.ofNat 256 c.toNat

/-- The text of octets in Latin-1. -/
def ofLatin1 (octets : List Octet) : String := 
  String.ofList (octets.map fun o => Char.ofNat o.val)

theorem ofLatin1_latin1 {text : String} (h : ∀ c ∈ text.toList, c.toNat < 256) :
    ofLatin1 (latin1 text) = text := by
  have hback : text.toList.map (fun c => Char.ofNat (Fin.ofNat 256 c.toNat).val) = text.toList := by
    refine (List.map_congr_left fun c hc => ?_).trans (List.map_id' text.toList)
    rw [Fin.val_ofNat, Nat.mod_eq_of_lt (h c hc), Char.ofNat_toNat]
  unfold ofLatin1 latin1
  rw [List.map_map, Function.comp_def, hback, String.ofList_toList]

def unpadded (text : List Char) : List Char := text.filter (· ≠ '=')

/-- `"=" * (-n % 4)`. -/
def padding (n : ℕ) : List Char := List.replicate ((4 - n % 4) % 4) '='

/-- The 64 digits and the partial inverse that reads them. -/
structure Alphabet where
  digit : Fin 64 → Char
  value : Char → Option (Fin 64)
  value_digit : ∀ d, value (digit d) = some d
  value_pad : value '=' = none

namespace Alphabet
variable (A : Alphabet)

theorem digit_ne_pad (d : Fin 64) : A.digit d ≠ '=' := by
  intro h
  have hd := A.value_digit d
  rw [h, A.value_pad] at hd
  cases hd

/-- The digit of the low six bits of a number. -/
def sextet (n : ℕ) : Char := A.digit (Fin.ofNat 64 n)

def encode : List Octet → List Char
  | [] => []
  | [a] => [A.sextet (a / 4), A.sextet (a % 4 * 16), '=', '=']
  | [a, b] =>
      [A.sextet (a / 4), A.sextet (a % 4 * 16 + b / 16), A.sextet (b % 16 * 4), '=']
  | a :: b :: c :: rest =>
      A.sextet (a / 4) :: A.sextet (a % 4 * 16 + b / 16) :: A.sextet (b % 16 * 4 + c / 64) ::
        A.sextet (c % 64) :: encode rest

/-- The automaton: `quadPos` digits of the present group have been read, `leftchar` holds their bits
that are in no octet yet, and `pads` counts the padding since the last digit. -/
def scan (quadPos leftchar pads : ℕ) : List Char → Option (List Octet)
  | [] => if quadPos = 0 then some [] else none
  | c :: cs =>
    if c = '=' then
      if 2 ≤ quadPos then
        if 4 ≤ quadPos + (pads + 1) then some [] else scan quadPos leftchar (pads + 1) cs
      else scan quadPos leftchar pads cs
    else
      match A.value c with
      | none => scan quadPos leftchar pads cs
      | some d =>
        match quadPos with
        | 0 => scan 1 d 0 cs
        | 1 => (scan 2 (d % 16) 0 cs).map (Fin.ofNat 256 (leftchar * 4 + d / 16) :: ·)
        | 2 => (scan 3 (d % 4) 0 cs).map (Fin.ofNat 256 (leftchar * 16 + d / 4) :: ·)
        | _ => (scan 0 0 0 cs).map (Fin.ofNat 256 (leftchar * 64 + d) :: ·)

/-- `none` where Python raises `binascii.Error`. -/
def decode (text : List Char) : Option (List Octet) := A.scan 0 0 0 text

section Steps
variable (leftchar pads n : ℕ) (cs : List Char)

theorem scan_first : A.scan 0 leftchar pads (A.sextet n :: cs) = A.scan 1 (n % 64) 0 cs := by
  simp [scan, sextet, A.digit_ne_pad, A.value_digit]

theorem scan_second :
    A.scan 1 leftchar pads (A.sextet n :: cs) =
      (A.scan 2 (n % 64 % 16) 0 cs).map (Fin.ofNat 256 (leftchar * 4 + n % 64 / 16) :: ·) := by
  simp [scan, sextet, A.digit_ne_pad, A.value_digit]

theorem scan_third :
    A.scan 2 leftchar pads (A.sextet n :: cs) =
      (A.scan 3 (n % 64 % 4) 0 cs).map (Fin.ofNat 256 (leftchar * 16 + n % 64 / 4) :: ·) := by
  simp [scan, sextet, A.digit_ne_pad, A.value_digit]

theorem scan_fourth :
    A.scan 3 leftchar pads (A.sextet n :: cs) =
      (A.scan 0 0 0 cs).map (Fin.ofNat 256 (leftchar * 64 + n % 64) :: ·) := by
  simp [scan, sextet, A.digit_ne_pad, A.value_digit]

theorem scan_two_pads : A.scan 2 leftchar 0 ['=', '='] = some [] := by
  simp [scan]

theorem scan_one_pad : A.scan 3 leftchar 0 ['='] = some [] := by
  simp [scan]

end Steps

theorem octet_eq {a : Octet} {n : ℕ} (h : n = a) : Fin.ofNat 256 n = a := by
  subst h
  exact Fin.ofNat_val_eq_self a

theorem decode_encode (octets : List Octet) : A.decode (A.encode octets) = some octets := by
  unfold decode
  induction octets using encode.induct with
  | case1 => simp [encode, scan]
  | case2 a =>
    have ha := a.isLt
    rw [encode, scan_first, scan_second, scan_two_pads, Option.map_some, octet_eq (a := a)]
    omega
  | case3 a b =>
    have ha := a.isLt
    have hb := b.isLt
    rw [encode, scan_first, scan_second, scan_third, scan_one_pad, Option.map_some,
      Option.map_some, octet_eq (a := a), octet_eq (a := b)]
    · omega
    · omega
  | case4 a b c rest ih =>
    have ha := a.isLt
    have hb := b.isLt
    have hc := c.isLt
    rw [encode, scan_first, scan_second, scan_third, scan_fourth, ih, Option.map_some,
      Option.map_some, Option.map_some, octet_eq (a := a), octet_eq (a := b), octet_eq (a := c)]
    · omega
    · omega
    · omega

/-! ### Without padding -/

theorem unpadded_cons_sextet (n : ℕ) (cs : List Char) :
    unpadded (A.sextet n :: cs) = A.sextet n :: unpadded cs := by
  have hdigit : A.sextet n ≠ '=' := A.digit_ne_pad _
  simp [unpadded, hdigit]

/-- The length of the stripped text tells the padding that it lost. -/
theorem padded_unpadded (octets : List Octet) :
    unpadded (A.encode octets) ++ padding (unpadded (A.encode octets)).length =
      A.encode octets := by
  induction octets using encode.induct with
  | case1 => simp [encode, unpadded, padding]
  | case2 a =>
      simp only [encode, unpadded_cons_sextet]
      rfl
  | case3 a b =>
      simp only [encode, unpadded_cons_sextet]
      rfl
  | case4 a b c rest ih =>
      simp only [encode, unpadded_cons_sextet, List.length_cons, List.cons_append]
      have hlength : padding ((unpadded (A.encode rest)).length + 1 + 1 + 1 + 1) =
          padding (unpadded (A.encode rest)).length := by
        unfold padding
        congr 2
        omega
      rw [hlength, ih]

theorem decode_unpadded (octets : List Octet) :
    A.decode (unpadded (A.encode octets) ++ padding (unpadded (A.encode octets)).length) =
      some octets := by
  rw [A.padded_unpadded, A.decode_encode]

theorem mem_encode {octets : List Octet} {c : Char} (hc : c ∈ A.encode octets) :
    c = '=' ∨ ∃ d, c = A.digit d := by
  induction octets using encode.induct with
  | case1 => cases hc
  | case2 a =>
      simp only [encode, List.mem_cons, List.not_mem_nil, or_false] at hc
      rcases hc with rfl | rfl | rfl | rfl
      · exact .inr ⟨_, rfl⟩
      · exact .inr ⟨_, rfl⟩
      · exact .inl rfl
      · exact .inl rfl
  | case3 a b =>
      simp only [encode, List.mem_cons, List.not_mem_nil, or_false] at hc
      rcases hc with rfl | rfl | rfl | rfl
      · exact .inr ⟨_, rfl⟩
      · exact .inr ⟨_, rfl⟩
      · exact .inr ⟨_, rfl⟩
      · exact .inl rfl
  | case4 a b c rest ih =>
      simp only [encode, List.mem_cons] at hc
      rcases hc with rfl | rfl | rfl | rfl | hc
      · exact .inr ⟨_, rfl⟩
      · exact .inr ⟨_, rfl⟩
      · exact .inr ⟨_, rfl⟩
      · exact .inr ⟨_, rfl⟩
      · exact ih hc

end Alphabet

/-- The digits `A`–`Z`, `a`–`z`, `0`–`9`, `+`, `/`. -/
def standardDigit (d : Fin 64) : Char :=
  if d.val < 26 then Char.ofNat (65 + d) else if d.val < 52 then Char.ofNat (71 + d)
  else if d.val < 62 then Char.ofNat (d - 4) else if d.val = 62 then '+' else '/'

def standardValue (c : Char) : Option (Fin 64) :=
  let n := c.toNat
  if 65 ≤ n ∧ n ≤ 90 then some (Fin.ofNat 64 (n - 65))
  else if 97 ≤ n ∧ n ≤ 122 then some (Fin.ofNat 64 (n - 71))
  else if 48 ≤ n ∧ n ≤ 57 then some (Fin.ofNat 64 (n + 4))
  else if c = '+' then some 62 else if c = '/' then some 63 else none

theorem standardValue_digit : ∀ d, standardValue (standardDigit d) = some d := by decide

theorem standardValue_pad : standardValue '=' = none := by decide

def standard : Alphabet where
  digit := standardDigit
  value := standardValue
  value_digit := standardValue_digit
  value_pad := standardValue_pad

/-- `-` and `_` in the place of `+` and `/`. -/
def urlsafeDigit (d : Fin 64) : Char :=
  if d.val = 62 then '-' else if d.val = 63 then '_' else standardDigit d

/-- The decoder translates `-` and `_` and reads `+` and `/` as well. -/
def urlsafeValue (c : Char) : Option (Fin 64) :=
  if c = '-' then some 62 else if c = '_' then some 63 else standardValue c

theorem urlsafeValue_digit : ∀ d, urlsafeValue (urlsafeDigit d) = some d := by decide

theorem urlsafeValue_pad : urlsafeValue '=' = none := by decide

def urlsafe : Alphabet where
  digit := urlsafeDigit
  value := urlsafeValue
  value_digit := urlsafeValue_digit
  value_pad := urlsafeValue_pad

theorem urlsafeDigit_ne_dot : ∀ d, urlsafeDigit d ≠ '.' := by decide

end Base64
