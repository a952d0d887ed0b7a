import Mathlib.Algebra.Group.Subgroup.ZPowers.Basic
import Mathlib.Data.Rat.Floor
import Mathlib.Tactic.Positivity
import Mathlib.Tactic.GCongr
import Mathlib.Tactic.Linarith
import Mathlib.Data.List.Defs
import Mathlib.Data.List.DropRight

/-! What the modelled code takes from the Python language and its standard library. -/

namespace Bhiksha

/-- The exceptions that the modelled code raises or lets through. -/
inductive PyException where
  | valueError (message : String)
  | typeError (message : String)
  | unsupportedOperand (type : String)
  | keyError (key : String)
  | zeroDivisionError
  | integrityError
deriving DecidableEq, Repr

namespace Python

def quote : Char := Char.ofNat 39

def doubleQuote : Char := Char.ofNat 34

def backslash : Char := Char.ofNat 92

/-- How `repr` writes one character of a string literal delimited by `delim`. -/
def reprChar (delim c : Char) : String :=
  if c = delim ∨ c = backslash then String.ofList [backslash, c]
  else if c = '\n' then "\\n"
  else if c = '\r' then "\\r"
  else if c = '\t' then "\\t"
  else c.toString

/-- `repr` of a string of printable characters and common escapes. -/
def reprString (s : String) : String :=
  let delim := if quote ∈ s.toList ∧ doubleQuote ∉ s.toList then doubleQuote else quote
  delim.toString ++ String.join (s.toList.map (reprChar delim)) ++ delim.toString

/-- `c.isspace()`. -/
def isSpace (c : Char) : Bool :=
  let code := c.toNat
  (9 ≤ code && code ≤ 13) || (28 ≤ code && code ≤ 32) || code = 0x85 || code = 0xa0 ||
    code = 0x1680 || (0x2000 ≤ code && code ≤ 0x200a) || code = 0x2028 || code = 0x2029 ||
    code = 0x202f || code = 0x205f || code = 0x3000

/-- `not s.strip()`. -/
def isBlank (s : String) : Bool := s.toList.all isSpace

def stripChars (cs : List Char) : List Char :=
  ((cs.dropWhile isSpace).reverse.dropWhile isSpace).reverse

/-- `s.strip()`. -/
def strip (s : String) : String := String.ofList (stripChars s.toList)

theorem stripChars_eq_nil_iff {cs : List Char} : stripChars cs = [] ↔ ∀ c ∈ cs, isSpace c = true := by
  unfold stripChars
  rw [List.reverse_eq_nil_iff, List.dropWhile_eq_nil_iff]
  simp only [List.mem_reverse]
  constructor
  · intro h
    rw [← List.dropWhile_eq_nil_iff]
    by_contra hne
    obtain ⟨first, rest, hcons⟩ := List.exists_cons_of_ne_nil hne
    have hfirst := List.head_dropWhile_not isSpace hne
    have hspace := h _ (List.head_mem hne)
    rw [hspace] at hfirst
    cases hfirst
  · intro h c hc
    exact h c ((List.dropWhile_sublist _).mem hc)

theorem stripChars_idem (cs : List Char) : stripChars (stripChars cs) = stripChars cs := by
  set body := cs.dropWhile isSpace with hbody
  have hstrip : stripChars cs = body.rdropWhile isSpace := rfl
  have hfront : (body.rdropWhile isSpace).dropWhile isSpace =
      body.rdropWhile isSpace := by
    rw [List.dropWhile_eq_self_iff]
    intro hpos hspace
    have hpre : body.rdropWhile isSpace <+: body := List.rdropWhile_prefix _ _
    have hlt : 0 < body.length := hpos.trans_le hpre.length_le
    have hhead : (body.rdropWhile isSpace)[0] = body[0] := hpre.getElem hpos
    have hself : body.dropWhile isSpace = body := List.dropWhile_idempotent isSpace cs
    exact List.dropWhile_eq_self_iff.mp hself hlt (hhead ▸ hspace)
  have hback : (body.rdropWhile isSpace).rdropWhile isSpace =
      body.rdropWhile isSpace := List.rdropWhile_idempotent _ _
  have hagain : stripChars (stripChars cs) =
      ((stripChars cs).dropWhile isSpace).rdropWhile isSpace := rfl
  rw [hagain, hstrip, hfront, hback]

theorem isBlank_iff {s : String} : isBlank s = true ↔ strip s = "" := by
  have hempty : strip s = "" ↔ stripChars s.toList = [] := by
    unfold strip
    rw [String.ext_iff, String.toList_ofList]
    rfl
  rw [hempty, stripChars_eq_nil_iff]
  unfold isBlank
  exact List.all_eq_true

@[simp] theorem strip_strip (s : String) : strip (strip s) = strip s := by
  unfold strip
  rw [String.toList_ofList, stripChars_idem]

/-- The number that decimal digits denote; no digits denote zero. -/
def digits? (cs : List Char) : Option ℕ :=
  if cs.all Char.isDigit then
    some (cs.foldl (fun n c => 10 * n + (c.toNat - '0'.toNat)) 0)
  else none

/-- The sign of a literal and what follows it. -/
def signed (cs : List Char) : ℤ × List Char :=
  match cs with
  | '-' :: rest => (-1, rest)
  | '+' :: rest => (1, rest)
  | _ => (1, cs)

def intChars? (cs : List Char) : Option ℤ :=
  let (sign, body) := signed cs
  if body.isEmpty then none else (digits? body).map fun n => sign * n

/-- The zeros of the decimal digits of Unicode 15 beyond ASCII. -/
def decimalZeros : List ℕ :=
  [0x660, 0x6f0, 0x7c0, 0x966, 0x9e6, 0xa66, 0xae6, 0xb66, 0xbe6, 0xc66, 0xce6, 0xd66, 0xde6,
   0xe50, 0xed0, 0xf20, 0x1040, 0x1090, 0x17e0, 0x1810, 0x1946, 0x19d0, 0x1a80, 0x1a90, 0x1b50,
   0x1bb0, 0x1c40, 0x1c50, 0xa620, 0xa8d0, 0xa900, 0xa9d0, 0xa9f0, 0xaa50, 0xabf0, 0xff10,
   0x104a0, 0x10d30, 0x11066, 0x110f0, 0x11136, 0x111d0, 0x112f0, 0x11450, 0x114d0, 0x11650,
   0x116c0, 0x11730, 0x118e0, 0x11950, 0x11c50, 0x11d50, 0x11da0, 0x11f50, 0x16a60, 0x16ac0,
   0x16b50, 0x1d7ce, 0x1d7d8, 0x1d7e2, 0x1d7ec, 0x1d7f6, 0x1e140, 0x1e2f0, 0x1e4f0, 0x1e950,
   0x1fbf0]

/-- A character of a number's text as `int` and `float` take it: a space beyond ASCII is a blank, and a
decimal digit of any script is its ASCII digit. -/
def numeralChar (c : Char) : Char :=
  if c.toNat < 127 then c
  else if isSpace c then ' '
  else
    match decimalZeros.find? fun base => base ≤ c.toNat ∧ c.toNat < base + 10 with
    | some base => Char.ofNat ('0'.toNat + (c.toNat - base))
    | none => c

/-- The blanks that `int` and `float` take off; those of `str.strip` are more. -/
def isNumeralSpace (c : Char) : Bool := (9 ≤ c.toNat && c.toNat ≤ 13) || c = ' '

/-- A literal without the underscores in it, each of which has to stand between two digits; `before` is
the character in front of it. -/
def ungroup? : Char → List Char → Option (List Char)
  | before, [] => if before = '_' then none else some []
  | before, c :: rest =>
    if c = '_' then
      if before.isDigit then ungroup? c rest else none
    else if before = '_' ∧ ¬c.isDigit then none
    else (ungroup? c rest).map (c :: ·)

/-- The literal that `int` or `float` reads from a text. -/
def literal? (s : String) : Option (List Char) :=
  let cs := s.toList.map numeralChar
  ungroup? ' ' (((cs.dropWhile isNumeralSpace).reverse.dropWhile isNumeralSpace).reverse)

/-- `int(s)`. -/
def int? (s : String) : Option ℤ := (literal? s).bind intChars?

/-- The mantissa of a decimal literal. -/
def mantissa? (cs : List Char) : Option ℚ :=
  match cs.splitOn '.' with
  | [whole] => if whole.isEmpty then none else (digits? whole).map fun n => (n : ℚ)
  | [whole, fraction] =>
    if whole.isEmpty ∧ fraction.isEmpty then none
    else do
      let w ← digits? whole
      let f ← digits? fraction
      return w + (f : ℚ) / 10 ^ fraction.length
  | _ => none

/-- `float(s)` of a text that denotes a finite number; `inf`, `nan` and what overflows are left out. -/
def float? (s : String) : Option ℚ := do
  let cs ← literal? s
  let (sign, body) := signed (cs.map fun c => if c = 'E' then 'e' else c)
  match body.splitOn 'e' with
  | [m] => (mantissa? m).map (sign * ·)
  | [m, e] =>
    let q ← mantissa? m
    let n ← intChars? e
    return sign * q * 10 ^ n
  | _ => none

/-- `int(x)`: truncation towards zero. -/
def truncate (x : ℚ) : ℤ := if 0 ≤ x then ⌊x⌋ else ⌈x⌉

/-- `round(x)`: to the nearest integer, and to the even one from halfway. -/
def roundHalfEven (x : ℚ) : ℤ :=
  let below := ⌊x⌋
  let rest := x - below
  if rest < 1 / 2 then below
  else if 1 / 2 < rest then below + 1
  else if below % 2 = 0 then below
  else below + 1

/-- `round(x, digits)`. -/
def roundTo (digits : ℕ) (x : ℚ) : ℚ := roundHalfEven (x * 10 ^ digits) / 10 ^ digits

/-- The numbers with so many decimal places. -/
def decimalGrid (digits : ℕ) : AddSubgroup ℚ := AddSubgroup.zmultiples (1 / 10 ^ digits)

theorem mem_decimalGrid_iff {digits : ℕ} {x : ℚ} :
    x ∈ decimalGrid digits ↔ ∃ n : ℤ, (n : ℚ) / 10 ^ digits = x := by
  simp [decimalGrid, AddSubgroup.mem_zmultiples_iff, div_eq_mul_inv]

theorem roundTo_mem (digits : ℕ) (x : ℚ) : roundTo digits x ∈ decimalGrid digits :=
  mem_decimalGrid_iff.mpr ⟨_, rfl⟩

theorem roundHalfEven_intCast (n : ℤ) : roundHalfEven n = n := by
  simp [roundHalfEven]

/-- Rounding leaves a number of the grid alone. -/
theorem roundTo_of_mem {digits : ℕ} {x : ℚ} (h : x ∈ decimalGrid digits) : roundTo digits x = x := by
  obtain ⟨n, rfl⟩ := mem_decimalGrid_iff.mp h
  have hscale : (10 : ℚ) ^ digits ≠ 0 := by positivity
  rw [roundTo, div_mul_cancel₀ _ hscale, roundHalfEven_intCast]

theorem roundHalfEven_mono {x y : ℚ} (h : x ≤ y) : roundHalfEven x ≤ roundHalfEven y := by
  have hfloor : ⌊x⌋ ≤ ⌊y⌋ := Int.floor_mono h
  unfold roundHalfEven
  simp only
  rcases hfloor.lt_or_eq with hlt | heq
  · -- a rounded number is at most one above its floor
    split_ifs <;> omega
  · have hrest : x - ⌊x⌋ ≤ y - ⌊y⌋ := by
      rw [heq]
      linarith
    rw [heq] at hrest ⊢
    split_ifs <;> first | omega | (exfalso; linarith)

theorem roundTo_mono (digits : ℕ) {x y : ℚ} (h : x ≤ y) : roundTo digits x ≤ roundTo digits y := by
  have hscaled : x * 10 ^ digits ≤ y * 10 ^ digits := by gcongr
  have hround : (roundHalfEven (x * 10 ^ digits) : ℚ) ≤ roundHalfEven (y * 10 ^ digits) := by
    exact_mod_cast roundHalfEven_mono hscaled
  unfold roundTo
  gcongr

theorem roundTo_nonneg {digits : ℕ} {x : ℚ} (h : 0 ≤ x) : 0 ≤ roundTo digits x := by
  have hscaled : 0 ≤ x * 10 ^ digits := by positivity
  have hfloor : 0 ≤ ⌊x * 10 ^ digits⌋ := Int.floor_nonneg.mpr hscaled
  have hround : 0 ≤ roundHalfEven (x * 10 ^ digits) := by
    unfold roundHalfEven
    simp only
    split_ifs <;> omega
  unfold roundTo
  positivity

theorem max_mem {digits : ℕ} {x y : ℚ} (hx : x ∈ decimalGrid digits)
    (hy : y ∈ decimalGrid digits) : max x y ∈ decimalGrid digits := by
  rcases max_choice x y with h | h
  · rwa [h]
  · rwa [h]

end Python

end Bhiksha
