import GlusterBlock.Lib.CText
import Mathlib.Data.Rat.Floor

/-! `strtod` before it rounds: the number in front of a text, exactly, and what is behind it.
Infinities and NaN are no numbers here. -/
namespace CText

/-- The digits behind a point, and what is behind them. -/
def fraction (digit : Char → Bool) : List Char → List Char × List Char
  | '.' :: s => (s.takeWhile digit, s.dropWhile digit)
  | s => ([], s)

/-- Digits with an optional fraction. -/
def mantissa (base : Nat) (digit : Char → Bool) (value : List Char → Nat) (s : List Char) :
    Option (ℚ × List Char) :=
  let whole := s.takeWhile digit
  let (frac, rest) := fraction digit (s.dropWhile digit)
  if whole = [] ∧ frac = [] then none
  else some (value (whole ++ frac) / base ^ frac.length, rest)

/-- Whether a minus is in front, and what is behind a sign. -/
def signed : List Char → Bool × List Char
  | '-' :: s => (true, s)
  | '+' :: s => (false, s)
  | s => (false, s)

/-- A number with the power behind it: a mark, an optional sign and digits. -/
def scaled (mark : Char) (base : Nat) (x : ℚ) : List Char → ℚ × List Char
  | [] => (x, [])
  | c :: s =>
    let exponent := (signed s).2.takeWhile Char.isDigit
    if c.toLower ≠ mark ∨ exponent = [] then (x, c :: s)
    else
      let n := Nat.ofDigitChars 10 exponent 0
      (if (signed s).1 then x / base ^ n else x * base ^ n, (signed s).2.dropWhile Char.isDigit)

def hexDigits : List Char := "0123456789abcdef".toList

def isHexDigit (c : Char) : Bool := hexDigits.contains c.toLower

def hexValue (ds : List Char) : Nat :=
  ds.foldl (fun n c => 16 * n + hexDigits.idxOf c.toLower) 0

def decimalValue (ds : List Char) : Nat := Nat.ofDigitChars 10 ds 0

def scanDecimal (s : List Char) : Option (ℚ × List Char) :=
  (mantissa 10 Char.isDigit decimalValue s).map (fun p => scaled 'e' 10 p.1 p.2)

/-- The digits behind `0x`, or else the zero of it. -/
def scanUnsigned : List Char → Option (ℚ × List Char)
  | '0' :: x :: s =>
    match if x.toLower = 'x' then mantissa 16 isHexDigit hexValue s else none with
    | some p => some (scaled 'p' 2 p.1 p.2)
    | none => scanDecimal ('0' :: x :: s)
  | s => scanDecimal s

def strtod (s : List Char) : ℚ × List Char :=
  let (minus, behind) := signed (s.dropWhile isSpace)
  match scanUnsigned behind with
  | some (x, rest) => (if minus then -x else x, rest)
  | none => (0, s)

/-- A plain decimal number: digits and an optional fraction. -/
structure Decimal where
  whole : List Char
  frac : Option (List Char)
  whole_digits : ∀ c ∈ whole, c.isDigit = true
  frac_digits : ∀ c ∈ frac.getD [], c.isDigit = true
  some_digit : whole ≠ [] ∨ frac.getD [] ≠ []

namespace Decimal

def text (d : Decimal) : List Char :=
  d.whole ++ match d.frac with
    | none => []
    | some ds => '.' :: ds

def value (d : Decimal) : ℚ :=
  decimalValue (d.whole ++ d.frac.getD []) / 10 ^ (d.frac.getD []).length

/-- A text behind the number that does not continue it. -/
def Ends (d : Decimal) (rest : List Char) : Prop :=
  ∀ c ∈ rest.head?, c.isDigit = false ∧ (d.frac = none → c ≠ '.')

end Decimal

section Reading

variable {d : Decimal} {rest : List Char}

/-- The digits of a decimal are read as its value. -/
theorem mantissa_decimal (ends : d.Ends rest) :
    mantissa 10 Char.isDigit decimalValue (d.text ++ rest) = some (d.value, rest) := by
  have given : ¬ (d.whole = [] ∧ d.frac.getD [] = []) := not_and_or.mpr d.some_digit
  have digits := d.frac_digits
  have outside : ∀ c ∈ rest.head?, c.isDigit = false := fun c mem => (ends c mem).1
  have read : (d.text ++ rest).takeWhile Char.isDigit = d.whole ∧
      fraction Char.isDigit ((d.text ++ rest).dropWhile Char.isDigit) =
        (d.frac.getD [], rest) := by
    unfold Decimal.text
    cases frac : d.frac with
    | none =>
      obtain ⟨take, drop⟩ := takeWhile_boundary d.whole_digits outside
      dsimp only
      rw [List.append_nil, take, drop]
      refine ⟨rfl, ?_⟩
      unfold fraction
      split
      · exact absurd rfl ((ends '.' rfl).2 frac)
      · rfl
    | some ds =>
      rw [frac] at digits
      have point : ∀ c ∈ ('.' :: (ds ++ rest)).head?, c.isDigit = false := by
        intro c mem
        cases mem
        rfl
      obtain ⟨take, drop⟩ := takeWhile_boundary d.whole_digits point
      obtain ⟨take', drop'⟩ := takeWhile_boundary digits outside
      dsimp only [Option.getD_some] at take' drop' ⊢
      rw [List.append_assoc, List.cons_append, take, drop, fraction, take', drop']
      exact ⟨rfl, rfl⟩
  unfold mantissa
  rw [read.1, read.2]
  dsimp only
  rw [if_neg given]
  rfl

theorem digit_lower {c : Char} (digit : c.isDigit = true) : c.toLower = c := by
  have range := digit_range digit
  unfold Char.toLower
  split
  · rename_i upper
    have low : 65 ≤ c.toNat := by simpa [UInt32.le_iff_toNat_le] using upper.1
    omega
  · rfl

/-- In front of a text that does not go on with it, a decimal is read as its value. -/
theorem strtod_decimal (ends : d.Ends rest) (plain : ∀ c ∈ rest.head?, c.toLower ≠ 'x')
    (unscaled : ∀ x, scaled 'e' 10 x rest = (x, rest)) :
    strtod (d.text ++ rest) = (d.value, rest) := by
  have chars : ∀ c ∈ d.text, c.isDigit = true ∨ c = '.' := by
    intro c mem
    unfold Decimal.text at mem
    rcases List.mem_append.mp mem with whole | frac
    · exact .inl (d.whole_digits c whole)
    · have digits := d.frac_digits
      cases given : d.frac with
      | none =>
        rw [given] at frac
        cases frac
      | some ds =>
        rw [given] at frac digits
        rcases List.mem_cons.mp frac with rfl | mem
        · exact .inr rfl
        · exact .inl (digits c mem)
  have first : ∃ c s, d.text = c :: s := by
    apply List.exists_cons_of_ne_nil
    intro empty
    obtain ⟨whole, frac⟩ := List.append_eq_nil_iff.mp empty
    rcases d.some_digit with some_whole | some_frac
    · exact some_whole whole
    · cases given : d.frac with
      | none => exact some_frac (by rw [given]; rfl)
      | some ds =>
        rw [given] at frac
        cases frac
  obtain ⟨c, s, text⟩ := first
  have start := chars c (text ▸ List.mem_cons_self)
  have decimal : scanUnsigned (d.text ++ rest) = some (d.value, rest) := by
    have read : scanDecimal (d.text ++ rest) = some (d.value, rest) := by
      unfold scanDecimal
      rw [mantissa_decimal ends, Option.map_some, unscaled]
    unfold scanUnsigned
    split
    · rename_i x behind shape
      have no_mark : x.toLower ≠ 'x' := by
        rw [text] at shape
        cases s with
        | nil =>
          obtain rfl : rest = x :: behind := (List.cons.inj shape).2
          exact plain x rfl
        | cons c' s =>
          obtain rfl : c' = x := (List.cons.inj (List.cons.inj shape).2).1
          rcases chars c' (text ▸ by simp) with digit | rfl
          · rw [digit_lower digit]
            rintro rfl
            cases digit
          · decide
      rw [if_neg no_mark, ← shape]
      exact read
    · exact read
  have solid : (d.text ++ rest).dropWhile isSpace = d.text ++ rest := by
    have mark : isSpace c = false := by
      rcases start with digit | rfl
      · exact digit_not_space digit
      · decide
    rw [text, List.cons_append, List.dropWhile_cons_of_neg (by simp [mark])]
  have unsigned : signed (d.text ++ rest) = (false, d.text ++ rest) := by
    have no_sign : c ≠ '-' ∧ c ≠ '+' := by
      constructor
      · rintro rfl
        exact absurd start (by decide)
      · rintro rfl
        exact absurd start (by decide)
    rw [text, List.cons_append]
    unfold signed
    split
    · rename_i same
      exact absurd (List.cons.inj same).1 no_sign.1
    · rename_i same
      exact absurd (List.cons.inj same).1 no_sign.2
    · rfl
  unfold strtod
  rw [solid, unsigned]
  dsimp only
  rw [decimal]
  rfl

end Reading

end CText
