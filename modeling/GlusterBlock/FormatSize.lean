import GlusterBlock.BlockModify
import GlusterBlock.ParseSize
import Mathlib.Data.Nat.Log

/-! A size as it is printed, read again. It is printed in the largest unit that is in it, with
one digit behind the point, and of what is read only the digits in front of the point count. -/
namespace GlusterBlock

open CText (Decimal strtod decimalValue)

section Printed

/-- So many tenths of a unit are printed for these units and parts of 1024 of one, a tie going
to the even digit. -/
def tenths (bytes rem : Nat) : Nat :=
  let scaled := (bytes * 1024 + rem) * 10
  let up := scaled % 1024 > 512 || (scaled % 1024 == 512 && scaled / 1024 % 2 == 1)
  scaled / 1024 + if up then 1 else 0

theorem tenths_whole {bytes rem : Nat} (part : rem < 1024) :
    bytes ≤ tenths bytes rem / 10 ∧ tenths bytes rem / 10 ≤ bytes + 1 ∧
      (rem = 0 → tenths bytes rem = 10 * bytes) := by
  unfold tenths
  dsimp only
  refine ⟨?_, ?_, fun none => ?_⟩
  · split <;> omega
  · split <;> omega
  · subst none
    have whole : (bytes * 1024 + 0) * 10 % 1024 = 0 := by omega
    rw [whole, if_neg (by simp)]
    omega

def printedSize (bytes rem : Nat) (unit : String) : String :=
  toString (tenths bytes rem / 10) ++ "." ++ toString (tenths bytes rem % 10) ++ " " ++ unit

/-- The parts of 1024 behind the units. -/
def sizeRem (bytes rem : Nat) : Nat :=
  if Nat.log 1024 bytes = 0 then rem else bytes / 1024 ^ (Nat.log 1024 bytes - 1) % 1024

theorem sizeUnits_printed {fuel bytes : Nat} (fits : bytes < 1024 ^ (fuel + 1)) (rem : Nat)
    (units : List String) : sizeUnits (fuel + 1) bytes rem units =
      printedSize (bytes / 1024 ^ Nat.log 1024 bytes) (sizeRem bytes rem)
        ((units.drop (Nat.log 1024 bytes)).headD "") := by
  induction fuel generalizing bytes rem units with
  | zero =>
    have small : bytes < 1024 := by omega
    have none : Nat.log 1024 bytes = 0 := Nat.log_of_lt small
    rw [sizeUnits, if_neg (by omega)]
    simp [printedSize, tenths, sizeRem, none]
  | succ fuel ih =>
    by_cases large : 1024 ≤ bytes
    · have log := Nat.log_of_one_lt_of_le (by decide : 1 < 1024) large
      have rest : bytes / 1024 < 1024 ^ (fuel + 1) := by
        rw [Nat.div_lt_iff_lt_mul (by decide), ← Nat.pow_succ]
        exact fits
      have units' : units.tail.drop (Nat.log 1024 (bytes / 1024)) =
          units.drop (Nat.log 1024 bytes) := by
        rw [log, ← List.drop_one, List.drop_drop, Nat.add_comm]
      have whole : bytes / 1024 / 1024 ^ Nat.log 1024 (bytes / 1024) =
          bytes / 1024 ^ Nat.log 1024 bytes := by
        rw [log, Nat.div_div_eq_div_mul, Nat.pow_succ, Nat.mul_comm]
      have part : sizeRem (bytes / 1024) (bytes % 1024) = sizeRem bytes rem := by
        unfold sizeRem
        rw [if_neg (by omega : ¬ Nat.log 1024 bytes = 0), log, Nat.add_sub_cancel]
        split
        · rename_i none
          rw [none, Nat.pow_zero, Nat.div_one]
        · rename_i some
          obtain ⟨k, count⟩ := Nat.exists_eq_succ_of_ne_zero some
          rw [count, Nat.succ_sub_one, Nat.div_div_eq_div_mul, Nat.pow_succ, Nat.mul_comm]
      rw [sizeUnits, if_pos large, ih rest, units', whole, part]
    · have none : Nat.log 1024 bytes = 0 := Nat.log_of_lt (by omega)
      rw [sizeUnits, if_neg large]
      simp [printedSize, tenths, sizeRem, none]

end Printed

section Text

theorem number_chars (n : Nat) : ∀ c ∈ Nat.toDigits 10 n, c.isDigit = true :=
  fun _ mem => CText.digits_isDigit mem

def sizeText (bytes rem : Nat) (unit : String) : SizeText where
  number := {
    whole := Nat.toDigits 10 (tenths bytes rem / 10)
    frac := some (Nat.toDigits 10 (tenths bytes rem % 10))
    whole_digits := number_chars _
    frac_digits := number_chars _
    some_digit := .inl (by simp) }
  space := true
  suffix := unit.toList
  ends := by simp

variable {bytes rem : Nat} {unit : String}

theorem printed_chars :
    printedSize bytes rem unit = String.ofList (sizeText bytes rem unit).chars := by
  apply String.toList_injective
  simp [printedSize, sizeText, SizeText.chars, SizeText.behind, Decimal.text,
    Nat.toString_eq_repr]

theorem printed_value : (sizeText bytes rem unit).number.value = (tenths bytes rem : ℚ) / 10 := by
  have digit : Nat.toDigits 10 (tenths bytes rem % 10) = [Nat.digitChar (tenths bytes rem % 10)] :=
    Nat.toDigits_of_lt_base (Nat.mod_lt _ (by decide))
  have number : decimalValue (Nat.toDigits 10 (tenths bytes rem / 10) ++
      Nat.toDigits 10 (tenths bytes rem % 10)) = tenths bytes rem := by
    unfold CText.decimalValue
    rw [Nat.ofDigitChars_append, Nat.ofDigitChars_ten_toDigits,
      Nat.ofDigitChars_eq_ofDigitChars_zero, Nat.ofDigitChars_ten_toDigits, digit,
      List.length_singleton]
    omega
  unfold Decimal.value sizeText
  dsimp only [Option.getD_some]
  rw [number, digit]
  norm_num

theorem printed_floor :
    ⌊(sizeText bytes rem unit).number.value⌋ = (tenths bytes rem / 10 : Nat) := by
  rw [printed_value, Int.floor_eq_iff]
  have parts : (10 : ℚ) * (tenths bytes rem / 10 : Nat) + (tenths bytes rem % 10 : Nat) =
      tenths bytes rem := by
    exact_mod_cast Nat.div_add_mod (tenths bytes rem) 10
  have digit : ((tenths bytes rem % 10 : Nat) : ℚ) < 10 := by
    exact_mod_cast Nat.mod_lt _ (by decide)
  have least : (0 : ℚ) ≤ (tenths bytes rem % 10 : Nat) := Nat.cast_nonneg _
  rw [Int.cast_natCast]
  constructor <;> linarith

end Text

section Units

def sizeNames : List String := ["B", "KiB", "MiB", "GiB", "TiB", "PiB", "EiB", "ZiB", "YiB"]

theorem unit_named : ∀ p < 9, suffixPower ((sizeNames.drop p).headD "").toList = some p := by
  decide

/-- The size in whole units that is printed. -/
def wholeUnits (n : Nat) : Nat := tenths (n / 1024 ^ Nat.log 1024 n) (sizeRem n 0) / 10

theorem sizeRem_part (n : Nat) : sizeRem n 0 < 1024 := by
  unfold sizeRem
  split
  · decide
  · exact Nat.mod_lt _ (by decide)

theorem whole_near (n : Nat) : n / 1024 ^ Nat.log 1024 n ≤ wholeUnits n ∧
    wholeUnits n ≤ n / 1024 ^ Nat.log 1024 n + 1 :=
  have near := tenths_whole (sizeRem_part n)
  ⟨near.1, near.2.1⟩

theorem whole_exact {n : Nat} (whole : 1024 ^ Nat.log 1024 n ∣ n) :
    wholeUnits n = n / 1024 ^ Nat.log 1024 n := by
  have none : sizeRem n 0 = 0 := by
    unfold sizeRem
    split
    · rfl
    · rename_i some
      obtain ⟨k, count⟩ := Nat.exists_eq_succ_of_ne_zero some
      rw [count, Nat.succ_sub_one]
      rw [count] at whole
      obtain ⟨m, rfl⟩ := whole
      rw [Nat.pow_succ, Nat.mul_assoc, Nat.mul_div_cancel_left _ (by positivity)]
      exact Nat.mul_mod_right 1024 m
  unfold wholeUnits
  rw [(tenths_whole (sizeRem_part n)).2.2 none]
  omega

end Units

section Read

variable {n : Nat}

theorem format_printed (fits : n < 2 ^ 63) : glusterBlockFormatSize n =
    printedSize (n / 1024 ^ Nat.log 1024 n) (sizeRem n 0)
      ((sizeNames.drop (Nat.log 1024 n)).headD "") := by
  have small : n < 1024 ^ (8 + 1) := by omega
  exact sizeUnits_printed small 0 sizeNames

theorem log_small (fits : n < 2 ^ 63) : Nat.log 1024 n ≤ 6 := by
  by_cases none : n = 0
  · simp [none]
  · have below : n < 1024 ^ 7 := by omega
    have := Nat.log_lt_of_lt_pow none below
    omega

/-- What the parser makes of a printed size. -/
theorem parse_printed (fits : n < 2 ^ 63) :
    let res := glusterBlockParseSize strtodSize (glusterBlockFormatSize n) 0
    let product : Int := ((wholeUnits n : Int) * 1024 ^ Nat.log 1024 n).bmod (2 ^ 64)
    (0 ≤ res ↔ 1 ≤ wholeUnits n ∧ 512 ≤ product) ∧ (0 ≤ res → res = product / 512 * 512) := by
  intro res product
  let text := sizeText (n / 1024 ^ Nat.log 1024 n) (sizeRem n 0)
    ((sizeNames.drop (Nat.log 1024 n)).headD "")
  have suffix : suffixPower text.suffix = some (Nat.log 1024 n) :=
    unit_named _ (Nat.lt_of_le_of_lt (log_small fits) (by decide))
  have floor : ⌊text.number.value⌋ = wholeUnits n := printed_floor
  have chars : res = glusterBlockParseSize strtodSize (String.ofList text.chars) 0 :=
    congrArg (fun s => glusterBlockParseSize strtodSize s 0)
      ((format_printed fits).trans printed_chars)
  obtain ⟨taken, whole⟩ := parse_taken text.chars (by decide : (0 : Int) ≤ 0)
  rw [strtod_size suffix] at taken whole
  dsimp only at taken whole
  rw [behind_suffix suffix, floor, ← chars] at whole
  have small : wholeUnits n < 2 ^ 63 := by
    have near := (whole_near n).2
    have below : n < 1024 ^ Nat.log 1024 n * 1024 := by
      rw [← Nat.pow_succ]
      exact Nat.lt_pow_succ_log_self (by decide) n
    have less : n / 1024 ^ Nat.log 1024 n < 1024 := Nat.div_lt_of_lt_mul below
    omega
  constructor
  · rw [chars, taken]
    unfold SizeTaken
    dsimp only
    rw [behind_suffix suffix, suffix, floor]
    have least : 1 ≤ text.number.value ↔ 1 ≤ wholeUnits n := by
      have whole := Int.le_floor (z := 1) (a := text.number.value)
      rw [floor, Int.cast_one] at whole
      exact whole.symm.trans (by omega)
    have most : text.number.value < 2 ^ 63 := by
      have whole := Int.floor_lt (z := 2 ^ 63) (a := text.number.value)
      rw [floor] at whole
      exact_mod_cast whole.mp (by exact_mod_cast small)
    constructor
    · rintro ⟨one, _, power, same, block⟩
      cases same
      exact ⟨least.mp one, block⟩
    · rintro ⟨one, block⟩
      exact ⟨least.mpr one, most, _, rfl, block⟩
  · exact whole _ suffix

/-- Whole units next to a size, read in 64 bits and in blocks of 512. -/
theorem units_read {k u : Nat} {res : Int} (fits : n < 2 ^ 63) (reached : u ≤ n) (unit : 0 < u)
    (units : u ∣ 2 ^ 63) (blocks : 512 ∣ k * u) (near : n / u ≤ k ∧ k ≤ n / u + 1)
    (exact : u ∣ n → k = n / u)
    (taken : 0 ≤ res ↔ 1 ≤ k ∧ 512 ≤ ((k * u : Nat) : Int).bmod (2 ^ 64))
    (read : 0 ≤ res → res = ((k * u : Nat) : Int).bmod (2 ^ 64) / 512 * 512) :
    (res = n ↔ u ∣ n) ∧ (0 ≤ res → |res - n| < u) := by
  have some : 1 ≤ n / u := Nat.div_pos reached unit
  have down := Nat.div_mul_le_self n u
  have up : n < (n / u + 1) * u := by
    rw [Nat.add_mul, Nat.one_mul]
    exact Nat.lt_div_mul_add unit
  have whole : u ∣ n ↔ k * u = n := by
    constructor
    · intro divides
      rw [exact divides]
      exact Nat.div_mul_cancel divides
    · rintro rfl
      exact Nat.dvd_mul_left u k
  have least : 1 ≤ k * u := Nat.mul_pos (by omega) unit
  by_cases inside : k * u < 2 ^ 63
  · have product : ((k * u : Nat) : Int).bmod (2 ^ 64) = (k * u : Nat) :=
      Int.bmod_eq_of_le (by omega) (by omega)
    rw [product] at taken read
    have nonneg : 0 ≤ res := taken.mpr ⟨by omega, by omega⟩
    have value : res = (k * u : Nat) := (read nonneg).trans (by omega)
    refine ⟨by rw [value, whole]; exact Int.natCast_inj, fun _ => ?_⟩
    rw [value, abs_lt]
    have below : n < k * u + u := by
      have step : (n / u + 1) * u ≤ (k + 1) * u := Nat.mul_le_mul_right u (by omega)
      rw [Nat.add_mul k, Nat.one_mul] at step
      omega
    have above : k * u < n + u := by
      rcases Nat.lt_or_ge (n / u) k with more | same
      · have next : k = n / u + 1 := by omega
        have other : n / u * u ≠ n := fun whole => by
          have same := exact ⟨n / u, by rw [Nat.mul_comm, whole]⟩
          omega
        rw [next, Nat.add_mul, Nat.one_mul]
        omega
      · have same : k * u ≤ n / u * u := Nat.mul_le_mul_right u same
        omega
    omega
  · -- rounded up to 8 EiB, the product is out of range and negative
    obtain ⟨m, range⟩ := units
    have fewer : n / u < m := by
      by_contra more
      have wider := Nat.mul_le_mul_right u (Nat.le_of_not_lt more)
      rw [Nat.mul_comm m u, ← range] at wider
      omega
    have most : k * u ≤ m * u := Nat.mul_le_mul_right u (by omega)
    rw [Nat.mul_comm m u, ← range] at most
    have top : k * u = 2 ^ 63 := by omega
    have negative : ¬ 0 ≤ res := by
      rw [taken, top]
      exact fun block => absurd block.2 (by decide)
    refine ⟨iff_of_false (by omega) (fun divides => ?_), fun nonneg => absurd nonneg negative⟩
    have same := whole.mp divides
    omega

/-- A size that is printed and typed again. -/
def readBack (n : Nat) : Int := glusterBlockParseSize strtodSize (glusterBlockFormatSize n) 0

/-- A printed size is read as it was exactly when it is a number of whole units, and else as a
size that is less than a unit away, if it is read at all. -/
theorem printed_size_read (some : 0 < n) (fits : n < 2 ^ 63) (aligned : 512 ∣ n) :
    (readBack n = n ↔ 1024 ^ Nat.log 1024 n ∣ n) ∧
      (0 ≤ readBack n → |readBack n - n| < 1024 ^ Nat.log 1024 n) := by
  unfold readBack
  obtain ⟨taken, read⟩ := parse_printed fits
  have near := whole_near n
  have exact : 1024 ^ Nat.log 1024 n ∣ n → _ := whole_exact
  have reached : 1024 ^ Nat.log 1024 n ≤ n := Nat.pow_log_le_self 1024 some.ne'
  have units : 1024 ^ Nat.log 1024 n ∣ 2 ^ 63 := by
    have few := log_small fits
    have power : 1024 ^ Nat.log 1024 n = 2 ^ (10 * Nat.log 1024 n) := (Nat.pow_mul 2 10 _).symm
    rw [power]
    exact Nat.pow_dvd_pow 2 (by omega)
  have blocks : 512 ∣ wholeUnits n * 1024 ^ Nat.log 1024 n := by
    by_cases none : Nat.log 1024 n = 0
    · rw [none, Nat.pow_zero, Nat.mul_one]
      rw [none, Nat.pow_zero, Nat.div_one] at exact
      rw [exact (one_dvd n)]
      exact aligned
    · obtain ⟨p, log⟩ := Nat.exists_eq_succ_of_ne_zero none
      rw [log, Nat.pow_succ]
      have block : 512 ∣ 1024 := by decide
      exact (block.mul_left _).mul_left _
  have unit : 0 < 1024 ^ Nat.log 1024 n := by positivity
  have cast : (wholeUnits n : Int) * 1024 ^ Nat.log 1024 n =
      (wholeUnits n * 1024 ^ Nat.log 1024 n : Nat) := by push_cast; rfl
  rw [cast] at taken read
  have sizes := units_read fits reached unit units blocks near exact taken read
  exact_mod_cast sizes

theorem printed_size_read_sample : readBack 1610612736 ≠ 1610612736 := by
  have log : Nat.log 1024 1610612736 = 3 := by decide +kernel
  have sizes := (printed_size_read (n := 1610612736) (by decide) (by decide) (by decide)).1
  rw [log] at sizes
  exact fun same => absurd (sizes.mp same) (by decide)

end Read

end GlusterBlock
