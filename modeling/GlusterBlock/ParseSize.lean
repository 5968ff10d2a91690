import GlusterBlock.CommandLine
import GlusterBlock.Lib.Strtod

/-! The size of a block on the command line. The number is cut down to an integer before the
unit multiplies it, and the product may leave the range of the type. -/
namespace GlusterBlock

open CText (Decimal strtod)

/-- The conversion to `ssize_t`: the fraction is dropped, and a number out of range becomes
the least one. -/
def toSsize (x : ℚ) : Int :=
  let n := x.num.tdiv x.den
  if -2 ^ 63 ≤ n ∧ n < 2 ^ 63 then n else -2 ^ 63

def strtodSize (text : List Char) : Int × List Char := (toSsize (strtod text).1, (strtod text).2)

/-- A plain decimal number, an optional space and whatever follows it. -/
structure SizeText where
  number : Decimal
  space : Bool
  suffix : List Char
  ends : space = false → number.Ends suffix

def SizeText.behind (t : SizeText) : List Char := if t.space then ' ' :: t.suffix else t.suffix

def SizeText.chars (t : SizeText) : List Char := t.number.text ++ t.behind

/-- How often the unit of a suffix multiplies by 1024, where the suffix is acceptable. -/
def suffixPower (suffix : List Char) : Option Nat :=
  match suffix.map Char.toLower with
  | [] => some 0
  | ['b'] => some 0
  | c :: tail =>
    if [[], ['i'], ['i', 'b']].contains tail then
      (['k', 'm', 'g', 't', 'p', 'e', 'z', 'y'].idxOf? c).map (· + 1)
    else none

/-- The block size, and the one that stands for 0. -/
def sectorSize (blksize : Int) : Int := if blksize = 0 then gbDefaultSectorSize else blksize

section Spec

/-- The size of a text as a number, where its suffix is acceptable. -/
def SizeText.size (t : SizeText) (power : Nat) : ℚ := t.number.value * 1024 ^ power

/-- An acceptable size is at least a block and fits, and no other text has one. The result
is the size in whole blocks. -/
def SizeParsed (t : SizeText) (blksize : Int) : Prop :=
  let res := glusterBlockParseSize strtodSize (String.ofList t.chars) blksize
  (0 ≤ res ↔ ∃ power, suffixPower t.suffix = some power ∧ sectorSize blksize ≤ t.size power ∧
      t.size power < 2 ^ 63) ∧
    ∀ power, suffixPower t.suffix = some power → 0 ≤ res →
      res = ⌊t.size power / sectorSize blksize⌋ * sectorSize blksize

/-- A number and what is behind it make a size when the integer part of the number does,
multiplied in 64 bits. -/
def SizeTaken (read : ℚ × List Char) (blksize : Int) : Prop :=
  let suffix := if read.2.head? = some ' ' then read.2.tail else read.2
  1 ≤ read.1 ∧ read.1 < 2 ^ 63 ∧ ∃ power, suffixPower suffix = some power ∧
    sectorSize blksize ≤ (⌊read.1⌋ * 1024 ^ power).bmod (2 ^ 64)

/-- The fraction of the number has no block in it, or the product that is too long is
refused. Behind another suffix, a number that goes on with it makes no size. -/
def SizeExact (t : SizeText) (blksize : Int) : Prop :=
  match suffixPower t.suffix with
  | none => ¬ SizeTaken (strtod t.chars) blksize
  | some power =>
    if t.size power < 2 ^ 63 then
      ⌊t.size power / sectorSize blksize⌋ =
        ⌊t.number.value⌋ * 1024 ^ power / sectorSize blksize
    else 2 ^ 63 ≤ t.number.value ∨
      (⌊t.number.value⌋ * 1024 ^ power).bmod (2 ^ 64) < sectorSize blksize

end Spec

section Suffix

/-- The unit and its tail together make an acceptable suffix. -/
theorem suffix_unit (suffix : List Char) (power : Nat) :
    suffixPower suffix = some power ↔ unitPower suffix = some power ∧ unitTail suffix = true := by
  cases suffix with
  | nil => simp [suffixPower, unitPower, unitTail]
  | cons c tail =>
    have units : unitPower (c :: tail) =
        if c.toLower = 'b' then some 0
        else (['k', 'm', 'g', 't', 'p', 'e', 'z', 'y'].idxOf? c.toLower).map (· + 1) := by
      change ('b' :: ['k', 'm', 'g', 't', 'p', 'e', 'z', 'y']).idxOf? c.toLower = _
      rw [List.idxOf?_cons]
      by_cases byte : c.toLower = 'b'
      · rw [if_pos byte, if_pos (by simp [byte])]
      · rw [if_neg byte, if_neg (by simpa using fun same => byte same.symm)]
    have tails : ∀ l : List Char, l <+: ['i', 'b'] ↔ l ∈ [[], ['i'], ['i', 'b']] := by
      intro l
      rw [← List.mem_inits]
      rfl
    have no_unit : ['k', 'm', 'g', 't', 'p', 'e', 'z', 'y'].idxOf? 'b' = none := by decide
    rw [units]
    unfold suffixPower
    by_cases byte : c.toLower = 'b'
    · cases tail with
      | nil => simp [byte, unitTail]
      | cons a tail => simp [byte, unitTail, no_unit]
    · cases tail with
      | nil => simp [byte, unitTail]
      | cons a tail =>
        simp only [List.map_cons, unitTail, tails, byte, if_false]
        by_cases whole : a.toLower :: tail.map Char.toLower ∈ [[], ['i'], ['i', 'b']]
        · simp [byte, whole]
        · simp [byte, whole]

end Suffix

section Conversion

variable {x : ℚ} {blksize : Int}

theorem toSsize_pos : 0 < toSsize x ↔ 1 ≤ x ∧ x < 2 ^ 63 := by
  unfold toSsize
  dsimp only
  by_cases negative : x < 0
  · have num : x.num < 0 := Rat.num_neg.mpr negative
    have down : x.num.tdiv x.den ≤ 0 := by
      have up := Int.tdiv_nonneg (Int.neg_nonneg_of_nonpos num.le) (Int.natCast_nonneg x.den)
      rw [Int.neg_tdiv] at up
      omega
    refine iff_of_false ?_ (fun both => ?_)
    · split <;> omega
    · linarith [both.1]
  · have floor : x.num.tdiv x.den = ⌊x⌋ := by
      rw [Rat.floor_def', Int.tdiv_eq_ediv_of_nonneg (Rat.num_nonneg.mpr (not_lt.mp negative))]
    rw [floor]
    have low : 1 ≤ x ↔ 1 ≤ ⌊x⌋ := by rw [Int.le_floor, Int.cast_one]
    have high : x < 2 ^ 63 ↔ ⌊x⌋ < 2 ^ 63 := by
      rw [Int.floor_lt]
      norm_num
    rw [low, high]
    split <;> omega

theorem toSsize_floor (positive : 0 < toSsize x) : toSsize x = ⌊x⌋ := by
  have range := toSsize_pos.mp positive
  have floor : x.num.tdiv x.den = ⌊x⌋ := by
    rw [Rat.floor_def', Int.tdiv_eq_ediv_of_nonneg (Rat.num_nonneg.mpr (by linarith [range.1]))]
  unfold toSsize at positive ⊢
  dsimp only at positive ⊢
  rw [floor] at positive ⊢
  split at positive
  · rename_i fits
    exact if_pos fits
  · omega

theorem sectorSize_pos (nonneg : 0 ≤ blksize) : 0 < sectorSize blksize := by
  unfold sectorSize gbDefaultSectorSize
  split <;> omega

/-- The unit and the check of its suffix, on a number that was cut down. -/
theorem unit_taken (n : Int) (suffix : List Char) {unit : Int} (block : 0 < unit) :
    let product := fun power => (n * 1024 ^ power).bmod (2 ^ 64)
    let res := match unitPower suffix with
      | none => -1
      | some power =>
        if product power < unit then -1
        else if unitTail suffix then product power - (product power).tmod unit else -1
    (0 ≤ res ↔ ∃ power, suffixPower suffix = some power ∧ unit ≤ product power) ∧
      ∀ power, suffixPower suffix = some power → 0 ≤ res → res = product power / unit * unit := by
  intro product
  cases acceptable : suffixPower suffix with
  | some power =>
    obtain ⟨unit_, tail⟩ := (suffix_unit suffix power).mp acceptable
    rw [unit_, tail]
    dsimp only
    by_cases few : product power < unit
    · rw [if_pos few]
      refine ⟨iff_of_false (by decide) ?_, fun _ _ negative => absurd negative (by decide)⟩
      rintro ⟨_, same, enough⟩
      cases same
      omega
    · have enough : unit ≤ product power := not_lt.mp few
      have whole : product power - (product power).tmod unit = product power / unit * unit := by
        rw [Int.tmod_eq_emod_of_nonneg (by omega), Int.emod_def, mul_comm]
        omega
      rw [if_neg few, if_pos rfl, whole]
      refine ⟨iff_of_true ?_ ⟨power, rfl, enough⟩, fun _ same _ => ?_⟩
      · exact Int.mul_nonneg (Int.ediv_nonneg (by omega) block.le) block.le
      · cases same
        rfl
  | none =>
    have negative : (match unitPower suffix with
        | none => -1
        | some power =>
          if product power < unit then -1
          else if unitTail suffix then product power - (product power).tmod unit else -1) = -1 := by
      split
      · rfl
      · rename_i power unit_
        have tail : unitTail suffix ≠ true := by
          intro tail
          have other := (suffix_unit suffix power).mpr ⟨unit_, tail⟩
          rw [acceptable] at other
          cases other
        rw [if_neg tail, ite_self]
    intro res
    have res_negative : res = -1 := negative
    rw [res_negative]
    exact ⟨iff_of_false (by decide) (fun some_power => nomatch some_power),
      fun _ same => nomatch same⟩

/-- What the parser makes of any text. -/
theorem parse_taken (text : List Char) (nonneg : 0 ≤ blksize) :
    let read := strtod text
    let suffix := if read.2.head? = some ' ' then read.2.tail else read.2
    let res := glusterBlockParseSize strtodSize (String.ofList text) blksize
    (0 ≤ res ↔ SizeTaken read blksize) ∧ ∀ power, suffixPower suffix = some power → 0 ≤ res →
      res = (⌊read.1⌋ * 1024 ^ power).bmod (2 ^ 64) / sectorSize blksize * sectorSize blksize := by
  have block := sectorSize_pos nonneg
  unfold glusterBlockParseSize strtodSize SizeTaken
  rw [String.toList_ofList]
  dsimp only
  generalize strtod text = read
  generalize (if read.2.head? = some ' ' then read.2.tail else read.2) = suffix
  by_cases positive : 0 < toSsize read.1
  · obtain ⟨low, high⟩ := toSsize_pos.mp positive
    rw [if_neg (not_le.mpr positive), toSsize_floor positive]
    obtain ⟨taken, whole⟩ := unit_taken ⌊read.1⌋ suffix block
    exact ⟨taken.trans ⟨fun fits => ⟨low, high, fits⟩, fun fits => fits.2.2⟩, whole⟩
  · have outside : ¬ (1 ≤ read.1 ∧ read.1 < 2 ^ 63) := fun range => positive (toSsize_pos.mpr range)
    rw [if_pos (not_lt.mp positive)]
    exact ⟨iff_of_false (by decide) fun taken => outside ⟨taken.1, taken.2.1⟩,
      fun _ _ negative => absurd negative (by decide)⟩

end Conversion

section Reading

variable {t : SizeText} {power : Nat}

theorem suffix_cases {suffix : List Char} (acceptable : suffixPower suffix = some power) :
    suffix = [] ∨ ∃ c tail, suffix = c :: tail ∧
      c.toLower ∈ ['b', 'k', 'm', 'g', 't', 'p', 'e', 'z', 'y'] ∧
      tail.map Char.toLower ∈ [[], ['i'], ['i', 'b']] := by
  cases suffix with
  | nil => exact .inl rfl
  | cons c tail =>
    refine .inr ⟨c, tail, rfl, ?_, ?_⟩
    · have unit := ((suffix_unit _ _).mp acceptable).1
      by_contra other
      have none := List.idxOf?_eq_none_iff.mpr other
      change List.idxOf? c.toLower _ = some power at unit
      rw [none] at unit
      cases unit
    · have ends := ((suffix_unit _ _).mp acceptable).2
      cases tail with
      | nil => simp
      | cons a tail =>
        simp only [unitTail, Bool.and_eq_true, decide_eq_true_eq] at ends
        have whole := (List.mem_inits _ _).mpr ends.2
        exact whole

/-- In front of an acceptable suffix the number is read as it stands. -/
theorem strtod_size (acceptable : suffixPower t.suffix = some power) :
    strtod t.chars = (t.number.value, t.behind) := by
  apply CText.strtod_decimal
  · intro c mem
    cases space : t.space with
    | true =>
      simp only [SizeText.behind, space, if_true, List.head?_cons, Option.mem_def,
        Option.some.injEq] at mem
      subst c
      exact ⟨by decide, fun _ => by decide⟩
    | false =>
      simp only [SizeText.behind, space, Bool.false_eq_true, if_false] at mem
      exact t.ends space c mem
  · intro c mem
    cases space : t.space with
    | true =>
      simp only [SizeText.behind, space, if_true, List.head?_cons, Option.mem_def,
        Option.some.injEq] at mem
      subst c
      decide
    | false =>
      simp only [SizeText.behind, space, Bool.false_eq_true, if_false] at mem
      rcases suffix_cases acceptable with empty | ⟨c', tail, shape, unit, _⟩
      · rw [empty] at mem
        cases mem
      · rw [shape] at mem
        cases mem
        intro mark
        rw [mark] at unit
        exact absurd unit (by decide)
  · intro x
    cases space : t.space with
    | true =>
      simp only [SizeText.behind, space, if_true]
      rfl
    | false =>
      simp only [SizeText.behind, space, Bool.false_eq_true, if_false]
      rcases suffix_cases acceptable with empty | ⟨c, tail, shape, _, ib⟩
      · rw [empty]
        rfl
      · -- behind the mark of an exponent there is no digit
        have no_digit : (CText.signed tail).2.takeWhile Char.isDigit = [] := by
          cases tail with
          | nil => rfl
          | cons a tail =>
            have i : a.toLower = 'i' := by
              simp only [List.map_cons, List.mem_cons, List.not_mem_nil, or_false] at ib
              rcases ib with absurd | same | same
              · cases absurd
              · exact (List.cons.inj same).1
              · exact (List.cons.inj same).1
            have plain : CText.signed (a :: tail) = (false, a :: tail) := by
              unfold CText.signed
              split
              · rename_i same
                rw [(List.cons.inj same).1] at i
                exact absurd i (by decide)
              · rename_i same
                rw [(List.cons.inj same).1] at i
                exact absurd i (by decide)
              · rfl
            have digit : a.isDigit = false := by
              cases digit : a.isDigit with
              | false => rfl
              | true =>
                rw [CText.digit_lower digit] at i
                rw [i] at digit
                cases digit
            rw [plain]
            exact List.takeWhile_cons_of_neg (by simp [digit])
        rw [shape, CText.scaled]
        dsimp only
        rw [if_pos (.inr no_digit)]

/-- The space is passed over. -/
theorem behind_suffix (acceptable : suffixPower t.suffix = some power) :
    (if t.behind.head? = some ' ' then t.behind.tail else t.behind) = t.suffix := by
  cases space : t.space with
  | true => simp [SizeText.behind, space]
  | false =>
    simp only [SizeText.behind, space, Bool.false_eq_true, if_false]
    rcases suffix_cases acceptable with empty | ⟨c, tail, shape, unit, _⟩
    · rw [empty]
      rfl
    · rw [shape]
      apply if_neg
      intro same
      cases same
      exact absurd unit (by decide)

end Reading

section Exact

variable {t : SizeText} {blksize : Int}

/-- Floors of a product and of its integer part, in blocks. -/
theorem floor_blocks {x : ℚ} (nonneg : 0 ≤ x) (power : Nat) {unit : Int} (block : 0 < unit) :
    0 ≤ ⌊x⌋ * 1024 ^ power / unit ∧
      ⌊x⌋ * 1024 ^ power / unit ≤ ⌊x * 1024 ^ power / unit⌋ ∧
      (1 ≤ ⌊x⌋ * 1024 ^ power / unit ↔ unit ≤ ⌊x⌋ * 1024 ^ power) ∧
      (1 ≤ ⌊x * 1024 ^ power / unit⌋ ↔ (unit : ℚ) ≤ x * 1024 ^ power) := by
  have floor := Int.floor_nonneg.mpr nonneg
  have positive : (0 : ℚ) < unit := by exact_mod_cast block
  refine ⟨Int.ediv_nonneg (by positivity) block.le, ?_, ?_, ?_⟩
  · rw [Int.le_floor, le_div_iff₀ positive]
    have below := Int.ediv_mul_le (⌊x⌋ * 1024 ^ power) block.ne'
    have cast : ((⌊x⌋ * 1024 ^ power / unit * unit : Int) : ℚ) ≤ ((⌊x⌋ * 1024 ^ power : Int) : ℚ) :=
      Int.cast_le.mpr below
    push_cast at cast ⊢
    refine cast.trans ?_
    gcongr
    exact Int.floor_le x
  · rw [Int.le_ediv_iff_mul_le block, one_mul]
  · rw [Int.le_floor, le_div_iff₀ positive, Int.cast_one, one_mul]

/-- A size is parsed as it should be exactly when its fraction, its overflow and the reading
of its number do no harm. -/
theorem size_parsed_iff (t : SizeText) (nonneg : 0 ≤ blksize) :
    SizeParsed t blksize ↔ SizeExact t blksize := by
  have block := sectorSize_pos nonneg
  obtain ⟨taken, whole⟩ := parse_taken t.chars nonneg
  unfold SizeParsed SizeExact
  dsimp only at taken whole ⊢
  cases acceptable : suffixPower t.suffix with
  | none =>
    dsimp only
    rw [taken]
    simp
  | some power =>
    rw [strtod_size acceptable] at taken whole
    dsimp only at taken whole ⊢
    rw [behind_suffix acceptable] at whole
    have whole := whole power acceptable
    unfold SizeTaken at taken
    dsimp only at taken
    rw [behind_suffix acceptable, acceptable] at taken
    simp only [Option.some.injEq, exists_eq_left', forall_eq'] at taken ⊢
    generalize glusterBlockParseSize strtodSize (String.ofList t.chars) blksize = res at *
    have value : 0 ≤ t.number.value := by
      unfold Decimal.value
      positivity
    unfold SizeText.size
    obtain ⟨least, below, cut, full⟩ := floor_blocks value power block
    generalize t.number.value = x at *
    have floor := Int.floor_nonneg.mpr value
    have floor_le : (⌊x⌋ : ℚ) ≤ x := Int.floor_le x
    have scale : (1 : ℚ) ≤ 1024 ^ power := one_le_pow₀ (by norm_num)
    by_cases fits : x * 1024 ^ power < 2 ^ 63
    · rw [if_pos fits]
      have same : (⌊x⌋ * 1024 ^ power).bmod (2 ^ 64) = ⌊x⌋ * 1024 ^ power := by
        have small : ⌊x⌋ * 1024 ^ power < 2 ^ 63 := by
          have cast : ((⌊x⌋ * 1024 ^ power : Int) : ℚ) < ((2 ^ 63 : Int) : ℚ) := by
            push_cast
            exact lt_of_le_of_lt (by gcongr) fits
          exact_mod_cast cast
        have positive : 0 ≤ ⌊x⌋ * 1024 ^ power := by positivity
        exact Int.bmod_eq_of_le (by omega) (by omega)
      rw [same] at taken whole
      have first : sectorSize blksize ≤ ⌊x⌋ * 1024 ^ power → 1 ≤ x ∧ x < 2 ^ 63 := by
        intro enough
        have some_floor : 1 ≤ ⌊x⌋ := by
          by_contra zero
          obtain floor_zero : ⌊x⌋ = 0 := by omega
          rw [floor_zero, zero_mul] at enough
          omega
        have one : (1 : ℚ) ≤ ⌊x⌋ := by exact_mod_cast some_floor
        exact ⟨one.trans floor_le, lt_of_le_of_lt (le_mul_of_one_le_right value scale) fits⟩
      have taken' : 0 ≤ res ↔ 1 ≤ ⌊x⌋ * 1024 ^ power / sectorSize blksize := by
        rw [taken, cut]
        exact ⟨fun range => range.2.2, fun enough => ⟨(first enough).1, (first enough).2, enough⟩⟩
      rw [and_iff_left fits, ← full, taken']
      constructor
      · rintro ⟨accepted, exact_⟩
        by_cases enough : 1 ≤ ⌊x⌋ * 1024 ^ power / sectorSize blksize
        · have both := (exact_ enough).symm.trans (whole (taken'.mpr enough))
          exact Int.eq_of_mul_eq_mul_right block.ne' both
        · have none := mt accepted.mpr enough
          omega
      · intro equal
        rw [equal]
        exact ⟨Iff.rfl, fun enough => whole (taken'.mpr enough)⟩
    · rw [if_neg fits]
      have none : ¬ ((sectorSize blksize : ℚ) ≤ x * 1024 ^ power ∧ x * 1024 ^ power < 2 ^ 63) :=
        fun both => fits both.2
      rw [iff_false_right none]
      constructor
      · rintro ⟨refused, _⟩
        by_contra harm
        obtain ⟨small, long⟩ := not_or.mp harm
        have enough := not_lt.mp long
        have some_floor : 1 ≤ ⌊x⌋ := by
          by_contra zero
          obtain floor_zero : ⌊x⌋ = 0 := by omega
          rw [floor_zero, zero_mul, Int.zero_bmod] at enough
          omega
        have one : (1 : ℚ) ≤ ⌊x⌋ := by exact_mod_cast some_floor
        exact refused (taken.mpr ⟨one.trans floor_le, not_le.mp small, enough⟩)
      · intro harmless
        have refused : ¬ 0 ≤ res := by
          rw [taken]
          rintro ⟨_, small, enough⟩
          rcases harmless with large | few
          · exact absurd large (not_le.mpr small)
          · omega
        exact ⟨refused, fun accepted => absurd accepted refused⟩

/-- 1 MiB. -/
def oneMiB : SizeText where
  number := { whole := ['1'], frac := none, whole_digits := CText.forall_of_all (by decide),
              frac_digits := CText.forall_of_all (by decide), some_digit := by decide }
  space := true
  suffix := ['M', 'i', 'B']
  ends := by simp

theorem size_parsed_sample : 0 ≤ (4096 : Int) ∧ SizeParsed oneMiB 4096 := by
  have block : (0 : Int) ≤ 4096 := by decide
  refine ⟨block, (size_parsed_iff oneMiB block).mpr ?_⟩
  have power : suffixPower oneMiB.suffix = some 2 := by decide
  have value : oneMiB.number.value = 1 := by decide +kernel
  have floor : ⌊(1048576 / 4096 : ℚ)⌋ = 256 := by norm_num
  unfold SizeExact SizeText.size
  rw [power, value]
  norm_num [sectorSize, floor]

/-- 1.5k. -/
def oneAndHalfK : SizeText where
  number := { whole := ['1'], frac := some ['5'], whole_digits := CText.forall_of_all (by decide),
              frac_digits := CText.forall_of_all (by decide), some_digit := by decide }
  space := false
  suffix := ['k']
  ends := by
    intro _ c mem
    cases mem
    decide

/-- 17e. -/
def seventeenE : SizeText where
  number := { whole := ['1', '7'], frac := none, whole_digits := CText.forall_of_all (by decide),
              frac_digits := CText.forall_of_all (by decide), some_digit := by decide }
  space := false
  suffix := ['e']
  ends := by
    intro _ c mem
    cases mem
    decide

/-- Half a KiB is lost in the one, and the other is taken for 1 EiB. -/
theorem fraction_dropped :
    glusterBlockParseSize strtodSize "1.5k" 0 = 1024 ∧ ¬ SizeParsed oneAndHalfK 0 ∧
      glusterBlockParseSize strtodSize "17e" 0 = 2 ^ 60 ∧ ¬ SizeParsed seventeenE 0 := by
  have half : glusterBlockParseSize strtodSize "1.5k" 0 = 1024 := by decide +kernel
  have wrapped : glusterBlockParseSize strtodSize "17e" 0 = 2 ^ 60 := by decide +kernel
  refine ⟨half, fun parsed => ?_, wrapped, fun parsed => ?_⟩
  · have read : glusterBlockParseSize strtodSize (String.ofList oneAndHalfK.chars) 0 = 1024 := half
    have power : suffixPower oneAndHalfK.suffix = some 1 := by decide
    have value : oneAndHalfK.number.value = 3 / 2 := by decide +kernel
    have size := parsed.2 1 power (by rw [read]; decide)
    rw [read, SizeText.size, value] at size
    norm_num [sectorSize, gbDefaultSectorSize] at size
  · have read : glusterBlockParseSize strtodSize (String.ofList seventeenE.chars) 0 = 2 ^ 60 :=
      wrapped
    have power : suffixPower seventeenE.suffix = some 6 := by decide
    have value : seventeenE.number.value = 17 := by decide +kernel
    obtain ⟨power', same, _, fits⟩ := parsed.1.mp (by rw [read]; decide)
    cases power.symm.trans same
    rw [SizeText.size, value] at fits
    norm_num at fits

end Exact

end GlusterBlock
