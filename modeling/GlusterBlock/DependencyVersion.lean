import GlusterBlock.DynConfig
import GlusterBlock.CommandLog
import GlusterBlock.Lib.Stores

/-! The version of a dependency as the daemon compares it. The fields of the text go into an
array of numbers, and the first three of them are packed into one number, in which the second
and the third have a byte each. -/
namespace GlusterBlock

open Stores (Store Inside)
open DynConfig (atoi)

inductive GbDependency where
  | tcmurunner
  | targetcli
  | rtslibBlksize
  | targetcliReload
  | rtslibReload
  | configshellSemicolon
  | tcmurunnerIoTimeout
  | targetcliDaemon
  deriving DecidableEq, Repr

/-- The numbers of the first three fields of a version. -/
structure Triple where
  major : Nat
  minor : Nat
  patch : Nat
  deriving DecidableEq, Repr

def gbMinVersion : GbDependency → Triple
  | .tcmurunner => ⟨1, 1, 3⟩
  | .targetcli => ⟨2, 1, 49⟩
  | .rtslibBlksize => ⟨2, 1, 69⟩
  | .targetcliReload => ⟨2, 1, 50⟩
  | .rtslibReload => ⟨2, 1, 71⟩
  | .configshellSemicolon => ⟨1, 1, 25⟩
  | .tcmurunnerIoTimeout => ⟨1, 5, 0⟩
  | .targetcliDaemon => ⟨2, 1, 51⟩

section Compare

def vernumBuflen : Nat := 8

/-- A `size_t` that is set to an `int`. -/
def toSize (n : Int) : Nat := (n % 2 ^ 64).toNat

/-- `KERNEL_VERSION`, of numbers of the type `size_t`. -/
def dependencyVersion (a b c : Nat) : Nat := (a * 65536 + b * 256 + min c 255) % 2 ^ 64

/-- `strtok` with both delimiters. -/
def versionTokens (version : Text) : List Text :=
  (version.splitOnP (fun c => c == '.' || c == '-')).filter (· ≠ [])

/-- `atoi` of a text that begins with a digit. -/
def leadingNumber (text : Text) : Int := atoi (text.takeWhile Char.isDigit)

/-- What the loop over a token stores last, from this part of the token on. -/
def tokenNumber (token : Text) : Text → Option Int → Option Int
  | [], stored => stored
  | c :: rest, stored =>
    if c.isDigit then tokenNumber token rest (some (leadingNumber token))
    else
      match token.dropWhile (fun c => !c.isDigit) with
      | [] => tokenNumber token rest stored
      | tmp => some (leadingNumber tmp)

structure VersionNumbers where
  vNum : List Nat
  stores : List Store

def VersionNumbers.set (ns : VersionNumbers) (i : Nat) (n : Int) : VersionNumbers where
  vNum := ns.vNum.set i (toSize n)
  stores := ns.stores ++ [(i, vernumBuflen)]

/-- The index grows with each token. -/
def storeVersion : List Text → Nat → VersionNumbers → VersionNumbers
  | [], _, ns => ns
  | token :: tokens, i, ns =>
    match tokenNumber token token none with
    | none => storeVersion tokens (i + 1) ns
    | some n => storeVersion tokens (i + 1) (ns.set i n)

/-- The answer, and the stores into the array of numbers. -/
def gbDependencyVersionCompare (dependency : GbDependency) (version : Text) : Bool × List Store :=
  let ns := storeVersion (versionTokens version) 0 ⟨List.replicate vernumBuflen 0, []⟩
  let required := gbMinVersion dependency
  (decide (dependencyVersion (ns.vNum.getD 0 0) (ns.vNum.getD 1 0) (ns.vNum.getD 2 0) ≥
    dependencyVersion required.major required.minor required.patch), ns.stores)

end Compare

section Versions

/-- Digits, or letters and then digits. -/
structure VersionField where
  letters : Text
  digits : Text
  alpha : ∀ c ∈ letters, c.isAlpha = true
  digit : ∀ c ∈ digits, c.isDigit = true
  nonempty : digits ≠ []

inductive VersionSep where
  | dot
  | dash
  deriving DecidableEq, Repr

def VersionSep.char : VersionSep → Char
  | .dot => '.'
  | .dash => '-'

namespace VersionField

def text (f : VersionField) : Text := f.letters ++ f.digits
def number (f : VersionField) : Nat := Nat.ofDigitChars 10 f.digits 0

end VersionField

/-- The text of a version: three fields, and more of them behind. -/
structure Version where
  major : VersionField
  minorSep : VersionSep
  minor : VersionField
  patchSep : VersionSep
  patch : VersionField
  more : List (VersionSep × VersionField)

namespace Version

def fields (v : Version) : List VersionField :=
  v.major :: v.minor :: v.patch :: v.more.map Prod.snd

def text (v : Version) : Text :=
  v.major.text ++ ((v.minorSep, v.minor) :: (v.patchSep, v.patch) :: v.more).flatMap
    (fun f => f.1.char :: f.2.text)

def triple (v : Version) : Triple := ⟨v.major.number, v.minor.number, v.patch.number⟩

end Version

/-- In the order of the versions: the first numbers that differ decide. -/
def Triple.AtLeast (v required : Triple) : Prop :=
  required.major < v.major ∨ required.major = v.major ∧
    (required.minor < v.minor ∨ required.minor = v.minor ∧ required.patch ≤ v.patch)

end Versions

section Fields

theorem separator_char (s : VersionSep) :
    (s.char == '.' || s.char == '-') = true := by
  cases s <;> rfl

theorem alpha_plain {c : Char} (alpha : c.isAlpha = true) :
    c.isDigit = false ∧ (c == '.' || c == '-') = false := by
  have letter := CText.alpha_range alpha
  constructor
  · apply Bool.eq_false_iff.mpr
    intro digit
    have bounds := CText.digit_range digit
    omega
  · rw [Bool.or_eq_false_iff, beq_eq_false_iff_ne, beq_eq_false_iff_ne]
    constructor
    · rintro rfl
      exact absurd alpha (by decide)
    · rintro rfl
      exact absurd alpha (by decide)

theorem digit_plain {c : Char} (digit : c.isDigit = true) : (c == '.' || c == '-') = false := by
  rw [Bool.or_eq_false_iff, beq_eq_false_iff_ne, beq_eq_false_iff_ne]
  constructor
  · rintro rfl
    exact absurd digit (by decide)
  · rintro rfl
    exact absurd digit (by decide)

variable (f : VersionField)

theorem field_plain : ∀ c ∈ f.text, (c == '.' || c == '-') = false := by
  intro c mem
  rcases List.mem_append.mp mem with letter | digit
  · exact (alpha_plain (f.alpha c letter)).2
  · exact digit_plain (f.digit c digit)

theorem field_nonempty : f.text ≠ [] := by
  intro empty
  exact f.nonempty (List.append_eq_nil_iff.mp empty).2

/-- The letters are what is skipped. -/
theorem field_skip : f.text.dropWhile (fun c => !c.isDigit) = f.digits := by
  have letters : ∀ c ∈ f.letters, (!c.isDigit) = true := by
    intro c mem
    rw [(alpha_plain (f.alpha c mem)).1]
    rfl
  have skipped : f.text.dropWhile (fun c => !c.isDigit) =
      f.digits.dropWhile (fun c => !c.isDigit) := List.dropWhile_append_of_pos letters
  rw [skipped]
  cases digits : f.digits with
  | nil => exact absurd digits f.nonempty
  | cons c cs =>
    have first := f.digit c (digits ▸ List.mem_cons_self)
    rw [List.dropWhile_cons_of_neg (by simp [first])]

theorem leadingNumber_digits : leadingNumber f.digits = atoi f.digits := by
  unfold leadingNumber
  rw [List.takeWhile_eq_self_iff.mpr f.digit]

/-- The scan of a field of digits goes on to its end. -/
theorem number_digits (token : Text) :
    ∀ rest stored, (∀ c ∈ rest, c.isDigit = true) → rest ≠ [] →
      tokenNumber token rest stored = some (leadingNumber token) := by
  intro rest
  induction rest with
  | nil => exact fun _ _ absurd => (absurd rfl).elim
  | cons c rest ih =>
    intro stored digits _
    rw [tokenNumber, if_pos (digits c List.mem_cons_self)]
    cases rest with
    | nil => rfl
    | cons d rest =>
      exact ih _ (fun e mem => digits e (List.mem_cons_of_mem c mem)) (List.cons_ne_nil d rest)

theorem field_number : tokenNumber f.text f.text none = some (atoi f.digits) := by
  cases letters : f.letters with
  | nil =>
    have text : f.text = f.digits := by
      unfold VersionField.text
      rw [letters, List.nil_append]
    rw [text, number_digits f.digits _ _ f.digit f.nonempty, leadingNumber_digits]
  | cons c cs =>
    have first : c.isDigit = false := (alpha_plain (f.alpha c (letters ▸ List.mem_cons_self))).1
    have text : f.text = c :: (cs ++ f.digits) := by
      unfold VersionField.text
      rw [letters, List.cons_append]
    have skip := field_skip f
    rw [text] at skip ⊢
    rw [tokenNumber, first, if_neg Bool.false_ne_true, skip]
    cases digits : f.digits with
    | nil => exact absurd digits f.nonempty
    | cons d ds =>
      dsimp only
      rw [← digits, leadingNumber_digits]

end Fields

section Scan

theorem fields_split (f : VersionField) (more : List (VersionSep × VersionField)) :
    (f.text ++ more.flatMap (fun g => g.1.char :: g.2.text)).splitOnP
        (fun c => c == '.' || c == '-') = f.text :: more.map (fun g => g.2.text) := by
  induction more generalizing f with
  | nil =>
    rw [List.flatMap_nil, List.append_nil, List.splitOnP_eq_singleton (field_plain f)]
    rfl
  | cons g more ih =>
    rw [List.flatMap_cons, List.cons_append,
      List.splitOnP_append_cons_of_forall_mem (field_plain f) _ (separator_char g.1), ih]
    rfl

theorem version_tokens (v : Version) :
    versionTokens v.text = v.fields.map VersionField.text := by
  have split : v.text.splitOnP (fun c => c == '.' || c == '-') =
      v.fields.map VersionField.text := by
    unfold Version.text Version.fields
    rw [fields_split]
    simp
  unfold versionTokens
  rw [split]
  apply List.filter_eq_self.mpr
  intro token mem
  obtain ⟨f, _, rfl⟩ := List.mem_map.mp mem
  exact decide_eq_true (field_nonempty f)

variable (fs : List VersionField) (i : Nat) (ns : VersionNumbers)

/-- One store for each field, from the index on. -/
theorem scan_stores : (storeVersion (fs.map VersionField.text) i ns).stores =
    ns.stores ++ Stores.run i fs.length vernumBuflen := by
  induction fs generalizing i ns with
  | nil => exact (List.append_nil _).symm
  | cons f fs ih =>
    rw [List.map_cons, storeVersion, field_number]
    dsimp only
    rw [ih, VersionNumbers.set, List.append_assoc]
    rfl

/-- A number stays when the index is behind it. -/
theorem scan_kept {k : Nat} (behind : k < i) :
    (storeVersion (fs.map VersionField.text) i ns).vNum.getD k 0 = ns.vNum.getD k 0 := by
  induction fs generalizing i ns with
  | nil => rfl
  | cons f fs ih =>
    rw [List.map_cons, storeVersion, field_number]
    dsimp only
    rw [ih (i + 1) _ (by omega)]
    unfold VersionNumbers.set
    rw [List.getD_eq_getElem?_getD, List.getD_eq_getElem?_getD, List.getElem?_set_ne (by omega)]

/-- The first three numbers are those of the first three fields. -/
theorem version_numbers (v : Version) :
    let ns := storeVersion (versionTokens v.text) 0 ⟨List.replicate vernumBuflen 0, []⟩
    ns.vNum.getD 0 0 = toSize (atoi v.major.digits) ∧
      ns.vNum.getD 1 0 = toSize (atoi v.minor.digits) ∧
      ns.vNum.getD 2 0 = toSize (atoi v.patch.digits) := by
  dsimp only
  rw [version_tokens]
  unfold Version.fields
  simp only [List.map_cons, storeVersion, field_number]
  refine ⟨?_, ?_, ?_⟩
  · rw [scan_kept _ _ _ (by omega)]
    rfl
  · rw [scan_kept _ _ _ (by omega)]
    rfl
  · rw [scan_kept _ _ _ (by omega)]
    rfl

theorem version_stores (dependency : GbDependency) (v : Version) :
    Inside (gbDependencyVersionCompare dependency v.text).2 ↔ v.more.length ≤ 5 := by
  have stores : (gbDependencyVersionCompare dependency v.text).2 =
      Stores.run 0 (v.more.length + 2 + 1) vernumBuflen := by
    unfold gbDependencyVersionCompare
    dsimp only
    rw [version_tokens, scan_stores, List.nil_append]
    unfold Version.fields
    simp
  rw [stores, Stores.inside_run]
  unfold vernumBuflen
  omega

end Scan

section Codes

/-- The `int` that `atoi` makes of a number. -/
def intNumber (n : Nat) : Int := (BitVec.ofNat 32 (min n (2 ^ 63 - 1))).toInt

theorem intNumber_small {n : Nat} (small : n < 2 ^ 31) : intNumber n = n := by
  unfold intNumber
  rw [BitVec.toInt_eq_toNat_cond, BitVec.toNat_ofNat]
  have same : min n (2 ^ 63 - 1) % 2 ^ 32 = n := by omega
  rw [same, if_pos (by omega)]

theorem intNumber_bounds (n : Nat) : -2 ^ 31 ≤ intNumber n ∧ intNumber n < 2 ^ 31 :=
  ⟨BitVec.le_toInt _, BitVec.toInt_lt⟩

/-- The byte of the third number: one that does not fit counts as 255. -/
def lastByte (n : Int) : Int := if 0 ≤ n ∧ n ≤ 255 then n else 255

/-- The packed number of a version, as it was without a bound. -/
def Triple.packed (v : Triple) : Int :=
  intNumber v.major * 65536 + intNumber v.minor * 256 + lastByte (intNumber v.patch)

theorem lastByte_bounds (n : Int) : 0 ≤ lastByte n ∧ lastByte n ≤ 255 := by
  unfold lastByte
  split <;> omega

/-- A packed number is kept as it is, and a negative one becomes very large. -/
theorem packed_size (v : Triple) :
    (dependencyVersion (toSize (intNumber v.major)) (toSize (intNumber v.minor))
      (toSize (intNumber v.patch)) : Int) =
        if 0 ≤ v.packed then v.packed else v.packed + 2 ^ 64 := by
  obtain ⟨la, ha⟩ := intNumber_bounds v.major
  obtain ⟨lb, hb⟩ := intNumber_bounds v.minor
  obtain ⟨lc, hc⟩ := intNumber_bounds v.patch
  unfold Triple.packed
  generalize intNumber v.major = a at *
  generalize intNumber v.minor = b at *
  generalize intNumber v.patch = c at *
  unfold dependencyVersion toSize lastByte
  split <;> split <;> omega

def GbDependency.packed (dependency : GbDependency) : Int := (gbMinVersion dependency).packed

theorem version_answer (dependency : GbDependency) (v : Version) :
    (gbDependencyVersionCompare dependency v.text).1 = true ↔
      v.triple.packed < 0 ∨ dependency.packed ≤ v.triple.packed := by
  obtain ⟨first, second, third⟩ := version_numbers v
  have required : (dependencyVersion (gbMinVersion dependency).major
      (gbMinVersion dependency).minor (gbMinVersion dependency).patch : Int) =
        dependency.packed ∧ dependency.packed < 2 ^ 62 := by
    cases dependency <;> decide
  have digits : ∀ f : VersionField, atoi f.digits = intNumber f.number := fun _ => rfl
  have size := packed_size v.triple
  obtain ⟨la, ha⟩ := intNumber_bounds v.triple.major
  obtain ⟨lb, hb⟩ := intNumber_bounds v.triple.minor
  obtain ⟨lc, hc⟩ := lastByte_bounds (intNumber v.triple.patch)
  have floor : -2 ^ 63 < v.triple.packed := by
    unfold Triple.packed
    omega
  unfold gbDependencyVersionCompare
  dsimp only
  rw [decide_eq_true_iff, first, second, third, digits, digits, digits]
  change dependencyVersion _ _ _ ≤ dependencyVersion (toSize (intNumber v.triple.major))
    (toSize (intNumber v.triple.minor)) (toSize (intNumber v.triple.patch)) ↔ _
  have cast : ∀ m n : Nat, m ≤ n ↔ (m : Int) ≤ n := fun m n => Int.ofNat_le.symm
  rw [cast, required.1, size]
  split <;> omega

end Codes

section Order

/-- An older version whose second number runs into the place of the first one, or wraps. -/
def Triple.Carries (v required : Triple) : Prop :=
  v.major < required.major ∧ (v.packed < 0 ∨ required.packed ≤ v.packed)

/-- A version that is new enough has a number that is no `int`, and what becomes of it makes
the version an older one. -/
def Triple.Wraps (v required : Triple) : Prop :=
  (2 ^ 31 ≤ v.major ∨ 2 ^ 31 ≤ v.minor ∨ 2 ^ 31 ≤ v.patch) ∧ v.AtLeast required ∧
    0 ≤ v.packed ∧ v.packed < required.packed

variable {v required : Triple}
variable (bytes : required.major < 2 ^ 31 ∧ required.minor < 256 ∧ required.patch < 256)
include bytes

theorem required_packed : required.packed =
    required.major * 65536 + required.minor * 256 + required.patch := by
  unfold Triple.packed
  rw [intNumber_small bytes.1, intNumber_small (by omega), intNumber_small (by omega)]
  unfold lastByte
  rw [if_pos (by omega)]

theorem newer_packed (newer : v.AtLeast required) (major : v.major < 2 ^ 31)
    (minor : v.minor < 2 ^ 31) (patch : v.patch < 2 ^ 31) : required.packed ≤ v.packed := by
  rw [required_packed bytes]
  unfold Triple.packed
  rw [intNumber_small major, intNumber_small minor, intNumber_small patch]
  unfold lastByte
  unfold Triple.AtLeast at newer
  split <;> omega

theorem older_packed (older : ¬ v.AtLeast required) (major : required.major ≤ v.major) :
    0 ≤ v.packed ∧ v.packed < required.packed := by
  rw [required_packed bytes]
  unfold Triple.AtLeast at older
  have same : required.major = v.major := by omega
  have minor : v.minor < required.minor ∨ v.minor = required.minor ∧ v.patch < required.patch := by
    omega
  obtain ⟨low, high⟩ := lastByte_bounds (intNumber v.patch)
  have small : v.minor = required.minor → lastByte (intNumber v.patch) = v.patch := by
    intro minors
    rw [intNumber_small (by omega)]
    unfold lastByte
    rw [if_pos (by omega)]
  unfold Triple.packed
  rw [intNumber_small (n := v.major) (by omega), intNumber_small (n := v.minor) (by omega)]
  rcases minor with less | ⟨minors, less⟩
  · omega
  · rw [small minors]
    omega

/-- The packed numbers are in the order of the versions but for these two kinds. -/
theorem packed_order : (v.packed < 0 ∨ required.packed ≤ v.packed ↔ v.AtLeast required) ↔
    ¬ v.Carries required ∧ ¬ v.Wraps required := by
  constructor
  · intro order
    constructor
    · rintro ⟨major, wrong⟩
      have newer := order.mp wrong
      unfold Triple.AtLeast at newer
      omega
    · rintro ⟨_, newer, wrong⟩
      have right := order.mpr newer
      omega
  · rintro ⟨carries, wraps⟩
    constructor
    · intro large
      by_contra older
      by_cases major : v.major < required.major
      · exact carries ⟨major, large⟩
      · have wrong := older_packed bytes older (by omega)
        omega
    · intro newer
      by_contra less
      by_cases fits : v.major < 2 ^ 31 ∧ v.minor < 2 ^ 31 ∧ v.patch < 2 ^ 31
      · have right := newer_packed bytes newer fits.1 fits.2.1 fits.2.2
        omega
      · exact wraps ⟨by omega, newer, by omega⟩

end Order

/-- All stores are into the array, and the answer is the order of the versions, exactly when
there are no more than eight fields and the packed numbers neither carry nor wrap. -/
theorem version_compared (dependency : GbDependency) (v : Version) :
    (Inside (gbDependencyVersionCompare dependency v.text).2 ∧
      ((gbDependencyVersionCompare dependency v.text).1 = true ↔
        v.triple.AtLeast (gbMinVersion dependency))) ↔
      v.more.length ≤ 5 ∧ ¬ v.triple.Carries (gbMinVersion dependency) ∧
        ¬ v.triple.Wraps (gbMinVersion dependency) := by
  have bytes : (gbMinVersion dependency).major < 2 ^ 31 ∧ (gbMinVersion dependency).minor < 256 ∧
      (gbMinVersion dependency).patch < 256 := by
    cases dependency <;> decide
  rw [version_stores, version_answer]
  exact and_congr_right fun _ => packed_order bytes

section Sample

def plainField (digits : Text) (digit : ∀ c ∈ digits, c.isDigit = true) (nonempty : digits ≠ []) :
    VersionField where
  letters := []
  digits := digits
  alpha := fun _ absurd => nomatch absurd
  digit := digit
  nonempty := nonempty

/-- Version 1.300.0 is taken for one that is not older than 2.1.49. -/
theorem minor_carries : ∃ v : Version, v.text = "1.300.0".toList ∧
    ¬ (Inside (gbDependencyVersionCompare .targetcli v.text).2 ∧
      ((gbDependencyVersionCompare .targetcli v.text).1 = true ↔
        v.triple.AtLeast (gbMinVersion .targetcli))) := by
  refine ⟨{ major := plainField ['1'] (CText.forall_of_all (by decide)) (by decide), minorSep := .dot,
            minor := plainField ['3', '0', '0'] (CText.forall_of_all (by decide)) (by decide), patchSep := .dot,
            patch := plainField ['0'] (CText.forall_of_all (by decide)) (by decide), more := [] }, by decide, ?_⟩
  rintro ⟨_, answer⟩
  have older := answer.mp (by decide)
  exact absurd older (by unfold Triple.AtLeast; decide)

end Sample

end GlusterBlock
