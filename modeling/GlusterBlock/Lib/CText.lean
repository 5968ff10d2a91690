import Mathlib.Algebra.Ring.Int.Defs
import Mathlib.Algebra.Ring.Nat
import Mathlib.Data.List.Infix
import Mathlib.Data.List.TakeWhile

/-! The C string functions a line oriented reader is made of, on character
lists: the first token of `strtok`, the text after `strchr`, `sscanf("%zu")`
and a copy into a fixed buffer that does nothing when the text is too long. -/
namespace CText

/-- `strtok(s, d)` for a one-character delimiter: leading delimiters are skipped. -/
def token (d : Char) (s : List Char) : Option (List Char) :=
  match (s.dropWhile (· == d)).takeWhile (· != d) with
  | [] => none
  | t => some t

/-- `strchr(s, c) + 1`; `none` stands for the null pointer. -/
def after (c : Char) : List Char → Option (List Char)
  | [] => none
  | a :: s => if a = c then some s else after c s

def isSpace (c : Char) : Bool := c = ' ' ∨ ('\t' ≤ c ∧ c ≤ '\r')

def maxSize : Nat := 2 ^ 64 - 1

/-- `sscanf(s, "%zu")` on unsigned text: `none` leaves the target as it was. -/
def scanZu (s : List Char) : Option Nat :=
  match (s.dropWhile isSpace).takeWhile Char.isDigit with
  | [] => none
  | ds => some (min (Nat.ofDigitChars 10 ds 0) maxSize)

/-- Copy into a buffer of `bytes` bytes, terminator included; the buffer keeps
its old text when the new one does not fit. -/
def copy (bytes : Nat) (dest src : String) : String :=
  if src.length > bytes - 1 then dest else src

/-- A check of every element is decided along the list. -/
theorem forall_of_all {α : Type} {P : α → Prop} [DecidablePred P] {l : List α}
    (each : l.all (fun a => decide (P a)) = true) : ∀ a ∈ l, P a := by
  simpa using each

/-- The front of a text up to its first element outside of a class. -/
theorem takeWhile_boundary {p : Char → Bool} {ds rest : List Char} (inside : ∀ c ∈ ds, p c = true)
    (boundary : ∀ c ∈ rest.head?, p c = false) :
    (ds ++ rest).takeWhile p = ds ∧ (ds ++ rest).dropWhile p = rest := by
  have stop : rest.takeWhile p = [] ∧ rest.dropWhile p = rest := by
    cases rest with
    | nil => exact ⟨rfl, rfl⟩
    | cons c s =>
      have outside := boundary c rfl
      simp [outside]
  rw [List.takeWhile_append_of_pos inside, List.dropWhile_append_of_pos inside, stop.1, stop.2]
  exact ⟨List.append_nil ds, rfl⟩

theorem token_of {d : Char} {t rest : List Char} (nonempty : t ≠ []) (hd : d ∉ t) :
    token d (t ++ d :: rest) = some t := by
  cases t with
  | nil => exact absurd rfl nonempty
  | cons a t =>
    have ha : a ≠ d := fun e => hd (e ▸ List.mem_cons_self)
    have start : ((a :: t) ++ d :: rest).dropWhile (· == d) = (a :: t) ++ d :: rest := by
      simp [ha]
    have stop : ((a :: t) ++ d :: rest).takeWhile (· != d) = a :: t := by
      rw [List.takeWhile_append_of_pos]
      · simp
      · intro c hc
        have hne : c ≠ d := fun e => hd (e ▸ hc)
        simp [hne]
    simp only [token, start, stop]

theorem after_of {c : Char} {t rest : List Char} (hc : c ∉ t) :
    after c (t ++ c :: rest) = some rest := by
  induction t with
  | nil => simp [after]
  | cons a t ih =>
    have ha : a ≠ c := fun e => hc (e ▸ List.mem_cons_self)
    simp only [List.cons_append, after, if_neg ha]
    exact ih (fun h => hc (List.mem_cons_of_mem _ h))

theorem after_none {c : Char} {t : List Char} (hc : c ∉ t) : after c t = none := by
  induction t with
  | nil => rfl
  | cons a t ih =>
    have ha : a ≠ c := fun e => hc (e ▸ List.mem_cons_self)
    rw [after, if_neg ha]
    exact ih (fun h => hc (List.mem_cons_of_mem _ h))

theorem digit_range {c : Char} (digit : c.isDigit = true) : 48 ≤ c.toNat ∧ c.toNat ≤ 57 := by
  simpa [Char.isDigit, UInt32.le_iff_toNat_le] using digit

theorem alpha_range {c : Char} (alpha : c.isAlpha = true) :
    65 ≤ c.toNat ∧ c.toNat ≤ 90 ∨ 97 ≤ c.toNat ∧ c.toNat ≤ 122 := by
  have letter : (decide (65 ≤ c.val ∧ c.val ≤ 90) || (decide (97 ≤ c.val) && decide (c.val ≤ 122))) =
      true := alpha
  rw [Bool.or_eq_true, Bool.and_eq_true, decide_eq_true_eq, decide_eq_true_eq, decide_eq_true_eq]
    at letter
  exact letter

theorem digit_not_space {c : Char} (h : c.isDigit = true) : isSpace c = false := by
  have range := digit_range h
  have space : c ≠ ' ' := by rintro rfl; exact absurd range.1 (by decide)
  have high : ¬ c ≤ '\r' := by
    intro hle
    have : c.toNat ≤ 13 := hle
    omega
  simp [isSpace, space, high]

theorem digits_isDigit {n : Nat} {c : Char} (h : c ∈ Nat.toDigits 10 n) : c.isDigit = true :=
  Nat.isDigit_of_mem_toDigits (by decide) (by decide) h

theorem scanZu_front {n : Nat} (h : n ≤ maxSize) {rest : List Char}
    (ends : ∀ c ∈ rest.head?, c.isDigit = false) : scanZu (Nat.toDigits 10 n ++ rest) = some n := by
  have solid : (Nat.toDigits 10 n ++ rest).dropWhile isSpace = Nat.toDigits 10 n ++ rest := by
    obtain ⟨c, ds, digits⟩ := List.exists_cons_of_ne_nil (Nat.toDigits_ne_nil (b := 10) (n := n))
    have digit : c.isDigit = true := digits_isDigit (n := n) (by simp [digits])
    rw [digits, List.cons_append, List.dropWhile_cons_of_neg (by simp [digit_not_space digit])]
  rw [scanZu, solid, (takeWhile_boundary (fun _ hc => digits_isDigit hc) ends).1]
  split
  · rename_i hnil
    exact absurd hnil Nat.toDigits_ne_nil
  · rw [Nat.ofDigitChars_ten_toDigits, Nat.min_eq_left h]

theorem scanZu_digits {n : Nat} (h : n ≤ maxSize) : scanZu (Nat.toDigits 10 n) = some n := by
  have read : scanZu (Nat.toDigits 10 n ++ []) = some n := scanZu_front h (by simp)
  rwa [List.append_nil] at read

theorem scanZu_space (s : List Char) : scanZu (' ' :: s) = scanZu s := by
  have hs : isSpace ' ' = true := by decide
  rw [scanZu, scanZu, List.dropWhile_cons_of_pos hs]

theorem copy_fits {bytes : Nat} {dest src : String} (h : src.length ≤ bytes - 1) :
    copy bytes dest src = src := if_neg (Nat.not_lt.mpr h)

theorem copy_long {bytes : Nat} {dest src : String} (h : bytes - 1 < src.length) :
    copy bytes dest src = dest := if_pos h

end CText
