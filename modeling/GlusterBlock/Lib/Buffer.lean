import Mathlib.Data.Nat.Digits.Defs

/-! Memory buffers as C reads and writes them: little endian integers of a fixed
width, and text that ends at the first zero byte and may be padded with zeros. -/
namespace Buffer

section Integers

/-- The low `w` bytes of a number, the least significant one first. -/
def leBytes : Nat → Nat → List UInt8
  | 0, _ => []
  | w + 1, v => UInt8.ofNat (v % 256) :: leBytes w (v / 256)

def leValue (bytes : List UInt8) : Nat := Nat.ofDigits 256 (bytes.map UInt8.toNat)

theorem leBytes_length (w v : Nat) : (leBytes w v).length = w := by
  induction w generalizing v with
  | zero => rfl
  | succ w ih => simp [leBytes, ih]

theorem leValue_cons (b : UInt8) (bytes : List UInt8) :
    leValue (b :: bytes) = b.toNat + 256 * leValue bytes := by
  simp [leValue, Nat.ofDigits_cons]

theorem leValue_leBytes (w v : Nat) : leValue (leBytes w v) = v % 256 ^ w := by
  induction w generalizing v with
  | zero => simp [leBytes, leValue, Nat.mod_one]
  | succ w ih =>
    have low : (UInt8.ofNat (v % 256)).toNat = v % 256 := by simp
    rw [leBytes, leValue_cons, ih, low, pow_succ', Nat.mod_mul]

/-- A byte of the number is the byte at its place. -/
theorem leValue_digit {bytes : List UInt8} {i : Nat} {b : UInt8} (here : bytes[i]? = some b) :
    leValue bytes / 256 ^ i % 256 = b.toNat := by
  induction bytes generalizing i with
  | nil => cases here
  | cons a bytes ih =>
    have small : a.toNat < 256 := a.toNat_lt
    rw [leValue_cons]
    cases i with
    | zero =>
      obtain rfl : a = b := by simpa using here
      omega
    | succ i =>
      have next : (a.toNat + 256 * leValue bytes) / 256 = leValue bytes := by omega
      rw [pow_succ', ← Nat.div_div_eq_div_mul, next]
      exact ih (by simpa using here)

/-- The integer of `w` bytes that starts at `off`. -/
def readLE (off w : Nat) (buf : List UInt8) : Nat := leValue ((buf.drop off).take w)

theorem readLE_at (before : List UInt8) {off : Nat} (start : before.length = off)
    (w v : Nat) (after : List UInt8) : readLE off w (before ++ (leBytes w v ++ after)) = v % 256 ^ w := by
  subst start
  have width := leBytes_length w v
  rw [readLE, List.drop_left, List.take_left' width, leValue_leBytes]

end Integers

section Text

/-- The bytes of a C string without its end. -/
def ofText (s : String) : List UInt8 := s.toList.map (fun c => UInt8.ofNat c.toNat)

def toText (bytes : List UInt8) : String := String.ofList (bytes.map (fun b => Char.ofNat b.toNat))

/-- The text that starts at `off`. -/
def textAt (off : Nat) (buf : List UInt8) : String :=
  toText ((buf.drop off).takeWhile (· != 0))

/-- A text that is filled up to a width with zeros. -/
def padded (w : Nat) (s : String) : List UInt8 :=
  ofText s ++ List.replicate (w - (ofText s).length) 0

/-- All characters are bytes, and none ends the text. -/
def IsCText (s : String) : Prop := ∀ c ∈ s.toList, 0 < c.toNat ∧ c.toNat < 256

theorem ofText_length (s : String) : (ofText s).length = s.length := by
  rw [ofText, List.length_map, String.length_toList]

theorem padded_length {w : Nat} {s : String} (fits : s.length ≤ w) : (padded w s).length = w := by
  rw [padded, List.length_append, List.length_replicate, ofText_length]
  omega

theorem toText_ofText {s : String} (clean : IsCText s) : toText (ofText s) = s := by
  have each : (ofText s).map (fun b => Char.ofNat b.toNat) = s.toList := by
    have kept : s.toList.map (fun c => Char.ofNat (UInt8.ofNat c.toNat).toNat) =
        s.toList.map id := by
      apply List.map_congr_left
      intro c hc
      rw [UInt8.toNat_ofNat_of_lt' (clean c hc).2, Char.ofNat_toNat]
      rfl
    rw [ofText, List.map_map]
    exact kept.trans (List.map_id _)
  rw [toText, each, String.ofList_toList]

theorem ofText_nonzero {s : String} (clean : IsCText s) : ∀ b ∈ ofText s, (b != 0) = true := by
  intro b hb
  obtain ⟨c, hc, rfl⟩ := List.mem_map.mp hb
  obtain ⟨positive, byte⟩ := clean c hc
  rw [bne_iff_ne]
  intro zero
  have value := congrArg UInt8.toNat zero
  rw [UInt8.toNat_ofNat_of_lt' byte] at value
  exact absurd value (by simpa using positive.ne')

/-- A text in a buffer is read up to its end. -/
theorem textAt_padded (before after : List UInt8) {off w : Nat} {s : String} (clean : IsCText s)
    (start : before.length = off) (ends : s.length < w) :
    textAt off (before ++ (padded w s ++ after)) = s := by
  have room : w - (ofText s).length = (w - s.length - 1) + 1 := by
    rw [ofText_length]
    omega
  have stop : (padded w s ++ after).takeWhile (· != 0) = ofText s := by
    rw [padded, room, List.replicate_succ, List.append_assoc,
      List.takeWhile_append_of_pos (ofText_nonzero clean), List.cons_append,
      List.takeWhile_cons_of_neg (by simp), List.append_nil]
  subst start
  rw [textAt, List.drop_left, stop, toText_ofText clean]

end Text

end Buffer
