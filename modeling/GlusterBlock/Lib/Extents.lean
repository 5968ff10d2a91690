import Mathlib.Algebra.Ring.Int.Defs
import Mathlib.Algebra.Ring.Nat
import Mathlib.Tactic.Common

/-! Writes to a file, each a position and a length, and the bytes that they cover. Writes
that follow one another cover all from the first position to the last. -/
namespace Extents

abbrev Extent := Nat × Nat

def Covers (ws : List Extent) (byte : Nat) : Prop := ∃ w ∈ ws, w.1 ≤ byte ∧ byte < w.1 + w.2

/-- No write leaves the bytes from `start` up to `stop`. -/
def Within (ws : List Extent) (start stop : Nat) : Prop :=
  ∀ w ∈ ws, start ≤ w.1 ∧ w.1 + w.2 ≤ stop

/-- The writes cover the bytes from `start` up to `pos` and no other. -/
structure Fills (ws : List Extent) (start pos : Nat) : Prop where
  order : start ≤ pos
  within : Within ws start pos
  covers : ∀ byte, start ≤ byte → byte < pos → Covers ws byte

variable {ws : List Extent} {start pos stop byte : Nat}

theorem Within.mono (within : Within ws start pos) (more : pos ≤ stop) : Within ws start stop :=
  fun w hw => ⟨(within w hw).1, Nat.le_trans (within w hw).2 more⟩

theorem within_nil : Within [] start stop := by
  intro w hw
  cases hw

theorem fills_nil (start : Nat) : Fills [] start start where
  order := Nat.le_refl start
  within := within_nil
  covers byte low high := by omega

/-- The next write begins where the last one ended. -/
theorem Fills.write (fills : Fills ws start pos) (n : Nat) :
    Fills (ws ++ [(pos, n)]) start (pos + n) where
  order := Nat.le_trans fills.order (Nat.le_add_right pos n)
  within w hw := by
    rcases List.mem_append.mp hw with old | new
    · have bounds := fills.within w old
      omega
    · rw [List.mem_singleton.mp new]
      exact ⟨fills.order, Nat.le_refl _⟩
  covers byte low high := by
    by_cases early : byte < pos
    · obtain ⟨w, hw, here⟩ := fills.covers byte low early
      exact ⟨w, List.mem_append_left _ hw, here⟩
    · exact ⟨(pos, n), by simp, by omega, by omega⟩

theorem Fills.covers_iff (fills : Fills ws start pos) :
    Covers ws byte ↔ start ≤ byte ∧ byte < pos := by
  constructor
  · rintro ⟨w, hw, low, high⟩
    have bounds := fills.within w hw
    omega
  · rintro ⟨low, high⟩
    exact fills.covers byte low high

/-- A range is covered as a whole when the writes get to its end. -/
theorem Fills.covers_all (fills : Fills ws start pos) :
    (∀ byte, start ≤ byte → byte < stop → Covers ws byte) ↔ stop ≤ max start pos := by
  constructor
  · intro all
    by_contra short
    have first := fills.order
    have missing := fills.covers_iff.mp (all pos first (by omega))
    omega
  · intro reached byte low high
    exact fills.covers byte low (by omega)

end Extents
