import Mathlib.Data.List.Basic

/-! The stores that a program makes into a buffer, each with its index and with the size that
the buffer has when it is made, and the cells of the buffer. -/
namespace Stores

/-- The index, and the size of the buffer. -/
abbrev Store := Nat × Nat

def Inside (stores : List Store) : Prop := ∀ s ∈ stores, s.1 < s.2

instance (stores : List Store) : Decidable (Inside stores) :=
  inferInstanceAs (Decidable (∀ s ∈ stores, s.1 < s.2))

/-- So many stores side by side, the first one at the given index. -/
def run (start n size : Nat) : List Store := (List.range' start n).map (fun i => (i, size))

variable {stores more : List Store} {start n size : Nat}

theorem inside_nil : Inside [] := by
  intro s mem
  cases mem

theorem inside_append : Inside (stores ++ more) ↔ Inside stores ∧ Inside more :=
  List.forall_mem_append

theorem inside_single {i : Nat} : Inside [(i, size)] ↔ i < size := by
  unfold Inside
  rw [List.forall_mem_singleton]

/-- The last one of a run decides. -/
theorem inside_run : Inside (run start (n + 1) size) ↔ start + n < size := by
  constructor
  · intro inside
    apply inside (start + n, size)
    apply List.mem_map.mpr
    exact ⟨start + n, List.mem_range'_1.mpr (by omega), rfl⟩
  · intro last s mem
    obtain ⟨i, here, rfl⟩ := List.mem_map.mp mem
    have bound := (List.mem_range'_1.mp here).2
    dsimp only
    omega

section Cells

variable {α : Type*}

/-- The cells with a text stored from some index on. -/
def put (cells : Nat → α) (start : Nat) (src : List α) : Nat → α :=
  fun i => if start ≤ i then (src[i - start]?).getD (cells i) else cells i

/-- So many cells from some index on. -/
def view (cells : Nat → α) (start n : Nat) : List α := (List.range' start n).map cells

variable {cells other : Nat → α} {src : List α} {i : Nat}

theorem put_before (before : i < start) : put cells start src i = cells i :=
  if_neg (Nat.not_le_of_lt before)

theorem put_behind (behind : start + src.length ≤ i) : put cells start src i = cells i := by
  have none : src[i - start]? = none := List.getElem?_eq_none (by omega)
  unfold put
  rw [none]
  split <;> rfl

theorem view_length : (view cells start n).length = n := by
  unfold view
  rw [List.length_map, List.length_range']

theorem view_append (cells : Nat → α) (start n m : Nat) :
    view cells start (n + m) = view cells start n ++ view cells (start + n) m := by
  unfold view
  rw [← List.map_append, List.range'_append_1]

theorem view_same (same : ∀ i, start ≤ i → i < start + n → cells i = other i) :
    view cells start n = view other start n := by
  apply List.map_congr_left
  intro i mem
  obtain ⟨lower, upper⟩ := List.mem_range'_1.mp mem
  exact same i lower upper

theorem put_inside (j : Nat) (inside : j < src.length) : put cells start src (start + j) = src[j] := by
  unfold put
  rw [if_pos (Nat.le_add_right start j), Nat.add_sub_cancel_left, List.getElem?_eq_getElem inside,
    Option.getD_some]

theorem view_put (cells : Nat → α) (start : Nat) (src : List α) :
    view (put cells start src) start src.length = src := by
  unfold view
  apply List.ext_getElem
  · rw [List.length_map, List.length_range']
  · intro j _ inside
    simp only [List.getElem_map, List.getElem_range', Nat.one_mul]
    exact put_inside j inside

theorem view_const {a : α} (same : ∀ i, start ≤ i → i < start + n → cells i = a) :
    view cells start n = List.replicate n a := by
  apply List.eq_replicate_iff.mpr
  refine ⟨view_length, ?_⟩
  intro b mem
  obtain ⟨i, here, rfl⟩ := List.mem_map.mp mem
  obtain ⟨lower, upper⟩ := List.mem_range'_1.mp here
  exact same i lower upper

end Cells

end Stores
