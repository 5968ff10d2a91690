import Mathlib.Data.List.Count

/-! Things that a program takes and gives back. A run is settled when each thing is given back
as often as it is taken and never before that; one pass that keeps a list of what is held
decides this. -/
namespace Custody

inductive Transfer (R : Type*) where
  | take (r : R)
  | give (r : R)
  deriving DecidableEq, Repr

variable {R : Type*} [DecidableEq R]

/-- Along the way nothing is given back that is not held. -/
def Covered (held : List R) (acts : List (Transfer R)) : Prop :=
  ∀ front, front <+: acts → ∀ r, front.count (.give r) ≤ held.count r + front.count (.take r)

/-- Each thing is given back as often as it is taken, and never before that. -/
structure Settled (acts : List (Transfer R)) : Prop where
  covered : ∀ front, front <+: acts → ∀ r, front.count (.give r) ≤ front.count (.take r)
  balance : ∀ r, acts.count (.give r) = acts.count (.take r)

/-- What is held after the acts. It is nothing when one of them gives back what is not held. -/
def holds : List R → List (Transfer R) → Option (List R)
  | held, [] => some held
  | held, .take r :: acts => holds (r :: held) acts
  | held, .give r :: acts => if r ∈ held then holds (held.erase r) acts else none

variable {held rest : List R} {acts : List (Transfer R)} {r : R}

theorem holds_take : holds held (.take r :: acts) = holds (r :: held) acts := rfl

theorem holds_give (here : r ∈ held) : holds held (.give r :: acts) = holds (held.erase r) acts :=
  if_pos here

theorem holds_lack (lack : r ∉ held) : holds held (.give r :: acts) = none := if_neg lack

theorem holds_append (held : List R) (xs ys : List (Transfer R)) :
    holds held (xs ++ ys) = (holds held xs).bind (fun now => holds now ys) := by
  induction xs generalizing held with
  | nil => rfl
  | cons x xs ih =>
    rw [List.cons_append]
    cases x with
    | take r => exact ih (r :: held)
    | give r =>
      by_cases here : r ∈ held
      · rw [holds_give here, holds_give here, ih]
      · rw [holds_lack here, holds_lack here]
        rfl

/-- What is held balances what was taken and given back. -/
theorem holds_balance (run : holds held acts = some rest) (r : R) :
    rest.count r + acts.count (.give r) = held.count r + acts.count (.take r) := by
  induction acts generalizing held with
  | nil =>
    cases run
    rfl
  | cons x acts ih =>
    cases x with
    | take s =>
      have later := ih run
      rw [List.count_cons] at later
      simp only [List.count_cons, reduceCtorEq, beq_iff_eq, Transfer.take.injEq, if_false] at later ⊢
      omega
    | give s =>
      by_cases here : s ∈ held
      · rw [holds_give here] at run
        have later := ih run
        have some : 0 < held.count s := List.count_pos_iff.mpr here
        simp only [List.count_cons, reduceCtorEq, beq_iff_eq, Transfer.give.injEq, if_false] at later ⊢
        by_cases same : s = r
        · subst same
          rw [List.count_erase_self] at later
          rw [if_pos rfl]
          omega
        · rw [List.count_erase_of_ne (Ne.symm same)] at later
          rw [if_neg same]
          omega
      · rw [holds_lack here] at run
        cases run

theorem covered_nil : Covered held [] := by
  intro front start r
  rw [List.prefix_nil.mp start]
  exact Nat.zero_le _

theorem covered_take : Covered held (.take r :: acts) ↔ Covered (r :: held) acts := by
  constructor
  · intro covered front start s
    have whole := covered (.take r :: front) (List.prefix_cons_inj _ |>.mpr start) s
    simp only [List.count_cons, reduceCtorEq, beq_iff_eq, Transfer.take.injEq, if_false] at whole ⊢
    omega
  · intro covered front start s
    cases front with
    | nil => exact Nat.zero_le _
    | cons x front =>
      obtain ⟨rfl, inner⟩ := List.cons_prefix_cons.mp start
      have later := covered front inner s
      simp only [List.count_cons, reduceCtorEq, beq_iff_eq, Transfer.take.injEq, if_false] at later ⊢
      omega

theorem covered_give :
    Covered held (.give r :: acts) ↔ r ∈ held ∧ Covered (held.erase r) acts := by
  constructor
  · intro covered
    have first := covered [.give r] (List.prefix_cons_inj _ |>.mpr List.nil_prefix) r
    rw [List.count_singleton_self, List.count_singleton] at first
    have here : r ∈ held := List.count_pos_iff.mp (by simpa using first)
    refine ⟨here, ?_⟩
    intro front start s
    have whole := covered (.give r :: front) (List.prefix_cons_inj _ |>.mpr start) s
    simp only [List.count_cons, reduceCtorEq, beq_iff_eq, Transfer.give.injEq, if_false] at whole
    by_cases same : r = s
    · subst same
      rw [List.count_erase_self]
      rw [if_pos rfl] at whole
      omega
    · rw [List.count_erase_of_ne (Ne.symm same)]
      rw [if_neg same] at whole
      omega
  · rintro ⟨here, covered⟩ front start s
    cases front with
    | nil => exact Nat.zero_le _
    | cons x front =>
      obtain ⟨rfl, inner⟩ := List.cons_prefix_cons.mp start
      have later := covered front inner s
      have some : 0 < held.count r := List.count_pos_iff.mpr here
      simp only [List.count_cons, reduceCtorEq, beq_iff_eq, Transfer.give.injEq, if_false]
      by_cases same : r = s
      · subst same
        rw [List.count_erase_self] at later
        rw [if_pos rfl]
        omega
      · rw [List.count_erase_of_ne (Ne.symm same)] at later
        rw [if_neg same]
        omega

/-- The pass goes to the end exactly when all that is given back is held. -/
theorem covered_holds : Covered held acts ↔ (holds held acts).isSome := by
  induction acts generalizing held with
  | nil => exact iff_of_true covered_nil rfl
  | cons x acts ih =>
    cases x with
    | take r => rw [covered_take, holds_take, ih]
    | give r =>
      rw [covered_give]
      by_cases here : r ∈ held
      · rw [holds_give here, ← ih, and_iff_right here]
      · rw [holds_lack here]
        exact iff_of_false (fun both => here both.1) Bool.false_ne_true

theorem settled_iff : Settled acts ↔ holds [] acts = some [] := by
  constructor
  · rintro ⟨covered, balance⟩
    have along : Covered [] acts := fun front start r => Nat.le_add_left_of_le (covered front start r)
    obtain ⟨rest, run⟩ := Option.isSome_iff_exists.mp (covered_holds.mp along)
    have none : rest = [] := by
      apply List.eq_nil_iff_forall_not_mem.mpr
      intro r here
      have counts := holds_balance run r
      have some : 0 < rest.count r := List.count_pos_iff.mpr here
      have even := balance r
      rw [List.count_nil] at counts
      omega
    rw [run, none]
  · intro run
    constructor
    · intro front start r
      have along := covered_holds.mpr (Option.isSome_of_eq_some run) front start r
      rwa [List.count_nil, Nat.zero_add] at along
    · intro r
      have counts := holds_balance run r
      rwa [List.count_nil, Nat.zero_add, Nat.zero_add] at counts

instance (acts : List (Transfer R)) : Decidable (Settled acts) := decidable_of_iff' _ settled_iff

/-- What is given back was held before or has been taken. -/
theorem given_taken (run : holds held acts = some rest) (given : .give r ∈ acts) :
    r ∈ held ∨ .take r ∈ acts := by
  have counts := holds_balance run r
  have some : 0 < acts.count (.give r) := List.count_pos_iff.mpr given
  by_cases before : r ∈ held
  · exact Or.inl before
  · right
    apply List.count_pos_iff.mp
    rw [List.count_eq_zero_of_not_mem before] at counts
    omega

end Custody
