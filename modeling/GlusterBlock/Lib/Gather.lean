import GlusterBlock.Lib.Ledger

/-! Gathering a list without its repetitions, where an element also counts as there already
when it is part of one that is. Each element is kept at its first place exactly when none of
them is part of another one before it. -/
namespace Gather

variable {α : Type} (part : α → α → Bool)

/-- An element is left out when it is part of one that was kept. -/
def gather (xs : List α) : List α :=
  xs.foldl (fun out x => if out.any (part x) then out else out ++ [x]) []

theorem gather_snoc (xs : List α) (x : α) : gather part (xs ++ [x]) =
    if (gather part xs).any (part x) then gather part xs else gather part xs ++ [x] :=
  List.foldl_concat ..

theorem gather_sublist (xs : List α) : List.Sublist (gather part xs) xs := by
  induction xs using List.reverseRecOn with
  | nil => exact List.Sublist.refl _
  | append_singleton xs x ih =>
    rw [gather_snoc]
    split
    · exact ih.trans (List.sublist_append_left xs [x])
    · exact ih.append (List.Sublist.refl [x])

section Repetitions

variable {part} (refl : ∀ x, part x x = true)
include refl

/-- An element that was met is held from then on. -/
theorem gather_held {xs : List α} {x : α} (met : x ∈ xs) : (gather part xs).any (part x) = true := by
  induction xs using List.reverseRecOn with
  | nil => cases met
  | append_singleton xs y ih =>
    rw [gather_snoc]
    rcases List.mem_append.mp met with before | last
    · split
      · exact ih before
      · rw [List.any_append, ih before, Bool.true_or]
    · obtain rfl := List.mem_singleton.mp last
      split
      · assumption
      · rw [List.any_append, List.any_cons, refl, Bool.true_or, Bool.or_true]

theorem gather_distinct [DecidableEq α] (xs : List α) :
    gather part xs = xs.eraseDups ↔
      ∀ ys x zs, xs = ys ++ x :: zs → (∃ y ∈ ys, part x y = true) → x ∈ ys := by
  induction xs using List.reverseRecOn with
  | nil => exact ⟨fun _ ys x zs absurd => by simp at absurd, fun _ => rfl⟩
  | append_singleton xs x ih =>
    have front : (gather part (xs ++ [x]) = (xs ++ [x]).eraseDups ↔ gather part xs = xs.eraseDups ∧
        ((∃ y ∈ xs, part x y = true) → x ∈ xs)) := by
      rw [gather_snoc, Ledger.eraseDups_snoc]
      by_cases met : x ∈ xs
      · rw [if_pos (gather_held refl met), if_pos met]
        exact ⟨fun same => ⟨same, fun _ => met⟩, fun same => same.1⟩
      · rw [if_neg met]
        constructor
        · intro same
          split at same
          · have new : x ∈ gather part xs := same ▸ List.mem_append_right _ List.mem_cons_self
            exact absurd ((gather_sublist part xs).subset new) met
          · rename_i free
            have firsts : gather part xs = xs.eraseDups := List.append_cancel_right same
            refine ⟨firsts, fun inside => ?_⟩
            obtain ⟨y, mem, there⟩ := inside
            rw [firsts] at free
            exact absurd (List.any_eq_true.mpr ⟨y, Ledger.mem_eraseDups.mpr mem, there⟩) free
        · rintro ⟨firsts, new⟩
          rw [if_neg, firsts]
          intro held
          obtain ⟨y, mem, there⟩ := List.any_eq_true.mp held
          exact met (new ⟨y, (gather_sublist part xs).subset mem, there⟩)
    rw [front, ih]
    constructor
    · rintro ⟨before, last⟩ ys y zs split
      rcases List.eq_nil_or_concat zs with rfl | ⟨zs, z, rfl⟩
      · obtain ⟨rfl, same⟩ := List.append_inj' split rfl
        cases same
        exact last
      · rw [List.concat_eq_append, ← List.cons_append, ← List.append_assoc] at split
        exact before ys y zs (List.append_inj' split rfl).1
    · intro all
      refine ⟨fun ys y zs split => ?_, all xs x [] rfl⟩
      exact all ys y (zs ++ [x]) (by rw [split]; simp)

/-- No element that is new is part of one before it. -/
theorem gather_firsts [beq : BEq α] [LawfulBEq α] (xs : List α) :
    gather part xs = xs.eraseDups ↔
      ∀ ys x zs, xs = ys ++ x :: zs → (∃ y ∈ ys, part x y = true) → x ∈ ys := by
  obtain ⟨dec⟩ : Nonempty (DecidableEq α) := ⟨fun a b => instDecidableEqOfLawfulBEq a b⟩
  have same : beq = instBEqOfDecidableEq := lawful_beq_subsingleton beq instBEqOfDecidableEq
  subst same
  exact gather_distinct refl xs

end Repetitions

end Gather
