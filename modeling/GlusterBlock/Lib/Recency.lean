import Mathlib.Data.List.Dedup

/-! The order of last use. An ideal cache of a fixed size keeps the keys that were used
last: a key that is used comes to the front, and the last one goes when there is no room. -/
namespace Recency

variable {α : Type} [DecidableEq α]

/-- The keys of a history, the one used last in front. -/
def recent (vs : List α) : List α := vs.dedup.reverse

/-- A use of a key in a cache of `k` keys. -/
def use (k : Nat) (c : List α) (v : α) : List α :=
  if v ∈ c then v :: c.erase v else v :: if c.length = k then c.dropLast else c

theorem recent_nodup (vs : List α) : (recent vs).Nodup :=
  List.nodup_reverse.mpr (List.nodup_dedup vs)

theorem dedup_snoc (vs : List α) (v : α) : (vs ++ [v]).dedup = vs.dedup.erase v ++ [v] := by
  induction vs with
  | nil => rfl
  | cons a vs ih =>
    rw [List.cons_append]
    by_cases again : a ∈ vs
    · rw [List.dedup_cons_of_mem again, List.dedup_cons_of_mem (List.mem_append_left _ again), ih]
    · rw [List.dedup_cons_of_notMem again]
      by_cases same : a = v
      · subst a
        have gone : v ∉ vs.dedup := fun h => again (List.mem_dedup.mp h)
        rw [List.dedup_cons_of_mem (List.mem_append_right _ List.mem_cons_self), ih,
          List.erase_cons_head, List.erase_of_not_mem gone]
      · have fresh : a ∉ vs ++ [v] := by simp [again, same]
        rw [List.dedup_cons_of_notMem fresh, ih, List.erase_cons_tail (by simpa using same),
          List.cons_append]

theorem recent_snoc (vs : List α) (v : α) : recent (vs ++ [v]) = v :: (recent vs).erase v := by
  have reversed : (vs.dedup.erase v).reverse = vs.dedup.reverse.erase v := by
    rw [(List.nodup_dedup vs).erase_eq_filter,
      (List.nodup_reverse.mpr (List.nodup_dedup vs)).erase_eq_filter, List.filter_reverse]
  rw [recent, dedup_snoc, List.reverse_append, reversed]
  rfl

theorem take_hit {l : List α} {v : α} {k : Nat} (nodup : l.Nodup) (hit : v ∈ l.take k) :
    v :: (l.take k).erase v = (v :: l.erase v).take k := by
  obtain ⟨front, rest, split⟩ := List.append_of_mem hit
  have early : v ∉ front := by
    have apart : (l.take k).Nodup := nodup.sublist (List.take_sublist k l)
    rw [split] at apart
    exact fun h => (List.nodup_append.mp apart).2.2 v h v List.mem_cons_self rfl
  have whole : l = front ++ v :: (rest ++ l.drop k) := by
    calc
      l = l.take k ++ l.drop k := (List.take_append_drop k l).symm
      _ = front ++ v :: (rest ++ l.drop k) := by rw [split]; simp
  have erased : l.erase v = front ++ (rest ++ l.drop k) := by
    conv => lhs; rw [whole]
    rw [List.erase_append_right _ early, List.erase_cons_head]
  have length := congrArg List.length split
  rw [erased, split, List.erase_append_right _ early, List.erase_cons_head]
  cases k with
  | zero => simp at hit
  | succ k =>
    rw [List.take_succ_cons, ← List.append_assoc]
    rcases Nat.le_total (k + 1) l.length with long | short
    · have filled : (front ++ rest).length = k := by
        simp only [List.length_take, List.length_append, List.length_cons] at length ⊢
        omega
      rw [← filled, List.take_left]
    · have none : l.drop (k + 1) = [] := List.drop_eq_nil_of_le short
      rw [none, List.append_nil, List.take_of_length_le]
      simp only [List.length_take, List.length_append, List.length_cons] at length ⊢
      omega

theorem take_miss {l : List α} {v : α} {k : Nat} (room : 1 ≤ k) (miss : v ∉ l.take k) :
    (v :: if (l.take k).length = k then (l.take k).dropLast else l.take k) =
      (v :: l.erase v).take k := by
  obtain ⟨k, rfl⟩ := Nat.exists_eq_add_of_le' room
  rw [List.take_succ_cons]
  have whole := List.take_append_drop (k + 1) l
  by_cases full : (l.take (k + 1)).length = k + 1
  · rw [if_pos full, List.dropLast_eq_take, full]
    conv => rhs; rw [← whole]
    rw [List.erase_append_right _ miss, List.take_append_of_le_length (by omega)]
    rfl
  · have short : l.length ≤ k := by
      rw [List.length_take] at full
      omega
    have all : l.take (k + 1) = l := List.take_of_length_le (by omega)
    rw [if_neg full]
    rw [all] at miss ⊢
    rw [List.erase_of_not_mem miss, List.take_of_length_le short]

/-- A cache of the keys used last stays one. -/
theorem use_recent {k : Nat} (room : 1 ≤ k) (vs : List α) (v : α) :
    use k ((recent vs).take k) v = (recent (vs ++ [v])).take k := by
  rw [recent_snoc, use]
  by_cases hit : v ∈ (recent vs).take k
  · rw [if_pos hit, take_hit (recent_nodup vs) hit]
  · rw [if_neg hit, take_miss room hit]

end Recency
