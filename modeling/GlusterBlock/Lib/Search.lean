import Mathlib.Data.List.Infix

/-! Searching a list for a marker, as `strstr` does. A marker whose first element does not
come again in it cannot begin in one part of a list and end in another one that begins with
it. -/
namespace Search

variable {α : Type} {m l x y r s : List α} {c h : α}

/-- What is no part of the marker keeps its two sides apart. -/
theorem infix_apart (other : c ∉ m) (some : m ≠ []) :
    m <:+: x ++ c :: y ↔ m <:+: x ∨ m <:+: y := by
  constructor
  · intro occurs
    induction x with
    | nil =>
      rcases List.infix_cons_iff.mp occurs with front | rest
      · cases m with
        | nil => exact absurd rfl some
        | cons d m =>
          have same : d = c := (List.cons_prefix_cons.mp front).1
          exact absurd (same ▸ List.mem_cons_self) other
      · exact .inr rest
    | cons d x ih =>
      rcases List.infix_cons_iff.mp occurs with front | rest
      · rcases Nat.lt_or_ge (d :: x).length m.length with long | short
        · -- the marker would run over the element between
          have spans : (d :: x ++ [c]) <+: d :: x ++ c :: y := ⟨y, by simp⟩
          have inside : (d :: x ++ [c]) <+: m := by
            refine List.prefix_of_prefix_length_le spans front ?_
            simp only [List.length_append, List.length_cons, List.length_nil] at long ⊢
            omega
          exact absurd (inside.subset (by simp)) other
        · have within : m <+: d :: x :=
            List.prefix_of_prefix_length_le front ⟨c :: y, by simp⟩ short
          exact .inl within.isInfix
      · exact (ih rest).imp_left (fun h => h.trans (List.suffix_cons d x).isInfix)
  · rintro (left | right)
    · exact left.trans ⟨[], c :: y, by simp⟩
    · exact right.trans ⟨x ++ [c], [], by simp⟩

/-- What the marker ends with is not in the rest, so the marker is not either. -/
theorem infix_front (last : m.getLast? = some c) (away : c ∉ y) : m <:+: x ++ y ↔ m <:+: x := by
  constructor
  · rintro ⟨s, t, split⟩
    obtain ⟨m', rfl⟩ := List.getLast?_eq_some_iff.mp last
    rcases List.append_eq_append_iff.mp split with ⟨b, rest, same⟩ | ⟨b, rest, _⟩
    · exact ⟨s, b, rest.symm⟩
    · rcases List.eq_nil_or_concat b with rfl | ⟨b, d, rfl⟩
      · rw [List.append_nil] at rest
        exact ⟨s, [], by rw [List.append_nil, rest]⟩
      · -- the marker would end in the rest
        exfalso
        rename_i other
        rw [List.concat_eq_append, ← List.append_assoc, ← List.append_assoc] at rest
        have ends : [c] = [d] := (List.append_inj' rest rfl).2
        cases ends
        exact away (other ▸ List.mem_append_left t (by simp))
  · exact fun inside => inside.trans ⟨[], y, by simp⟩

theorem not_infix_of_notMem (part : c ∈ m) (missing : c ∉ l) : ¬ m <:+: l :=
  fun occurs => missing (occurs.subset part)

/-- A list in front of the marker does not begin an earlier occurrence. -/
theorem not_prefix_earlier {t : List α} (once : h ∉ t) (free : ¬ h :: t <:+: c :: x) :
    ¬ h :: t <+: c :: (x ++ (h :: t ++ r)) := by
  intro front
  rcases Nat.lt_or_ge (c :: x).length (h :: t).length with long | short
  · -- the marker would begin again inside of itself
    have spans : (c :: x ++ [h]) <+: c :: (x ++ (h :: t ++ r)) := ⟨t ++ r, by simp⟩
    have inside : (c :: x ++ [h]) <+: h :: t := by
      refine List.prefix_of_prefix_length_le spans front ?_
      simp only [List.length_append, List.length_cons, List.length_nil] at long ⊢
      omega
    have again : h ∈ t := by
      have tails : (x ++ [h]) <+: t := (List.cons_prefix_cons.mp inside).2
      exact tails.subset (by simp)
    exact once again
  · have within : h :: t <+: c :: x :=
      List.prefix_of_prefix_length_le front ⟨h :: t ++ r, by simp⟩ short
    exact free within.isInfix

variable [DecidableEq α]

/-- The list from the first occurrence on. -/
def strstr (m : List α) : List α → Option (List α)
  | [] => if m = [] then some [] else none
  | c :: l => if m <+: c :: l then some (c :: l) else strstr m l

theorem strstr_none : strstr m l = none ↔ ¬ m <:+: l := by
  induction l with
  | nil =>
    rw [strstr, List.infix_nil]
    split <;> simp [*]
  | cons c l ih =>
    rw [strstr, List.infix_cons_iff, not_or]
    by_cases front : m <+: c :: l
    · simp [front]
    · rw [if_neg front, ih]
      simp [front]

theorem strstr_suffix (found : strstr m l = some s) : s <:+ l ∧ m <+: s := by
  induction l with
  | nil =>
    rw [strstr] at found
    split at found
    · rename_i empty
      obtain rfl := Option.some.inj found
      exact ⟨List.suffix_rfl, by rw [empty]⟩
    · cases found
  | cons c l ih =>
    rw [strstr] at found
    split at found
    · rename_i front
      obtain rfl := Option.some.inj found
      exact ⟨List.suffix_rfl, front⟩
    · have rest := ih found
      exact ⟨rest.1.trans (List.suffix_cons c l), rest.2⟩

/-- The first occurrence stays the first one. -/
theorem strstr_append (found : strstr m l = some s) : strstr m (l ++ r) = some (s ++ r) := by
  induction l with
  | nil =>
    rw [strstr] at found
    split at found
    · rename_i empty
      obtain rfl := Option.some.inj found
      subst empty
      cases r <;> simp [strstr]
    · cases found
  | cons c l ih =>
    rw [strstr] at found
    rw [List.cons_append, strstr]
    split at found
    · rename_i front
      obtain rfl := Option.some.inj found
      have there : m <+: c :: (l ++ r) := front.trans ⟨r, by simp⟩
      rw [if_pos there]
      rfl
    · rename_i missing
      have long : m.length ≤ (c :: l).length := by
        have short := (strstr_suffix found).2.length_le.trans (strstr_suffix found).1.length_le
        simp only [List.length_cons]
        omega
      have elsewhere : ¬ m <+: c :: (l ++ r) := fun front =>
        missing (List.prefix_of_prefix_length_le front ⟨r, by simp⟩ long)
      rw [if_neg elsewhere]
      exact ih found

/-- Behind a list without it, the marker is found where it stands. -/
theorem strstr_marked {t : List α} (once : h ∉ t) (free : ¬ h :: t <:+: x) :
    strstr (h :: t) (x ++ (h :: t ++ r)) = some (h :: t ++ r) := by
  induction x with
  | nil => exact if_pos ⟨r, rfl⟩
  | cons c x ih =>
    have later : ¬ h :: t <:+: x := fun occurs => free (occurs.trans (List.suffix_cons c x).isInfix)
    rw [List.cons_append, strstr, if_neg (not_prefix_earlier once free)]
    exact ih later

end Search
