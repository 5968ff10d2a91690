import Mathlib.Data.List.AList

/-! The number of entries of a table that carry a value, and what one change of the table
does to it. A counter beside the table is right when each change moves it as the change
moves this number. -/
namespace Tally

variable {N I K : Type} [DecidableEq N] [DecidableEq K]

abbrev Table (N I : Type) := AList (fun _ : N => I)

/-- The number of entries with the value `k`. -/
def tally (d : Table N I) (f : I → K) (k : K) : Nat := d.entries.countP (fun e => f e.2 = k)

/-- The entry under a name has the value. -/
def carries (d : Table N I) (f : I → K) (n : N) (k : K) : Bool :=
  (d.lookup n).any (fun i => f i = k)

variable {d : Table N I} {f : I → K} {n : N} {i j : I} {k : K}

theorem carries_of (there : d.lookup n = some i) : carries d f n k = decide (f i = k) := by
  simp [carries, there]

theorem countP_kerase (p : I → Bool) (n : N) (es : List (Sigma fun _ : N => I)) :
    (es.kerase n).countP (fun e => p e.2) + ((es.dlookup n).any p).toNat =
      es.countP (fun e => p e.2) := by
  induction es with
  | nil => rfl
  | cons e es ih =>
    obtain ⟨m, i⟩ := e
    by_cases same : n = m
    · subst m
      have gone : (⟨n, i⟩ :: es : List (Sigma fun _ : N => I)).kerase n = es :=
        List.kerase_cons_eq rfl
      rw [gone, List.dlookup_cons_eq, List.countP_cons]
      cases value : p i <;> simp [value]
    · have kept : (⟨m, i⟩ :: es : List (Sigma fun _ : N => I)).kerase n = ⟨m, i⟩ :: es.kerase n :=
        List.kerase_cons_ne same
      rw [kept, List.dlookup_cons_ne _ _ same, List.countP_cons,
        List.countP_cons]
      omega

theorem tally_erase (d : Table N I) (f : I → K) (n : N) (k : K) :
    tally (d.erase n) f k + (carries d f n k).toNat = tally d f k :=
  countP_kerase (fun i => f i = k) n d.entries

theorem tally_insert (d : Table N I) (f : I → K) (n : N) (i : I) (k : K) :
    tally (d.insert n i) f k + (carries d f n k).toNat =
      tally d f k + (decide (f i = k)).toNat := by
  have erased := tally_erase d f n k
  have entries : tally (d.insert n i) f k =
      tally (d.erase n) f k + (decide (f i = k)).toNat := by
    have rest : (d.erase n).entries = d.entries.kerase n := rfl
    unfold tally
    rw [AList.entries_insert, List.countP_cons, rest]
    by_cases here : f i = k <;> simp [here]
  omega

end Tally
