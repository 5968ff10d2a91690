import Mathlib.Data.List.AList

/-! A directory that names files, and the link count of a file as the number of its
names. The count of one says that a name is the only one, and a count does not tell
what the other names are used for. -/
namespace Links

variable {N I : Type} [DecidableEq N]

abbrev Dir (N I : Type) := AList (fun _ : N => I)

section Lookup

variable {d : Dir N I} {n m : N} {i : I}

/-- Removing the new name gives the directory back. -/
theorem lookup_erase_insert (free : d.lookup n = none) (m : N) :
    ((d.insert n i).erase n).lookup m = d.lookup m := by
  by_cases same : m = n
  · subst m
    rw [AList.lookup_erase, free]
  · rw [AList.lookup_erase_ne same, AList.lookup_insert_ne same]

end Lookup

variable [DecidableEq I]

/-- The names of a file. -/
def names (d : Dir N I) (i : I) : List N := d.keys.filter (fun n => d.lookup n == some i)

def nlink (d : Dir N I) (i : I) : Nat := (names d i).length

variable {d e : Dir N I} {n m : N} {i j : I}

theorem mem_names : n ∈ names d i ↔ d.lookup n = some i := by
  unfold names
  rw [List.mem_filter, beq_iff_eq]
  constructor
  · exact fun h => h.2
  · intro h
    refine ⟨AList.mem_keys.mp (AList.lookup_isSome.mp ?_), h⟩
    rw [h]
    rfl

theorem names_nodup (d : Dir N I) (i : I) : (names d i).Nodup := d.keys_nodup.filter _

/-- The count depends on what the names stand for and on nothing else. -/
theorem nlink_congr (same : ∀ n, d.lookup n = some i ↔ e.lookup n = some i) :
    nlink d i = nlink e i := by
  apply List.Perm.length_eq
  apply (List.perm_ext_iff_of_nodup (names_nodup d i) (names_nodup e i)).mpr
  intro n
  rw [mem_names, mem_names]
  exact same n

end Links
