import Mathlib.Data.List.AList

/-! Tables: a change of all values, and the lookup behind an erasure. -/
namespace Tables

variable {K V : Type}

theorem keys_map (f : V → V) (es : List (Sigma fun _ : K => V)) :
    (es.map (fun e => (⟨e.1, f e.2⟩ : Sigma fun _ : K => V))).keys = es.keys := by
  simp [List.keys, Function.comp_def]

variable [DecidableEq K]

def mapVals (f : V → V) (d : AList (fun _ : K => V)) : AList (fun _ : K => V) where
  entries := d.entries.map (fun e => ⟨e.1, f e.2⟩)
  nodupKeys := by
    unfold List.NodupKeys
    rw [keys_map]
    exact d.nodupKeys

variable {f : V → V} {d : AList (fun _ : K => V)}

theorem lookup_mapVals (f : V → V) (d : AList (fun _ : K => V)) (k : K) :
    (mapVals f d).lookup k = (d.lookup k).map f := by
  have scan (es : List (Sigma fun _ : K => V)) :
      (es.map (fun e => (⟨e.1, f e.2⟩ : Sigma fun _ : K => V))).dlookup k =
        (es.dlookup k).map f := by
    induction es with
    | nil => rfl
    | cons e es ih =>
      obtain ⟨m, v⟩ := e
      rw [List.map_cons]
      by_cases same : k = m
      · subst m
        rw [List.dlookup_cons_eq, List.dlookup_cons_eq]
        rfl
      · rw [List.dlookup_cons_ne _ _ same, List.dlookup_cons_ne _ _ same, ih]
  exact scan d.entries

theorem mapVals_id (still : ∀ k v, d.lookup k = some v → f v = v) : mapVals f d = d := by
  have values : d.entries.map (fun e => (⟨e.1, f e.2⟩ : Sigma fun _ : K => V)) = d.entries := by
    refine (List.map_congr_left (fun e mem => ?_)).trans (List.map_id _)
    have same : f e.2 = e.2 := still e.1 e.2 (AList.mem_lookup_iff.mpr mem)
    rw [same]
    rfl
  exact AList.ext values

theorem lookup_erase (d : AList (fun _ : K => V)) (m k : K) :
    (d.erase m).lookup k = if k = m then none else d.lookup k := by
  split_ifs with same
  · rw [same, AList.lookup_erase]
  · exact AList.lookup_erase_ne same

end Tables
