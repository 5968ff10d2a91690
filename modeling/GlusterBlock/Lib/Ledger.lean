import Mathlib.Data.List.Induction
import Mathlib.Data.List.Nodup

/-! A log of keyed records, replayed into a table that keeps one entry a key.
Keys stand in the order of their first mention; an entry depends only on the
records of its own key, so it does not depend on how other keys interleave. -/
namespace Ledger

variable {K V W : Type} [DecidableEq K]

section Table

variable (key : V → K) (fresh : K → V) (feed : V → W → V)

/-- Give the record to the first entry with this key, or to a fresh entry at the end. -/
def upsert : List V → K → W → List V
  | [], k, w => [feed (fresh k) w]
  | v :: vs, k, w => if key v = k then feed v w :: vs else v :: upsert vs k w

def table (log : List (K × W)) : List V :=
  log.foldl (fun vs r => upsert key fresh feed vs r.1 r.2) []

end Table

theorem upsert_fresh {key : V → K} {fresh fresh' : K → V} {feed : V → W → V} {k : K}
    (same : fresh k = fresh' k) (vs : List V) (w : W) :
    upsert key fresh feed vs k w = upsert key fresh' feed vs k w := by
  induction vs with
  | nil => rw [upsert, upsert, same]
  | cons v vs ih => rw [upsert, upsert, ih]

def mentions (log : List (K × W)) : List K := (log.map Prod.fst).eraseDups

/-- The records of one key, in order. -/
def records (k : K) (log : List (K × W)) : List W :=
  (log.filter (fun r => r.1 = k)).map Prod.snd

theorem eraseDups_snoc (ks : List K) (k : K) :
    (ks ++ [k]).eraseDups = if k ∈ ks then ks.eraseDups else ks.eraseDups ++ [k] := by
  rw [List.eraseDups_append]
  by_cases h : k ∈ ks
  · have gone : [k].removeAll ks = [] := by simp [List.removeAll, h]
    simp [h, gone]
  · have kept : [k].removeAll ks = [k] := by simp [List.removeAll, h]
    simp [h, kept, List.eraseDups_cons]

theorem mem_eraseDups {ks : List K} {k : K} : k ∈ ks.eraseDups ↔ k ∈ ks := by
  induction ks using List.reverseRecOn with
  | nil => simp
  | append_singleton ks a ih =>
    rw [eraseDups_snoc]
    split
    · rename_i ha
      simp only [ih, List.mem_append, List.mem_singleton]
      exact ⟨Or.inl, fun h => h.elim id (fun e => e ▸ ha)⟩
    · simp only [List.mem_append, ih, List.mem_singleton]

theorem nodup_eraseDups (ks : List K) : ks.eraseDups.Nodup := by
  induction ks using List.reverseRecOn with
  | nil => simp
  | append_singleton ks a ih =>
    rw [eraseDups_snoc]
    split
    · exact ih
    · rename_i ha
      have fresh : a ∉ ks.eraseDups := fun h => ha (mem_eraseDups.mp h)
      exact List.nodup_append.mpr ⟨ih, by simp, by
        intro x hx y hy
        rw [List.mem_singleton] at hy
        exact hy ▸ fun e => fresh (e ▸ hx)⟩

theorem mentions_nodup (log : List (K × W)) : (mentions log).Nodup := nodup_eraseDups _

theorem mem_mentions {log : List (K × W)} {k : K} :
    k ∈ mentions log ↔ ∃ w, (k, w) ∈ log := by
  rw [mentions, mem_eraseDups]
  simp

theorem mentions_snoc (log : List (K × W)) (k : K) (w : W) :
    mentions (log ++ [(k, w)]) = if k ∈ mentions log then mentions log else mentions log ++ [k] := by
  have same : k ∈ log.map Prod.fst ↔ k ∈ mentions log := mem_eraseDups.symm
  have split : mentions (log ++ [(k, w)]) =
      if k ∈ log.map Prod.fst then mentions log else mentions log ++ [k] := by
    rw [mentions, List.map_append, List.map_singleton, eraseDups_snoc]
    rfl
  rw [split]
  by_cases h : k ∈ log.map Prod.fst
  · rw [if_pos h, if_pos (same.mp h)]
  · rw [if_neg h, if_neg (fun m => h (same.mpr m))]

theorem mem_mentions_append {log more : List (K × W)} {k : K} :
    k ∈ mentions (log ++ more) ↔ k ∈ mentions log ∨ k ∈ mentions more := by
  simp only [mem_mentions, List.mem_append, exists_or]

/-- Records of known keys alone add no entry. -/
theorem mentions_append_known {log more : List (K × W)}
    (known : ∀ k ∈ mentions more, k ∈ mentions log) : mentions (log ++ more) = mentions log := by
  induction more using List.reverseRecOn with
  | nil => rw [List.append_nil]
  | append_singleton more r ih =>
    obtain ⟨k, w⟩ := r
    have before := ih (fun j hj => known j (mem_mentions_append.mpr (.inl hj)))
    have last : k ∈ mentions log := by
      apply known
      exact mem_mentions.mpr ⟨w, by simp⟩
    rw [← List.append_assoc, mentions_snoc, before, if_pos last]

/-- A new key among known ones comes last. -/
theorem mentions_append_new {log more : List (K × W)} {k : K}
    (known : ∀ j ∈ mentions more, j ∈ mentions log ∨ j = k) (new : k ∉ mentions log)
    (there : k ∈ mentions more) : mentions (log ++ more) = mentions log ++ [k] := by
  induction more using List.reverseRecOn with
  | nil => cases there
  | append_singleton more r ih =>
    obtain ⟨j, w⟩ := r
    have before : ∀ i ∈ mentions more, i ∈ mentions log ∨ i = k :=
      fun i hi => known i (mem_mentions_append.mpr (.inl hi))
    have last : j ∈ mentions log ∨ j = k := known j (mem_mentions.mpr ⟨w, by simp⟩)
    rw [← List.append_assoc, mentions_snoc]
    by_cases seen : k ∈ mentions more
    · rw [ih before seen, if_pos (by simpa using last)]
    · have old : ∀ i ∈ mentions more, i ∈ mentions log := fun i hi =>
        (before i hi).resolve_right (fun same => seen (same ▸ hi))
      rw [mentions_append_known old]
      have own : j = k := by
        obtain ⟨v, mem⟩ := mem_mentions.mp there
        rcases List.mem_append.mp mem with early | here
        · exact absurd (mem_mentions.mpr ⟨v, early⟩) seen
        · simpa using (congrArg Prod.fst (List.mem_singleton.mp here)).symm
      rw [if_neg (own ▸ new), own]

@[simp] theorem records_nil (k : K) : records k ([] : List (K × W)) = [] := rfl

theorem records_append (k : K) (log more : List (K × W)) :
    records k (log ++ more) = records k log ++ records k more := by
  simp [records]

theorem records_single (k j : K) (w : W) :
    records k [(j, w)] = if j = k then [w] else [] := by
  by_cases h : j = k <;> simp [records, h]

theorem records_eq_nil {log : List (K × W)} {k : K} (h : k ∉ mentions log) :
    records k log = [] := by
  have none : ∀ r ∈ log, ¬ r.1 = k := fun r hr e => h (mem_mentions.mpr ⟨r.2, e ▸ hr⟩)
  rw [records, List.filter_eq_nil_iff.mpr (by simpa using none), List.map_nil]

section Spec

variable {key : V → K} {fresh : K → V} {feed : V → W → V}

/-- On a table indexed by its own keys, `upsert` changes one entry or adds one. -/
theorem upsert_map (entry : K → V) (hkey : ∀ k, key (entry k) = k) (ks : List K)
    (nodup : ks.Nodup) (k : K) (w : W) :
    upsert key fresh feed (ks.map entry) k w =
      if k ∈ ks then ks.map (fun j => if j = k then feed (entry k) w else entry j)
      else ks.map entry ++ [feed (fresh k) w] := by
  induction ks with
  | nil => rfl
  | cons j ks ih =>
    obtain ⟨hj, hks⟩ := List.nodup_cons.mp nodup
    by_cases h : j = k
    · subst j
      have rest : ks.map (fun j => if j = k then feed (entry k) w else entry j) = ks.map entry :=
        List.map_congr_left (fun x hx => by
          have hne : x ≠ k := fun e => hj (e ▸ hx)
          rw [if_neg hne])
      simp [upsert, hkey, rest]
    · have hk : k ≠ j := fun e => h e.symm
      by_cases hm : k ∈ ks
      · simp [upsert, hkey, h, ih hks, hm]
      · simp [upsert, hkey, h, hk, ih hks, hm]

/-- The table is a function of the order of first mention and of each key's own
records. -/
theorem table_eq (hfresh : ∀ k, key (fresh k) = k) (hfeed : ∀ v w, key (feed v w) = key v)
    (log : List (K × W)) :
    table key fresh feed log =
      (mentions log).map (fun k => (records k log).foldl feed (fresh k)) := by
  have hkey : ∀ (log : List (K × W)) k, key ((records k log).foldl feed (fresh k)) = k := by
    intro log k
    generalize records k log = ws
    induction ws using List.reverseRecOn with
    | nil => exact hfresh k
    | append_singleton ws w ih => rw [List.foldl_concat, hfeed]; exact ih
  induction log using List.reverseRecOn with
  | nil => rfl
  | append_singleton log r ih =>
    obtain ⟨k, w⟩ := r
    have last : table key fresh feed (log ++ [(k, w)]) =
        upsert key fresh feed (table key fresh feed log) k w := by
      simp [table]
    rw [last, ih, upsert_map _ (hkey log) _ (mentions_nodup log), mentions_snoc]
    by_cases hm : k ∈ mentions log
    · rw [if_pos hm, if_pos hm]
      refine List.map_congr_left (fun j _ => ?_)
      by_cases hj : j = k
      · subst j
        simp [records_append, records_single]
      · have hk : k ≠ j := fun e => hj e.symm
        simp [records_append, records_single, hj, hk]
    · rw [if_neg hm, if_neg hm, List.map_append, List.map_singleton]
      have own : (records k (log ++ [(k, w)])).foldl feed (fresh k) = feed (fresh k) w := by
        simp [records_append, records_single, records_eq_nil hm]
      rw [own]
      refine congrArg (· ++ [feed (fresh k) w]) (List.map_congr_left (fun j hj => ?_))
      have hk : k ≠ j := fun e => hm (e ▸ hj)
      simp [records_append, records_single, hk]

end Spec

end Ledger
