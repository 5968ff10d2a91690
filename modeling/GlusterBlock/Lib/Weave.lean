import Mathlib.Data.List.Basic
import Mathlib.Data.List.Perm.Basic

/-! Interleavings of finitely many finite threads. `Woven` is the relation,
`weave` runs a schedule, and the two agree. The rules project an interleaving
onto a class of elements, recover a thread that owns its class alone, and carry
an order between two kinds of elements from every thread to the whole. -/
namespace Weaving

variable {α : Type}

/-- The elements of `es` are those of the threads `ts`, each thread in its order. -/
inductive Woven : List (List α) → List α → Prop where
  | done {ts : List (List α)} : (∀ t ∈ ts, t = []) → Woven ts []
  | step {ts : List (List α)} {i : Nat} {e : α} {t es : List α} :
      ts[i]? = some (e :: t) → Woven (ts.set i t) es → Woven ts (e :: es)

/-- Run the threads in the order of a schedule; what the schedule leaves over
runs thread by thread. An index of a finished thread is passed over. -/
def weave : List Nat → List (List α) → List α
  | [], ts => ts.flatten
  | i :: sched, ts =>
    match ts[i]? with
    | some (e :: t) => e :: weave sched (ts.set i t)
    | _ => weave sched ts

theorem woven_cons_nil {ts : List (List α)} {es : List α} (h : Woven ts es) :
    Woven ([] :: ts) es := by
  induction h with
  | done hn =>
    exact .done (fun t ht => (List.mem_cons.mp ht).elim id (hn t))
  | @step ts i e t es hi _ ih =>
    exact .step (i := i + 1) (by simpa using hi) (by simpa using ih)

theorem woven_cons {ts : List (List α)} {es : List α} (h : Woven ts es) (t : List α) :
    Woven (t :: ts) (t ++ es) := by
  induction t with
  | nil => exact woven_cons_nil h
  | cons e t ih => exact .step (i := 0) rfl (by simpa using ih)

theorem woven_flatten (ts : List (List α)) : Woven ts ts.flatten := by
  induction ts with
  | nil => exact .done (by simp)
  | cons t ts ih => simpa using woven_cons ih t

theorem weave_woven (sched : List Nat) (ts : List (List α)) : Woven ts (weave sched ts) := by
  induction sched generalizing ts with
  | nil => exact woven_flatten ts
  | cons i sched ih =>
    unfold weave
    split
    · rename_i e t hi
      exact .step hi (ih _)
    · exact ih ts

theorem weave_map {β : Type} (f : α → β) (sched : List Nat) (ts : List (List α)) :
    weave sched (ts.map (List.map f)) = (weave sched ts).map f := by
  induction sched generalizing ts with
  | nil => exact (List.map_flatten ..).symm
  | cons i sched ih =>
    unfold weave
    rw [List.getElem?_map]
    cases ts[i]? with
    | none => exact ih ts
    | some t =>
      cases t with
      | nil => exact ih ts
      | cons e t =>
        rw [Option.map_some, List.map_cons]
        dsimp only
        rw [← List.map_set, ih, List.map_cons]

theorem set_perm {ts : List (List α)} {i : Nat} {e : α} {t : List α}
    (hi : ts[i]? = some (e :: t)) : ts.flatten.Perm (e :: (ts.set i t).flatten) := by
  induction ts generalizing i with
  | nil => simp at hi
  | cons s ts ih =>
    cases i with
    | zero =>
      have hs : s = e :: t := by simpa using hi
      subst s
      simp
    | succ i =>
      have tail := ih (i := i) (by simpa using hi)
      have shift : (s ++ e :: (ts.set i t).flatten).Perm (e :: (s ++ (ts.set i t).flatten)) :=
        List.perm_middle
      simpa using (tail.append_left s).trans shift

theorem woven_perm {ts : List (List α)} {es : List α} (h : Woven ts es) :
    es.Perm ts.flatten := by
  induction h with
  | done hn => rw [List.flatten_eq_nil_iff.mpr hn]
  | step hi _ ih => exact (ih.cons _).trans (set_perm hi).symm

theorem woven_mem {ts : List (List α)} {es : List α} (h : Woven ts es) (e : α) :
    e ∈ es ↔ ∃ t ∈ ts, e ∈ t := by
  rw [(woven_perm h).mem_iff, List.mem_flatten]

/-- Keeping one class of elements commutes with interleaving. -/
theorem woven_filter {ts : List (List α)} {es : List α} (h : Woven ts es) (p : α → Bool) :
    Woven (ts.map (List.filter p)) (es.filter p) := by
  induction h with
  | done hn =>
    refine .done (fun t ht => ?_)
    obtain ⟨s, hs, rfl⟩ := List.mem_map.mp ht
    rw [hn s hs, List.filter_nil]
  | @step ts i e t es hi _ ih =>
    rw [List.map_set] at ih
    cases hp : p e with
    | true =>
      rw [List.filter_cons_of_pos hp]
      refine .step (i := i) (t := t.filter p) ?_ ih
      rw [List.getElem?_map, hi, Option.map_some, List.filter_cons_of_pos hp]
    | false =>
      have here : (ts.map (List.filter p))[i]? = some (t.filter p) := by
        rw [List.getElem?_map, hi, Option.map_some, List.filter_cons_of_neg (by simp [hp])]
      have same : (ts.map (List.filter p)).set i (t.filter p) = ts.map (List.filter p) := by
        obtain ⟨hlt, hget⟩ := List.getElem?_eq_some_iff.mp here
        rw [← hget, List.set_getElem_self]
      rw [List.filter_cons_of_neg (by simp [hp])]
      exact same ▸ ih

theorem woven_single {ts : List (List α)} {es : List α} (h : Woven ts es) (i : Nat)
    (t : List α) (hi : ts[i]? = some t) (alone : ∀ j s, j ≠ i → ts[j]? = some s → s = []) :
    es = t := by
  induction h generalizing t with
  | done hn => exact (hn t (List.mem_of_getElem? hi)).symm
  | @step ts j e s es hj _ ih =>
    have hij : j = i := by
      by_contra hne
      cases alone j _ hne hj
    subst j
    cases Option.some.inj (hi.symm.trans hj)
    have bound : i < ts.length := (List.getElem?_eq_some_iff.mp hj).1
    have next : (ts.set i s)[i]? = some s := by simp [bound]
    rw [ih s next (fun j s' hne hget => alone j s' hne (by
      rwa [List.getElem?_set_ne (Ne.symm hne)] at hget))]

/-- A class whose elements all belong to thread `i` appears in the interleaving
exactly as in that thread. -/
theorem woven_owner {ts : List (List α)} {es : List α} (h : Woven ts es) (p : α → Bool)
    (i : Nat) (t : List α) (hi : ts[i]? = some t)
    (alone : ∀ j s, j ≠ i → ts[j]? = some s → ∀ e ∈ s, p e = false) :
    es.filter p = t.filter p := by
  apply woven_single (woven_filter h p) i
  · rw [List.getElem?_map, hi, Option.map_some]
  · intro j s hne hget
    rw [List.getElem?_map, Option.map_eq_some_iff] at hget
    obtain ⟨s', hs', rfl⟩ := hget
    exact List.filter_eq_nil_iff.mpr (fun e he => by simp [alone j s' hne hs' e he])

/-- A class no thread has an element of does not appear. -/
theorem woven_absent {ts : List (List α)} {es : List α} (h : Woven ts es) (p : α → Bool)
    (none : ∀ t ∈ ts, ∀ e ∈ t, p e = false) : es.filter p = [] := by
  refine List.filter_eq_nil_iff.mpr (fun e he => ?_)
  obtain ⟨t, ht, het⟩ := (woven_mem h e).mp he
  simp [none t ht e het]

/-- Every element of kind `Q` comes after some element of kind `P`. -/
def Before (P Q : α → Prop) : List α → Prop
  | [] => True
  | e :: es => ¬ Q e ∧ (P e ∨ Before P Q es)

theorem woven_before {ts : List (List α)} {es : List α} (h : Woven ts es) (P Q : α → Prop)
    (each : ∀ t ∈ ts, Before P Q t) : Before P Q es := by
  induction h with
  | done _ => trivial
  | @step ts i e t es hi _ ih =>
    have first := each _ (List.mem_of_getElem? hi)
    refine ⟨first.1, first.2.imp id (fun ht => ih (fun s hs => ?_))⟩
    rcases List.mem_or_eq_of_mem_set hs with hs | rfl
    · exact each s hs
    · exact ht

theorem before_cut {P Q : α → Prop} {es fs : List α} (h : Before P Q (es ++ fs)) :
    Before P Q es := by
  induction es with
  | nil => trivial
  | cons e es ih => exact ⟨h.1, h.2.imp id ih⟩

theorem before_append {P Q : α → Prop} {es : List α} (h : Before P Q es) (fs : List α)
    (never : ∀ e ∈ fs, ¬ Q e) : Before P Q (es ++ fs) := by
  induction es with
  | nil =>
    induction fs with
    | nil => trivial
    | cons f fs ih =>
      constructor
      · exact never f List.mem_cons_self
      · exact .inr (ih (fun e he => never e (List.mem_cons_of_mem _ he)))
  | cons e es ih => exact ⟨h.1, h.2.imp id ih⟩

theorem before_found {P Q : α → Prop} {es : List α} (h : Before P Q es) {e : α}
    (he : e ∈ es) (hq : Q e) : ∃ a ∈ es, P a := by
  induction es with
  | nil => cases he
  | cons d es ih =>
    rcases List.mem_cons.mp he with rfl | he
    · exact absurd hq h.1
    · rcases h.2 with hp | h
      · exact ⟨d, List.mem_cons_self, hp⟩
      · obtain ⟨a, ha, hpa⟩ := ih h he
        exact ⟨a, List.mem_cons_of_mem _ ha, hpa⟩

end Weaving
