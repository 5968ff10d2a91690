import GlusterBlock.Lib.Weave

/-! Runs of a labelled step relation along a list of labels. `Keeps P I es` says
that from a state with `P` the property `I` holds wherever the list is cut off,
which is what a crash in the middle leaves behind. -/
namespace Trail

variable {S E : Type}

/-- The states `s` and `t` are joined by steps with the labels `es`. -/
inductive Along (step : E → S → S → Prop) : S → List E → S → Prop where
  | nil (s : S) : Along step s [] s
  | cons {s t u : S} {e : E} {es : List E} :
      step e s t → Along step t es u → Along step s (e :: es) u

variable {step : E → S → S → Prop}

@[simp] theorem along_nil {s t : S} : Along step s [] t ↔ t = s := by
  constructor
  · intro h
    cases h
    rfl
  · rintro rfl
    exact .nil t

theorem along_cons {s t : S} {e : E} {es : List E} :
    Along step s (e :: es) t ↔ ∃ u, step e s u ∧ Along step u es t := by
  constructor
  · intro h
    cases h with
    | cons first rest => exact ⟨_, first, rest⟩
  · rintro ⟨u, first, rest⟩
    exact .cons first rest

theorem along_append {s t : S} {es fs : List E} :
    Along step s (es ++ fs) t ↔ ∃ u, Along step s es u ∧ Along step u fs t := by
  induction es generalizing s with
  | nil => simp
  | cons e es ih =>
    simp only [List.cons_append, along_cons, ih]
    constructor
    · rintro ⟨v, first, u, mid, rest⟩
      exact ⟨u, ⟨v, first, mid⟩, rest⟩
    · rintro ⟨u, ⟨v, first, mid⟩, rest⟩
      exact ⟨v, first, u, mid, rest⟩

/-- Where each step sets the state or leaves it, a run ends with what was set last. -/
theorem along_last {set : E → Option S} (sets : ∀ e s t, step e s t → t = (set e).getD s) {s t : S}
    {es : List E} (along : Along step s es t) : t = (es.filterMap set).getLast?.getD s := by
  induction along with
  | nil s => rfl
  | @cons s u t e es first _ ih =>
    rw [ih, sets e s u first]
    cases put : set e with
    | none => rw [List.filterMap_cons_none put, Option.getD_none]
    | some v =>
      rw [List.filterMap_cons_some put, List.getLast?_cons, Option.getD_some, Option.getD_some]

/-- A step relation that is a function has one run for each list of labels. -/
theorem along_unique (det : ∀ e s t u, step e s t → step e s u → t = u) {s t u : S} {es : List E}
    (first : Along step s es t) (second : Along step s es u) : t = u := by
  induction first with
  | nil s => exact (along_nil.mp second).symm
  | cons here _ ih =>
    obtain ⟨v, there, rest⟩ := along_cons.mp second
    exact ih (det _ _ _ _ there here ▸ rest)

/-- A simulation carries runs over, with the same labels. -/
theorem Along.map {T : Type} {step' : E → T → T → Prop} (f : S → T)
    (sim : ∀ e s t, step e s t → step' e (f s) (f t)) {s t : S} {es : List E}
    (along : Along step s es t) : Along step' (f s) es (f t) := by
  induction along with
  | nil s => exact .nil (f s)
  | cons first _ ih => exact .cons (sim _ _ _ first) ih

/-- Labels that change nothing can be left out. -/
theorem along_filter {p : E → Bool}
    (still : ∀ e s t, p e = false → (step e s t ↔ t = s)) {s t : S} {es : List E} :
    Along step s (es.filter p) t ↔ Along step s es t := by
  induction es generalizing s with
  | nil => exact Iff.rfl
  | cons e es ih =>
    cases hp : p e with
    | true =>
      rw [List.filter_cons_of_pos hp]
      simp only [along_cons, ih]
    | false =>
      rw [List.filter_cons_of_neg (by simp [hp]), ih, along_cons]
      constructor
      · intro h
        exact ⟨s, (still e s s hp).mpr rfl, h⟩
      · rintro ⟨u, first, rest⟩
        cases (still e s u hp).mp first
        exact rest

def Keeps (step : E → S → S → Prop) (P I : S → Prop) (es : List E) : Prop :=
  ∀ p, p <+: es → ∀ s t, P s → Along step s p t → I t

section Keeps

variable {P Q I : S → Prop} {es fs : List E}

theorem keeps_nil (start : ∀ s, P s → I s) : Keeps step P I [] := by
  intro p hp s t hs along
  cases List.prefix_nil.mp hp
  cases along_nil.mp along
  exact start s hs

theorem keeps_cons {e : E} (start : ∀ s, P s → I s) (next : ∀ s t, P s → step e s t → Q t)
    (rest : Keeps step Q I es) : Keeps step P I (e :: es) := by
  intro p hp s t hs along
  cases p with
  | nil =>
    cases along_nil.mp along
    exact start s hs
  | cons d p =>
    obtain ⟨rfl, tail⟩ := List.cons_prefix_cons.mp hp
    obtain ⟨u, first, more⟩ := along_cons.mp along
    exact rest p tail u t (next s u hs first) more

theorem Keeps.cut (h : Keeps step P I fs) (cut : es <+: fs) : Keeps step P I es :=
  fun p hp => h p (hp.trans cut)

theorem Keeps.append (h : Keeps step P I es)
    (mid : ∀ s t, P s → Along step s es t → Q t) (k : Keeps step Q I fs) :
    Keeps step P I (es ++ fs) := by
  intro p hp s t hs along
  obtain ⟨left, cut⟩ := hp
  rcases List.append_eq_append_iff.mp cut with ⟨q, early, _⟩ | ⟨q, rfl, late⟩
  · exact h p ⟨q, early.symm⟩ s t hs along
  · have hq : q <+: fs := ⟨left, late.symm⟩
    obtain ⟨u, first, rest⟩ := along_append.mp along
    exact k q hq u t (mid s u hs first) rest

theorem Keeps.mono (h : Keeps step P I es) {R J : S → Prop} (pre : ∀ s, R s → P s)
    (post : ∀ s, I s → J s) : Keeps step R J es :=
  fun p hp s t hs along => post t (h p hp s t (pre s hs) along)

/-- An invariant of every step is kept. -/
theorem keeps_of_step (each : ∀ e ∈ es, ∀ s t, I s → step e s t → I t) : Keeps step I I es := by
  induction es with
  | nil => exact keeps_nil (fun _ hs => hs)
  | cons e es ih =>
    exact keeps_cons (fun _ hs => hs) (each e List.mem_cons_self)
      (ih (fun d hd => each d (List.mem_cons_of_mem _ hd)))

/-- What is kept of an invariant on the labels that change something is kept on all. -/
theorem along_keeps (each : ∀ e s t, I s → step e s t → I t) {s t : S} (start : I s)
    (along : Along step s es t) : I t :=
  keeps_of_step (fun e _ => each e) es List.prefix_rfl s t start along

end Keeps

/-- Labels of kind `b` come after one of kind `a`: until then `J` holds, and `K`
from then on. -/
theorem along_before {a b : E → Prop} {J K : S → Prop} {es : List E}
    (before : Weaving.Before a b es)
    (early : ∀ e ∈ es, ∀ s t, ¬ b e → J s → step e s t → J t)
    (turn : ∀ e ∈ es, ∀ s t, a e → J s → step e s t → K t)
    (late : ∀ e ∈ es, ∀ s t, K s → step e s t → K t) {s t : S} (start : J s)
    (along : Along step s es t) : J t ∨ K t := by
  induction es generalizing s with
  | nil =>
    cases along_nil.mp along
    exact .inl start
  | cons e es ih =>
    obtain ⟨u, first, rest⟩ := along_cons.mp along
    have tail : ∀ d ∈ es, d ∈ e :: es := fun d hd => List.mem_cons_of_mem _ hd
    rcases before.2 with now | later
    · have kept := keeps_of_step (fun d hd => late d (tail d hd))
      have turned := turn e List.mem_cons_self s u now start first
      exact .inr (kept es (List.prefix_refl es) u t turned rest)
    · exact ih later (fun d hd => early d (tail d hd)) (fun d hd => turn d (tail d hd))
        (fun d hd => late d (tail d hd))
        (early e List.mem_cons_self s u before.1 start first) rest

/-- A run, seen through `f`, is one of the steps that `f` makes of its steps. -/
theorem along_simulates {T : Type} {step' : E → T → T → Prop} {I : S → Prop} {f : S → T}
    (each : ∀ e s t, I s → step e s t → I t ∧ step' e (f s) (f t)) {s t : S} {es : List E}
    (start : I s) (along : Along step s es t) : I t ∧ Along step' (f s) es (f t) := by
  induction along with
  | nil s => exact ⟨start, .nil (f s)⟩
  | cons first _ ih =>
    obtain ⟨kept, first'⟩ := each _ _ _ start first
    obtain ⟨last, rest⟩ := ih kept
    exact ⟨last, .cons first' rest⟩

end Trail
