import Mathlib.Data.List.Basic

/-! Several parties on one state, each with a view of it. Where a step leaves the views of the
others alone and depends on the view of its own party only, what a party sees behind a run is
what its own turns alone would have shown it. -/
namespace Unwinding

variable {S L B V : Type}

/-- The conditions on one step, in states that an invariant holds of. -/
structure Unwinds (step : S → L → S) (owns : B → L → Prop) (view : B → S → V) (inv : S → Prop) :
    Prop where
  keeps : ∀ b s l, owns b l → inv s → inv (step s l)
  own : ∀ b s t l, owns b l → inv s → inv t → view b s = view b t →
    view b (step s l) = view b (step t l)
  others : ∀ b c s l, owns c l → b ≠ c → inv s → view b (step s l) = view b s

/-- Some steps of one party. -/
structure Turn (owns : B → L → Prop) where
  party : B
  steps : List L
  own : ∀ l ∈ steps, owns party l

variable {step : S → L → S} {owns : B → L → Prop} {view : B → S → V} {inv : S → Prop}

def Turn.run (step : S → L → S) (s : S) (turn : Turn owns) : S := turn.steps.foldl step s

section Steps

variable (unwinds : Unwinds step owns view inv) {b c : B} {ls : List L}
include unwinds

theorem Unwinds.steps_keep (own : ∀ l ∈ ls, owns b l) {s : S} (start : inv s) :
    inv (ls.foldl step s) := by
  induction ls generalizing s with
  | nil => exact start
  | cons l ls ih =>
    exact ih (fun l mem => own l (List.mem_cons_of_mem _ mem))
      (unwinds.keeps b s l (own l List.mem_cons_self) start)

theorem Unwinds.steps_own (own : ∀ l ∈ ls, owns b l) {s t : S} (hs : inv s) (ht : inv t)
    (same : view b s = view b t) : view b (ls.foldl step s) = view b (ls.foldl step t) := by
  induction ls generalizing s t with
  | nil => exact same
  | cons l ls ih =>
    have mine := own l List.mem_cons_self
    exact ih (fun l mem => own l (List.mem_cons_of_mem _ mem)) (unwinds.keeps b s l mine hs)
      (unwinds.keeps b t l mine ht) (unwinds.own b s t l mine hs ht same)

theorem Unwinds.steps_others (own : ∀ l ∈ ls, owns c l) (away : b ≠ c) {s : S} (hs : inv s) :
    view b (ls.foldl step s) = view b s := by
  induction ls generalizing s with
  | nil => rfl
  | cons l ls ih =>
    have theirs := own l List.mem_cons_self
    have rest := ih (fun l mem => own l (List.mem_cons_of_mem _ mem))
      (unwinds.keeps c s l theirs hs)
    exact rest.trans (unwinds.others b c s l theirs away hs)

end Steps

section Runs

variable (unwinds : Unwinds step owns view inv)
include unwinds

theorem Unwinds.run_keeps {s : S} (start : inv s) (turns : List (Turn owns)) :
    inv (turns.foldl (Turn.run step) s) := by
  induction turns generalizing s with
  | nil => exact start
  | cons turn turns ih => exact ih (unwinds.steps_keep turn.own start)

variable [DecidableEq B]

/-- The run of all turns and that of the party's own ones show it the same. -/
theorem Unwinds.run_view (b : B) {s t : S} (hs : inv s) (ht : inv t) (same : view b s = view b t)
    (turns : List (Turn owns)) :
    view b (turns.foldl (Turn.run step) s) =
      view b ((turns.filter (fun turn => turn.party = b)).foldl (Turn.run step) t) := by
  induction turns generalizing s t with
  | nil => exact same
  | cons turn turns ih =>
    have kept := unwinds.steps_keep turn.own hs
    by_cases own : turn.party = b
    · subst own
      rw [List.filter_cons_of_pos (by simp)]
      exact ih kept (unwinds.steps_keep turn.own ht) (unwinds.steps_own turn.own hs ht same)
    · rw [List.filter_cons_of_neg (by simpa using own)]
      exact ih kept ht ((unwinds.steps_others turn.own (Ne.symm own) hs).trans same)

end Runs

end Unwinding
