import Mathlib.Data.List.Infix

/-! Line filters: the search for a pattern of single character tests, the parts of a line
that match, and matching lines with the line in front of them. -/
namespace Grep

variable {α β γ : Type}

section Patterns

/-- One test for each character. -/
abbrev Pattern (α : Type) := List (α → Bool)

/-- The text starts with a match. -/
def Pattern.starts : Pattern α → List α → Bool
  | [], _ => true
  | _ :: _, [] => false
  | test :: p, c :: cs => test c && Pattern.starts p cs

/-- Somewhere in the line is a match. -/
def Pattern.found (p : Pattern α) (line : List α) : Bool := line.tails.any p.starts

/-- The matches in a line from the left, none inside another; `skip` characters belong to
the last one still. -/
def Pattern.only (p : Pattern α) : Nat → List α → List (List α)
  | _, [] => []
  | skip + 1, _ :: cs => Pattern.only p skip cs
  | 0, c :: cs =>
    if p.starts (c :: cs) then (c :: cs).take p.length :: Pattern.only p (p.length - 1) cs
    else Pattern.only p 0 cs

theorem starts_take {p : Pattern α} {cs : List α} (matched : p.starts cs = true) :
    p.starts (cs.take p.length) = true ∧ (cs.take p.length).length = p.length := by
  induction p generalizing cs with
  | nil => simp [Pattern.starts]
  | cons test p ih =>
    cases cs with
    | nil => cases matched
    | cons c cs =>
      have parts := Bool.and_eq_true_iff.mp matched
      obtain ⟨rest, length⟩ := ih parts.2
      exact ⟨Bool.and_eq_true_iff.mpr ⟨parts.1, rest⟩, by simpa using length⟩

theorem mem_only {p : Pattern α} {skip : Nat} {line m : List α} (h : m ∈ p.only skip line) :
    p.starts m = true ∧ m.length = p.length := by
  induction line generalizing skip with
  | nil => cases skip <;> cases h
  | cons c cs ih =>
    cases skip with
    | succ skip => exact ih h
    | zero =>
      unfold Pattern.only at h
      split at h
      · rename_i matched
        rcases List.mem_cons.mp h with rfl | later
        · exact starts_take matched
        · exact ih later
      · exact ih h

end Patterns

section Context

/-- The matching lines, each with the line in front of it where that was not printed yet;
`gap` stands between groups that are apart. `printed` says that a group was printed,
`skipped` that a line behind it was not, and `waiting` is the last of these. -/
def beforeFrom (gap : β) (hit : β → Bool) : Bool → Bool → Option β → List β → List β
  | _, _, _, [] => []
  | printed, skipped, waiting, line :: lines =>
    if hit line then
      (if printed && skipped then [gap] else []) ++ waiting.toList ++
        line :: beforeFrom gap hit true false none lines
    else beforeFrom gap hit printed (skipped || waiting.isSome) (some line) lines

def before (gap : β) (hit : β → Bool) (lines : List β) : List β :=
  beforeFrom gap hit false false none lines

/-- Among the lines that are kept, a line is shown when it is a hit or the next one is. -/
def shows (kept hit : β → Bool) (line : β) (rest : List β) : Bool :=
  kept line && (hit line || (rest.find? kept).any hit)

/-- The kept lines that are shown. -/
def shown (kept hit : β → Bool) : List β → List β
  | [] => []
  | line :: rest =>
    if shows kept hit line rest then line :: shown kept hit rest else shown kept hit rest

theorem beforeFrom_flatMap {gap : β} {hit : β → Bool} {f : β → List γ} (silent : f gap = [])
    (printed skipped : Bool) (waiting : Option β) (lines : List β) :
    (beforeFrom gap hit printed skipped waiting lines).flatMap f =
      (if lines.head?.any hit then waiting.toList.flatMap f else []) ++
        (shown (fun _ => true) hit lines).flatMap f := by
  induction lines generalizing printed skipped waiting with
  | nil => rfl
  | cons line lines ih =>
    have next : lines.find? (fun _ => true) = lines.head? := by cases lines <;> rfl
    have quiet : (if printed && skipped then [gap] else []).flatMap f = [] := by
      split
      · simp [silent]
      · rfl
    simp only [beforeFrom, shown, shows, Bool.true_and]
    rw [next]
    cases here : hit line with
    | true =>
      rw [if_pos rfl, List.flatMap_append, List.flatMap_append, quiet, List.flatMap_cons, ih]
      simp [here]
    | false =>
      cases after : lines.head?.any hit with
      | true => simp [ih, here, after]
      | false => simp [ih, here, after]

theorem shown_filter (kept hit : β → Bool) (lines : List β) :
    shown (fun _ => true) hit (lines.filter kept) = shown kept hit lines := by
  induction lines with
  | nil => rfl
  | cons line lines ih =>
    cases keep : kept line with
    | false =>
      rw [List.filter_cons_of_neg (by simp [keep]), ih]
      simp [shown, shows, keep]
    | true =>
      rw [List.filter_cons_of_pos keep]
      have next : (lines.filter kept).find? (fun _ => true) = lines.find? kept := by
        rw [List.find?_filter]
        simp
      simp only [shown, shows, next, ih, keep]

/-- What is read first off the shown lines comes from the first of them that has any. -/
theorem shown_head {kept hit : β → Bool} {f : β → List γ} {lines : List β} {c : γ} :
    ((shown kept hit lines).flatMap f).head? = some c ↔
      ∃ front line back, lines = front ++ line :: back ∧ shows kept hit line back = true ∧
        (f line).head? = some c ∧
        ∀ l e r, front = l ++ e :: r → shows kept hit e (r ++ line :: back) = true → f e = [] := by
  induction lines with
  | nil => simp [shown]
  | cons first rest ih =>
    have later : (∃ front line back, rest = front ++ line :: back ∧ shows kept hit line back = true ∧
        (f line).head? = some c ∧
        ∀ l e r, front = l ++ e :: r → shows kept hit e (r ++ line :: back) = true → f e = []) →
          (shows kept hit first rest = true → f first = []) →
        ∃ front line back, first :: rest = front ++ line :: back ∧ shows kept hit line back = true ∧
          (f line).head? = some c ∧
          ∀ l e r, front = l ++ e :: r → shows kept hit e (r ++ line :: back) = true → f e = [] := by
      rintro ⟨front, line, back, rfl, visible, head, quiet⟩ skip
      refine ⟨first :: front, line, back, rfl, visible, head, ?_⟩
      intro l e r split
      cases l with
      | nil =>
        obtain ⟨rfl, rfl⟩ := List.cons.inj split
        exact skip
      | cons a l =>
        obtain ⟨rfl, rfl⟩ := List.cons.inj split
        exact quiet l e r rfl
    have earlier : (∃ front line back, first :: rest = front ++ line :: back ∧
        shows kept hit line back = true ∧ (f line).head? = some c ∧
        ∀ l e r, front = l ++ e :: r → shows kept hit e (r ++ line :: back) = true → f e = []) →
          ¬ (shows kept hit first rest = true ∧ (f first).head? = some c) →
        (shows kept hit first rest = true → f first = []) ∧
          ∃ front line back, rest = front ++ line :: back ∧ shows kept hit line back = true ∧
            (f line).head? = some c ∧
            ∀ l e r, front = l ++ e :: r → shows kept hit e (r ++ line :: back) = true → f e = [] := by
      rintro ⟨front, line, back, split, visible, head, quiet⟩ other
      cases front with
      | nil =>
        obtain ⟨rfl, rfl⟩ := List.cons.inj split
        exact absurd ⟨visible, head⟩ other
      | cons a front =>
        obtain ⟨rfl, rfl⟩ := List.cons.inj split
        refine ⟨quiet [] _ _ rfl, front, line, back, rfl, visible, head, ?_⟩
        exact fun l e r same => quiet (first :: l) e r (by rw [same]; rfl)
    unfold shown
    by_cases visible : shows kept hit first rest = true
    · rw [if_pos visible, List.flatMap_cons]
      cases words : f first with
      | nil =>
        rw [List.nil_append, ih]
        constructor
        · exact fun found => later found (fun _ => words)
        · exact fun found => (earlier found (by simp [words])).2
      | cons w ws =>
        constructor
        · intro head
          refine ⟨[], first, rest, rfl, visible, by rw [words]; exact head, ?_⟩
          intro l e r absurd
          simp at absurd
        · intro found
          by_contra other
          have skip := (earlier found (fun here => other (by rw [words] at here; exact here.2))).1
          rw [skip visible] at words
          cases words
    · rw [if_neg visible, ih]
      constructor
      · exact fun found => later found (fun here => absurd here visible)
      · exact fun found => (earlier found (fun here => visible here.1)).2

/-- The first word on the lines that `before` gives for the kept ones. -/
theorem before_head {gap : β} {kept hit : β → Bool} {f : β → List γ} (silent : f gap = [])
    {lines : List β} {c : γ} :
    ((before gap hit (lines.filter kept)).flatMap f).head? = some c ↔
      ∃ front line back, lines = front ++ line :: back ∧ shows kept hit line back = true ∧
        (f line).head? = some c ∧
        ∀ l e r, front = l ++ e :: r → shows kept hit e (r ++ line :: back) = true → f e = [] := by
  have all : (before gap hit (lines.filter kept)).flatMap f =
      (shown kept hit lines).flatMap f := by
    rw [before, beforeFrom_flatMap silent, shown_filter]
    simp
  rw [all, shown_head]

end Context

end Grep
