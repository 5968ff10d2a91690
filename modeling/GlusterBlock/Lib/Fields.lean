import Mathlib.Data.List.Basic
import Mathlib.Data.List.Infix

/-! Two readings of a text with a delimiter: the tokens of `strtok`, which passes over a
run of delimiters, and the fields between the delimiters, empty ones included. -/
namespace Fields

section Tokens

variable {α : Type} [DecidableEq α]

/-- The tokens behind a token that was begun. -/
def tokensFrom (d : α) (begun : List α) : List α → List (List α)
  | [] => if begun = [] then [] else [begun]
  | c :: s =>
    if c = d then
      if begun = [] then tokensFrom d [] s else begun :: tokensFrom d [] s
    else tokensFrom d (begun ++ [c]) s

def tokens (d : α) (s : List α) : List (List α) := tokensFrom d [] s

/-- No delimiter at either end and no two in a row. -/
def Gapless (d : α) (s : List α) : Prop :=
  s.head? ≠ some d ∧ s.getLast? ≠ some d ∧ ¬ [d, d] <:+: s

instance (d : α) (s : List α) : Decidable (Gapless d s) :=
  inferInstanceAs (Decidable (_ ∧ _ ∧ ¬ _))

theorem splitOn_cons (d c : α) (s : List α) :
    (c :: s).splitOn d =
      if c = d then [] :: s.splitOn d else (s.splitOn d).modifyHead (List.cons c) := by
  rw [List.splitOn_cons_eq_if_modifyHead]
  simp

theorem splitOn_eq_cons (d : α) (s : List α) :
    ∃ first rest, s.splitOn d = first :: rest :=
  List.exists_cons_of_ne_nil (List.splitOn_ne_nil d s)

theorem length_splitOn (d : α) (s : List α) : (s.splitOn d).length = s.count d + 1 := by
  induction s with
  | nil => rfl
  | cons c s ih =>
    rw [splitOn_cons]
    by_cases delim : c = d
    · simp [delim, ih]
    · simp [delim, ih]

theorem tokensFrom_eq (d : α) (begun s : List α) :
    tokensFrom d begun s =
      ((s.splitOn d).modifyHead (begun ++ ·)).filter (fun f => f ≠ []) := by
  induction s generalizing begun with
  | nil =>
    by_cases empty : begun = []
    · simp [tokensFrom, empty]
    · simp [tokensFrom, empty]
  | cons c s ih =>
    rw [tokensFrom, splitOn_cons]
    obtain ⟨first, rest, split⟩ := splitOn_eq_cons d s
    by_cases delim : c = d
    · have plain : tokensFrom d [] s = (s.splitOn d).filter (fun f => f ≠ []) := by
        rw [ih [], split]
        simp
      rw [if_pos delim, if_pos delim, plain]
      by_cases empty : begun = []
      · simp [empty]
      · simp [empty]
    · rw [if_neg delim, if_neg delim, ih, split]
      simp

theorem tokens_eq (d : α) (s : List α) :
    tokens d s = (s.splitOn d).filter (fun f => f ≠ []) := by
  obtain ⟨first, rest, split⟩ := splitOn_eq_cons d s
  rw [tokens, tokensFrom_eq, split]
  simp

theorem tokens_append (d : α) (s t : List α) :
    tokens d (s ++ d :: t) = tokens d s ++ tokens d t := by
  rw [tokens_eq, tokens_eq, tokens_eq, List.splitOn_append_cons_self, List.filter_append]

theorem tokens_delim (d : α) (s : List α) : tokens d (d :: s) = tokens d s :=
  tokens_append d [] s

theorem field_clean (d : α) (s : List α) : ∀ f ∈ s.splitOn d, d ∉ f := by
  induction s with
  | nil => simp
  | cons c s ih =>
    obtain ⟨first, rest, split⟩ := splitOn_eq_cons d s
    rw [split] at ih
    rw [splitOn_cons, split]
    intro f mem
    split at mem
    · rcases List.mem_cons.mp mem with rfl | old
      · exact List.not_mem_nil
      · exact ih f old
    · rename_i other
      rcases List.mem_cons.mp mem with rfl | old
      · intro here
        rcases List.mem_cons.mp here with same | inside
        · exact other same.symm
        · exact ih first List.mem_cons_self inside
      · exact ih f (List.mem_cons_of_mem first old)

theorem token_clean {d : α} {s w : List α} (mem : w ∈ tokens d s) : w ≠ [] ∧ d ∉ w := by
  rw [tokens_eq, List.mem_filter] at mem
  exact ⟨of_decide_eq_true mem.2, field_clean d s w mem.1⟩

theorem tokens_word {d : α} {t : List α} (inside : d ∉ t) :
    tokens d t = if t = [] then [] else [t] := by
  rw [tokens_eq, List.splitOn_eq_singleton inside]
  by_cases empty : t = []
  · simp [empty]
  · simp [empty]

theorem tokens_cons {d : α} {w : List α} (inside : d ∉ w) (some : w ≠ []) (t : List α) :
    tokens d (w ++ d :: t) = w :: tokens d t := by
  rw [tokens_append, tokens_word inside, if_neg some]
  rfl

theorem first_empty (d : α) (s : List α) :
    [] ∉ (s.splitOn d) ↔ s ≠ [] ∧ s.head? ≠ some d ∧ [] ∉ (s.splitOn d).tail := by
  cases s with
  | nil => simp
  | cons c s =>
    obtain ⟨first, rest, split⟩ := splitOn_eq_cons d s
    rw [splitOn_cons, split]
    by_cases delim : c = d
    · simp [delim]
    · simp [delim]

theorem tail_gapless (d : α) (s : List α) :
    [] ∉ (s.splitOn d).tail ↔ s.getLast? ≠ some d ∧ ¬ [d, d] <:+: s := by
  induction s with
  | nil => simp
  | cons c s ih =>
    obtain ⟨first, rest, split⟩ := splitOn_eq_cons d s
    have inside : [d, d] <:+: c :: s ↔ (c = d ∧ s.head? = some d) ∨ [d, d] <:+: s := by
      rw [List.infix_cons_iff, List.cons_prefix_cons, eq_comm]
      cases s with
      | nil => simp
      | cons e s => simp [eq_comm]
    rw [splitOn_cons, inside]
    by_cases delim : c = d
    · rw [if_pos delim, List.tail_cons, first_empty, ih]
      cases s with
      | nil => simp [delim]
      | cons e s => simp [delim]; tauto
    · have same : ((s.splitOn d).modifyHead (List.cons c)).tail = (s.splitOn d).tail := by
        rw [split]
        rfl
      rw [if_neg delim, same, ih]
      cases s with
      | nil => simp [delim]
      | cons e s => simp [delim]

/-- No field of a text is empty exactly when its delimiters stand alone. -/
theorem fields_gapless {d : α} {s : List α} (nonempty : s ≠ []) :
    [] ∉ s.splitOn d ↔ Gapless d s := by
  rw [first_empty, tail_gapless]
  exact and_iff_right nonempty

/-- Both readings agree exactly then. -/
theorem tokens_eq_fields {d : α} {s : List α} (nonempty : s ≠ []) :
    tokens d s = s.splitOn d ↔ Gapless d s := by
  rw [tokens_eq, ← fields_gapless nonempty, List.filter_eq_self]
  constructor
  · intro all empty
    simpa using all [] empty
  · intro none f mem
    have other : f ≠ [] := fun same => none (same ▸ mem)
    simpa using other

end Tokens

section Words

variable {α : Type} [DecidableEq α] {nl sp : α}

/-- The words of the lines of a text, without the lines that have none. -/
def wordLines (nl sp : α) (t : List α) : List (List (List α)) :=
  ((t.splitOn nl).map (tokens sp)).filter (fun ws => ws ≠ [])

theorem wordLines_append (s t : List α) :
    wordLines nl sp (s ++ nl :: t) = wordLines nl sp s ++ wordLines nl sp t := by
  rw [wordLines, List.splitOn_append_cons_self, List.map_append, List.filter_append]
  rfl

theorem wordLines_line {t : List α} (inLine : nl ∉ t) :
    wordLines nl sp t = if tokens sp t = [] then [] else [tokens sp t] := by
  rw [wordLines, List.splitOn_eq_singleton inLine]
  by_cases empty : tokens sp t = []
  · simp [empty]
  · simp [empty]

/-- A blank in front changes nothing. -/
theorem wordLines_blank (other : sp ≠ nl) (t : List α) :
    wordLines nl sp (sp :: t) = wordLines nl sp t := by
  obtain ⟨first, rest, split⟩ := splitOn_eq_cons nl t
  rw [wordLines, wordLines, splitOn_cons, if_neg other, split, List.modifyHead_cons, List.map_cons,
    List.map_cons, tokens_delim]

end Words

end Fields
