import GlusterBlock.Lib.Search

/-! Masking by search: the first occurrence of a marker is found, and from the next
separator on everything is hidden up to a stop. The rules say when the text behind the
marker is hidden, and when an earlier occurrence takes its place. -/
namespace Masking

variable {α : Type}

/-- The marker does not begin again inside of itself, and the separator is not a part of
it. -/
structure Mask (α : Type) where
  head : α
  tail : List α
  sep : α
  stop : α → Bool
  hide : α → α
  once : head ∉ tail
  apart : sep ∉ head :: tail
  passes : stop sep = false

namespace Mask

variable (m : Mask α) {a b l p q r x y : List α}

def marker : List α := m.head :: m.tail

def value : List α → List α
  | [] => []
  | c :: cs => if m.stop c then c :: cs else m.hide c :: value cs

def behind [DecidableEq α] : List α → List α
  | [] => []
  | c :: cs => if c = m.sep then m.value (c :: cs) else c :: behind cs

def clip [DecidableEq α] : List α → List α
  | [] => []
  | c :: cs => if m.marker <+: c :: cs then m.behind (c :: cs) else c :: clip cs

/-- The marker does not occur. -/
def Free (l : List α) : Prop := ¬ m.marker <:+: l

/-- A separator with a stop behind it. -/
def Closes (l : List α) : Prop := ∃ u w, l = u ++ m.sep :: w ∧ ∃ c ∈ w, m.stop c = true

theorem free_nil : m.Free [] := by
  intro occurs
  have empty := List.infix_nil.mp occurs
  cases empty

theorem free_of_missing {c : α} (part : c ∈ m.marker) (missing : c ∉ l) : m.Free l :=
  Search.not_infix_of_notMem part missing

/-- What is no part of the marker keeps its two sides apart. -/
theorem infix_sep {c : α} (other : c ∉ m.marker) :
    m.marker <:+: x ++ c :: y ↔ m.marker <:+: x ∨ m.marker <:+: y :=
  Search.infix_apart other (List.cons_ne_nil _ _)

theorem free_sep {c : α} (other : c ∉ m.marker) (left : m.Free x) (right : m.Free y) :
    m.Free (x ++ c :: y) :=
  fun occurs => ((m.infix_sep other).mp occurs).elim left right

theorem value_hides (open_text : ∀ c ∈ l, m.stop c = false) :
    m.value (l ++ r) = l.map m.hide ++ m.value r := by
  induction l with
  | nil => rfl
  | cons c l ih =>
    rw [List.cons_append, value, open_text c List.mem_cons_self, if_neg Bool.false_ne_true,
      ih (fun d hd => open_text d (List.mem_cons_of_mem _ hd))]
    rfl

theorem value_stops {c : α} (there : c ∈ l) (stops : m.stop c = true) :
    m.value (l ++ r) = m.value l ++ r := by
  induction l with
  | nil => cases there
  | cons d l ih =>
    rw [List.cons_append, value, value]
    by_cases here : m.stop d = true
    · rw [if_pos here, if_pos here]
      rfl
    · rw [if_neg here, if_neg here]
      rcases List.mem_cons.mp there with rfl | later
      · exact absurd stops here
      · rw [ih later]
        rfl

variable [DecidableEq α]

theorem behind_sep (away : m.sep ∉ l) : m.behind (l ++ m.sep :: r) = l ++ m.value (m.sep :: r) := by
  induction l with
  | nil => exact if_pos rfl
  | cons c l ih =>
    have other : ¬ c = m.sep := fun e => away (e ▸ List.mem_cons_self)
    rw [List.cons_append, behind, if_neg other, ih (fun h => away (List.mem_cons_of_mem _ h))]
    rfl

theorem behind_closed (closes : m.Closes l) : m.behind (l ++ r) = m.behind l ++ r := by
  obtain ⟨u, w, rfl, c, there, stops⟩ := closes
  induction u with
  | nil =>
    change m.behind (m.sep :: (w ++ r)) = m.behind (m.sep :: w) ++ r
    rw [behind, behind, if_pos rfl, if_pos rfl]
    exact m.value_stops (List.mem_cons_of_mem _ there) stops
  | cons d u ih =>
    change m.behind (d :: (u ++ m.sep :: w ++ r)) = m.behind (d :: (u ++ m.sep :: w)) ++ r
    rw [behind, behind]
    by_cases here : d = m.sep
    · rw [if_pos here, if_pos here]
      exact m.value_stops (List.mem_cons_of_mem _ (List.mem_append_right u
        (List.mem_cons_of_mem _ there))) stops
    · rw [if_neg here, if_neg here, ih]
      rfl

/-- The first occurrence is the one that is found. -/
theorem clip_first (free : m.Free a) :
    m.clip (a ++ (m.marker ++ r)) = a ++ m.behind (m.marker ++ r) := by
  induction a with
  | nil => exact if_pos (List.prefix_append m.marker r)
  | cons c a ih =>
    have later : m.Free a := fun h => free (h.trans (List.suffix_cons c a).isInfix)
    have elsewhere : ¬ m.marker <+: c :: (a ++ (m.marker ++ r)) :=
      Search.not_prefix_earlier m.once free
    rw [List.cons_append, clip, if_neg elsewhere, ih later]
    rfl

/-- An occurrence in front of a closed text takes the place of a later one. -/
theorem clip_closed (occurs : m.marker <:+: x) (closes : m.Closes y) :
    m.clip (x ++ (y ++ r)) = m.clip (x ++ y) ++ r := by
  have closed : ∀ z, m.Closes (z ++ y) := by
    intro z
    obtain ⟨u, w, rfl, stop⟩ := closes
    exact ⟨z ++ u, w, by simp, stop⟩
  induction x with
  | nil =>
    have empty := List.infix_nil.mp occurs
    cases empty
  | cons c x ih =>
    have long : m.marker.length ≤ (c :: (x ++ y)).length := by
      have short := occurs.length_le
      simp only [List.length_cons, List.length_append] at short ⊢
      omega
    change m.clip (c :: (x ++ (y ++ r))) = m.clip (c :: (x ++ y)) ++ r
    rw [clip, clip]
    by_cases here : m.marker <+: c :: (x ++ y)
    · have there : m.marker <+: c :: (x ++ (y ++ r)) := here.trans ⟨r, by simp⟩
      rw [if_pos here, if_pos there]
      have split : c :: (x ++ (y ++ r)) = (c :: x ++ y) ++ r := by simp
      rw [split, m.behind_closed (closed (c :: x))]
      rfl
    · have elsewhere : ¬ m.marker <+: c :: (x ++ (y ++ r)) := fun front =>
        here (List.prefix_of_prefix_length_le front ⟨r, by simp⟩ long)
      rw [if_neg here, if_neg elsewhere]
      rcases List.infix_cons_iff.mp occurs with front | later
      · exact absurd (front.trans ⟨y, rfl⟩) here
      · rw [ih later]
        rfl

/-- Two secrets that look alike when hidden leave the same text. -/
theorem clip_hides (free : m.Free a) (away : m.sep ∉ b) (lead : ∀ c ∈ l, m.stop c = false)
    (first : ∀ c ∈ p, m.stop c = false) (second : ∀ c ∈ q, m.stop c = false)
    (alike : p.map m.hide = q.map m.hide) :
    m.clip (a ++ (m.marker ++ (b ++ m.sep :: (l ++ (p ++ r))))) =
      m.clip (a ++ (m.marker ++ (b ++ m.sep :: (l ++ (q ++ r))))) := by
  have shown : ∀ s, (∀ c ∈ s, m.stop c = false) →
      m.clip (a ++ (m.marker ++ (b ++ m.sep :: (l ++ (s ++ r))))) =
        a ++ (m.marker ++ b ++ ((m.sep :: l).map m.hide ++ (s.map m.hide ++ m.value r))) := by
    intro s passes
    have clear : m.sep ∉ m.marker ++ b := by
      intro h
      exact (List.mem_append.mp h).elim m.apart away
    have secret : m.value (m.sep :: (l ++ (s ++ r))) =
        (m.sep :: l).map m.hide ++ (s.map m.hide ++ m.value r) := by
      rw [← m.value_hides passes, ← m.value_hides (l := m.sep :: l)]
      · rfl
      · intro c hc
        rcases List.mem_cons.mp hc with rfl | inner
        · exact m.passes
        · exact lead c inner
    rw [m.clip_first free, ← List.append_assoc m.marker, m.behind_sep clear, secret]
  rw [shown p first, shown q second, alike]

end Mask

end Masking
