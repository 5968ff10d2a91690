import Mathlib.Data.List.Nodup
import Mathlib.Logic.Function.Basic

/-! Circular lists of nodes that point to their neighbours, as the macros of a C list
keep them: one node stands for the list itself, and a removed node points nowhere. -/
namespace Linked

/-- The pointers of all nodes. -/
structure Heads (α : Type) where
  next : α → α
  prev : α → α

variable {α : Type} [DecidableEq α]

/-- `__list_add`. -/
def listInsert (new prev next : α) (h : Heads α) : Heads α where
  next := Function.update (Function.update h.next new next) prev new
  prev := Function.update (Function.update h.prev next new) new prev

def listAdd (new head : α) (h : Heads α) : Heads α := listInsert new head (h.next head) h

/-- `__list_del`. -/
def listJoin (prev next : α) (h : Heads α) : Heads α where
  next := Function.update h.next prev next
  prev := Function.update h.prev next prev

def listDel (null entry : α) (h : Heads α) : Heads α :=
  let h := listJoin (h.prev entry) (h.next entry) h
  { next := Function.update h.next entry null, prev := Function.update h.prev entry null }

/-- The nodes from `pos` to the node of the list, in at most so many steps. -/
def walk (next : α → α) (head : α) : Nat → α → List α
  | 0, _ => []
  | n + 1, pos => if pos = head then [] else pos :: walk next head n (next pos)

/-- The pointers lead from `a` through the nodes of a list to `b`. -/
def Path (f : α → α) : α → List α → α → Prop
  | a, [], b => f a = b
  | a, x :: l, b => f a = x ∧ Path f x l b

/-- The list of a node holds these nodes, read in both directions. -/
structure Holds (h : Heads α) (head : α) (l : List α) : Prop where
  nodup : (head :: l).Nodup
  next : Path h.next head l head
  prev : Path h.prev head l.reverse head

section Paths

variable {f g : α → α} {a b e : α} {l m : List α}

omit [DecidableEq α] in
theorem path_append {x : α} :
    Path f a (l ++ x :: m) b ↔ Path f a l x ∧ Path f x m b := by
  induction l generalizing a with
  | nil => rfl
  | cons y l ih => rw [List.cons_append, Path, Path, ih, and_assoc]

omit [DecidableEq α] in
/-- A path needs the pointers of its nodes alone, and of its start only where it leads. -/
theorem path_start (start : g a = f e) (same : ∀ c ∈ l, g c = f c) (path : Path f e l b) :
    Path g a l b := by
  induction l generalizing a e with
  | nil => exact start.trans path
  | cons x l ih =>
    refine ⟨start.trans path.1, ?_⟩
    exact ih (same x List.mem_cons_self) (fun c hc => same c (List.mem_cons_of_mem x hc)) path.2

omit [DecidableEq α] in
theorem path_first (path : Path f a l b) : f a = (l ++ [b]).head (by simp) := by
  cases l with
  | nil => exact path
  | cons x l => exact path.1

theorem walk_path (path : Path f a l b) (open' : b ∉ l) {n : Nat} (steps : l.length ≤ n) :
    walk f b n (f a) = l := by
  induction l generalizing a n with
  | nil =>
    have stop : f a = b := path
    cases n with
    | zero => rfl
    | succ n => rw [walk, if_pos stop]
  | cons x l ih =>
    cases n with
    | zero => cases steps
    | succ n =>
      have other : x ≠ b := fun same => open' (same ▸ List.mem_cons_self)
      have rest := ih path.2 (fun h => open' (List.mem_cons_of_mem x h)) (Nat.le_of_succ_le_succ steps)
      rw [walk, path.1, if_neg other, rest]

/-- Taking out a node leads its neighbour in front to the one behind. -/
theorem path_del {null p : α} (nodup : (a :: (l ++ e :: m)).Nodup)
    (last : (a :: l).getLast? = some p) (front : Path f a l e) (behind : Path f e m b) :
    Path (Function.update (Function.update f p (f e)) e null) a (l ++ m) b := by
  have pe : p ≠ e := by
    rintro rfl
    have inside : p ∈ a :: l := List.mem_of_getLast? last
    rw [← List.cons_append] at nodup
    exact (List.nodup_append.mp nodup).2.2 p inside p List.mem_cons_self rfl
  have led : Function.update (Function.update f p (f e)) e null p = f e := by
    rw [Function.update_of_ne pe, Function.update_self]
  have kept : ∀ c, c ≠ e → c ≠ p → Function.update (Function.update f p (f e)) e null c = f c := by
    intro c out other
    rw [Function.update_of_ne out, Function.update_of_ne other]
  rcases List.eq_nil_or_concat' l with rfl | ⟨l, y, rfl⟩
  · have same : a = p := Option.some.inj last
    subst a
    simp only [List.nil_append, List.nodup_cons, List.mem_cons, not_or] at nodup
    refine path_start led (fun c hc => kept c ?_ ?_) behind
    · rintro rfl
      exact nodup.2.1 hc
    · rintro rfl
      exact nodup.1.2 hc
  · rw [← List.cons_append, List.getLast?_concat] at last
    have same : y = p := Option.some.inj last
    subst y
    simp only [List.append_assoc, List.singleton_append] at nodup ⊢
    have parts := nodup
    simp only [List.nodup_cons, List.nodup_append, List.mem_append, List.mem_cons, not_or] at parts
    obtain ⟨⟨al, ap, ae, am⟩, _, ⟨⟨_, pm⟩, em, _⟩, apart⟩ := parts
    refine path_append.mpr ⟨path_start (kept a ae ap) (fun c hc => kept c ?_ ?_)
      (path_append.mp front).1, path_start led (fun c hc => kept c ?_ ?_) behind⟩
    · rintro rfl
      exact apart c hc c (.inr (.inl rfl)) rfl
    · rintro rfl
      exact apart c hc c (.inl rfl) rfl
    · rintro rfl
      exact em hc
    · rintro rfl
      exact pm hc

end Paths

section Lists

variable {h : Heads α} {head : α} {l m : List α}

/-- A new node is the first one. -/
theorem holds_add {new : α} (holds : Holds h head l) (fresh : new ∉ head :: l) :
    Holds (listAdd new head h) head (new :: l) := by
  have other : new ≠ head := fun same => fresh (same ▸ List.mem_cons_self)
  have away : ∀ c ∈ l, c ≠ new ∧ c ≠ head := by
    intro c hc
    refine ⟨?_, ?_⟩
    · rintro rfl
      exact fresh (List.mem_cons_of_mem _ hc)
    · rintro rfl
      exact (List.nodup_cons.mp holds.nodup).1 hc
  refine ⟨?_, ⟨Function.update_self .., ?_⟩, ?_⟩
  · exact (List.Perm.swap head new l).nodup_iff.mp (List.nodup_cons.mpr ⟨fresh, holds.nodup⟩)
  · refine path_start ?_ (fun c hc => ?_) holds.next
    · exact (Function.update_of_ne other ..).trans (Function.update_self ..)
    · exact (Function.update_of_ne (away c hc).2 ..).trans (Function.update_of_ne (away c hc).1 ..)
  · rw [List.reverse_cons]
    refine path_append.mpr ⟨?_, Function.update_self ..⟩
    change Path (Function.update (Function.update h.prev (h.next head) new) new head) _ _ _
    cases l with
    | nil =>
      have loop : h.next head = head := holds.next
      refine (Function.update_of_ne other.symm ..).trans ?_
      rw [loop, Function.update_self]
    | cons x l =>
      have first : h.next head = x := holds.next.1
      have back := holds.prev
      rw [List.reverse_cons] at back ⊢
      rw [first]
      have nodup := holds.nodup
      simp only [List.nodup_cons, List.mem_cons, not_or] at nodup
      have kept : ∀ c, c ≠ new → c ≠ x →
          Function.update (Function.update h.prev x new) new head c = h.prev c := by
        intro c out same
        rw [Function.update_of_ne out, Function.update_of_ne same]
      refine path_append.mpr ⟨path_start (kept head other.symm nodup.1.1) (fun c hc => ?_)
        (path_append.mp back).1, ?_⟩
      · have mem := List.mem_reverse.mp hc
        refine kept c (away c (List.mem_cons_of_mem x mem)).1 ?_
        rintro rfl
        exact nodup.2.1 mem
      · exact (Function.update_of_ne (away x List.mem_cons_self).1 ..).trans
          (Function.update_self ..)

/-- Removing a node leaves the others. -/
theorem holds_del {null e : α} (holds : Holds h head (l ++ e :: m)) :
    Holds (listDel null e h) head (l ++ m) := by
  obtain ⟨before, behind⟩ := path_append.mp holds.next
  have back := holds.prev
  rw [List.reverse_append, List.reverse_cons, List.append_assoc, List.singleton_append] at back
  obtain ⟨before', behind'⟩ := path_append.mp back
  have last : (head :: l).getLast? = some (h.prev e) := by
    rw [path_first behind']
    simp [List.getLast?_eq_head?_reverse, List.head?_eq_some_head]
  have last' : (head :: m.reverse).getLast? = some (h.next e) := by
    rw [path_first behind]
    cases m with
    | nil => rfl
    | cons x m => rw [List.reverse_cons, ← List.cons_append, List.getLast?_concat]; rfl
  have nodup' : (head :: (m.reverse ++ e :: l.reverse)).Nodup := by
    have reversed : (m.reverse ++ e :: l.reverse).Perm (l ++ e :: m) := by
      have same : m.reverse ++ e :: l.reverse = (l ++ e :: m).reverse := by simp
      exact same ▸ List.reverse_perm _
    exact (reversed.cons head).nodup_iff.mpr holds.nodup
  refine ⟨?_, path_del holds.nodup last before behind, ?_⟩
  · have fewer : (head :: (l ++ m)).Sublist (head :: (l ++ e :: m)) :=
      ((List.sublist_cons_self e m).append_left l).cons_cons head
    exact holds.nodup.sublist fewer
  · rw [List.reverse_append]
    exact path_del nodup' last' before' behind'

/-- A walk of enough steps meets the nodes in order. -/
theorem walk_holds (holds : Holds h head l) {n : Nat} (steps : l.length ≤ n) :
    walk h.next head n (h.next head) = l :=
  walk_path holds.next (List.nodup_cons.mp holds.nodup).1 steps

omit [DecidableEq α] in
theorem holds_last (holds : Holds h head l) : h.prev head = (l.getLast?).getD head := by
  rw [path_first holds.prev]
  rcases List.eq_nil_or_concat' l with rfl | ⟨l, x, rfl⟩
  · rfl
  · simp

end Lists

end Linked
