import GlusterBlock.Lib.Trail
import Mathlib.Logic.Function.Basic

/-! Processes that work in sections under one lock. What a section does is decided by the
state that it finds, and a section may end early, which is what a crash leaves. Whatever the
order of their steps, the processes lead to a state that their sections lead to one after
another. -/
namespace Sections

open Trail

variable {P S E R : Type}

/-- What a request makes of the state when its section begins, with the effects that are to
follow, and what an effect does. -/
structure Work (S E R : Type) where
  enter : R → S → S → List E → Prop
  step : E → S → S → Prop

/-- The shared state, the holder of the lock, and what a process in its section has left
to do. -/
structure Conf (P S E : Type) where
  shared : S
  lock : Option P
  inside : P → Option (List E)

def Conf.Idle (c : Conf P S E) : Prop := c.lock = none ∧ ∀ p, c.inside p = none

/-- The section of a process is over, and with it the lock that it holds. -/
def Conf.out [DecidableEq P] (c : Conf P S E) (p : P) : Conf P S E where
  shared := c.shared
  lock := if c.lock = some p then none else c.lock
  inside := Function.update c.inside p none

/-- The steps of the processes. Only the entry looks at the lock. -/
inductive Next [DecidableEq P] (W : Work S E R) : Conf P S E → Conf P S E → Prop where
  | enter {c : Conf P S E} {p : P} {r : R} {s : S} {es : List E} (free : c.lock = none)
      (enters : W.enter r c.shared s es) :
      Next W c ⟨s, some p, Function.update c.inside p (some es)⟩
  | act {c : Conf P S E} {p : P} {e : E} {es : List E} {s : S}
      (next : c.inside p = some (e :: es)) (does : W.step e c.shared s) :
      Next W c ⟨s, c.lock, Function.update c.inside p (some es)⟩
  | leave {c : Conf P S E} {p : P} (done : c.inside p = some []) : Next W c (c.out p)
  | crash {c : Conf P S E} {p : P} {es : List E} (inside : c.inside p = some es) :
      Next W c (c.out p)

/-- A section up to some point, with nothing else in between. -/
def Alone (W : Work S E R) (s s' : S) : Prop :=
  ∃ r s₁ es done, W.enter r s s₁ es ∧ done <+: es ∧ Along W.step s₁ done s'

def Serial (W : Work S E R) : S → S → Prop := Relation.ReflTransGen (Alone W)

/-- The one in its section has the lock, and the state is that of its section up to here,
behind sections one after another. -/
structure Ordered (W : Work S E R) (start : S) (c : Conf P S E) : Prop where
  exclusive : ∀ p es, c.inside p = some es → c.lock = some p
  free : c.lock = none → Serial W start c.shared
  held : ∀ p, c.lock = some p → ∃ base r s done rest, Serial W start base ∧
    W.enter r base s (done ++ rest) ∧ Along W.step s done c.shared ∧ c.inside p = some rest

variable {W : Work S E R} {start : S} {c c' : Conf P S E}

theorem Ordered.serial (ordered : Ordered W start c) : Serial W start c.shared := by
  cases lock : c.lock with
  | none => exact ordered.free lock
  | some p =>
    obtain ⟨base, r, s, done, rest, before, enters, along, _⟩ := ordered.held p lock
    exact before.tail ⟨r, s, _, done, enters, List.prefix_append done rest, along⟩

theorem ordered_idle (idle : c.Idle) : Ordered W c.shared c where
  exclusive := fun p es inside => absurd ((idle.2 p).symm.trans inside) (by simp)
  free := fun _ => .refl
  held := fun p lock => absurd (idle.1.symm.trans lock) (by simp)

variable [DecidableEq P]

/-- Behind the end of a section nobody is in one. -/
theorem Ordered.ends (ordered : Ordered W start c) {p : P} {es : List E}
    (inside : c.inside p = some es) : Ordered W start (c.out p) := by
  have lock := ordered.exclusive p es inside
  have none : (c.out p).lock = none := if_pos lock
  refine ⟨fun q fs other => ?_, fun _ => ordered.serial, fun q held => ?_⟩
  · unfold Conf.out at other
    dsimp only at other
    by_cases same : q = p
    · subst same
      rw [Function.update_self] at other
      cases other
    · rw [Function.update_of_ne same] at other
      rw [ordered.exclusive q fs other] at lock
      exact absurd (Option.some.inj lock) same
  · cases none.symm.trans held

theorem Ordered.next (ordered : Ordered W start c) (next : Next W c c') : Ordered W start c' := by
  cases next with
  | @enter p r s es free enters =>
    refine ⟨fun q fs inside => ?_, fun none => absurd none (by simp), ?_⟩
    · dsimp only at inside
      by_cases same : q = p
      · rw [same]
      · rw [Function.update_of_ne same] at inside
        exact absurd (free.symm.trans (ordered.exclusive q fs inside)) (by simp)
    · rintro q ⟨⟩
      exact ⟨c.shared, r, s, [], es, ordered.free free, enters, .nil s, Function.update_self ..⟩
  | @act p e es s here does =>
    have lock := ordered.exclusive p _ here
    refine ⟨fun q fs inside => ?_, fun none => absurd (lock.symm.trans none) (by simp), ?_⟩
    · dsimp only at inside
      by_cases same : q = p
      · rw [same]
        exact lock
      · rw [Function.update_of_ne same] at inside
        exact ordered.exclusive q fs inside
    · intro q held
      obtain rfl : p = q := Option.some.inj (lock.symm.trans held)
      obtain ⟨base, r, s₁, done, rest, before, enters, along, left⟩ := ordered.held p lock
      obtain rfl : rest = e :: es := Option.some.inj (left.symm.trans here)
      refine ⟨base, r, s₁, done ++ [e], es, before, ?_, ?_, Function.update_self ..⟩
      · rwa [List.append_assoc, List.singleton_append]
      · exact along_append.mpr ⟨c.shared, along, .cons does (.nil s)⟩
  | leave done => exact ordered.ends done
  | crash inside => exact ordered.ends inside

/-- Every state of a run from an idle one is ordered. -/
theorem ordered_run {c₀ c : Conf P S E} (idle : c₀.Idle)
    (run : Relation.ReflTransGen (Next W) c₀ c) : Ordered W c₀.shared c := by
  induction run with
  | refl => exact ordered_idle idle
  | tail _ next ih => exact ih.next next

/-- A process in its section takes its effects one after another. -/
theorem acts {p : P} {done rest : List E} {s : S} (inside : c.inside p = some (done ++ rest))
    (along : Along W.step c.shared done s) :
    ∃ c', Relation.ReflTransGen (Next W) c c' ∧ c'.shared = s ∧ c'.lock = c.lock ∧
      c'.inside p = some rest := by
  induction done generalizing c with
  | nil => exact ⟨c, .refl, (along_nil.mp along).symm, rfl, inside⟩
  | cons e done ih =>
    obtain ⟨mid, first, others⟩ := along_cons.mp along
    let next : Conf P S E := ⟨mid, c.lock, Function.update c.inside p (some (done ++ rest))⟩
    have step : Next W c next := .act inside first
    obtain ⟨c', run, shared, lock, left⟩ := ih (c := next) (Function.update_self ..) others
    exact ⟨c', .head step run, shared, lock, left⟩

/-- What a section leads to alone is reached, with the lock free again. -/
theorem alone_reached (p : P) (free : c.lock = none) {s : S} (alone : Alone W c.shared s) :
    ∃ c', Relation.ReflTransGen (Next W) c c' ∧ c'.shared = s ∧ c'.lock = none := by
  obtain ⟨r, s₁, es, done, enters, ⟨rest, rfl⟩, along⟩ := alone
  let inside : Conf P S E := ⟨s₁, some p, Function.update c.inside p (some (done ++ rest))⟩
  have enter : Next W c inside := .enter free enters
  obtain ⟨c', run, shared, lock, left⟩ := acts (c := inside) (Function.update_self ..) along
  exact ⟨c'.out p, (Relation.ReflTransGen.head enter run).tail (.crash left), shared, if_pos lock⟩

/-- Every state that sections lead to one after another is reached. -/
theorem serial_reached (p : P) (free : c.lock = none) {s : S} (serial : Serial W c.shared s) :
    ∃ c', Relation.ReflTransGen (Next W) c c' ∧ c'.shared = s ∧ c'.lock = none := by
  induction serial with
  | refl => exact ⟨c, .refl, rfl, free⟩
  | tail _ alone ih =>
    obtain ⟨mid, before, rfl, again⟩ := ih
    obtain ⟨c', after, shared, lock⟩ := alone_reached p again alone
    exact ⟨c', before.trans after, shared, lock⟩

end Sections
