import Mathlib.Data.List.Infix
import GlusterBlock.Lib.Trail
import GlusterBlock.Lru

/-! The cache under a capacity that changes. An append makes room for one entry, and only
when the counter is exactly at the capacity. -/
namespace GlusterBlock

open Trail

/-- A change of the capacity, a query, or an append with what its allocation answers. -/
inductive LruOp (H : Type) where
  | setLruCount (lruCount : Nat)
  | query (volname : String)
  | append (volname : String) (fs : H) (tmp : Option Ptr)

namespace LruOp

variable {H : Type}

def run (c : Lru H) : LruOp H → Lru H
  | setLruCount lruCount => (c.glusterBlockSetLruCount lruCount).2
  | query volname => (c.queryCache volname).2
  | append volname fs tmp => (c.appendNewEntry volname fs tmp).2

/-- A successful allocation answers a fresh address. -/
def allocates (c : Lru H) : LruOp H → Prop
  | append _ _ (some tmp) => c.makeRoom.Fresh tmp
  | _ => True

def isAppend : LruOp H → Bool
  | append _ _ _ => true
  | _ => false

end LruOp

namespace Lru

variable {H : Type}

def OpStep (op : LruOp H) (c c' : Lru H) : Prop := op.allocates c ∧ c' = op.run c

/-- No more objects than the capacity configured at the moment. -/
def Bounded (c : Lru H) : Prop := c.cached.length ≤ c.glfsLruCount

instance (c : Lru H) : Decidable c.Bounded := inferInstanceAs (Decidable (_ ≤ _))

theorem setLruCount_spec {c : Lru H} {lruCount : Nat} (ok : c.WellLinked)
    (room : 1 ≤ c.glfsLruCount) :
    (c.glusterBlockSetLruCount lruCount).2.WellLinked ∧
      1 ≤ (c.glusterBlockSetLruCount lruCount).2.glfsLruCount := by
  unfold glusterBlockSetLruCount
  split
  · exact ⟨ok, room⟩
  · rename_i accepted
    rw [not_or] at accepted
    split
    · exact ⟨ok, room⟩
    · exact ⟨⟨ok.holds, ok.live, ok.full, ok.count⟩, Nat.pos_of_ne_zero accepted.1⟩

/-- An append gets within the capacity exactly when it starts within it. -/
theorem append_spec {c : Lru H} {volname : String} {fs : H} {tmp : Option Ptr}
    (ok : c.WellLinked) (room : 1 ≤ c.glfsLruCount)
    (fresh : (LruOp.append volname fs tmp).allocates c) :
    (c.appendNewEntry volname fs tmp).2.WellLinked ∧
      1 ≤ (c.appendNewEntry volname fs tmp).2.glfsLruCount ∧
      ((c.appendNewEntry volname fs tmp).2.Bounded ↔ c.Bounded) := by
  obtain ⟨linked, cap, made⟩ := makeRoom_spec ok room
  unfold appendNewEntry Bounded
  cases tmp with
  | none =>
    refine ⟨linked, by rwa [cap], ?_⟩
    dsimp only
    rcases made with ⟨_, same, _⟩ | ⟨full, l, e, before, left, _⟩
    · rw [same, cap]
    · rw [left, before, cap]
      rw [before] at full
      simp only [List.length_append, List.length_singleton] at full ⊢
      omega
  | some tmp =>
    obtain ⟨linked', _, cached⟩ := add_spec volname fs linked fresh
    have cap' : (c.makeRoom.addEntry volname fs tmp).glfsLruCount = c.glfsLruCount := cap
    refine ⟨linked', by rwa [cap'], ?_⟩
    dsimp only
    rw [cached, cap', List.length_cons]
    rcases made with ⟨other, same, _⟩ | ⟨_, l, e, before, left, _⟩
    · rw [same]
      omega
    · rw [left, before, List.length_append, List.length_singleton]

/-- What every operation keeps of the list. -/
theorem op_linked {op : LruOp H} {c c' : Lru H} (ok : c.WellLinked ∧ 1 ≤ c.glfsLruCount)
    (step : OpStep op c c') : c'.WellLinked ∧ 1 ≤ c'.glfsLruCount := by
  obtain ⟨fresh, rfl⟩ := step
  obtain ⟨linked, room⟩ := ok
  cases op with
  | setLruCount lruCount => exact setLruCount_spec linked room
  | query volname =>
    rcases query_spec volname linked with ⟨_, missed⟩ | ⟨_, _, _, _, _, _, _, linked', _, _, cap⟩
    · rw [LruOp.run, missed]
      exact ⟨linked, room⟩
    · exact ⟨linked', by rwa [LruOp.run, cap]⟩
  | append volname fs tmp =>
    obtain ⟨linked', room', _⟩ := append_spec linked room fresh
    exact ⟨linked', room'⟩

/-- In every run the cache is within the capacity behind each append exactly when it was
within the capacity, as configured then, in front of each. -/
theorem lru_capacity {k : Nat} (accepted : 1 ≤ k) {ops : List (LruOp H)} {last : Lru H}
    (run : Along OpStep (init k) ops last) :
    (∀ front op rest c, ops = front ++ op :: rest → op.isAppend = true →
        Along OpStep (init k) (front ++ [op]) c → c.Bounded) ↔
      ∀ front op rest c, ops = front ++ op :: rest → op.isAppend = true →
        Along OpStep (init k) front c → c.Bounded := by
  have start : (init k : Lru H).WellLinked ∧ 1 ≤ (init k : Lru H).glfsLruCount :=
    ⟨(init_wellLinked k).1, accepted⟩
  have function : ∀ (op : LruOp H) c c' c'', OpStep op c c' → OpStep op c c'' → c' = c'' :=
    fun _ _ _ _ first second => first.2.trans second.2.symm
  have around : ∀ {op : LruOp H} {c c' : Lru H}, c.WellLinked ∧ 1 ≤ c.glfsLruCount →
      op.isAppend = true → OpStep op c c' → (c'.Bounded ↔ c.Bounded) := by
    rintro op c c' ⟨linked, room⟩ append ⟨fresh, rfl⟩
    cases op with
    | append volname fs tmp => exact (append_spec linked room fresh).2.2
    | _ => cases append
  have kept : ∀ {front : List (LruOp H)} {c : Lru H}, Along OpStep (init k) front c →
      c.WellLinked ∧ 1 ≤ c.glfsLruCount :=
    fun along => along_keeps (I := fun c => c.WellLinked ∧ 1 ≤ c.glfsLruCount)
      (fun _ _ _ => op_linked) start along
  constructor
  · intro behind front op rest c split append before
    rw [split] at run
    obtain ⟨mid, first, more⟩ := along_append.mp run
    obtain ⟨after, step, _⟩ := along_cons.mp more
    cases along_unique function first before
    have reached : Along OpStep (init k) (front ++ [op]) after :=
      along_append.mpr ⟨_, before, along_cons.mpr ⟨after, step, along_nil.mpr rfl⟩⟩
    exact (around (kept before) append step).mp (behind front op rest after split append reached)
  · intro within front op rest c split append behind
    obtain ⟨before, first, more⟩ := along_append.mp behind
    obtain ⟨after, step, done⟩ := along_cons.mp more
    cases along_nil.mp done
    exact (around (kept first) append step).mpr (within front op rest before split append first)

/-- Every allocation of the operations is fresh. -/
def Allocated (c : Lru H) : List (LruOp H) → Prop
  | [] => True
  | op :: ops => op.allocates c ∧ Allocated (op.run c) ops

instance (c : Lru H) (op : LruOp H) : Decidable (op.allocates c) :=
  match op with
  | .append _ _ (some tmp) => inferInstanceAs (Decidable (c.makeRoom.Fresh tmp))
  | .append _ _ none | .setLruCount _ | .query _ => isTrue trivial

instance : (c : Lru H) → (ops : List (LruOp H)) → Decidable (Allocated c ops)
  | _, [] => isTrue trivial
  | c, op :: ops =>
    have := instDecidableAllocated (op.run c) ops
    inferInstanceAs (Decidable (_ ∧ _))

theorem along_run {ops : List (LruOp H)} {c : Lru H} (fresh : Allocated c ops) :
    Along OpStep c ops (ops.foldl LruOp.run c) := by
  induction ops generalizing c with
  | nil => exact .nil c
  | cons op ops ih => exact .cons ⟨fresh.1, rfl⟩ (ih fresh.2)

/-- A capacity of 2 is filled, and a third object takes the place of the coldest. -/
theorem lru_capacity_sample :
    let ops : List (LruOp Nat) := [.setLruCount 2, .append "a" 1 (some (.cell 1)),
      .append "b" 2 (some (.cell 2)), .append "c" 3 (some (.cell 3))]
    ∀ front op rest c, ops = front ++ op :: rest → op.isAppend = true →
      Along OpStep (init lruCountDef) (front ++ [op]) c → c.Bounded := by
  intro ops
  have run : Along OpStep (init lruCountDef) ops (ops.foldl LruOp.run (init lruCountDef)) :=
    along_run (by decide)
  refine (lru_capacity (by decide) run).mpr (fun front op rest c split append along => ?_)
  have bounded : ∀ pre ∈ ops.inits, (pre.foldl LruOp.run (init lruCountDef)).Bounded := by decide
  have cut : front ∈ ops.inits := (List.mem_inits ..).mpr ⟨op :: rest, split.symm⟩
  have reached : ∀ {pre : List (LruOp Nat)} {s t : Lru Nat}, Along OpStep s pre t →
      t = pre.foldl LruOp.run s := by
    intro pre s t path
    induction path with
    | nil s => rfl
    | cons step _ ih => rw [ih, step.2]; rfl
  rw [reached along]
  exact bounded front cut

/-- The capacity is lowered to 1 below two cached objects, and the next append makes three. -/
theorem lowered_overfills :
    let ops : List (LruOp Nat) := [.append "a" 1 (some (.cell 1)),
      .append "b" 2 (some (.cell 2)), .setLruCount 1]
    let op : LruOp Nat := .append "c" 3 (some (.cell 3))
    ∃ c, Along OpStep (init lruCountDef) (ops ++ [op]) c ∧ op.isAppend = true ∧
      c.cached.length = 3 ∧ c.glfsLruCount = 1 ∧ ¬ c.Bounded :=
  ⟨_, along_run (by decide), by decide⟩

end Lru

end GlusterBlock
