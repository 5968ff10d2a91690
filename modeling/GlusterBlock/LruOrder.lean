import GlusterBlock.Lib.Recency
import GlusterBlock.Lib.Trail
import GlusterBlock.Lru

/-! The cache under a fixed capacity holds the volumes that were used last, in the order of
their last use. -/
namespace GlusterBlock

open Trail
open Recency (recent use)

/-- A query for a volume, with the handle that is appended on a miss and the address its
allocation answers. -/
structure Access (H : Type) where
  volume : String
  glfs : H
  tmp : Ptr
  deriving DecidableEq, Repr

namespace Lru

variable {H : Type}

/-- A query, and on a miss an append. -/
def access (c : Lru H) (a : Access H) : Option H × Lru H :=
  match c.queryCache a.volume with
  | (some glfs, c) => (some glfs, c)
  | (none, c) => (none, (c.appendNewEntry a.volume a.glfs (some a.tmp)).2)

def AccessStep (a : Access H) (c c' : Lru H) : Prop :=
  ((c.access a).1.isNone → c.makeRoom.Fresh a.tmp) ∧ c' = (c.access a).2

/-- The handle that an access appends. -/
def appendedBy (c : Lru H) (a : Access H) : List (Entry H) :=
  if (c.access a).1.isNone then [{ volume := a.volume, glfs := a.glfs }] else []

/-- The handles that were appended, in order. -/
def appended (c : Lru H) : List (Access H) → List (Entry H)
  | [] => []
  | a :: accs => c.appendedBy a ++ appended (c.access a).2 accs

/-- The cache behind a history of accesses and appends. -/
structure Tracks (k : Nat) (accs : List (Access H)) (log : List (Entry H)) (c : Lru H) :
    Prop where
  linked : c.WellLinked
  capacity : c.glfsLruCount = k
  order : c.cached.map Entry.volume = (recent (accs.map Access.volume)).take k
  last : ∀ e ∈ c.cached, (log.filter (fun f => f.volume == e.volume)).getLast? = some e
  settled : (log.map Entry.glfs).Perm (c.finis ++ c.cached.map Entry.glfs)

section Access

variable {c : Lru H} {a : Access H}

/-- A hit moves its entry to the front; a miss appends one, and behind a full list the last
entry is finalised. -/
theorem access_cases (ok : c.WellLinked) (room : 1 ≤ c.glfsLruCount)
    (fresh : (c.access a).1.isNone → c.makeRoom.Fresh a.tmp) :
    (∃ l e m, c.cached = l ++ e :: m ∧ e.volume = a.volume ∧ (∀ f ∈ l, f.volume ≠ a.volume) ∧
        (c.access a).1 = some e.glfs ∧ (c.access a).2.WellLinked ∧
        (c.access a).2.cached = e :: (l ++ m) ∧ (c.access a).2.finis = c.finis ∧
        (c.access a).2.glfsLruCount = c.glfsLruCount) ∨
      (∀ e ∈ c.cached, e.volume ≠ a.volume) ∧ (c.access a).1 = none ∧
        (c.access a).2.WellLinked ∧ (c.access a).2.glfsLruCount = c.glfsLruCount ∧
        ∃ kept, (c.access a).2.cached =
            { volume := CText.copy 255 "" a.volume, glfs := a.glfs } :: kept ∧
          (c.cached.length ≠ c.glfsLruCount ∧ c.cached = kept ∧ (c.access a).2.finis = c.finis ∨
            c.cached.length = c.glfsLruCount ∧ ∃ e, c.cached = kept ++ [e] ∧
              (c.access a).2.finis = c.finis ++ [e.glfs]) := by
  rcases query_spec a.volume ok with
    ⟨other, missed⟩ | ⟨l, e, m, split, named, before, found, linked, moved, finis, cap⟩
  · have run : c.access a = (none, (c.appendNewEntry a.volume a.glfs (some a.tmp)).2) := by
      rw [access, missed]
    rw [run] at fresh ⊢
    obtain ⟨made, cap, left⟩ := makeRoom_spec ok room
    obtain ⟨linked, _, cached⟩ := add_spec a.volume a.glfs made (fresh rfl)
    refine .inr ⟨other, rfl, linked, cap, c.makeRoom.cached, cached, ?_⟩
    rcases left with ⟨short, same, finis⟩ | ⟨full, l, e, split, kept, finis⟩
    · exact .inl ⟨short, same.symm, finis⟩
    · exact .inr ⟨full, e, by rw [split, kept], finis⟩
  · have run : c.access a = (some e.glfs, (c.queryCache a.volume).2) := by
      unfold access
      generalize c.queryCache a.volume = answer at found ⊢
      obtain ⟨hit, after⟩ := answer
      cases found
      rfl
    rw [run]
    exact .inl ⟨l, e, m, split, named, before, rfl, linked, moved, finis, cap⟩

end Access

theorem tracks_init (k : Nat) : Tracks k [] [] (init k : Lru H) := by
  obtain ⟨linked, none⟩ := init_wellLinked (H := H) k
  have cached : (init k : Lru H).cached = [] := by
    rw [Lru.cached, none]
    rfl
  refine ⟨linked, rfl, ?_, ?_, ?_⟩
  · rw [cached]
    simp [recent]
  · rw [cached]
    intro _ mem
    cases mem
  · rw [cached]
    exact List.Perm.refl _

section Step

variable {k : Nat} {accs : List (Access H)} {log : List (Entry H)} {c c' : Lru H} {a : Access H}

/-- The volumes behind an access are those of an ideal cache. -/
theorem order_step (room : 1 ≤ k) (tracks : Tracks k accs log c) {volumes : List String}
    (used : volumes = use k (c.cached.map Entry.volume) a.volume) :
    volumes = (recent ((accs ++ [a]).map Access.volume)).take k := by
  rw [used, tracks.order, Recency.use_recent room, List.map_append, List.map_singleton]

theorem tracks_hit (room : 1 ≤ k) (tracks : Tracks k accs log c) {l m : List (Entry H)}
    {e : Entry H} (split : c.cached = l ++ e :: m) (named : e.volume = a.volume)
    (before : ∀ f ∈ l, f.volume ≠ a.volume) (linked : c'.WellLinked)
    (moved : c'.cached = e :: (l ++ m)) (finis : c'.finis = c.finis)
    (cap : c'.glfsLruCount = c.glfsLruCount) : Tracks k (accs ++ [a]) log c' := by
  have same : c'.cached.Perm c.cached := by
    rw [moved, split]
    exact List.perm_middle.symm
  refine ⟨linked, cap.trans tracks.capacity, order_step room tracks ?_, ?_, ?_⟩
  · have front : a.volume ∉ l.map Entry.volume := by
      intro mem
      obtain ⟨f, hf, volume⟩ := List.mem_map.mp mem
      exact before f hf volume
    have whole : c.cached.map Entry.volume =
        l.map Entry.volume ++ a.volume :: m.map Entry.volume := by
      rw [split, List.map_append, List.map_cons, named]
    rw [whole, use, if_pos (by simp), List.erase_append_right _ front, List.erase_cons_head, moved,
      List.map_cons, List.map_append, named]
  · exact fun f hf => tracks.last f (same.mem_iff.mp hf)
  · rw [finis]
    exact tracks.settled.trans ((same.symm.map _).append_left _)

theorem tracks_miss (room : 1 ≤ k) (tracks : Tracks k accs log c)
    (other : ∀ e ∈ c.cached, e.volume ≠ a.volume) (linked : c'.WellLinked)
    (cap : c'.glfsLruCount = c.glfsLruCount) {kept : List (Entry H)}
    (moved : c'.cached = { volume := a.volume, glfs := a.glfs } :: kept)
    (left : c.cached.length ≠ c.glfsLruCount ∧ c.cached = kept ∧ c'.finis = c.finis ∨
      c.cached.length = c.glfsLruCount ∧ ∃ e, c.cached = kept ++ [e] ∧
        c'.finis = c.finis ++ [e.glfs]) :
    Tracks k (accs ++ [a]) (log ++ [{ volume := a.volume, glfs := a.glfs }]) c' := by
  have fewer : ∀ e ∈ kept, e ∈ c.cached := by
    intro e he
    rcases left with ⟨_, same, _⟩ | ⟨_, _, split, _⟩
    · exact same ▸ he
    · rw [split]
      exact List.mem_append_left _ he
  have absent : a.volume ∉ c.cached.map Entry.volume := by
    intro mem
    obtain ⟨e, he, volume⟩ := List.mem_map.mp mem
    exact other e he volume
  refine ⟨linked, cap.trans tracks.capacity, order_step room tracks ?_, ?_, ?_⟩
  · rw [moved, use, if_neg absent, List.length_map, List.map_cons]
    refine congrArg (_ :: ·) ?_
    rcases left with ⟨short, same, _⟩ | ⟨full, e, split, _⟩
    · rw [if_neg (by rwa [← tracks.capacity]), same]
    · rw [if_pos (by rwa [← tracks.capacity]), split]
      simp
  · intro e he
    rw [moved] at he
    rcases List.mem_cons.mp he with rfl | old
    · simp
    · have away : (a.volume == e.volume) = false :=
        beq_false_of_ne (other e (fewer e old)).symm
      rw [List.filter_append, List.filter_cons_of_neg (by simp [away]), List.filter_nil,
        List.append_nil]
      exact tracks.last e (fewer e old)
  · rw [moved, List.map_append, List.map_cons, List.map_nil, List.map_cons]
    refine (tracks.settled.append_right _).trans ?_
    rcases left with ⟨_, same, finis⟩ | ⟨_, e, split, finis⟩
    · rw [finis, same, List.append_assoc]
      exact (List.perm_append_comm).append_left _
    · rw [finis, split, List.map_append, List.append_assoc, List.append_assoc, List.append_assoc]
      exact (List.perm_append_comm).append_left _

theorem tracks_step (room : 1 ≤ k) (tracks : Tracks k accs log c)
    (short : a.volume.length < 255) (step : AccessStep a c c') :
    Tracks k (accs ++ [a]) (log ++ c.appendedBy a) c' := by
  obtain ⟨fresh, rfl⟩ := step
  have capacity : 1 ≤ c.glfsLruCount := by rwa [tracks.capacity]
  rcases access_cases tracks.linked capacity fresh with
    ⟨l, e, m, split, named, before, found, linked, moved, finis, cap⟩ |
    ⟨other, missed, linked, cap, kept, moved, left⟩
  · have none : c.appendedBy a = [] := if_neg (by simp [found])
    rw [none, List.append_nil]
    exact tracks_hit room tracks split named before linked moved finis cap
  · have one : c.appendedBy a = [{ volume := a.volume, glfs := a.glfs }] :=
      if_pos (by simp [missed])
    rw [CText.copy_fits (Nat.le_of_lt_succ short)] at moved
    rw [one]
    exact tracks_miss room tracks other linked cap moved left

theorem tracks_run (room : 1 ≤ k) {rest : List (Access H)} (tracks : Tracks k accs log c)
    (short : ∀ a ∈ rest, a.volume.length < 255) (run : Along AccessStep c rest c') :
    Tracks k (accs ++ rest) (log ++ c.appended rest) c' := by
  induction rest generalizing accs log c with
  | nil =>
    cases along_nil.mp run
    simpa [appended] using tracks
  | cons a rest ih =>
    obtain ⟨mid, step, more⟩ := along_cons.mp run
    have next := tracks_step room tracks (short a List.mem_cons_self) step
    have done := ih next (fun b hb => short b (List.mem_cons_of_mem a hb)) more
    rw [List.append_assoc, List.append_assoc] at done
    rw [appended, ← step.2]
    exact done

end Step

/-- After any accesses the cache holds the volumes used last, its counter is right, a hit
answers the handle appended last for its volume, and the handle that goes is that of the
volume used longest ago. Every appended handle is finalised or cached, and once. -/
theorem lru_order {k : Nat} (room : 1 ≤ k) {accs : List (Access H)} {c : Lru H}
    (short : ∀ a ∈ accs, a.volume.length < 255) (run : Along AccessStep (init k) accs c) :
    let volumes := c.cached.map Entry.volume
    let log := (init k).appended accs
    volumes = (recent (accs.map Access.volume)).take k ∧ volumes.Nodup ∧
      volumes.length = min k (accs.map Access.volume).dedup.length ∧
      c.lruCount = volumes.length ∧
      (log.map Entry.glfs).Perm (c.finis ++ c.cached.map Entry.glfs) ∧
      ∀ a c', AccessStep a c c' →
        (∀ glfs, (c.access a).1 = some glfs →
          (log.filter (fun e => e.volume == a.volume)).getLast? =
            some { volume := a.volume, glfs := glfs }) ∧
        (c'.finis = c.finis ∨ volumes.length = k ∧ ∃ e, c.cached.getLast? = some e ∧
          volumes.getLast? = some e.volume ∧ c'.finis = c.finis ++ [e.glfs]) := by
  have tracks : Tracks k accs ((init k).appended accs) c := by
    simpa using tracks_run room (tracks_init k) short run
  dsimp only
  have order := tracks.order
  have nodup : (c.cached.map Entry.volume).Nodup :=
    order ▸ (Recency.recent_nodup _).sublist (List.take_sublist _ _)
  refine ⟨order, nodup, ?_, ?_, tracks.settled, fun a c' step => ?_⟩
  · rw [order, List.length_take, recent, List.length_reverse]
  · rw [count_cached tracks.linked, List.length_map]
  · obtain ⟨fresh, rfl⟩ := step
    have capacity : 1 ≤ c.glfsLruCount := by rwa [tracks.capacity]
    rcases access_cases tracks.linked capacity fresh with
      ⟨l, e, m, split, named, _, found, _, _, finis, _⟩ |
      ⟨_, missed, _, _, kept, _, left⟩
    · refine ⟨fun glfs hit => ?_, .inl finis⟩
      have same : e = { volume := a.volume, glfs := glfs } := by
        rw [found] at hit
        cases hit
        rw [← named]
      have last := tracks.last e (by simp [split])
      rwa [named, same] at last
    · refine ⟨fun glfs hit => absurd (missed.symm.trans hit) (by simp), ?_⟩
      rcases left with ⟨_, _, finis⟩ | ⟨full, e, split, finis⟩
      · exact .inl finis
      · refine .inr ⟨?_, e, ?_, ?_, finis⟩
        · rw [List.length_map, full, tracks.capacity]
        · rw [split, List.getLast?_concat]
        · rw [split, List.map_append, List.map_cons, List.map_nil, List.getLast?_concat]

/-- Three volumes through a cache of two, the first of them used again in between. -/
theorem lru_order_sample :
    let accs : List (Access Nat) := [⟨"a", 1, .cell 1⟩, ⟨"b", 2, .cell 2⟩, ⟨"a", 3, .cell 3⟩,
      ⟨"c", 4, .cell 2⟩]
    ∃ c, Along AccessStep (init 2) accs c ∧ c.cached.map Entry.volume = ["c", "a"] ∧
      c.finis = [2] := by
  intro accs
  let c := accs.foldl (fun c a => (c.access a).2) (init 2)
  have run : Along AccessStep (init 2) accs c :=
    .cons ⟨by decide, rfl⟩ (.cons ⟨by decide, rfl⟩ (.cons ⟨by decide, rfl⟩
      (.cons ⟨by decide, rfl⟩ (.nil _))))
  have order := (lru_order (by decide) (by decide) run).1
  exact ⟨c, run, order.trans (by decide), by decide⟩

end Lru

end GlusterBlock
