import GlusterBlock.Lib.Weave
import GlusterBlock.Rpc

/-! What a coordinator does, as the list of its effects in time order: updates
of the metafile, calls that reach a node, the removal of the metafile. A crash
leaves a prefix of the list. -/
namespace GlusterBlock

/-- The outcome of one metafile update: the file could not be opened, was opened
and not written, or was written and could not be closed. -/
inductive UpdRes where
  | ok | notOpened | notWritten | notClosed
  deriving DecidableEq, Repr

inductive CallRes where
  | notSent
  | sent (exit : Int)
  deriving DecidableEq, Repr

inductive Ev where
  | touch
  | write (lines : Journal)
  | call (addr : Addr) (msg : Msg) (exit : Int)
  | unlinkMeta
  deriving DecidableEq, Repr

/-- Effects and the return code. -/
structure Act where
  evs : List Ev
  ret : Int
  deriving DecidableEq, Repr

namespace Act

def done (ret : Int) : Act := { evs := [], ret := ret }

def emit (e : Ev) : Act := { evs := [e], ret := 0 }

/-- Go on with `b` unless `a` failed. -/
def next (a b : Act) : Act := if a.ret = 0 then { evs := a.evs ++ b.evs, ret := b.ret } else a

@[simp] theorem done_evs (ret : Int) : (done ret).evs = [] := rfl
@[simp] theorem done_ret (ret : Int) : (done ret).ret = ret := rfl

theorem next_zero {a : Act} (h : a.ret = 0) (b : Act) :
    a.next b = { evs := a.evs ++ b.evs, ret := b.ret } := if_pos h

theorem next_fail {a : Act} (h : a.ret ≠ 0) (b : Act) : a.next b = a := if_neg h

end Act

/-- `GB_METAUPDATE_OR_GOTO`. -/
def metaUpdate (res : UpdRes) (lines : Journal) : Act :=
  match res with
  | .ok => { evs := [.write lines], ret := 0 }
  | .notOpened => { evs := [], ret := -1 }
  | .notWritten => { evs := [.touch], ret := -1 }
  | .notClosed => { evs := [.write lines], ret := -1 }

@[simp] theorem metaUpdate_ok (lines : Journal) :
    metaUpdate .ok lines = { evs := [.write lines], ret := 0 } := rfl

/-- The metafile, `none` when there is no such file. -/
abbrev Metafile := Option Journal

def metaStep (file : Metafile) : Ev → Metafile
  | .touch => some (file.getD [])
  | .write lines => some (file.getD [] ++ lines)
  | .call _ _ _ => file
  | .unlinkMeta => none

def metaAfter (file : Metafile) (evs : List Ev) : Metafile := evs.foldl metaStep file

def written (evs : List Ev) : Journal :=
  evs.flatMap (fun | .write lines => lines | _ => [])

theorem metaAfter_append (file : Metafile) (es fs : List Ev) :
    metaAfter file (es ++ fs) = metaAfter (metaAfter file es) fs := List.foldl_append

@[simp] theorem written_nil : written [] = [] := rfl

theorem written_append (es fs : List Ev) : written (es ++ fs) = written es ++ written fs :=
  List.flatMap_append

theorem mem_written {l : MetaLine} {evs : List Ev} :
    l ∈ written evs ↔ ∃ lines, Ev.write lines ∈ evs ∧ l ∈ lines := by
  unfold written
  rw [List.mem_flatMap]
  constructor
  · rintro ⟨e, he, hl⟩
    cases e with
    | write lines => exact ⟨lines, he, hl⟩
    | _ => cases hl
  · rintro ⟨lines, he, hl⟩
    exact ⟨_, he, hl⟩

theorem metaUpdate_lines {res : UpdRes} {lines : Journal} {l : MetaLine}
    (h : l ∈ written (metaUpdate res lines).evs) : l ∈ lines := by
  cases res with
  | ok => simpa [metaUpdate, written] using h
  | notClosed => simpa [metaUpdate, written] using h
  | notOpened => cases h
  | notWritten => cases h

theorem mem_metaUpdate {res : UpdRes} {lines : Journal} {e : Ev}
    (h : e ∈ (metaUpdate res lines).evs) : e = .touch ∨ e = .write lines := by
  cases res with
  | ok => exact .inr (List.mem_singleton.mp h)
  | notClosed => exact .inr (List.mem_singleton.mp h)
  | notWritten => exact .inl (List.mem_singleton.mp h)
  | notOpened => cases h

theorem mem_next {a b : Act} {e : Ev} (h : e ∈ (a.next b).evs) : e ∈ a.evs ∨ e ∈ b.evs := by
  by_cases zero : a.ret = 0
  · rw [Act.next_zero zero] at h
    exact List.mem_append.mp h
  · rw [Act.next_fail zero] at h
    exact .inl h

theorem next_lines {a b : Act} {l : MetaLine} (h : l ∈ written (a.next b).evs) :
    l ∈ written a.evs ∨ l ∈ written b.evs := by
  obtain ⟨lines, he, hl⟩ := mem_written.mp h
  exact (mem_next he).imp (fun he => mem_written.mpr ⟨lines, he, hl⟩)
    (fun he => mem_written.mpr ⟨lines, he, hl⟩)

/-- Without a removal an existing metafile grows by what is written. -/
theorem metaAfter_some (js : Journal) {evs : List Ev} (keep : Ev.unlinkMeta ∉ evs) :
    metaAfter (some js) evs = some (js ++ written evs) := by
  induction evs generalizing js with
  | nil => simp [metaAfter]
  | cons e evs ih =>
    have rest : Ev.unlinkMeta ∉ evs := fun h => keep (List.mem_cons_of_mem _ h)
    cases e with
    | touch => exact ih js rest
    | write lines =>
      have after := ih (js ++ lines) rest
      rw [List.append_assoc] at after
      exact after
    | call a m x => exact ih js rest
    | unlinkMeta => exact absurd List.mem_cons_self keep

section Host

/-- The effect is a call to the host or writes a line that mentions it. -/
def Ev.isAbout (addr : Addr) : Ev → Bool
  | .write lines => lines.any (fun l => (hostRecord l).any (fun r => r.1 == addr))
  | .call a _ _ => a == addr
  | _ => false

def hostEvs (addr : Addr) (evs : List Ev) : List Ev := evs.filter (Ev.isAbout addr)

@[simp] theorem hostEvs_nil (addr : Addr) : hostEvs addr [] = [] := rfl

theorem hostEvs_append (addr : Addr) (es fs : List Ev) :
    hostEvs addr (es ++ fs) = hostEvs addr es ++ hostEvs addr fs := List.filter_append ..

theorem hostEvs_cut (addr : Addr) {es fs : List Ev} (h : es <+: fs) :
    hostEvs addr es <+: hostEvs addr fs := h.filter _

theorem effect_unmentioned {addr : Addr} {l : MetaLine}
    (h : (hostRecord l).any (fun r => r.1 == addr) = false) : effect addr l = none := by
  cases l with
  | host a s n =>
    have ha : ¬ a = addr := by simpa [hostRecord] using h
    simp [effect, ha]
  | entryDelete e =>
    have ha : ¬ "ENTRYDELETE" = addr := by simpa [hostRecord] using h
    exact if_neg (fun e => ha e.symm)
  | _ => rfl

/-- Only what is about a host has an effect on its status. -/
theorem effects_hostEvs (addr : Addr) (evs : List Ev) :
    (written (hostEvs addr evs)).filterMap (effect addr) =
      (written evs).filterMap (effect addr) := by
  induction evs with
  | nil => rfl
  | cons e evs ih =>
    have split : ∀ fs, written (e :: fs) = written [e] ++ written fs := fun fs =>
      written_append [e] fs
    rw [split, List.filterMap_append, ← ih, hostEvs]
    by_cases he : e.isAbout addr = true
    · rw [List.filter_cons_of_pos he, split, List.filterMap_append]
      rfl
    · have none : (written [e]).filterMap (effect addr) = [] := by
        refine List.filterMap_eq_nil_iff.mpr (fun l hl => effect_unmentioned ?_)
        cases e with
        | write lines =>
          have hmem : l ∈ lines := by simpa [written] using hl
          have hall : ∀ l ∈ lines, ¬ (hostRecord l).any (fun r => r.1 == addr) = true := by
            simpa [Ev.isAbout] using he
          exact Bool.eq_false_iff.mpr (hall l hmem)
        | _ => cases hl
      rw [List.filter_cons_of_neg he, none, List.nil_append]
      rfl

/-- The status of a host after a trace, from the part of the trace about it. -/
theorem latest_after (js : Journal) (addr : Addr) (evs : List Ev) :
    latest (js ++ written evs) addr =
      ((written (hostEvs addr evs)).filterMap (effect addr)).getLast?.getD (latest js addr) := by
  rw [latest_append, effects_hostEvs]

end Host

section Pool

/-- Worker threads, run in the order of a schedule. -/
def runPool (workers : List Act) (sched : List Nat) : List Ev :=
  Weaving.weave sched (workers.map Act.evs)

theorem pool_woven (workers : List Act) (sched : List Nat) :
    Weaving.Woven (workers.map Act.evs) (runPool workers sched) := Weaving.weave_woven _ _

theorem pool_mem {workers : List Act} {sched : List Nat} {e : Ev} :
    e ∈ runPool workers sched ↔ ∃ w ∈ workers, e ∈ w.evs := by
  rw [Weaving.woven_mem (pool_woven workers sched)]
  simp

/-- A host that one worker alone touches sees that worker's effects in order. -/
theorem pool_owner {workers : List Act} {sched : List Nat} {addr : Addr} {i : Nat} {w : Act}
    (hi : workers[i]? = some w)
    (alone : ∀ (j : Nat) v, j ≠ i → workers[j]? = some v → hostEvs addr v.evs = []) :
    hostEvs addr (runPool workers sched) = hostEvs addr w.evs := by
  apply Weaving.woven_owner (pool_woven workers sched) _ i
  · rw [List.getElem?_map, hi, Option.map_some]
  · intro j s hne hj e he
    rw [List.getElem?_map, Option.map_eq_some_iff] at hj
    obtain ⟨v, hv, rfl⟩ := hj
    have none := List.filter_eq_nil_iff.mp (alone j v hne hv) e he
    exact Bool.eq_false_iff.mpr none

theorem pool_absent {workers : List Act} {sched : List Nat} {addr : Addr}
    (none : ∀ w ∈ workers, hostEvs addr w.evs = []) :
    hostEvs addr (runPool workers sched) = [] := by
  refine Weaving.woven_absent (pool_woven workers sched) _ (fun t ht e he => ?_)
  obtain ⟨w, hw, rfl⟩ := List.mem_map.mp ht
  exact Bool.eq_false_iff.mpr (List.filter_eq_nil_iff.mp (none w hw) e he)

end Pool

end GlusterBlock
