import GlusterBlock.Lib.CText
import GlusterBlock.Lib.Linked

/-! The cache of volume handles: a circular list of allocated entries, the one used last in
front, a counter beside it and the configured capacity. -/
namespace GlusterBlock

open CText (copy)
open Linked (Heads Holds listAdd listDel walk)

/-- An address: none, the list itself or an entry. -/
inductive Ptr where
  | null | cache
  | cell (addr : Nat)
  deriving DecidableEq, Repr

/-- A handle of type `H` and the volume it was opened for. -/
structure Entry (H : Type) where
  volume : String
  glfs : H
  deriving DecidableEq, Repr

/-- The list, the entries that are allocated and what they hold, the counter, the capacity
and the handles that were finalised. -/
structure Lru (H : Type) where
  heads : Heads Ptr
  entry : Ptr → Option (Entry H)
  live : List Ptr
  lruCount : Int
  glfsLruCount : Nat
  finis : List H

def lruCountMax : Nat := 512

def lruCountDef : Nat := 5

namespace Lru

variable {H : Type}

/-- `initCache` with a capacity. -/
def init (glfsLruCount : Nat) : Lru H where
  heads := { next := fun _ => .cache, prev := fun _ => .cache }
  entry := fun _ => none
  live := []
  lruCount := 0
  glfsLruCount := glfsLruCount
  finis := []

/-- `list_for_each`: the list has no more entries than are allocated. -/
def listed (c : Lru H) : List Ptr :=
  walk c.heads.next .cache c.live.length (c.heads.next .cache)

/-- The entries in the order of the list. -/
def cached (c : Lru H) : List (Entry H) := c.listed.filterMap c.entry

/-- The first entry of the list for a volume. -/
def lookup (c : Lru H) (volname : String) : Option Ptr :=
  c.listed.find? (fun pos => (c.entry pos).any (fun tmp => tmp.volume == volname))

def glusterBlockSetLruCount (c : Lru H) (lruCount : Nat) : Int × Lru H :=
  if lruCount = 0 ∨ lruCount > lruCountMax then (-1, c)
  else if c.glfsLruCount = lruCount then (0, c)
  else (0, { c with glfsLruCount := lruCount })

def releaseColdEntry (c : Lru H) : Lru H :=
  let pos := c.heads.prev .cache
  if pos = .cache then c
  else
    { c with
      heads := listDel .null pos c.heads
      finis := c.finis ++ ((c.entry pos).map Entry.glfs).toList
      live := c.live.erase pos
      lruCount := c.lruCount - 1 }

/-- The first step of `appendNewEntry`. -/
def makeRoom (c : Lru H) : Lru H :=
  if c.lruCount = c.glfsLruCount then c.releaseColdEntry else c

/-- The end of `appendNewEntry`. A name that does not fit leaves the zeros in place. -/
def addEntry (c : Lru H) (volname : String) (fs : H) (tmp : Ptr) : Lru H :=
  { c with
    live := tmp :: c.live
    entry := Function.update c.entry tmp (some { volume := copy 255 "" volname, glfs := fs })
    heads := listAdd tmp .cache c.heads
    lruCount := c.lruCount + 1 }

/-- `GB_ALLOC` answers `tmp` or fails. -/
def appendNewEntry (c : Lru H) (volname : String) (fs : H) (tmp : Option Ptr) : Int × Lru H :=
  let c := c.makeRoom
  match tmp with
  | none => (-1, c)
  | some tmp => (0, c.addEntry volname fs tmp)

def boostEntryWarmness (c : Lru H) (volname : String) : Lru H :=
  match c.lookup volname with
  | none => c
  | some pos => { c with heads := listAdd pos .cache (listDel .null pos c.heads) }

def queryCache (c : Lru H) (volname : String) : Option H × Lru H :=
  match c.lookup volname with
  | none => (none, c)
  | some pos => ((c.entry pos).map Entry.glfs, c.boostEntryWarmness volname)

/-- What `GB_ALLOC` promises: an address that is not in use. -/
def Fresh (c : Lru H) (tmp : Ptr) : Prop := tmp ≠ .null ∧ tmp ≠ .cache ∧ tmp ∉ c.live

instance (c : Lru H) (tmp : Ptr) : Decidable (c.Fresh tmp) :=
  inferInstanceAs (Decidable (_ ∧ _ ∧ _))

/-- The list holds the allocated entries, and the counter counts them. -/
structure WellLinked (c : Lru H) : Prop where
  holds : Holds c.heads .cache c.listed
  live : c.live.Perm c.listed
  full : ∀ pos ∈ c.listed, c.entry pos ≠ none
  count : c.lruCount = c.listed.length

section Spec

variable {c : Lru H}

theorem listed_eq {l : List Ptr} (holds : Holds c.heads .cache l) (live : c.live.Perm l) :
    c.listed = l :=
  Linked.walk_holds holds live.length_eq.ge

theorem wellLinked_of {l : List Ptr} (holds : Holds c.heads .cache l) (live : c.live.Perm l)
    (full : ∀ pos ∈ l, c.entry pos ≠ none) (count : c.lruCount = l.length) :
    c.WellLinked ∧ c.listed = l := by
  have listed := listed_eq holds live
  rw [← listed] at holds live full count
  exact ⟨⟨holds, live, full, count⟩, listed⟩

theorem init_wellLinked (k : Nat) : (init k : Lru H).WellLinked ∧ (init k : Lru H).listed = [] :=
  wellLinked_of ⟨List.nodup_singleton _, rfl, rfl⟩ (List.Perm.refl _)
    (fun _ mem => (nomatch mem)) rfl

theorem cached_length (ok : c.WellLinked) : c.cached.length = c.listed.length := by
  have total : ∀ {l : List Ptr}, (∀ pos ∈ l, c.entry pos ≠ none) →
      (l.filterMap c.entry).length = l.length := by
    intro l all
    induction l with
    | nil => rfl
    | cons pos l ih =>
      obtain ⟨tmp, held⟩ := Option.ne_none_iff_exists'.mp (all pos List.mem_cons_self)
      rw [List.filterMap_cons_some held, List.length_cons,
        ih (fun p hp => all p (List.mem_cons_of_mem pos hp)), List.length_cons]
  exact total ok.full

theorem count_cached (ok : c.WellLinked) : c.lruCount = c.cached.length := by
  rw [cached_length ok, ok.count]

/-- The last entry goes, its handle is finalised and its memory given back. -/
theorem release_spec (ok : c.WellLinked) :
    c.listed = [] ∧ c.releaseColdEntry = c ∨
      ∃ l pos tmp, c.listed = l ++ [pos] ∧ c.entry pos = some tmp ∧
        c.releaseColdEntry.WellLinked ∧ c.releaseColdEntry.listed = l ∧
        c.releaseColdEntry.entry = c.entry ∧
        c.releaseColdEntry.finis = c.finis ++ [tmp.glfs] ∧
        c.releaseColdEntry.glfsLruCount = c.glfsLruCount := by
  have last := Linked.holds_last ok.holds
  rcases List.eq_nil_or_concat' c.listed with none | ⟨l, pos, listed⟩
  · rw [none] at last
    exact .inl ⟨none, if_pos last⟩
  · rw [listed, List.getLast?_concat] at last
    have entry : pos ∈ c.listed := by simp [listed]
    have other : pos ≠ .cache := by
      rintro rfl
      exact (List.nodup_cons.mp ok.holds.nodup).1 entry
    obtain ⟨tmp, held⟩ := Option.ne_none_iff_exists'.mp (ok.full pos entry)
    have run : c.releaseColdEntry =
        { c with heads := listDel .null pos c.heads, finis := c.finis ++ [tmp.glfs],
                 live := c.live.erase pos, lruCount := c.lruCount - 1 } := by
      unfold releaseColdEntry
      rw [last]
      dsimp only [Option.getD_some]
      rw [if_neg other, held]
      rfl
    have holds : Holds c.heads .cache (l ++ pos :: []) := listed ▸ ok.holds
    have perm : (c.live.erase pos).Perm l := by
      have live : c.live.Perm (l ++ [pos]) := listed ▸ ok.live
      have cycled := (live.trans List.perm_append_comm).erase pos
      simpa using cycled
    have removed : Holds (listDel .null pos c.heads) .cache (l ++ []) := Linked.holds_del holds
    rw [List.append_nil] at removed
    have linked := wellLinked_of (c := c.releaseColdEntry) (l := l)
      (by rw [run]; exact removed)
      (by rw [run]; exact perm)
      (by rw [run]; exact fun p hp => ok.full p (by simp [listed, hp]))
      (by rw [run]; simp [ok.count, listed])
    exact .inr ⟨l, pos, tmp, listed, held, linked.1, linked.2, by rw [run], by rw [run], by rw [run]⟩

/-- A new entry is the first one. -/
theorem add_spec {tmp : Ptr} (volname : String) (fs : H) (ok : c.WellLinked)
    (fresh : c.Fresh tmp) :
    (c.addEntry volname fs tmp).WellLinked ∧
      (c.addEntry volname fs tmp).listed = tmp :: c.listed ∧
      (c.addEntry volname fs tmp).cached =
        { volume := copy 255 "" volname, glfs := fs } :: c.cached := by
  obtain ⟨_, list, unused⟩ := fresh
  have away : tmp ∉ c.listed := fun mem => unused (ok.live.mem_iff.mpr mem)
  have others : ∀ pos, pos ≠ tmp → (c.addEntry volname fs tmp).entry pos = c.entry pos :=
    fun pos other => Function.update_of_ne other ..
  have own : (c.addEntry volname fs tmp).entry tmp =
      some { volume := copy 255 "" volname, glfs := fs } := Function.update_self ..
  have linked := wellLinked_of (c := c.addEntry volname fs tmp) (l := tmp :: c.listed)
    (Linked.holds_add ok.holds (by simp [list, away])) (ok.live.cons tmp)
    (by
      intro pos mem
      by_cases same : pos = tmp
      · simp [same, own]
      · rw [others pos same]
        exact ok.full pos (by simpa [same] using mem))
    (by simp [addEntry, ok.count])
  refine ⟨linked.1, linked.2, ?_⟩
  rw [cached, linked.2, List.filterMap_cons_some own]
  refine congrArg (_ :: ·) (List.filterMap_congr (fun pos mem => others pos ?_))
  rintro rfl
  exact away mem

/-- An entry that was found comes to the front. -/
theorem boost_spec {volname : String} {pos : Ptr} (ok : c.WellLinked)
    (found : c.lookup volname = some pos) :
    ∃ l m tmp, c.listed = l ++ pos :: m ∧ c.entry pos = some tmp ∧ tmp.volume = volname ∧
      (∀ p ∈ l, ∀ e, c.entry p = some e → e.volume ≠ volname) ∧
      (c.boostEntryWarmness volname).WellLinked ∧
      (c.boostEntryWarmness volname).listed = pos :: (l ++ m) ∧
      (c.boostEntryWarmness volname).cached = tmp :: (l.filterMap c.entry ++ m.filterMap c.entry) := by
  obtain ⟨hit, l, m, listed, before⟩ := List.find?_eq_some_iff_append.mp found
  obtain ⟨tmp, held, named⟩ : ∃ tmp, c.entry pos = some tmp ∧ tmp.volume = volname := by
    cases held : c.entry pos with
    | none => simp [held] at hit
    | some tmp => exact ⟨tmp, rfl, by simpa [held] using hit⟩
  have run : c.boostEntryWarmness volname =
      { c with heads := listAdd pos .cache (listDel .null pos c.heads) } := by
    unfold boostEntryWarmness
    rw [found]
  have holds : Holds c.heads .cache (l ++ pos :: m) := listed ▸ ok.holds
  have away : pos ∉ Ptr.cache :: (l ++ m) := by
    have moved : (Ptr.cache :: (l ++ pos :: m)).Perm (pos :: Ptr.cache :: (l ++ m)) :=
      (List.perm_middle.cons _).trans (List.Perm.swap _ _ _)
    exact (List.nodup_cons.mp (moved.nodup_iff.mp holds.nodup)).1
  have perm : c.live.Perm (pos :: (l ++ m)) := (listed ▸ ok.live).trans List.perm_middle
  have linked := wellLinked_of (c := c.boostEntryWarmness volname) (l := pos :: (l ++ m))
    (by rw [run]; exact Linked.holds_add (Linked.holds_del holds) away)
    (by rw [run]; exact perm)
    (by
      rw [run]
      exact fun p hp => ok.full p (ok.live.mem_iff.mp (perm.mem_iff.mpr hp)))
    (by rw [run]; simp [ok.count, listed]; omega)
  refine ⟨l, m, tmp, listed, held, named, ?_, linked.1, linked.2, ?_⟩
  · intro p hp e he same
    simpa [he, same] using before p hp
  · rw [cached, linked.2, run]
    dsimp only
    rw [List.filterMap_cons_some held, List.filterMap_append]

/-- A lookup that finds nothing finds no entry for the volume. -/
theorem lookup_none {volname : String} (missed : c.lookup volname = none) :
    ∀ e ∈ c.cached, e.volume ≠ volname := by
  intro e he same
  obtain ⟨pos, mem, held⟩ := List.mem_filterMap.mp he
  have other := List.find?_eq_none.mp missed pos mem
  simp [held, same] at other

theorem query_spec (volname : String) (ok : c.WellLinked) :
    ((∀ e ∈ c.cached, e.volume ≠ volname) ∧ c.queryCache volname = (none, c)) ∨
      ∃ l tmp m, c.cached = l ++ tmp :: m ∧ tmp.volume = volname ∧
        (∀ e ∈ l, e.volume ≠ volname) ∧ (c.queryCache volname).1 = some tmp.glfs ∧
        (c.queryCache volname).2.WellLinked ∧ (c.queryCache volname).2.cached = tmp :: (l ++ m) ∧
        (c.queryCache volname).2.finis = c.finis ∧
        (c.queryCache volname).2.glfsLruCount = c.glfsLruCount := by
  cases found : c.lookup volname with
  | none =>
    refine .inl ⟨lookup_none found, ?_⟩
    rw [queryCache, found]
  | some pos =>
    obtain ⟨l, m, tmp, listed, held, named, before, linked, _, moved⟩ := boost_spec ok found
    have run : c.queryCache volname = (some tmp.glfs, c.boostEntryWarmness volname) := by
      rw [queryCache, found]
      dsimp only
      rw [held]
      rfl
    rw [run]
    refine .inr ⟨l.filterMap c.entry, tmp, m.filterMap c.entry, ?_, named, ?_, rfl, linked, moved,
      ?_, ?_⟩
    · rw [cached, listed, List.filterMap_append, List.filterMap_cons_some held]
    · intro e he
      obtain ⟨p, hp, entry⟩ := List.mem_filterMap.mp he
      exact before p hp e entry
    · rw [boostEntryWarmness, found]
    · rw [boostEntryWarmness, found]

/-- Room is made by one entry, and only when the counter has the value of the capacity. -/
theorem makeRoom_spec (ok : c.WellLinked) (room : 1 ≤ c.glfsLruCount) :
    c.makeRoom.WellLinked ∧ c.makeRoom.glfsLruCount = c.glfsLruCount ∧
      (c.cached.length ≠ c.glfsLruCount ∧ c.makeRoom.cached = c.cached ∧
          c.makeRoom.finis = c.finis ∨
        c.cached.length = c.glfsLruCount ∧ ∃ l e, c.cached = l ++ [e] ∧ c.makeRoom.cached = l ∧
          c.makeRoom.finis = c.finis ++ [e.glfs]) := by
  have counted := count_cached ok
  by_cases full : c.cached.length = c.glfsLruCount
  · have run : c.makeRoom = c.releaseColdEntry := if_pos (by rw [counted, full])
    rw [run]
    rcases release_spec ok with ⟨none, _⟩ | ⟨l, pos, tmp, listed, held, linked, left, entry, finis, cap⟩
    · have length := cached_length ok
      rw [none] at length
      exact absurd room (by rw [← full, length]; decide)
    · refine ⟨linked, cap, .inr ⟨full, l.filterMap c.entry, tmp, ?_, ?_, finis⟩⟩
      · rw [cached, listed, List.filterMap_append]
        simp [held]
      · rw [cached, left, entry]
  · have run : c.makeRoom = c := by
      refine if_neg (fun same => full ?_)
      rw [counted] at same
      exact Int.ofNat.inj same
    rw [run]
    exact ⟨ok, rfl, .inl ⟨full, rfl, rfl⟩⟩

end Spec

end Lru

end GlusterBlock
