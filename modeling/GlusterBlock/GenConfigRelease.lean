import GlusterBlock.Lib.Custody
import GlusterBlock.MetaReader

/-! What `genconfig` acquires for each volume, and how it is released. The variables for the
handles and for the metadata of a block keep their values from one volume to the next. -/
namespace GlusterBlock

open Custody (Transfer Settled holds)

/-- Each with the volume that it is acquired for. -/
inductive GenHandle where
  | metaLock (vol : Nat)
  | lockFile (vol : Nat)
  | metaDir (vol : Nat)
  | metaInfo (vol entry : Nat)
  deriving DecidableEq, Repr

def GenHandle.vol : GenHandle → Nat
  | metaLock vol => vol
  | lockFile vol => vol
  | metaDir vol => vol
  | metaInfo vol _ => vol

/-- A file of the metadata directory and what the calls for it give. The metafile comes with
what the buffer holds before it is read, or it cannot be read. -/
structure GenEntry where
  dName : String
  alloc : Bool
  metafile : Option (Text × Text)
  serverParse : Bool
  metaUpdate : Bool

def GenEntry.metaInfo (e : GenEntry) : Option MetaInfo :=
  e.metafile.bind (fun m => blockGetMetaInfo m.1 m.2)

def GenEntry.dotted (e : GenEntry) : Bool := e.dName.toList.contains '.'

structure GenVolumeCalls where
  volumeInit : Bool
  createMetaLockFile : Bool
  metaLock : Bool
  opendir : Bool
  readdir : List GenEntry

/-- The variables, with what their values were acquired for. -/
structure GenVars where
  lkfd : Option Nat := none
  tgmdfd : Option Nat := none
  info : Option (Nat × Nat) := none

namespace GenVars

def unlock (x : GenVars) : List (Transfer GenHandle) := x.lkfd.toList.map (fun vol => .give (.metaLock vol))

def closedir (x : GenVars) : List (Transfer GenHandle) := x.tgmdfd.toList.map (fun vol => .give (.metaDir vol))

/-- The pointer itself stays. -/
def freeInfo (x : GenVars) : List (Transfer GenHandle) :=
  x.info.toList.map (fun p => .give (.metaInfo p.1 p.2))

def close (x : GenVars) : List (Transfer GenHandle) := x.lkfd.toList.map (fun vol => .give (.lockFile vol))

/-- The label `out`, from which `optfail` is reached. -/
def out (x : GenVars) : List (Transfer GenHandle) := x.unlock ++ x.closedir ++ x.freeInfo ++ x.close

end GenVars

/-- What is done up to some point, the variables there, and whether the loop goes on. -/
structure GenPass where
  acts : List (Transfer GenHandle)
  vars : GenVars
  goes : Bool

def readEntries (vol : Nat) : Nat → List GenEntry → GenVars → GenPass
  | _, [], x => ⟨[], x, true⟩
  | k, e :: es, x =>
    if e.dotted then readEntries vol (k + 1) es x
    else if e.alloc = false then ⟨[], { x with info := none }, false⟩
    else
      let x := { x with info := some (vol, k) }
      match e.metaInfo with
      | none => ⟨[.take (.metaInfo vol k)], x, false⟩
      | some info =>
        if info.prioPath = "" ∧ (e.serverParse && e.metaUpdate) = false then
          ⟨[.take (.metaInfo vol k)], x, false⟩
        else
          -- freed for a host of the block behind its objects, and at once for the others
          let rest := readEntries vol (k + 1) es x
          ⟨.take (.metaInfo vol k) :: (x.freeInfo ++ rest.acts), rest.vars, rest.goes⟩

def passVolume (vol : Nat) (c : GenVolumeCalls) (x : GenVars) : GenPass :=
  if c.volumeInit = false then ⟨x.close, x, false⟩
  else if c.createMetaLockFile = false then
    let x := { x with lkfd := none }
    ⟨x.close, x, false⟩
  else
    let x := { x with lkfd := some vol }
    if c.metaLock = false then ⟨.take (.lockFile vol) :: x.out, x, false⟩
    else if c.opendir = false then
      let x := { x with tgmdfd := none }
      ⟨.take (.lockFile vol) :: .take (.metaLock vol) :: x.out, x, false⟩
    else
      let read := readEntries vol 0 c.readdir { x with tgmdfd := some vol }
      let release :=
        if read.goes then read.vars.unlock ++ read.vars.closedir ++ read.vars.close
        else read.vars.out
      ⟨.take (.lockFile vol) :: .take (.metaLock vol) :: .take (.metaDir vol) ::
        (read.acts ++ release), read.vars, read.goes⟩

/-- The acts for each volume from this one on. -/
def passVolumes : Nat → List GenVolumeCalls → GenVars → List (Nat × Transfer GenHandle)
  | _, [], _ => []
  | vol, c :: cs, x =>
    let pass := passVolume vol c x
    pass.acts.map (fun act => (vol, act)) ++
      if pass.goes then passVolumes (vol + 1) cs pass.vars else []

/-- The acts of `getSoTgArraysForAllVolume`. There is nothing to release when the list of
volumes cannot be made. -/
def genConfigActs : Option (List GenVolumeCalls) → List (Nat × Transfer GenHandle)
  | none => []
  | some vols => passVolumes 0 vols {}

/-- All that is acquired is released exactly once, and what is released has been acquired for
the volume at hand. -/
structure GenReleases (acts : List (Nat × Transfer GenHandle)) : Prop where
  settled : Settled (acts.map Prod.snd)
  current : ∀ vol r, (vol, .give r) ∈ acts → r.vol = vol

/-- The entry does not end the loop. -/
def GenEntry.Passes (e : GenEntry) : Prop :=
  e.dotted = false → e.alloc = true ∧ ∃ info, e.metaInfo = some info ∧
    (info.prioPath = "" → e.serverParse = true ∧ e.metaUpdate = true)

def GenVolumeCalls.Passes (c : GenVolumeCalls) : Prop :=
  c.volumeInit = true ∧ c.createMetaLockFile = true ∧ c.metaLock = true ∧ c.opendir = true ∧
    ∀ e ∈ c.readdir, e.Passes

def GenVolumeCalls.NoBlocks (c : GenVolumeCalls) : Prop := ∀ e ∈ c.readdir, e.dotted = true

/-- What the calls for a volume give does not release what the variables have from the volumes
before it. -/
structure GenVolumeCalls.Fresh (before : List GenVolumeCalls) (c : GenVolumeCalls) : Prop where
  init : c.volumeInit = false → before = []
  lock : c.volumeInit = true → c.createMetaLockFile = true → c.metaLock = true
  directory : c.volumeInit = true → c.createMetaLockFile = true → c.metaLock = true →
    c.opendir = false → ∀ b ∈ before, b.NoBlocks

section Entries

variable {vol : Nat}

/-- The metadata at hand. -/
def GenVars.held (x : GenVars) : List GenHandle :=
  x.info.toList.map (fun p => GenHandle.metaInfo p.1 p.2)

/-- What a loop over a directory leaves behind: nothing when it goes to its end, else the
metadata at hand. -/
structure EntriesRead (vol : Nat) (es : List GenEntry) (x : GenVars) (pass : GenPass) : Prop where
  lkfd : pass.vars.lkfd = x.lkfd
  tgmdfd : pass.vars.tgmdfd = x.tgmdfd
  goes : pass.goes = true ↔ ∀ e ∈ es, e.Passes
  info : pass.goes = true →
    (pass.vars.info = none ↔ x.info = none ∧ ∀ e ∈ es, e.dotted = true)
  held : ∀ held, holds held pass.acts =
    some ((if pass.goes = true then [] else pass.vars.held) ++ held)
  own : ∀ r, .take r ∈ pass.acts → r.vol = vol

theorem entries_stop {e : GenEntry} {es : List GenEntry} {x : GenVars}
    {acts : List (Transfer GenHandle)} (info : Option (Nat × Nat)) (fails : ¬ e.Passes)
    (held : ∀ held, holds held acts = some (GenVars.held { x with info := info } ++ held))
    (own : ∀ r, .take r ∈ acts → r.vol = vol) :
    EntriesRead vol (e :: es) x ⟨acts, { x with info := info }, false⟩ where
  lkfd := rfl
  tgmdfd := rfl
  goes := iff_of_false Bool.false_ne_true (fun all => fails (all e List.mem_cons_self))
  info := fun goes => absurd goes Bool.false_ne_true
  held := held
  own := own

theorem entries_taken (k : Nat) (e : GenEntry) (es : List GenEntry) (x : GenVars)
    (fails : ¬ e.Passes) : EntriesRead vol (e :: es) x
      ⟨[.take (.metaInfo vol k)], { x with info := some (vol, k) }, false⟩ := by
  apply entries_stop (some (vol, k)) fails (fun held => rfl)
  intro r mem
  cases List.mem_singleton.mp mem
  rfl

/-- An entry that does not end the loop is freed before the ones behind it. -/
theorem entries_freed (k : Nat) {e : GenEntry} {es : List GenEntry} {x : GenVars} {rest : GenPass}
    (plain : e.dotted = false) (here : e.Passes)
    (later : EntriesRead vol es { x with info := some (vol, k) } rest) :
    EntriesRead vol (e :: es) x
      ⟨.take (.metaInfo vol k) :: .give (.metaInfo vol k) :: rest.acts, rest.vars, rest.goes⟩ := by
  refine ⟨later.lkfd, later.tgmdfd, ?_, ?_, ?_, ?_⟩
  · rw [later.goes, List.forall_mem_cons, and_iff_right here]
  · intro goes
    rw [later.info goes]
    refine iff_of_false (fun both => Option.some_ne_none _ both.1) ?_
    intro both
    have dotted := both.2 e List.mem_cons_self
    rw [plain] at dotted
    cases dotted
  · intro held
    have given : GenHandle.metaInfo vol k ∈ GenHandle.metaInfo vol k :: held := List.mem_cons_self
    rw [Custody.holds_take, Custody.holds_give given, List.erase_cons_head]
    exact later.held held
  · intro r mem
    rcases List.mem_cons.mp mem with first | mem
    · cases first
      rfl
    · rcases List.mem_cons.mp mem with freed | mem
      · cases freed
      · exact later.own r mem

theorem readEntries_read (k : Nat) (es : List GenEntry) (x : GenVars) :
    EntriesRead vol es x (readEntries vol k es x) := by
  induction es generalizing k x with
  | nil =>
    have none : ∀ e : GenEntry, e ∉ [] := fun _ => List.not_mem_nil
    refine ⟨rfl, rfl, iff_of_true rfl (fun e mem => absurd mem (none e)), ?_, fun held => rfl, ?_⟩
    · exact fun _ => (and_iff_left (fun e mem => absurd mem (none e))).symm
    · intro r mem
      cases mem
  | cons e es ih =>
    unfold readEntries
    by_cases dotted : e.dotted = true
    · rw [if_pos dotted]
      have later := ih (k + 1) x
      have here : e.Passes := fun plain => absurd dotted (plain ▸ Bool.false_ne_true)
      refine ⟨later.lkfd, later.tgmdfd, ?_, ?_, later.held, later.own⟩
      · rw [later.goes, List.forall_mem_cons, and_iff_right here]
      · intro goes
        rw [later.info goes, List.forall_mem_cons, and_iff_right dotted]
    · rw [if_neg dotted]
      have plain : e.dotted = false := Bool.eq_false_iff.mpr dotted
      by_cases full : e.alloc = false
      · rw [if_pos full]
        have fails : ¬ e.Passes := by
          intro passes
          have alloc := (passes plain).1
          rw [full] at alloc
          cases alloc
        apply entries_stop none fails (fun held => rfl)
        intro r mem
        cases mem
      · rw [if_neg full]
        have alloc : e.alloc = true := (Bool.not_eq_false _).mp full
        dsimp only
        cases read : e.metaInfo with
        | none =>
          apply entries_taken
          intro passes
          obtain ⟨_, info, found, _⟩ := passes plain
          rw [read] at found
          cases found
        | some info =>
          dsimp only
          by_cases stops : info.prioPath = "" ∧ (e.serverParse && e.metaUpdate) = false
          · rw [if_pos stops]
            apply entries_taken
            intro passes
            obtain ⟨_, info', found, served⟩ := passes plain
            rw [read] at found
            cases found
            obtain ⟨parsed, written⟩ := served stops.1
            rw [parsed, written] at stops
            exact absurd stops.2 (by decide)
          · rw [if_neg stops]
            have here : e.Passes := by
              refine fun _ => ⟨alloc, info, read, ?_⟩
              intro empty
              rw [← Bool.and_eq_true_iff]
              exact (Bool.not_eq_false _).mp (fun failed => stops ⟨empty, failed⟩)
            exact entries_freed k plain here (ih (k + 1) { x with info := some (vol, k) })

end Entries

section Volumes

/-- What the variables have from the volumes before. -/
structure Dangling (before : List GenVolumeCalls) (x : GenVars) : Prop where
  lkfd : x.lkfd = none ↔ before = []
  info : x.info = none ↔ ∀ b ∈ before, b.NoBlocks

/-- All that a volume acquires is released exactly when its calls fit the variables. -/
structure VolumePassed (vol : Nat) (before : List GenVolumeCalls) (c : GenVolumeCalls)
    (pass : GenPass) : Prop where
  goes : pass.goes = true ↔ c.Passes
  settles : holds [] pass.acts = some [] ↔ c.Fresh before
  next : pass.goes = true → Dangling (before ++ [c]) pass.vars
  own : ∀ r, .take r ∈ pass.acts → r.vol = vol

/-- A call that ends the loop before the directory is read. -/
theorem volume_stop {vol : Nat} {before : List GenVolumeCalls} {c : GenVolumeCalls} {x : GenVars}
    {acts : List (Transfer GenHandle)} (fails : ¬ c.Passes)
    (settles : holds [] acts = some [] ↔ c.Fresh before)
    (own : ∀ r, .take r ∈ acts → r.vol = vol) : VolumePassed vol before c ⟨acts, x, false⟩ where
  goes := iff_of_false Bool.false_ne_true fails
  settles := settles
  next := fun goes => absurd goes Bool.false_ne_true
  own := own

/-- The releases behind a directory, with its metadata at hand or none. -/
theorem release_held {vol : Nat} {x : GenVars} (lkfd : x.lkfd = some vol)
    (tgmdfd : x.tgmdfd = some vol) :
    holds [.metaDir vol, .metaLock vol, .lockFile vol] (x.unlock ++ x.closedir ++ x.close) =
        some [] ∧
      holds (x.held ++ [.metaDir vol, .metaLock vol, .lockFile vol]) x.out = some [] := by
  unfold GenVars.out GenVars.unlock GenVars.closedir GenVars.freeInfo GenVars.close GenVars.held
  rw [lkfd, tgmdfd]
  constructor
  · simp [holds]
  · cases x.info with
    | none => simp [holds]
    | some p => simp [holds]

/-- A volume with its directory open, whatever its entries do. -/
theorem volume_read {vol : Nat} {before : List GenVolumeCalls} {c : GenVolumeCalls} {x : GenVars}
    (dangling : Dangling before x) (init : c.volumeInit = true)
    (create : c.createMetaLockFile = true) (lock : c.metaLock = true) (directory : c.opendir = true) :
    let pass := readEntries vol 0 c.readdir { x with lkfd := some vol, tgmdfd := some vol }
    let release :=
      if pass.goes = true then pass.vars.unlock ++ pass.vars.closedir ++ pass.vars.close
      else pass.vars.out
    VolumePassed vol before c ⟨.take (.lockFile vol) :: .take (.metaLock vol) ::
      .take (.metaDir vol) :: (pass.acts ++ release), pass.vars, pass.goes⟩ := by
  intro pass release
  have read : EntriesRead vol c.readdir _ pass := readEntries_read 0 c.readdir
    { x with lkfd := some vol, tgmdfd := some vol }
  obtain ⟨plain, out⟩ := release_held read.lkfd read.tgmdfd
  refine ⟨?_, iff_of_true ?_ ?_, ?_, ?_⟩
  · exact read.goes.trans ⟨fun all => ⟨init, create, lock, directory, all⟩,
      fun passes => passes.2.2.2.2⟩
  · rw [Custody.holds_take, Custody.holds_take, Custody.holds_take, Custody.holds_append, read.held]
    dsimp only [release]
    split
    · exact plain
    · exact out
  · exact ⟨by simp [init], fun _ _ => lock, by simp [directory]⟩
  · intro goes
    constructor
    · exact iff_of_false (fun none => by simp [read.lkfd] at none) (by simp)
    · rw [read.info goes, List.forall_mem_append, List.forall_mem_singleton, ← dangling.info]
      rfl
  · intro r mem
    simp only [List.mem_cons, List.mem_append, Transfer.take.injEq] at mem
    rcases mem with rfl | rfl | rfl | inside | released
    · rfl
    · rfl
    · rfl
    · exact read.own r inside
    · dsimp only [release] at released
      split at released <;>
        simp [GenVars.out, GenVars.unlock, GenVars.closedir, GenVars.freeInfo, GenVars.close]
          at released

theorem passVolume_passed {vol : Nat} {before : List GenVolumeCalls} (c : GenVolumeCalls)
    {x : GenVars} (dangling : Dangling before x) :
    VolumePassed vol before c (passVolume vol c x) := by
  unfold passVolume
  by_cases init : c.volumeInit = false
  · rw [if_pos init]
    apply volume_stop
    · intro passes
      rw [passes.1] at init
      cases init
    · have fresh : c.Fresh before ↔ before = [] :=
        ⟨fun fresh => fresh.init init, fun first => ⟨fun _ => first, by simp [init], by simp [init]⟩⟩
      rw [fresh, ← dangling.lkfd]
      unfold GenVars.close
      cases x.lkfd <;> simp [holds]
    · simp [GenVars.close]
  rw [if_neg init]
  rw [Bool.not_eq_false] at init
  by_cases create : c.createMetaLockFile = false
  · rw [if_pos create]
    apply volume_stop
    · intro passes
      rw [passes.2.1] at create
      cases create
    · exact iff_of_true rfl ⟨by simp [init], by simp [create], by simp [create]⟩
    · simp [GenVars.close]
  rw [if_neg create]
  rw [Bool.not_eq_false] at create
  by_cases lock : c.metaLock = false
  · rw [if_pos lock]
    apply volume_stop
    · intro passes
      rw [passes.2.2.1] at lock
      cases lock
    · apply iff_of_false
      · simp [GenVars.out, GenVars.unlock, holds]
      · intro fresh
        rw [fresh.lock init create] at lock
        cases lock
    · simp [GenVars.out, GenVars.unlock, GenVars.closedir, GenVars.freeInfo, GenVars.close,
        GenHandle.vol]
  rw [if_neg lock]
  rw [Bool.not_eq_false] at lock
  by_cases directory : c.opendir = false
  · rw [if_pos directory]
    apply volume_stop
    · intro passes
      rw [passes.2.2.2.1] at directory
      cases directory
    · have fresh : c.Fresh before ↔ ∀ b ∈ before, b.NoBlocks :=
        ⟨fun fresh => fresh.directory init create lock directory,
          fun none => ⟨by simp [init], fun _ _ => lock, fun _ _ _ _ => none⟩⟩
      rw [fresh, ← dangling.info]
      unfold GenVars.out GenVars.unlock GenVars.closedir GenVars.freeInfo GenVars.close
      cases x.info <;> simp [holds]
    · simp [GenVars.out, GenVars.unlock, GenVars.closedir, GenVars.freeInfo, GenVars.close,
        GenHandle.vol]
  rw [if_neg directory]
  rw [Bool.not_eq_false] at directory
  exact volume_read (x := x) dangling init create lock directory

/-- A volume that passes fits the variables. -/
theorem passes_fresh {before : List GenVolumeCalls} {c : GenVolumeCalls} (passes : c.Passes) :
    c.Fresh before where
  init := fun failed => by simp [passes.1] at failed
  lock := fun _ _ => passes.2.2.1
  directory := fun _ _ _ failed => by simp [passes.2.2.2.1] at failed

/-- The first volume that ends the loop fits what the variables have from those before it. -/
def FirstStopFresh (before cs : List GenVolumeCalls) : Prop :=
  ∀ front c after, cs = front ++ c :: after → (∀ b ∈ front, b.Passes) → c.Fresh (before ++ front)

theorem stop_cons {before cs : List GenVolumeCalls} {c : GenVolumeCalls} :
    FirstStopFresh before (c :: cs) ↔
      c.Fresh before ∧ (c.Passes → FirstStopFresh (before ++ [c]) cs) := by
  constructor
  · intro all
    constructor
    · have first := all [] c cs rfl (fun b mem => absurd mem List.not_mem_nil)
      rwa [List.append_nil] at first
    · intro passes front d after split fronts
      have here := all (c :: front) d after (by rw [split, List.cons_append])
        (List.forall_mem_cons.mpr ⟨passes, fronts⟩)
      rwa [List.append_cons] at here
  · rintro ⟨first, later⟩ front d after split fronts
    cases front with
    | nil =>
      cases split
      rwa [List.append_nil]
    | cons b front =>
      cases split
      rw [List.forall_mem_cons] at fronts
      rw [List.append_cons]
      exact later fronts.1 front d after rfl fronts.2

/-- All volumes from some point on, when those before have passed. -/
theorem passVolumes_settle (before cs : List GenVolumeCalls) (x : GenVars)
    (dangling : Dangling before x) :
    (holds [] ((passVolumes before.length cs x).map Prod.snd) = some [] ↔
      FirstStopFresh before cs) ∧
    (FirstStopFresh before cs →
      ∀ vol r, (vol, .give r) ∈ passVolumes before.length cs x → r.vol = vol) := by
  induction cs generalizing before x with
  | nil =>
    constructor
    · apply iff_of_true rfl
      intro front c after split
      exact absurd split (by simp)
    · intro _ vol r mem
      cases mem
  | cons c cs ih =>
    have pass : VolumePassed before.length before c _ := passVolume_passed c dangling
    unfold passVolumes
    dsimp only
    generalize passVolume before.length c x = passed at pass
    rw [stop_cons]
    have acts : (passed.acts.map (fun act => (before.length, act))).map Prod.snd = passed.acts := by
      rw [List.map_map]
      exact List.map_id _
    have here : c.Fresh before → ∀ vol r,
        (vol, .give r) ∈ passed.acts.map (fun act => (before.length, act)) → r.vol = vol := by
      intro fresh vol r mem
      obtain ⟨act, given, same⟩ := List.mem_map.mp mem
      cases same
      rcases Custody.given_taken (pass.settles.mpr fresh) given with none | taken
      · cases none
      · exact pass.own r taken
    by_cases goes : passed.goes = true
    · rw [if_pos goes, List.map_append, acts, Custody.holds_append]
      have passes := pass.goes.mp goes
      have settled := pass.settles.mpr (passes_fresh passes)
      obtain ⟨rest, current⟩ := ih (before ++ [c]) passed.vars (pass.next goes)
      rw [List.length_append, List.length_singleton] at rest current
      rw [settled, Option.bind_some, rest, and_iff_right (passes_fresh passes)]
      refine ⟨⟨fun later _ => later, fun later => later passes⟩, ?_⟩
      intro later vol r mem
      rcases List.mem_append.mp mem with first | mem
      · exact here (passes_fresh passes) vol r first
      · exact current (later passes) vol r mem
    · rw [if_neg goes, List.append_nil, acts, pass.settles]
      have fails : ¬ c.Passes := fun passes => goes (pass.goes.mpr passes)
      refine ⟨⟨fun fresh => ⟨fresh, fun passes => absurd passes fails⟩, And.left⟩, ?_⟩
      intro both vol r mem
      exact here both.1 vol r mem

end Volumes

/-- Everything is released exactly once, and for the volume that it was acquired for, exactly
when the calls for the first volume that ends the loop fit what the variables have from the
volumes before it. -/
theorem genconfig_releases (vols : Option (List GenVolumeCalls)) :
    GenReleases (genConfigActs vols) ↔
      ∀ cs, vols = some cs → ∀ before c after, cs = before ++ c :: after →
        (∀ b ∈ before, b.Passes) → c.Fresh before := by
  cases vols with
  | none =>
    apply iff_of_true
    · constructor
      · exact Custody.settled_iff.mpr rfl
      · intro vol r mem
        cases mem
    · intro cs none
      cases none
  | some vols =>
    have start : Dangling [] {} :=
      ⟨iff_of_true rfl rfl, iff_of_true rfl (fun b mem => absurd mem List.not_mem_nil)⟩
    obtain ⟨settles, current⟩ := passVolumes_settle [] vols {} start
    have first : (∀ cs, some vols = some cs → ∀ before c after, cs = before ++ c :: after →
        (∀ b ∈ before, b.Passes) → c.Fresh before) ↔ FirstStopFresh [] vols := by
      simp only [Option.some.injEq, forall_eq', FirstStopFresh, List.nil_append]
    rw [first, ← settles]
    constructor
    · exact fun releases => Custody.settled_iff.mp releases.settled
    · exact fun run => ⟨Custody.settled_iff.mpr run, current (settles.mp run)⟩

/-- The lock file of a first volume is closed again when the second one cannot be opened. -/
theorem lockFile_closed_twice :
    ¬ GenReleases (genConfigActs (some
      [{ volumeInit := true, createMetaLockFile := true, metaLock := true, opendir := true,
         readdir := [] },
       { volumeInit := false, createMetaLockFile := true, metaLock := true, opendir := true,
         readdir := [] }])) := by
  intro releases
  exact absurd releases.settled (by decide)

end GlusterBlock
