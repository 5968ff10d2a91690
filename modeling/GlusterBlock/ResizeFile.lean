import GlusterBlock.ResizeEntry
import GlusterBlock.ZeroFill

/-! The resize of a backing file with what it does to the file. Behind the truncation the
file has its new size, whatever becomes of the zeros and of the close, and the next call
with the same request leaves it alone. -/
namespace GlusterBlock

open Extents

/-- A file and the parts that were filled with zeros. -/
structure BackingFile where
  stat : FileStat
  zeroed : List Extent
  deriving DecidableEq, Repr

/-- What the calls answer that do not depend on the file. The blocks are those that the file
has behind a truncation. -/
structure ResizeEnv where
  opened : Option Errno
  stat : Option Errno
  statvfs : Except Errno VfsStat
  ftruncate : Option Errno
  blocks : BitVec 64
  zerofill : Option Errno
  slow : ZeroFillEnv
  slowWrites : slow.Writes
  slowErrno : Errno
  closed : Option Errno

/-- The slow fill with fuel for a byte a write. -/
def slowFill (env : ResizeEnv) (offset size : Nat) : ZeroFillRes :=
  (glusterBlockZeroFill env.slow (size + 1) offset size).get
    (Option.isSome_iff_ne_none.mpr (fill_ends env.slowWrites (Nat.lt_succ_self size)))

/-- The file counts as filled when its blocks hold its size. -/
def FileStat.full (sb : FileStat) : Bool := sb.size.sle (512 * sb.blocks)

namespace Volume

/-- The growth of a truncated file and what stops it. -/
def fillGrowth (size : BitVec 64) (old : FileStat) (env : ResizeEnv) (file : BackingFile) :
    Option Errno × BackingFile :=
  if size > old.size ∧ old.full then
    let offset := old.size.toNat
    let len := (size - old.size).toNat
    match env.zerofill with
    | none => (none, { file with zeroed := file.zeroed ++ [(offset, len)] })
    | some e =>
      if e.code = Errno.notSupported.code then
        let res := slowFill env offset len
        (if res.ret = 0 then none else some env.slowErrno,
          { file with zeroed := file.zeroed ++ res.writes })
      else (some e, file)
  else (none, file)

def resizeFile (volume : String) (size : BitVec 64) (env : ResizeEnv) (file : BackingFile) :
    Option (Errno × Option String) × BackingFile :=
  match env.stat with
  | some e => (some (e, none), file)
  | none =>
    if size = file.stat.size then (none, file)
    else
      match glusterBlockCheckAvailableSpace volume (size - file.stat.size) env.statvfs with
      | some (e, msg) => (some (e, some msg), file)
      | none =>
        match env.ftruncate with
        | some e => (some (e, none), file)
        | none =>
          let (stop, file) :=
            fillGrowth size file.stat env { file with stat := ⟨size, env.blocks⟩ }
          (stop.map (fun e => (e, none)), file)

def glusterBlockResizeEntry (blk : BlockModifySize) (env : ResizeEnv) (file : BackingFile) :
    ResizeEntryRes × BackingFile :=
  let notAble := fun (e : Errno) => "Not able to resize storage for " ++ blk.volume ++ "/" ++
    blk.blockName ++ " [" ++ e.text ++ "]"
  let failed := fun (e : Errno) (errMsg : Option String) =>
    ResizeEntryRes.mk (-1) e.code (some (errMsg.getD (notAble e)))
  match env.opened with
  | some e => (failed e none, file)
  | none =>
    match resizeFile blk.volume (BitVec.ofNat 64 blk.size) env file, env.closed with
    | (some (e, errMsg), file), _ => (failed e errMsg, file)
    | (none, file), some e => (failed e none, file)
    | (none, file), none => ({ ret := 0, errCode := 0, errMsg := none }, file)

end Volume

/-- The answers for a file as it is. -/
def ResizeEnv.answers (env : ResizeEnv) (size : BitVec 64) (file : BackingFile) : ResizeCalls where
  opened := env.opened
  stat := match env.stat with
    | some e => .error e
    | none => .ok file.stat
  statvfs := env.statvfs
  ftruncate := env.ftruncate
  zerofill := env.zerofill
  writeZeros :=
    if (slowFill env file.stat.size.toNat (size - file.stat.size).toNat).ret = 0 then none
    else some env.slowErrno
  closed := env.closed

section Answers

variable (blk : BlockModifySize) (env : ResizeEnv) (file : BackingFile)

theorem fillGrowth_answers (size : BitVec 64) (truncated : BackingFile) {calls : ResizeCalls}
    (zerofill : calls.zerofill = env.zerofill)
    (writeZeros : calls.writeZeros = (env.answers size file).writeZeros) :
    (Volume.fillGrowth size file.stat env truncated).1 = fillGrowth size file.stat calls := by
  unfold Volume.fillGrowth fillGrowth FileStat.full
  by_cases grows : size > file.stat.size ∧ file.stat.size.sle (512 * file.stat.blocks)
  · rw [if_pos grows, if_pos grows, zerofill, writeZeros]
    dsimp only [ResizeEnv.answers]
    cases env.zerofill with
    | none => rfl
    | some e =>
      dsimp only
      split <;> rfl
  · rw [if_neg grows, if_neg grows]

theorem resizeEntry_answers : (Volume.glusterBlockResizeEntry blk env file).1 =
    glusterBlockResizeEntry blk (env.answers (BitVec.ofNat 64 blk.size) file) := by
  let size := BitVec.ofNat 64 blk.size
  have stops : (Volume.resizeFile blk.volume size env file).1 =
      resizeFile blk.volume size (env.answers size file) := by
    unfold Volume.resizeFile resizeFile
    dsimp only [ResizeEnv.answers]
    cases env.stat with
    | some e => rfl
    | none =>
      dsimp only
      by_cases same : size = file.stat.size
      · rw [if_pos same, if_pos same]
      · rw [if_neg same, if_neg same]
        rcases glusterBlockCheckAvailableSpace blk.volume (size - file.stat.size) env.statvfs with
          _ | ⟨e, _ | msg⟩
        · dsimp only
          cases env.ftruncate with
          | some e => rfl
          | none =>
            dsimp only
            rw [Option.none_or]
            exact congrArg _ (fillGrowth_answers env file size _ rfl rfl)
        · rfl
        · rfl
  unfold Volume.glusterBlockResizeEntry glusterBlockResizeEntry
  have opened : (env.answers size file).opened = env.opened := rfl
  have closed : (env.answers size file).closed = env.closed := rfl
  rw [opened, closed, ← stops]
  cases env.opened with
  | some e => rfl
  | none =>
    dsimp only
    cases resized : Volume.resizeFile blk.volume size env file with
    | mk stop file =>
      cases stop with
      | some e => rfl
      | none => cases env.closed <;> rfl

end Answers

section Steps

/-- The calls of one request in turn, each with the file in front of it. -/
def resizeSteps (blk : BlockModifySize) : BackingFile → List ResizeEnv → List (BackingFile × ResizeEnv)
  | _, [] => []
  | file, env :: envs =>
    (file, env) :: resizeSteps blk (Volume.glusterBlockResizeEntry blk env file).2 envs

/-- The zeros of a file that was full and grew. -/
def GrowthZeroed (start : FileStat) (size : BitVec 64) (file : BackingFile) : Prop :=
  size > start.size → start.full = true →
    ∀ byte, start.size.toNat ≤ byte → byte < size.toNat → Covers file.zeroed byte

/-- A call that fails leaves the size alone; one that returns 0 has set it and filled the
growth. -/
def ResizeSound (blk : BlockModifySize) (start : FileStat) (step : BackingFile × ResizeEnv) : Prop :=
  let run := Volume.glusterBlockResizeEntry blk step.2 step.1
  (run.1.ret ≠ 0 → run.2.stat.size = step.1.stat.size) ∧
    (run.1.ret = 0 → run.2.stat.size = BitVec.ofNat 64 blk.size ∧
      GrowthZeroed start (BitVec.ofNat 64 blk.size) run.2)

/-- The call gets to the truncation, and that works. -/
def Truncates (blk : BlockModifySize) (env : ResizeEnv) (file : BackingFile) : Prop :=
  let size := BitVec.ofNat 64 blk.size
  env.opened = none ∧ env.stat = none ∧ size ≠ file.stat.size ∧
    glusterBlockCheckAvailableSpace blk.volume (size - file.stat.size) env.statvfs = none ∧
    env.ftruncate = none

/-- The volume fills the growth, or it cannot and the slow fill writes all of it. -/
def FillsGrowth (env : ResizeEnv) (size : BitVec 64) (old : FileStat) : Prop :=
  size > old.size → old.full = true →
    env.zerofill = none ∨ ∃ e, env.zerofill = some e ∧ e.code = Errno.notSupported.code ∧
      FillsWhole env.slow (size - old.size).toNat

/-- Behind the truncation nothing fails and no write stops short. -/
def ResizeCare (blk : BlockModifySize) (step : BackingFile × ResizeEnv) : Prop :=
  Truncates blk step.2 step.1 →
    FillsGrowth step.2 (BitVec.ofNat 64 blk.size) step.1.stat ∧ step.2.closed = none

variable {blk : BlockModifySize} {env : ResizeEnv} {file : BackingFile} {start old : FileStat}
  {size : BitVec 64}

/-- The slow fill takes its range exactly when it writes all of it. -/
theorem slowFill_whole (env : ResizeEnv) (offset len : Nat) :
    ((slowFill env offset len).ret = 0 ∧
        ∀ byte, offset ≤ byte → byte < offset + len → Covers (slowFill env offset len).writes byte) ↔
      FillsWhole env.slow len :=
  fills_whole_iff env.slowWrites (Option.some_get _).symm

theorem fillGrowth_whole (env : ResizeEnv) (size : BitVec 64) (old : FileStat) (file : BackingFile)
    (fresh : file.zeroed = []) :
    ((Volume.fillGrowth size old env file).1 = none ∧
        GrowthZeroed old size (Volume.fillGrowth size old env file).2) ↔
      FillsGrowth env size old := by
  unfold Volume.fillGrowth GrowthZeroed FillsGrowth
  by_cases grows : size > old.size ∧ old.full
  · obtain ⟨more, full⟩ := grows
    have range : old.size.toNat + (size - old.size).toNat = size.toNat := by
      have order : old.size.toNat < size.toNat := more
      rw [BitVec.toNat_sub_of_le (Nat.le_of_lt order)]
      omega
    rw [if_pos ⟨more, full⟩, fresh]
    simp only [forall_const, full, more]
    cases fill : env.zerofill with
    | none =>
      refine iff_of_true ⟨rfl, fun byte low high => ?_⟩ (.inl rfl)
      exact ⟨(old.size.toNat, (size - old.size).toNat), by simp, low, by omega⟩
    | some e =>
      dsimp only
      by_cases unsupported : e.code = Errno.notSupported.code
      · have whole := slowFill_whole env old.size.toNat (size - old.size).toNat
        rw [range] at whole
        rw [if_pos unsupported, ite_eq_left_iff]
        simp only [reduceCtorEq, imp_false, not_not, List.nil_append, whole, false_or,
          Option.some.injEq]
        constructor
        · intro fills
          exact ⟨e, rfl, unsupported, fills⟩
        · rintro ⟨_, rfl, _, fills⟩
          exact fills
      · rw [if_neg unsupported]
        refine iff_of_false (fun both => nomatch both.1) ?_
        rintro (none | ⟨f, same, code, _⟩)
        · cases none
        · cases same
          exact unsupported code
  · rw [if_neg grows]
    exact iff_of_true ⟨rfl, fun more full => absurd ⟨more, full⟩ grows⟩
      (fun more full => absurd ⟨more, full⟩ grows)

/-- A call that does not get past the truncation leaves the file alone, and returns 0 only
when it has its size. -/
theorem resize_refused (stays : ¬ Truncates blk env file) :
    (Volume.glusterBlockResizeEntry blk env file).2 = file ∧
      ((Volume.glusterBlockResizeEntry blk env file).1.ret = 0 →
        BitVec.ofNat 64 blk.size = file.stat.size) := by
  unfold Volume.glusterBlockResizeEntry Volume.resizeFile
  cases opened : env.opened with
  | some e => exact ⟨rfl, fun zero => nomatch zero⟩
  | none =>
    dsimp only
    cases stat : env.stat with
    | some e => exact ⟨rfl, fun zero => nomatch zero⟩
    | none =>
      dsimp only
      by_cases same : BitVec.ofNat 64 blk.size = file.stat.size
      · rw [if_pos same]
        cases env.closed with
        | none => exact ⟨rfl, fun _ => same⟩
        | some e => exact ⟨rfl, fun zero => nomatch zero⟩
      · rw [if_neg same]
        cases room : glusterBlockCheckAvailableSpace blk.volume
            (BitVec.ofNat 64 blk.size - file.stat.size) env.statvfs with
        | some e => exact ⟨rfl, fun zero => nomatch zero⟩
        | none =>
          dsimp only
          cases truncate : env.ftruncate with
          | some e => exact ⟨rfl, fun zero => nomatch zero⟩
          | none => exact absurd ⟨opened, stat, same, room, truncate⟩ stays

/-- Behind the truncation the file has its size, and the rest decides on the return code. -/
theorem resize_truncated (goes : Truncates blk env file) :
    let size := BitVec.ofNat 64 blk.size
    let grown := Volume.fillGrowth size file.stat env { file with stat := ⟨size, env.blocks⟩ }
    (Volume.glusterBlockResizeEntry blk env file).2 = grown.2 ∧ grown.2.stat.size = size ∧
      ((Volume.glusterBlockResizeEntry blk env file).1.ret = 0 ↔
        grown.1 = none ∧ env.closed = none) := by
  obtain ⟨opened, stat, other, room, truncate⟩ := goes
  intro size grown
  have sized : grown.2.stat.size = size := by
    unfold grown Volume.fillGrowth
    split
    · dsimp only
      split
      · rfl
      · split <;> rfl
    · rfl
  have stops : Volume.resizeFile blk.volume size env file =
      (grown.1.map (fun e => (e, none)), grown.2) := by
    unfold Volume.resizeFile
    rw [stat]
    dsimp only
    rw [if_neg other, room]
    dsimp only
    rw [truncate]
  unfold Volume.glusterBlockResizeEntry
  rw [opened]
  dsimp only
  rw [stops]
  cases grown.1 with
  | some e => exact ⟨rfl, sized, iff_of_false (fun zero => nomatch zero) (fun both => nomatch both.1)⟩
  | none =>
    cases env.closed with
    | some e =>
      exact ⟨rfl, sized, iff_of_false (fun zero => nomatch zero) (fun both => nomatch both.2)⟩
    | none => exact ⟨rfl, sized, iff_of_true rfl ⟨rfl, rfl⟩⟩

/-- What the file can be while no step was unsound: as it was at the start, or done. -/
def ResizeState (blk : BlockModifySize) (start : FileStat) (file : BackingFile) : Prop :=
  file = ⟨start, []⟩ ∨
    file.stat.size = BitVec.ofNat 64 blk.size ∧
      GrowthZeroed start (BitVec.ofNat 64 blk.size) file

theorem step_sound (state : ResizeState blk start file) :
    ResizeSound blk start (file, env) ↔ ResizeCare blk (file, env) := by
  unfold ResizeSound ResizeCare
  dsimp only
  by_cases goes : Truncates blk env file
  · have other := goes.2.2.1
    rcases state with rfl | ⟨sized, _⟩
    · obtain ⟨after, size, zero⟩ := resize_truncated goes
      have whole := fillGrowth_whole env (BitVec.ofNat 64 blk.size) start
        ⟨⟨BitVec.ofNat 64 blk.size, env.blocks⟩, []⟩ rfl
      dsimp only at after size zero
      rw [after, size, ← whole]
      simp only [goes, forall_const, true_and]
      constructor
      · rintro ⟨failed, done⟩
        have returned : (Volume.glusterBlockResizeEntry blk env ⟨start, []⟩).1.ret = 0 := by
          by_contra code
          exact other (failed code)
        obtain ⟨stop, closed⟩ := zero.mp returned
        exact ⟨⟨stop, done returned⟩, closed⟩
      · rintro ⟨⟨stop, zeroed⟩, closed⟩
        have returned := zero.mpr ⟨stop, closed⟩
        exact ⟨fun code => absurd returned code, fun _ => zeroed⟩
    · exact absurd sized.symm other
  · obtain ⟨after, zero⟩ := resize_refused goes
    refine iff_of_true ⟨fun _ => by rw [after], fun returned => ?_⟩ (fun truncates => absurd truncates goes)
    have same := zero returned
    rw [after]
    refine ⟨same.symm, ?_⟩
    rcases state with rfl | ⟨_, zeroed⟩
    · intro more
      rw [same] at more
      exact absurd more (BitVec.lt_irrefl _)
    · exact zeroed

theorem step_state (state : ResizeState blk start file) (sound : ResizeSound blk start (file, env)) :
    ResizeState blk start (Volume.glusterBlockResizeEntry blk env file).2 := by
  by_cases goes : Truncates blk env file
  · obtain ⟨after, size, _⟩ := resize_truncated goes
    have other := goes.2.2.1
    have returned : (Volume.glusterBlockResizeEntry blk env file).1.ret = 0 := by
      by_contra code
      have kept : (Volume.glusterBlockResizeEntry blk env file).2.stat.size = file.stat.size :=
        sound.1 code
      rw [after, size] at kept
      exact other kept
    exact .inr (sound.2 returned)
  · rw [(resize_refused goes).1]
    exact state

theorem steps_sound (state : ResizeState blk start file) (envs : List ResizeEnv) :
    (∀ step ∈ resizeSteps blk file envs, ResizeSound blk start step) ↔
      ∀ step ∈ resizeSteps blk file envs, ResizeCare blk step := by
  induction envs generalizing file with
  | nil => simp [resizeSteps]
  | cons env envs ih =>
    rw [resizeSteps, List.forall_mem_cons, List.forall_mem_cons, ← step_sound state]
    exact and_congr_right (fun sound => ih (step_state state sound))

/-- Calls with the same request are atomic and keep the file filled exactly when none of
them fails or stops short behind its truncation. -/
theorem resize_atomic_iff (blk : BlockModifySize) (start : FileStat) (envs : List ResizeEnv) :
    (∀ step ∈ resizeSteps blk ⟨start, []⟩ envs, ResizeSound blk start step) ↔
      ∀ step ∈ resizeSteps blk ⟨start, []⟩ envs, ResizeCare blk step :=
  steps_sound (.inl rfl) envs

/-- A volume with 100 GiB free on which the fill of a growth ends like this. -/
def growthEnv (zerofill : Option Errno) : ResizeEnv where
  opened := none
  stat := none
  statvfs := .ok { bfree := 26214400, bsize := 4096 }
  ftruncate := none
  blocks := 2048
  zerofill := zerofill
  slow := writesUpTo 4096
  slowWrites := writesUpTo_writes 4096
  slowErrno := .noSpace
  closed := none

/-- A file of one MiB with all its blocks. -/
def fullFile : FileStat := { size := 1048576, blocks := 2048 }

theorem resize_atomic_sample :
    ∀ step ∈ resizeSteps (resizeTo 2097152) ⟨fullFile, []⟩ [growthEnv none],
      ResizeSound (resizeTo 2097152) fullFile step := by
  apply (resize_atomic_iff _ _ _).mpr
  intro step here _
  rw [List.mem_singleton.mp here]
  exact ⟨fun _ _ => .inl rfl, rfl⟩

/-- The fill fails behind the truncation: the call fails with the file at its new size, and
the next one returns 0 without a zero written. -/
theorem failed_fill_unsound :
    let first := Volume.glusterBlockResizeEntry (resizeTo 2097152) (growthEnv (some .noSpace))
      ⟨fullFile, []⟩
    let second := Volume.glusterBlockResizeEntry (resizeTo 2097152) (growthEnv none) first.2
    (first.1.ret ≠ 0 ∧ first.2.stat.size = 2097152 ∧ second.1.ret = 0 ∧ second.2.zeroed = []) ∧
      ¬ ∀ step ∈ resizeSteps (resizeTo 2097152) ⟨fullFile, []⟩
          [growthEnv (some .noSpace), growthEnv none],
        ResizeSound (resizeTo 2097152) fullFile step := by
  refine ⟨by decide, fun sound => ?_⟩
  have kept := (sound _ List.mem_cons_self).1 (by decide)
  exact absurd kept (by decide)

end Steps

end GlusterBlock
