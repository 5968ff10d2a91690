import GlusterBlock.BlockModify
import GlusterBlock.VolumeFiles

/-! The resize of a backing file. The room it asks for is the difference of two unsigned
64-bit sizes, to which the reserve of the metadata is added. -/
namespace GlusterBlock

/-- `GB_METASTORE_RESERVE`. -/
def gbMetastoreReserve : Nat := 10485760

/-- What `statvfs` says of a volume: the free blocks and the size of a block. -/
structure VfsStat where
  bfree : BitVec 64
  bsize : BitVec 64
  deriving DecidableEq, Repr

/-- What `stat` says of a file: its size and the 512-byte blocks it has. -/
structure FileStat where
  size : BitVec 64
  blocks : BitVec 64
  deriving DecidableEq, Repr

/-- The error of a volume without room for so many bytes. -/
def glusterBlockCheckAvailableSpace (volume : String) (blockSize : BitVec 64) :
    Except Errno VfsStat → Option (Errno × String)
  | .ok buf =>
    if buf.bfree * buf.bsize ≥ BitVec.ofNat 64 gbMetastoreReserve + blockSize then none
    else some (.noSpace, "Low space on the volume " ++ volume ++ "\n")
  | .error e => some (e, "couldn't get file-system statistics on volume " ++ volume ++ "\n")

/-- What the calls behind a resize answer. -/
structure ResizeCalls where
  opened : Option Errno
  stat : Except Errno FileStat
  statvfs : Except Errno VfsStat
  ftruncate : Option Errno
  zerofill : Option Errno
  writeZeros : Option Errno
  closed : Option Errno
  deriving Repr

structure ResizeEntryRes where
  ret : Int
  errCode : Int
  errMsg : Option String
  deriving DecidableEq, Repr

/-- A file without holes gets zeros for its growth, by hand where the volume cannot fill it. -/
def fillGrowth (size : BitVec 64) (sb : FileStat) (calls : ResizeCalls) : Option Errno :=
  if size > sb.size ∧ sb.size.sle (512 * sb.blocks) then
    match calls.zerofill with
    | none => none
    | some e => if e.code = Errno.notSupported.code then calls.writeZeros else some e
  else none

/-- What stops the resize of an open file. -/
def resizeFile (volume : String) (size : BitVec 64) (calls : ResizeCalls) :
    Option (Errno × Option String) :=
  match calls.stat with
  | .error e => some (e, none)
  | .ok sb =>
    if size = sb.size then none
    else
      match glusterBlockCheckAvailableSpace volume (size - sb.size) calls.statvfs with
      | some (e, msg) => some (e, some msg)
      | none => (calls.ftruncate.or (fillGrowth size sb calls)).map (fun e => (e, none))

def glusterBlockResizeEntry (blk : BlockModifySize) (calls : ResizeCalls) : ResizeEntryRes :=
  let notAble := fun (e : Errno) => "Not able to resize storage for " ++ blk.volume ++ "/" ++
    blk.blockName ++ " [" ++ e.text ++ "]"
  let failed := fun (e : Errno) (errMsg : Option String) =>
    ResizeEntryRes.mk (-1) e.code (some (errMsg.getD (notAble e)))
  match calls.opened with
  | some e => failed e none
  | none =>
    match resizeFile blk.volume (BitVec.ofNat 64 blk.size) calls, calls.closed with
    | some (e, errMsg), _ => failed e errMsg
    | none, some e => failed e none
    | none, none => { ret := 0, errCode := 0, errMsg := none }

/-- The environment of a resize with the outcome of its file. -/
def resizeEntryEnv (mobj : BlockModifySize) (env : ModifySizeEnv) (calls : ResizeCalls) :
    ModifySizeEnv :=
  { env with resizeEntry := (glusterBlockResizeEntry mobj calls).errMsg }

section Space

variable {blk : BlockModifySize} {calls : ResizeCalls}

theorem resizeEntry_ret (blk : BlockModifySize) (calls : ResizeCalls) :
    (glusterBlockResizeEntry blk calls).ret = 0 ↔
      (glusterBlockResizeEntry blk calls).errMsg = none := by
  unfold glusterBlockResizeEntry
  cases calls.opened with
  | some e => simp
  | none =>
    dsimp only
    cases resizeFile blk.volume (BitVec.ofNat 64 blk.size) calls with
    | some stop => simp
    | none => cases calls.closed <;> simp

def SpaceRefused (res : ResizeEntryRes) : Prop :=
  res.ret ≠ 0 ∧ res.errCode = Errno.noSpace.code

instance (res : ResizeEntryRes) : Decidable (SpaceRefused res) :=
  inferInstanceAs (Decidable (_ ∧ _))

/-- A request that is refused here does nothing to the metafile and the nodes. -/
theorem refused_untouched {cli : BlockModifySizeCli} {js : Journal} {env : ModifySizeEnv}
    (refused : SpaceRefused (glusterBlockResizeEntry (modifySizeObj cli (replay js)) calls)) :
    let env := resizeEntryEnv (modifySizeObj cli (replay js)) env calls
    (modifySizeBody cli js env).evs = [] ∧ (modifySizeBody cli js env).errCode = -1 := by
  have message := mt (resizeEntry_ret _ _).mpr refused.1
  unfold modifySizeBody resizeEntryEnv
  dsimp only
  cases answer : (glusterBlockResizeEntry (modifySizeObj cli (replay js)) calls).errMsg with
  | none => exact absurd answer message
  | some msg => exact ⟨rfl, rfl⟩

/-- Every call but the look at the free space succeeds or fails for another reason than a
full volume. -/
def ResizeCalls.roomElsewhere (calls : ResizeCalls) : Prop :=
  ∀ e : Errno, e ∈ calls.ftruncate.toList ++ calls.zerofill.toList ++ calls.writeZeros.toList ++
    calls.closed.toList → e.code ≠ Errno.noSpace.code

instance (calls : ResizeCalls) : Decidable calls.roomElsewhere :=
  decidable_of_iff (∀ e ∈ calls.ftruncate.toList ++ calls.zerofill.toList ++
    calls.writeZeros.toList ++ calls.closed.toList, e.code ≠ Errno.noSpace.code) Iff.rfl

theorem fillGrowth_mem {size : BitVec 64} {sb : FileStat} {e : Errno}
    (failed : fillGrowth size sb calls = some e) :
    e ∈ calls.zerofill.toList ++ calls.writeZeros.toList := by
  unfold fillGrowth at failed
  split at failed
  · cases fill : calls.zerofill with
    | none =>
      rw [fill] at failed
      cases failed
    | some f =>
      rw [fill] at failed
      dsimp only at failed
      split at failed
      · simp [failed]
      · cases failed
        simp
  · cases failed

/-- The code asks for the difference of the sizes, whatever its sign, on top of the
reserve. -/
theorem refused_iff {sb : FileStat} {buf : VfsStat} (opened : calls.opened = none)
    (stat : calls.stat = .ok sb) (statvfs : calls.statvfs = .ok buf)
    (room : calls.roomElsewhere) :
    SpaceRefused (glusterBlockResizeEntry blk calls) ↔
      BitVec.ofNat 64 blk.size ≠ sb.size ∧
        buf.bfree * buf.bsize <
          BitVec.ofNat 64 gbMetastoreReserve + (BitVec.ofNat 64 blk.size - sb.size) := by
  have closing : ∀ e, calls.closed = some e → e.code ≠ Errno.noSpace.code :=
    fun e closed => room e (by simp [closed])
  unfold glusterBlockResizeEntry resizeFile
  rw [opened, stat, statvfs]
  dsimp only
  by_cases same : BitVec.ofNat 64 blk.size = sb.size
  · rw [if_pos same]
    cases closed : calls.closed with
    | none => simp [SpaceRefused, same]
    | some e => simp [SpaceRefused, same, closing e closed]
  · rw [if_neg same, and_iff_right same]
    unfold glusterBlockCheckAvailableSpace
    dsimp only
    by_cases enough : buf.bfree * buf.bsize ≥
        BitVec.ofNat 64 gbMetastoreReserve + (BitVec.ofNat 64 blk.size - sb.size)
    · rw [if_pos enough, iff_false_intro (BitVec.not_lt.mpr enough), iff_false]
      cases stopped : calls.ftruncate.or (fillGrowth (BitVec.ofNat 64 blk.size) sb calls) with
      | none =>
        cases closed : calls.closed with
        | none => simp [SpaceRefused]
        | some e => simp [SpaceRefused, closing e closed]
      | some e =>
        have other : e.code ≠ Errno.noSpace.code := by
          refine room e ?_
          rcases Option.or_eq_some_iff.mp stopped with cut | ⟨_, fill⟩
          · simp [cut]
          · have known := fillGrowth_mem fill
            simp only [List.mem_append] at known ⊢
            tauto
        simp [SpaceRefused, other]
    · rw [if_neg enough]
      simp [SpaceRefused, BitVec.not_le.mp enough]

/-- The sum wraps for a shrink, and wraps back for one that is not larger than the reserve. -/
theorem wrapped_room {new old free : BitVec 64} (hnew : new.toNat < 2 ^ 63)
    (hold : old.toNat < 2 ^ 63) (hfree : free.toNat < 2 ^ 63) :
    (new ≠ old ∧ free < BitVec.ofNat 64 gbMetastoreReserve + (new - old)) ↔
      old.toNat < new.toNat ∧ free.toNat < gbMetastoreReserve + (new.toNat - old.toNat) ∨
        new.toNat < old.toNat ∧ (gbMetastoreReserve < old.toNat - new.toNat ∨
          free.toNat + (old.toNat - new.toNat) < gbMetastoreReserve) := by
  have reserve : gbMetastoreReserve = 10485760 := rfl
  rw [reserve]
  have differ : new ≠ old ↔ new.toNat ≠ old.toNat := by
    rw [ne_eq, ← BitVec.toNat_inj]
  have sum : (BitVec.ofNat 64 10485760 + (new - old)).toNat =
      (10485760 + (2 ^ 64 - old.toNat + new.toNat)) % 2 ^ 64 := by
    rw [BitVec.toNat_add, BitVec.toNat_sub, BitVec.toNat_ofNat]
    omega
  rw [differ, BitVec.lt_def, sum]
  omega

/-- A resize is refused for lack of space exactly when it grows by more than there is room
for, unless it is a shrink by more than the reserve or one that leaves less than the
reserve. -/
theorem resize_space {sb : FileStat} {buf : VfsStat} (opened : calls.opened = none)
    (stat : calls.stat = .ok sb) (statvfs : calls.statvfs = .ok buf)
    (room : calls.roomElsewhere) (hnew : blk.size < 2 ^ 63) (hold : sb.size.toNat < 2 ^ 63)
    (hfree : buf.bfree.toNat * buf.bsize.toNat < 2 ^ 63) :
    let old := sb.size.toNat
    let free := buf.bfree.toNat * buf.bsize.toNat
    (SpaceRefused (glusterBlockResizeEntry blk calls) ↔
        old < blk.size ∧ free < gbMetastoreReserve + (blk.size - old)) ↔
      old ≤ blk.size ∨
        old - blk.size ≤ gbMetastoreReserve ∧ gbMetastoreReserve ≤ free + (old - blk.size) := by
  dsimp only
  have size : (BitVec.ofNat 64 blk.size).toNat = blk.size := by
    rw [BitVec.toNat_ofNat]
    exact Nat.mod_eq_of_lt (Nat.lt_trans hnew (by decide))
  have product : (buf.bfree * buf.bsize).toNat = buf.bfree.toNat * buf.bsize.toNat := by
    rw [BitVec.toNat_mul]
    exact Nat.mod_eq_of_lt (Nat.lt_trans hfree (by decide))
  rw [refused_iff opened stat statvfs room, wrapped_room (by rwa [size]) hold (by rwa [product]),
    size, product]
  generalize buf.bfree.toNat * buf.bsize.toNat = free at hfree ⊢
  omega

/-- The calls of a resize on a volume with room in every other respect. -/
def resizeCalls (old bfree bsize : BitVec 64) : ResizeCalls where
  opened := none
  stat := .ok { size := old, blocks := 0 }
  statvfs := .ok { bfree := bfree, bsize := bsize }
  ftruncate := none
  zerofill := none
  writeZeros := none
  closed := none

def resizeTo (size : Nat) : BlockModifySize where
  volume := "vol"
  blockName := "block"
  gbid := "6b60c53c-8ce0-4d8d-a42c-5b546bca3d09"
  size := size

/-- A shrink by one MiB, as the test does it. -/
theorem resize_space_sample :
    ¬ SpaceRefused (glusterBlockResizeEntry (resizeTo 1048576)
      (resizeCalls 2097152 26214400 4096)) := by
  have grows : SpaceRefused (glusterBlockResizeEntry (resizeTo 1048576)
      (resizeCalls 2097152 26214400 4096)) ↔ _ :=
    (resize_space rfl rfl rfl (by decide) (by decide) (by decide) (by decide)).mpr (by decide)
  exact fun refused => absurd (grows.mp refused).1 (by decide)

/-- A shrink from 1 GiB to 512 MiB is refused although 100 GiB are free. -/
theorem shrink_refused :
    SpaceRefused (glusterBlockResizeEntry (resizeTo 536870912)
      (resizeCalls 1073741824 26214400 4096)) ∧
    ¬ 1073741824 < (resizeTo 536870912).size := by
  decide

end Space

end GlusterBlock
