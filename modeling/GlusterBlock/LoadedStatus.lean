import GlusterBlock.ModifySvc

/-! How the searches for a block on a node are classified. A search that finds nothing exits
with 1, and only that marks the block as missing, while the code that is returned is that of
the search that ran last. -/
namespace GlusterBlock

/-- The first search found nothing, or the second one behind a first that found its part. -/
def LoadedRuns.Missing (runs : LoadedRuns) : Prop := runs.glfs = 1 ∨ runs.glfs = 0 ∧ runs.iscsi = 1

/-- The search that ran last before that of the saved configuration neither found nor missed
its part, and did not end abnormally either. -/
def LoadedRuns.Odd (runs : LoadedRuns) : Prop :=
  runs.glfs ∉ [-1, 0, 1] ∨ runs.glfs = 0 ∧ runs.iscsi ∉ [-1, 0, 1]

/-- What is returned and what is put into the reply, whose exit was set before, is true of
the searches. -/
structure LoadedClassified (blockName : String) (runs : LoadedRuns) (exit : Int) : Prop where
  loaded : (blockCheckBlockLoadedStatus blockName runs exit).1 = 0 →
    runs.glfs = 0 ∧ runs.iscsi = 0
  notFound : exit ≠ gbBlockNotFound →
    (blockCheckBlockLoadedStatus blockName runs exit).2.exit = gbBlockNotFound →
      runs.Missing ∧ (runs.savecfg = 1 ∨ runs.savecfg = 2) ∧
        (blockCheckBlockLoadedStatus blockName runs exit).1 ≠ 0
  notLoaded : exit ≠ gbBlockNotLoaded →
    (blockCheckBlockLoadedStatus blockName runs exit).2.exit = gbBlockNotLoaded →
      runs.Missing ∧ runs.savecfg = 0

section Cases

variable (blockName : String) {runs : LoadedRuns} (exit : Int)

/-- A missing block is told by the search of the saved configuration. -/
theorem missing_status (missing : runs.Missing) (ran : runs.savecfg ≠ -1) :
    ((runs.savecfg = 1 ∨ runs.savecfg = 2) ∧
      (blockCheckBlockLoadedStatus blockName runs exit).1 = runs.savecfg ∧
      (blockCheckBlockLoadedStatus blockName runs exit).2.exit = gbBlockNotFound) ∨
    (¬ (runs.savecfg = 1 ∨ runs.savecfg = 2) ∧
      (blockCheckBlockLoadedStatus blockName runs exit).1 = -1 ∧
      (blockCheckBlockLoadedStatus blockName runs exit).2.exit = gbBlockNotLoaded) := by
  have started : ¬ (runs.glfs = -1 ∨ runs.glfs = 0 ∧ runs.iscsi = -1) := by
    unfold LoadedRuns.Missing at missing
    omega
  have other : ¬ (runs.glfs = 0 ∧ runs.iscsi = 0) := by
    unfold LoadedRuns.Missing at missing
    omega
  have missed : runs.glfs = 1 ∨ runs.glfs = 0 ∧ runs.iscsi = 1 := missing
  unfold blockCheckBlockLoadedStatus
  dsimp only
  rw [if_neg started, if_neg other, if_neg ran]
  by_cases gone : runs.savecfg = 1 ∨ runs.savecfg = 2
  · left
    rw [if_pos gone, if_pos missed]
    exact ⟨gone, rfl, rfl⟩
  · right
    rw [if_neg gone, if_pos missed]
    exact ⟨gone, rfl, rfl⟩

/-- When the last search ends abnormally nothing is told. -/
theorem aborted_status (missing : runs.Missing) (failed : runs.savecfg = -1) :
    (blockCheckBlockLoadedStatus blockName runs exit).1 = -1 ∧
      (blockCheckBlockLoadedStatus blockName runs exit).2.exit = exit := by
  have started : ¬ (runs.glfs = -1 ∨ runs.glfs = 0 ∧ runs.iscsi = -1) := by
    unfold LoadedRuns.Missing at missing
    omega
  have other : ¬ (runs.glfs = 0 ∧ runs.iscsi = 0) := by
    unfold LoadedRuns.Missing at missing
    omega
  unfold blockCheckBlockLoadedStatus
  dsimp only
  rw [if_neg started, if_neg other, if_pos failed]
  exact ⟨rfl, rfl⟩

/-- Without a missing block the exit stays, and the code is that of the last search. -/
theorem present_status (present : ¬ runs.Missing) :
    (blockCheckBlockLoadedStatus blockName runs exit).2.exit = exit ∧
      ((blockCheckBlockLoadedStatus blockName runs exit).1 = 0 ↔
        runs.glfs = 0 ∧ runs.iscsi = 0 ∨ runs.Odd ∧ runs.savecfg = 0) := by
  have odd : runs.Odd ↔ ¬ (runs.glfs = -1 ∨ runs.glfs = 0 ∧ runs.iscsi = -1) ∧
      ¬ (runs.glfs = 0 ∧ runs.iscsi = 0) := by
    unfold LoadedRuns.Missing at present
    simp only [LoadedRuns.Odd, List.mem_cons, List.not_mem_nil, or_false]
    omega
  have found_all : ¬ (runs.glfs = 1 ∨ runs.glfs = 0 ∧ runs.iscsi = 1) := present
  unfold blockCheckBlockLoadedStatus
  dsimp only
  by_cases abnormal : runs.glfs = -1 ∨ runs.glfs = 0 ∧ runs.iscsi = -1
  · rw [if_pos abnormal]
    refine ⟨rfl, ?_⟩
    rw [odd]
    dsimp only
    omega
  · rw [if_neg abnormal]
    by_cases found : runs.glfs = 0 ∧ runs.iscsi = 0
    · rw [if_pos found]
      exact ⟨rfl, fun _ => .inl found, fun _ => rfl⟩
    · rw [if_neg found, odd]
      by_cases failed : runs.savecfg = -1
      · rw [if_pos failed]
        refine ⟨rfl, ?_⟩
        dsimp only
        omega
      · rw [if_neg failed]
        by_cases gone : runs.savecfg = 1 ∨ runs.savecfg = 2
        · rw [if_pos gone, if_neg found_all]
          refine ⟨rfl, ?_⟩
          dsimp only
          omega
        · rw [if_neg gone, if_neg found_all]
          refine ⟨rfl, ?_⟩
          dsimp only
          omega

end Cases

/-- The searches are classified truly exactly when none of the two ends in an odd way beside
a saved configuration, and the search of that one ends in no odd way for a missing block. -/
theorem loaded_classified (blockName : String) (runs : LoadedRuns) :
    (∀ exit, LoadedClassified blockName runs exit) ↔
      ¬ (runs.Odd ∧ runs.savecfg = 0) ∧ (runs.Missing → runs.savecfg ∈ [-1, 0, 1, 2]) := by
  have apart : gbBlockNotFound ≠ gbBlockNotLoaded := by decide
  constructor
  · intro classified
    constructor
    · rintro ⟨odd, saved⟩
      have present : ¬ runs.Missing := by
        simp only [LoadedRuns.Odd, List.mem_cons, List.not_mem_nil, or_false] at odd
        unfold LoadedRuns.Missing
        omega
      have zero := (present_status blockName (-1) present).2.mpr
        (.inr ⟨odd, saved⟩)
      obtain ⟨glfs, iscsi⟩ := (classified (-1)).loaded zero
      simp [LoadedRuns.Odd, glfs, iscsi] at odd
    · intro missing
      by_cases failed : runs.savecfg = -1
      · simp [failed]
      · rcases missing_status blockName (-1) missing failed with
          ⟨gone, _⟩ | ⟨_, _, code⟩
        · simp only [List.mem_cons, List.not_mem_nil, or_false]
          omega
        · have saved := ((classified (-1)).notLoaded (by decide) code).2
          simp [saved]
  · rintro ⟨even, known⟩ exit
    by_cases missing : runs.Missing
    · have codes := known missing
      simp only [List.mem_cons, List.not_mem_nil, or_false] at codes
      by_cases failed : runs.savecfg = -1
      · obtain ⟨ret, kept⟩ := aborted_status blockName exit missing failed
        constructor
        · rw [ret]
          exact fun zero => absurd zero (by decide)
        · exact fun other code => absurd (kept.symm.trans code) other
        · exact fun other code => absurd (kept.symm.trans code) other
      · rcases missing_status blockName exit missing failed with
          ⟨gone, ret, code⟩ | ⟨left, ret, code⟩
        · constructor
          · rw [ret]
            omega
          · rw [ret]
            exact fun _ _ => ⟨missing, gone, by omega⟩
          · rw [code]
            exact fun _ same => absurd same apart
        · constructor
          · rw [ret]
            exact fun zero => absurd zero (by decide)
          · rw [code]
            exact fun _ same => absurd same.symm apart
          · exact fun _ _ => ⟨missing, by omega⟩
    · obtain ⟨kept, zero⟩ := present_status blockName exit missing
      constructor
      · intro ret
        exact (zero.mp ret).resolve_right even
      · rw [kept]
        exact fun other code => absurd code other
      · rw [kept]
        exact fun other code => absurd code other

/-- The first search exits with 2 and the saved configuration has the block: it counts as
loaded. -/
theorem odd_search_loaded : ¬ ∀ exit, LoadedClassified "block" ⟨2, 0, 0⟩ exit := by
  intro classified
  have wrong := (classified (-1)).loaded (by decide)
  exact absurd wrong.1 (by decide)

end GlusterBlock
