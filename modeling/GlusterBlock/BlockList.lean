import GlusterBlock.CommandLine
import GlusterBlock.CommandLog
import GlusterBlock.Coordinators
import GlusterBlock.MetaReader
import GlusterBlock.PrioCounters

/-! The list of the blocks of a volume, read off its metadata directory, and what `info` says
of each of them. -/
namespace GlusterBlock

section Reply

variable (json : JsonResponseFormat → Json.Layout)

/-- The storage, what an error of the open says, and the names the directory has. -/
structure ListEnv where
  session : Session
  openErr : Option (Int × String)
  entries : List String

structure ListReply where
  exit : Int
  out : Text
  deriving DecidableEq, Repr

/-- A name with a dot is no block. -/
def isBlockName (entry : String) : Bool := !entry.toList.contains '.'

def fileList (names : List String) : Text := names.flatMap (fun n => n.toList ++ ['\n'])

def blockListFormat (blk : BlockListCli) (blocks : Option (List String)) (errCode : Int)
    (errMsg : Option String) : ListReply where
  exit := exitCode errCode
  out :=
    if blk.jsonResp.given then
      jsonText json blk.jsonResp (Json.obj
        ((blocks.map (fun names => ("blocks", Json.arr (names.map Json.str)))).toList ++
          if errCode ≠ 0 then
            [("RESULT", Json.str "FAIL"), ("errCode", Json.int (exitCode errCode)),
              ("errMsg", Json.str (errMsg.getD ""))]
          else [("RESULT", Json.str "SUCCESS")]))
    else if errCode ≠ 0 then
      (errMsg.getD "Not able to complete operation successfully").toList ++ ['\n']
    else
      -- no file list was allocated when there is no name
      match blocks.getD [] with
      | [] => "*Nil*\n".toList
      | names => fileList names

def blockListCli (blk : BlockListCli) (env : ListEnv) : ListReply :=
  match env.session.connect with
  | some (errCode, msg) => blockListFormat json blk none errCode (some msg)
  | none =>
    match env.openErr with
    | some (errno, msg) =>
      let (errCode, errMsg) := env.session.unlock blk.volume errno (some msg)
      blockListFormat json blk none errCode errMsg
    | none =>
      let (errCode, errMsg) := env.session.unlock blk.volume 0 none
      blockListFormat json blk (some (env.entries.filter isBlockName)) errCode errMsg

end Reply

section Volume

/-- A request on one block of a volume, cut short anywhere. Its name is such as the command
line accepts; an empty one stands for the directory itself, and is always taken. -/
inductive VolumeStep (v : VolumeMeta) : VolumeMeta → Prop where
  | took (req : Request) (evs : List Ev) (prio : Prio)
      (named : glusterBlockIsNameAcceptable req.blockName = true) (some : req.blockName ≠ "")
      (takes : Takes req (v.metas.lookup req.blockName) evs) :
      VolumeStep v ⟨v.put req.blockName (metaAfter (v.metas.lookup req.blockName) evs), prio⟩

/-- The metadata directory has a file for each block, next to itself, its parent, the lock file
and the counters. -/
structure MetaDir (v : VolumeMeta) (entries : List String) : Prop where
  nodup : entries.Nodup
  holds : ∀ n, n ∈ v.metas → n ∈ entries
  only : ∀ n ∈ entries, n ∈ v.metas ∨ n ∈ [".", "..", "meta.lock", "prio.info"]

def NamesAccepted (v : VolumeMeta) : Prop :=
  ∀ n ∈ v.metas, glusterBlockIsNameAcceptable n = true ∧ n ≠ ""

theorem step_accepted {v v' : VolumeMeta} (named : NamesAccepted v) (step : VolumeStep v v') :
    NamesAccepted v' := by
  cases step with
  | took req evs prio accepted some takes =>
    intro n mem
    obtain ⟨js, there⟩ := Option.isSome_iff_exists.mp (AList.lookup_isSome.mpr mem)
    by_cases same : n = req.blockName
    · subst n
      exact ⟨accepted, some⟩
    · refine named n (AList.lookup_isSome.mp ?_)
      dsimp only at there
      cases file : metaAfter (v.metas.lookup req.blockName) evs with
      | none =>
        rw [file, VolumeMeta.put, AList.lookup_erase_ne same] at there
        simp [there]
      | some js' =>
        rw [file, VolumeMeta.put, AList.lookup_insert_ne same] at there
        simp [there]

theorem run_accepted {v v' : VolumeMeta} (named : NamesAccepted v)
    (run : Relation.ReflTransGen VolumeStep v v') : NamesAccepted v' := by
  induction run with
  | refl => exact named
  | tail _ step ih => exact step_accepted ih step

end Volume

section Reads

variable {names : List String}

/-- The list as its reader takes it. -/
def readList (text : Text) : List String :=
  if text = "*Nil*\n".toList then []
  else (text.splitOn '\n').dropLast.map String.ofList

theorem splitOn_fileList (lines : ∀ n ∈ names, '\n' ∉ n.toList) :
    (fileList names).splitOn '\n' = names.map String.toList ++ [[]] := by
  induction names with
  | nil => rfl
  | cons n names ih =>
    have rest := ih (fun m mem => lines m (List.mem_cons_of_mem _ mem))
    have split : fileList (n :: names) = n.toList ++ '\n' :: fileList names := by
      simp [fileList]
    rw [split, List.splitOn_append_cons_self_of_not_mem (lines n List.mem_cons_self), rest]
    rfl

/-- A list of names comes back when none of them stands for no names. -/
theorem read_fileList (lines : ∀ n ∈ names, '\n' ∉ n.toList) (nil : names ≠ ["*Nil*"]) :
    readList (fileList names) = names := by
  have split := splitOn_fileList lines
  unfold readList
  split_ifs with same
  · rw [same] at split
    have only : names.map String.toList = ["*Nil*".toList] := by
      have whole : ("*Nil*\n".toList).splitOn '\n' = ["*Nil*".toList] ++ [[]] := by decide
      exact (List.append_cancel_right (split.symm.trans whole))
    have back : names = ["*Nil*"] := by
      have injective : Function.Injective String.toList := fun a b h => String.toList_inj.mp h
      exact injective.list_map only
    exact absurd back nil
  · rw [split, List.dropLast_concat, List.map_map]
    conv_rhs => rw [← List.map_id names]
    exact List.map_congr_left (fun n _ => String.ofList_toList)

theorem name_chars {n : String} (accepted : glusterBlockIsNameAcceptable n = true) {c : Char}
    (mem : c ∈ n.toList) : nameChar c = true :=
  List.all_eq_true.mp (Bool.and_eq_true _ _ ▸ accepted).2 c mem

end Reads

section Shown

variable {v : VolumeMeta} {entries : List String}

theorem block_names (dir : MetaDir v entries) (named : NamesAccepted v) (n : String) :
    n ∈ entries.filter isBlockName ↔ n ∈ v.metas := by
  rw [List.mem_filter]
  constructor
  · rintro ⟨mem, block⟩
    refine (dir.only n mem).resolve_right (fun own => ?_)
    have dotted : ∀ m ∈ [".", "..", "meta.lock", "prio.info"], isBlockName m = false := by decide
    rw [dotted n own] at block
    cases block
  · intro mem
    refine ⟨dir.holds n mem, ?_⟩
    unfold isBlockName
    by_contra dot
    have char := name_chars (named n mem).1 (c := '.') (by simpa using dot)
    exact absurd char (by decide)

theorem info_missing (json : JsonResponseFormat → Json.Layout) {blk : BlockInfoCli} {env : InfoEnv}
    (plain : blk.jsonResp.given = false) (session : env.session = .good) (file : Metafile) :
    blockInfoCli json blk env file ≠
        ("block " ++ blk.volume ++ "/" ++ blk.blockName ++ " doesn't exist").toList ++ ['\n'] ↔
      file ≠ none := by
  unfold blockInfoCli
  rw [session]
  cases file with
  | none => simp [Session.good, Session.unlock, errorText, plain]
  | some js => simp [Session.good, Session.unlock, infoText, plain]

/-- Whatever requests there were, the list has each block that `info` finds, once, and no
other. -/
theorem list_agrees (json : JsonResponseFormat → Json.Layout) {prio : Prio}
    (run : Relation.ReflTransGen VolumeStep ⟨∅, prio⟩ v) (blk : BlockListCli) (env : ListEnv)
    (dir : MetaDir v env.entries) (plain : blk.jsonResp.given = false)
    (session : env.session = .good) (opened : env.openErr = none) :
    (readList (blockListCli json blk env).out).Nodup ∧
      ∀ (info : BlockInfoCli) (infoEnv : InfoEnv), info.jsonResp.given = false →
        infoEnv.session = .good → (info.blockName ∈ readList (blockListCli json blk env).out ↔
          blockInfoCli json info infoEnv (v.metas.lookup info.blockName) ≠
            ("block " ++ info.volume ++ "/" ++ info.blockName ++ " doesn't exist").toList ++
              ['\n']) := by
  have named : NamesAccepted v := run_accepted (fun n mem => absurd mem (AList.notMem_empty n)) run
  have blocks := block_names dir named
  have lines : ∀ n ∈ env.entries.filter isBlockName, '\n' ∉ n.toList := by
    intro n mem newline
    exact absurd (name_chars (named n ((blocks n).mp mem)).1 newline) (by decide)
  have nil : env.entries.filter isBlockName ≠ ["*Nil*"] := by
    intro only
    have mem : "*Nil*" ∈ v.metas := (blocks _).mp (only ▸ List.mem_singleton_self _)
    exact absurd (named _ mem).1 (by decide)
  have shown : readList (blockListCli json blk env).out = env.entries.filter isBlockName := by
    rw [← read_fileList lines nil]
    unfold blockListCli blockListFormat
    rw [session, opened, plain]
    dsimp only [Session.good, Session.unlock]
    rw [if_neg Bool.false_ne_true, if_pos rfl]
    cases env.entries.filter isBlockName with
    | nil => decide
    | cons n rest => rfl
  rw [shown]
  refine ⟨dir.nodup.filter _, fun info infoEnv infoPlain infoSession => ?_⟩
  rw [blocks, info_missing json infoPlain infoSession, ← AList.lookup_isSome,
    Option.isSome_iff_ne_none]

end Shown

section Sample

def oneBlock : VolumeMeta where
  metas := VolumeMeta.put ⟨∅, fun _ => none⟩ "block"
    (metaAfter none (blockCreateCli oneHost (createSampleEnv []) none).evs)
  prio := fun _ => none

theorem oneBlock_keys : oneBlock.metas.keys = ["block"] := by decide +kernel

theorem oneBlock_dir : MetaDir oneBlock [".", "..", "block", "meta.lock"] where
  nodup := by decide
  holds n mem := by
    rw [AList.mem_keys, oneBlock_keys] at mem
    rw [List.mem_singleton.mp mem]
    decide
  only n mem := by
    rw [AList.mem_keys, oneBlock_keys]
    revert n
    decide

theorem oneBlock_run : Relation.ReflTransGen VolumeStep ⟨∅, fun _ => none⟩ oneBlock :=
  .single (.took (.create oneHost (createSampleEnv [])) _ _ (by decide) (by decide)
    ⟨Nat.one_pos, fun _ => rfl, List.prefix_refl _⟩)

theorem list_agrees_sample :
    "block" ∈ readList (blockListCli (fun _ => .plain) ⟨"vol", .none⟩
        ⟨.good, none, [".", "..", "block", "meta.lock"]⟩).out ↔
      blockInfoCli (fun _ => .plain) ⟨"block", "vol", .none⟩ ⟨.good, 0, ""⟩
        (oneBlock.metas.lookup "block") ≠
          ("block " ++ "vol" ++ "/" ++ "block" ++ " doesn't exist").toList ++ ['\n'] :=
  (list_agrees (fun _ => .plain) oneBlock_run ⟨"vol", .none⟩
    ⟨.good, none, [".", "..", "block", "meta.lock"]⟩ oneBlock_dir rfl rfl rfl).2
    ⟨"block", "vol", .none⟩ ⟨.good, 0, ""⟩ rfl rfl

end Sample

end GlusterBlock
