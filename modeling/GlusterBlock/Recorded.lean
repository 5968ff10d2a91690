import GlusterBlock.JournalReplay
import GlusterBlock.Traces

/-! What a metafile records of a block besides its hosts, and which requests change
it. The workers write about their hosts only, and every request behind the create
has one other kind of line. -/
namespace GlusterBlock

section Fields

/-- A field that one kind of line sets changes with those lines only. -/
theorem replay_field {α : Type} (field : MetaInfo → α) (pick : MetaLine → Option α)
    (parse : ∀ info, field (blockParseRSstatus info) = field info)
    (step : ∀ info l, field (stuff info l) = (pick l).getD (field info)) (js ms : Journal) :
    field (replay (js ++ ms)) = (ms.filterMap pick).getLast?.getD (field (replay js)) := by
  unfold replay
  rw [parse, parse, List.foldl_append, foldl_last field pick step]
  rfl

def haOf? : MetaLine → Option Nat
  | .ha n => some n
  | _ => none

def passwdOf? : MetaLine → Option String
  | .passwd p => some p
  | _ => none

def gbidOf? : MetaLine → Option String
  | .gbid g => some g
  | _ => none

def prioPathOf? : MetaLine → Option Addr
  | .prioPath a => some a
  | _ => none

theorem mpath_append (js ms : Journal) :
    (replay (js ++ ms)).mpath = (ms.filterMap haOf?).getLast?.getD (replay js).mpath :=
  replay_field MetaInfo.mpath haOf? (fun _ => rfl) (fun _ l => by cases l <;> rfl) js ms

theorem size_append (js ms : Journal) :
    (replay (js ++ ms)).size = (ms.filterMap sizeOf?).getLast?.getD (replay js).size :=
  replay_field MetaInfo.size sizeOf? (fun _ => rfl) (fun _ l => by cases l <;> rfl) js ms

theorem passwd_append (js ms : Journal) :
    (replay (js ++ ms)).passwd = (ms.filterMap passwdOf?).getLast?.getD (replay js).passwd :=
  replay_field MetaInfo.passwd passwdOf? (fun _ => rfl) (fun _ l => by cases l <;> rfl) js ms

theorem gbid_append (js ms : Journal) :
    (replay (js ++ ms)).gbid = (ms.filterMap gbidOf?).getLast?.getD (replay js).gbid :=
  replay_field MetaInfo.gbid gbidOf? (fun _ => rfl) (fun _ l => by cases l <;> rfl) js ms

theorem no_pick {α : Type} {pick : MetaLine → Option α} {ms : Journal}
    (none : ∀ l ∈ ms, pick l = none) : ms.filterMap pick = [] :=
  List.filterMap_eq_nil_iff.mpr none

end Fields

section Lines

def MetaLine.isHost : MetaLine → Bool
  | .host _ _ _ => true
  | _ => false

/-- A worker writes about its host, and so does every pool of workers. -/
theorem runWorkers_lines {jobs : List (RemoteJob × JobOutcome)} {sched : List Nat} {l : MetaLine}
    (h : l ∈ written (runPool (runWorkers jobs) sched)) : l.isHost = true := by
  obtain ⟨_, _, _, rfl⟩ := runWorkers_line h
  rfl

/-- Lines about hosts change the list and nothing else. -/
theorem foldl_hosts (ms : Journal) (plain : ∀ l ∈ ms, l.isHost = true) (info : MetaInfo) :
    ∃ list, ms.foldl stuff info = { info with list := list } := by
  induction ms generalizing info with
  | nil => exact ⟨info.list, rfl⟩
  | cons l ms ih =>
    obtain ⟨list, rest⟩ := ih (fun l' h => plain l' (List.mem_cons_of_mem _ h)) (stuff info l)
    have host := plain l List.mem_cons_self
    refine ⟨list, rest.trans ?_⟩
    cases l <;> first | rfl | cases host

/-- What a create records of the block. -/
structure RecordsCreate (blk : BlockCreateCli) (env : CreateEnv) (resultCaps : Caps)
    (info : MetaInfo) : Prop where
  volume : info.volume = blk.volume
  gbid : info.gbid = env.gbid
  size : info.size = createSize blk env
  rbSize : info.rbSize = blk.rbSize
  blkSize : info.blkSize = blk.blkSize
  ioTimeout : info.ioTimeout = if resultCaps .createIoTimeout then 0 else blk.ioTimeout
  prioPath : info.prioPath = createPrioPath env resultCaps
  passwd : info.passwd = if blk.authMode then env.passwd else ""

/-- The workers write about their hosts only. -/
theorem audited_info (blk : BlockCreateCli) (env : CreateEnv) (resultCaps : Caps) :
    RecordsCreate blk env resultCaps (replay (auditedLines blk env resultCaps)) := by
  obtain ⟨list, workers⟩ := foldl_hosts (written (createEvs (createHosts blk)
    (createObj blk env resultCaps) env.jobs env.sched)) (fun l hl => runWorkers_lines hl)
    ((preparedLines blk env resultCaps).foldl stuff {})
  have shown : replay (auditedLines blk env resultCaps) = blockParseRSstatus
      { (preparedLines blk env resultCaps).foldl stuff {} with list := list } := by
    rw [replay, auditedLines, List.foldl_append, workers]
  rw [shown]
  simp only [preparedLines, headerLines, entryLines, blockParseRSstatus]
  constructor <;> split_ifs <;> first | rfl | exact Eq.symm ‹_›

theorem cleanUp_lines {js : Journal} {blockname : String} {forcedel unlink : Bool}
    {env : CleanUpEnv} {l : MetaLine}
    (h : l ∈ written (glusterBlockCleanUp js blockname forcedel unlink env).act.evs) :
    l.isHost = true ∨ ∃ state, l = .entryDelete state := by
  rw [cleanUp_evs, written_append] at h
  rcases List.mem_append.mp h with nodes | files
  · exact .inl (runWorkers_lines nodes)
  · split at files
    · exact .inr (deleteFiles_lines files)
    · cases files

theorem trailer_lines {blk : BlockReplaceCli} {info : MetaInfo} {resp : ReplaceResp}
    {env : ReplaceEnv} {l : MetaLine} (h : l ∈ written (replaceTrailer blk info resp env).evs) :
    l.isHost = true ∨ ∃ addr, l = .prioPath addr := by
  unfold replaceTrailer at h
  rcases next_lines h with forced | prio
  · split at forced
    · rw [List.mem_singleton.mp (metaUpdate_lines forced)]
      exact .inl rfl
    · cases forced
  · split at prio
    · exact .inr ⟨_, List.mem_singleton.mp (metaUpdate_lines prio)⟩
    · cases prio

end Lines

/-- The lines of a request on an existing block that are about no host. -/
def Request.records : Request → MetaLine → Prop
  | create _ _ => fun _ => False
  | delete _ _ => fun l => ∃ state, l = .entryDelete state
  | modify _ _ => fun l => ∃ passwd, l = .passwd passwd
  | modifySize blk _ => fun l => l = .size blk.size
  | replace _ _ => fun l => ∃ addr, l = .prioPath addr

theorem outcome_lines {req : Request} {js : Journal} (finds : req.session.accessErr = none)
    {l : MetaLine} (h : l ∈ written (req.outcome (some js)).evs) :
    l.isHost = true ∨ req.records l := by
  have nothing : ∀ {es : List Ev}, es = [] → l ∈ written es → l.isHost = true ∨ req.records l := by
    rintro es rfl absurd
    cases absurd
  cases req with
  | create blk env =>
    rcases create_evs blk env (fun _ : (some js : Metafile) ≠ none => finds) with none | ⟨free, _⟩
    · exact nothing none h
    · cases free
  | delete blk env =>
    rcases delete_evs blk env (some js) with none | ⟨js', same, evs⟩
    · exact nothing none h
    · change l ∈ written (blockDeleteCli blk env (some js)).evs at h
      rw [evs] at h
      exact cleanUp_lines h
  | modify blk env =>
    rcases modify_evs blk env (some js) with none | ⟨js', same, evs⟩
    · exact nothing none h
    · change l ∈ written (blockModifyCli blk env (some js)).evs at h
      rw [evs] at h
      obtain ⟨lines, he, hl⟩ := mem_written.mp h
      have part := (modifyBody_cut blk env js').subset he
      have within : ∀ {es : List Ev}, Ev.write lines ∈ es → l ∈ written es :=
        fun he => mem_written.mpr ⟨lines, he, hl⟩
      unfold ModifyParts.all modifyParts at part
      simp only [List.mem_append] at part
      rcases part with record | tried | clear | undo
      · have line := within record
        unfold modifyRecord at line
        split at line
        · cases line
        · exact .inr ⟨_, List.mem_singleton.mp (metaUpdate_lines line)⟩
      · exact .inl (runWorkers_lines (within tried))
      · have line := within clear
        unfold modifyClear at line
        split at line
        · exact .inr ⟨_, List.mem_singleton.mp (metaUpdate_lines line)⟩
        · cases line
      · exact .inl (runWorkers_lines (within undo))
  | modifySize blk env =>
    rcases modifySize_evs blk env (some js) with none | ⟨js', same, _, evs⟩
    · exact nothing none h
    · change l ∈ written (blockModifySizeCli blk env (some js)).evs at h
      rw [evs] at h
      rcases modifySizeBody_evs blk env js' with none | ⟨_, body⟩
      · exact nothing none h
      · rw [body, written_append] at h
        rcases List.mem_append.mp h with record | workers
        · exact .inr (List.mem_singleton.mp (metaUpdate_lines record))
        · split at workers
          · exact .inl (runWorkers_lines workers)
          · cases workers
  | replace blk env =>
    rcases replace_evs blk env (some js) with none | ⟨js', checks, same, _, run⟩
    · exact nothing none h
    · change l ∈ written (blockReplaceCli blk env (some js)).evs at h
      rcases run with ⟨_, evs⟩ | ⟨resp, _, _, evs⟩
      · rw [evs] at h
        exact .inl (runWorkers_lines h)
      · rw [evs, written_append] at h
        rcases List.mem_append.mp h with pool | trailer
        · exact .inl (runWorkers_lines pool)
        · exact trailer_lines trailer

theorem step_lines {N : Type} {M : NodeModel N} {req : Request} {evs : List Ev} {w w' : World N}
    (step : Step M req evs w w') {js : Journal} (there : w.file = some js) {l : MetaLine}
    (h : l ∈ written evs) : l.isHost = true ∨ req.records l := by
  obtain ⟨lines, he, hl⟩ := mem_written.mp h
  have cut := step.takes.cut
  rw [there] at cut
  exact outcome_lines (step.takes.finds (by simp [there]))
    (mem_written.mpr ⟨lines, cut.subset he, hl⟩)

end GlusterBlock
