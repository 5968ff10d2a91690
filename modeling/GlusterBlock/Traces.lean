import GlusterBlock.Runs

/-! What the requests do, host by host. Every request is refused without an effect
or runs one worker a host in each of its pools, and a create on a free name is the
only one that may give a host several workers. -/
namespace GlusterBlock

open Trail

section Updates

theorem metaUpdate_keep (res : UpdRes) (lines : Journal) :
    Ev.unlinkMeta ∉ (metaUpdate res lines).evs := by
  cases res <;> simp [metaUpdate]

theorem metaUpdate_host {lines : Journal} (plain : ∀ l ∈ lines, hostRecord l = none)
    (res : UpdRes) (addr : Addr) : hostEvs addr (metaUpdate res lines).evs = [] := by
  have away : hostEvs addr [.write lines] = [] := by
    refine List.filter_eq_nil_iff.mpr (fun e he => ?_)
    rw [List.mem_singleton.mp he]
    simp only [Ev.isAbout, List.any_eq_true, not_exists, not_and]
    intro l hl
    simp [plain l hl]
  cases res with
  | notOpened => rfl
  | notWritten => rfl
  | ok => exact away
  | notClosed => exact away

end Updates

section Create

variable (blk : BlockCreateCli) (env : CreateEnv)

/-- A create does something on a free name only. -/
theorem create_evs {file : Metafile} (finds : file ≠ none → env.session.accessErr = none) :
    (blockCreateCli blk env file).evs = [] ∨ file = none ∧ ∃ resultCaps,
      (blockCreateCli blk env file).evs = (createBody blk env resultCaps none).1.act.evs := by
  unfold blockCreateCli
  dsimp only
  split
  · exact .inl rfl
  · split
    · exact .inl rfl
    · exact .inl rfl
    · rename_i resultCaps _ _
      cases file with
      | none =>
        refine .inr ⟨rfl, resultCaps, ?_⟩
        simp
      | some js =>
        rw [finds (by simp)]
        exact .inl rfl

/-- What an unfinished create does is about no host. -/
theorem prepare_host (resultCaps : Caps) (addr : Addr) :
    hostEvs addr (createPrepare blk env resultCaps).evs = [] := by
  have next : ∀ {a b : Act}, hostEvs addr a.evs = [] → hostEvs addr b.evs = [] →
      hostEvs addr (a.next b).evs = [] := by
    intro a b ha hb
    rcases RemoteJob.next_evs addr a b with all | first
    · rw [all, ha, hb, List.nil_append]
    · rw [first, ha]
  refine next (metaUpdate_host (header_plain blk _ _) _ addr) ?_
  split
  · split <;> rfl
  · refine next (metaUpdate_host (entry_plain blk resultCaps _) _ addr) ?_
    split
    · refine metaUpdate_host (fun l hl => ?_) _ addr
      exact List.mem_singleton.mp hl ▸ rfl
    · rfl

theorem prepare_last (resultCaps : Caps) :
    Ev.unlinkMeta ∉ (createPrepare blk env resultCaps).evs.dropLast := by
  unfold createPrepare
  cases env.header with
  | notOpened => simp [metaUpdate, Act.next]
  | notWritten => simp [metaUpdate, Act.next]
  | notClosed => simp [metaUpdate, Act.next]
  | ok =>
    cases env.createEntry with
    | failed errno nonzero errMsg unlinkedMeta => cases unlinkedMeta <;> simp [Act.next]
    | created stSize =>
      cases env.entry <;> cases blk.authMode <;> cases env.password <;>
        simp [metaUpdate, Act.next]

/-- The effects of the rollback, when there is one. -/
def rollbackEvs (blk : BlockCreateCli) (env : CreateEnv) (js : Journal) : List Ev :=
  if blk.mpath = successcnt (replay js) then []
  else (glusterBlockCleanUp js blk.blockName false true env.cleanUp).act.evs

theorem audit_evs (js : Journal) :
    (glusterBlockAuditRequest js blk env.cleanUp).act.evs = rollbackEvs blk env js := by
  unfold glusterBlockAuditRequest rollbackEvs
  split <;> rfl

/-- The first updates fail, or the workers and the audit follow on them. -/
theorem createBody_evs (resultCaps : Caps) :
    (createBody blk env resultCaps none).1.act.evs = (createPrepare blk env resultCaps).evs ∨
      env.prepared blk ∧ (createBody blk env resultCaps none).1.act.evs =
        (createPrepare blk env resultCaps).evs ++
          createEvs (createHosts blk) (createObj blk env resultCaps) env.jobs env.sched ++
            rollbackEvs blk env (auditedLines blk env resultCaps) := by
  by_cases prepared : env.prepared blk
  · refine .inr ⟨prepared, ?_⟩
    rw [(createBody_eq blk env resultCaps prepared).1]
    dsimp only
    rw [audit_evs]
  · exact .inl (congrArg Act.evs (createBody_failed blk env resultCaps prepared).1)

end Create

/-- A request on an existing block gets to its metafile or ends with an error. -/
theorem access_cases (s : Session) (volume blockName : String) (file : Metafile) :
    (∃ e, s.access volume blockName file = .error e) ∨
      ∃ js, file = some js ∧ s.access volume blockName file = .ok js := by
  unfold Session.access
  cases s.accessErr with
  | some errno => exact .inl ⟨_, rfl⟩
  | none =>
    cases file with
    | none => exact .inl ⟨_, rfl⟩
    | some js =>
      cases s.readMeta with
      | false => exact .inl ⟨_, rfl⟩
      | true => exact .inr ⟨js, rfl, rfl⟩

section Delete

variable (blk : BlockDeleteCli) (env : DeleteEnv)

theorem delete_evs (file : Metafile) :
    (blockDeleteCli blk env file).evs = [] ∨ ∃ js, file = some js ∧
      (blockDeleteCli blk env file).evs =
        (glusterBlockCleanUp js blk.blockName blk.force blk.unlink env.cleanUp).act.evs := by
  unfold blockDeleteCli
  dsimp only
  split
  · exact .inl rfl
  · rcases access_cases env.session blk.volume blk.blockName file with ⟨e, failed⟩ | ⟨js, rfl, ok⟩
    · rw [failed]
      exact .inl rfl
    · rw [ok]
      dsimp only
      split
      · exact .inr ⟨js, rfl, rfl⟩
      · split
        · exact .inl rfl
        · split
          · exact .inl rfl
          · exact .inr ⟨js, rfl, rfl⟩

end Delete

section Modify

variable (blk : BlockModifyCli) (env : ModifyEnv)

/-- The effects of one round of modify workers. -/
def modifyEvs (js : Journal) (mobj : BlockModify) (jobs : Addr → JobOutcome) (sched : List Nat) :
    List Ev :=
  runPool (hostWorkers (glusterBlockModifyArgsFill mobj.authMode (replay js))
    (fun a => glusterBlockModifyRemote a mobj) jobs) sched

theorem modifyArgsFill_eq (authMode : Bool) (js : Journal) :
    glusterBlockModifyArgsFill authMode (replay js) =
      (hosts js).filter (fun a => modifySelects authMode (latest js a)) :=
  filter_replay js (modifySelects authMode)

theorem modifyArgsFill_nodup (authMode : Bool) (js : Journal) :
    (glusterBlockModifyArgsFill authMode (replay js)).Nodup :=
  modifyArgsFill_eq authMode js ▸ (hosts_nodup js).filter _

theorem mem_modifyArgsFill {authMode : Bool} {js : Journal} {addr : Addr} :
    addr ∈ glusterBlockModifyArgsFill authMode (replay js) ↔
      addr ∈ hosts js ∧ modifySelects authMode (latest js addr) = true := by
  rw [modifyArgsFill_eq, List.mem_filter]

theorem modifySelects_valid {authMode : Bool} {status : Option MetaStatus}
    (h : modifySelects authMode status = true) : status.any MetaStatus.isValid = true := by
  cases status with
  | none => cases h
  | some s => cases s <;> first | rfl | cases h

theorem modifyEvs_host (js : Journal) (mobj : BlockModify) (jobs : Addr → JobOutcome)
    (sched : List Nat) (addr : Addr) :
    hostEvs addr (modifyEvs js mobj jobs sched) =
      if addr ∈ glusterBlockModifyArgsFill mobj.authMode (replay js) then
        hostEvs addr ((glusterBlockModifyRemote addr mobj).run (jobs addr)).evs
      else [] :=
  hostWorkers_host (modifyArgsFill_nodup mobj.authMode js) (fun _ => rfl) addr

/-- The effects of a modify: the recorded password, a round of workers, and behind
a failure the cleared password and a round the other way. -/
structure ModifyParts where
  record : List Ev
  tried : List Ev
  clear : List Ev
  undo : List Ev

/-- The clearing of the recorded password behind a failed enable. -/
def modifyClear (blk : BlockModifyCli) (env : ModifyEnv) : Act :=
  if blk.authMode then metaUpdate env.clearPassword [.passwd ""] else .done 0

def modifyParts (blk : BlockModifyCli) (js : Journal) (env : ModifyEnv) : ModifyParts :=
  let record := (modifyRecord blk (replay js) env).evs
  let mobj := modifyObj blk (replay js) env
  let tried := modifyEvs js mobj env.jobs env.sched
  let clear := (modifyClear blk env).evs
  { record := record, tried := tried, clear := clear,
    undo := modifyEvs (js ++ written record ++ written tried ++ written clear)
      { mobj with authMode := !mobj.authMode } env.undoJobs env.undoSched }

def ModifyParts.all (parts : ModifyParts) : List Ev :=
  parts.record ++ (parts.tried ++ (parts.clear ++ parts.undo))

def modifyTriedRet (blk : BlockModifyCli) (js : Journal) (env : ModifyEnv) : Int :=
  (glusterBlockModifyRemoteAsync (replay js) (modifyObj blk (replay js) env) env.jobs
    env.sched).act.ret

theorem modifyUndo_evs (mobj : BlockModify) (js : Journal) (tried : AsyncResult) :
    (modifyUndo blk mobj js env tried).evs = (modifyClear blk env).evs ++
      if (modifyClear blk env).ret ≠ 0 then []
      else modifyEvs (js ++ written (modifyClear blk env).evs)
        { mobj with authMode := !mobj.authMode } env.undoJobs env.undoSched := by
  have clear : (if blk.authMode then metaUpdate env.clearPassword [.passwd ""] else .done 0) =
      modifyClear blk env := rfl
  unfold modifyUndo
  dsimp only
  rw [clear]
  by_cases failed : (modifyClear blk env).ret ≠ 0
  · rw [if_pos failed, if_pos failed]
    exact (List.append_nil _).symm
  · rw [if_neg failed, if_neg failed]
    rfl

theorem modifyBody_evs (js : Journal) :
    (modifyBody blk js env).evs = (modifyParts blk js env).record ++
      if (modifyRecord blk (replay js) env).ret ≠ 0 then []
      else (modifyParts blk js env).tried ++
        if modifyTriedRet blk js env = 0 then []
        else (modifyParts blk js env).clear ++
          if (modifyClear blk env).ret ≠ 0 then [] else (modifyParts blk js env).undo := by
  unfold modifyBody
  dsimp only
  by_cases failed : (modifyRecord blk (replay js) env).ret ≠ 0
  · rw [if_pos failed, if_pos failed]
    exact (List.append_nil _).symm
  · rw [if_neg failed, if_neg failed]
    by_cases zero : modifyTriedRet blk js env = 0
    · rw [if_pos zero, List.append_nil]
      exact congrArg ModifyResult.evs (if_pos zero)
    · rw [if_neg zero, ← List.append_assoc]
      refine (congrArg ModifyResult.evs (if_neg zero)).trans ?_
      refine congrArg (List.append _) ?_
      exact modifyUndo_evs blk env _ _ _

/-- They are the beginning of all the parts. -/
theorem modifyBody_cut (js : Journal) :
    (modifyBody blk js env).evs <+: (modifyParts blk js env).all := by
  have more : ∀ {l a b : List Ev}, a <+: b → l ++ a <+: l ++ b := fun h =>
    (List.prefix_append_right_inj _).mpr h
  rw [modifyBody_evs]
  refine more ?_
  split
  · exact List.nil_prefix
  · refine more ?_
    split
    · exact List.nil_prefix
    · refine more ?_
      split
      · exact List.nil_prefix
      · exact List.prefix_refl _

theorem modify_evs (file : Metafile) :
    (blockModifyCli blk env file).evs = [] ∨ ∃ js, file = some js ∧
      (blockModifyCli blk env file).evs = (modifyBody blk js env).evs := by
  unfold blockModifyCli
  dsimp only
  split
  · exact .inl rfl
  · rcases access_cases env.session blk.volume blk.blockName file with ⟨e, failed⟩ | ⟨js, rfl, ok⟩
    · rw [failed]
      exact .inl rfl
    · rw [ok]
      dsimp only
      split
      · exact .inl rfl
      · split
        · exact .inl rfl
        · exact .inr ⟨js, rfl, rfl⟩

end Modify

section ModifySize

variable (blk : BlockModifySizeCli) (env : ModifySizeEnv)

/-- The hosts a resize goes to. -/
def sizeArgs (js : Journal) (size : Nat) : List Addr :=
  (hosts js).filter (fun a =>
    !((replay js).size == size && latest js a == some .rsSuccess) && isValidAt js a)

theorem modifySizeArgsFill_eq (js : Journal) (mobj : BlockModifySize) :
    (glusterBlockModifySizeArgsFill mobj (replay js)).1 = sizeArgs js mobj.size :=
  filter_replay js (fun status =>
    !((replay js).size == mobj.size && status == some .rsSuccess) &&
      status.any MetaStatus.isValid)

theorem sizeArgs_nodup (js : Journal) (size : Nat) : (sizeArgs js size).Nodup :=
  (hosts_nodup js).filter _

/-- The effects of the resize workers. -/
def modifySizeEvs (js : Journal) (mobj : BlockModifySize) (env : ModifySizeEnv) : List Ev :=
  runPool (hostWorkers (sizeArgs js mobj.size) (fun a => glusterBlockModifySizeRemote a mobj)
    env.jobs) env.sched

theorem modifySizeEvs_host (js : Journal) (mobj : BlockModifySize) (addr : Addr) :
    hostEvs addr (modifySizeEvs js mobj env) =
      if addr ∈ sizeArgs js mobj.size then
        hostEvs addr ((glusterBlockModifySizeRemote addr mobj).run (env.jobs addr)).evs
      else [] :=
  hostWorkers_host (sizeArgs_nodup js mobj.size) (fun _ => rfl) addr

/-- A resize records the size first, and its workers follow when that succeeded. -/
theorem modifySizeBody_evs (js : Journal) :
    (modifySizeBody blk js env).evs = [] ∨
      env.resizeEntry = none ∧ (modifySizeBody blk js env).evs =
        (metaUpdate env.sizeUpdate [.size blk.size]).evs ++
          if env.sizeUpdate = .ok then modifySizeEvs js (modifySizeObj blk (replay js)) env
          else [] := by
  unfold modifySizeBody
  dsimp only
  cases env.resizeEntry with
  | some msg => exact .inl rfl
  | none =>
    refine .inr ⟨rfl, ?_⟩
    have workers : runPool (modifySizeWorkers (glusterBlockModifySizeArgsFill
        (modifySizeObj blk (replay js)) (replay js)).1 (modifySizeObj blk (replay js)) env.jobs)
          env.sched = modifySizeEvs js (modifySizeObj blk (replay js)) env := by
      rw [modifySizeArgsFill_eq]
      rfl
    cases env.sizeUpdate with
    | ok => simpa [metaUpdate] using workers
    | _ => simp [metaUpdate]

theorem modifySize_evs (file : Metafile) :
    (blockModifySizeCli blk env file).evs = [] ∨ ∃ js, file = some js ∧
      sizeRefusal blk (replay js) = none ∧
        (blockModifySizeCli blk env file).evs = (modifySizeBody blk js env).evs := by
  unfold blockModifySizeCli
  dsimp only
  split
  · exact .inl rfl
  · rcases access_cases env.session blk.volume blk.blockName file with ⟨e, failed⟩ | ⟨js, rfl, ok⟩
    · rw [failed]
      exact .inl rfl
    · rw [ok]
      dsimp only
      split
      · exact .inl rfl
      · rename_i fits
        split
        · exact .inl rfl
        · split
          · exact .inl rfl
          · exact .inr ⟨js, rfl, fits, rfl⟩

end ModifySize

section Replace

variable (blk : BlockReplaceCli) (env : ReplaceEnv)

theorem replaceOthers_eq (js : Journal) (oldNode : Addr) :
    replaceOthers (replay js) oldNode = (validHosts js).filter (· != oldNode) := by
  rw [replaceOthers, validHosts, List.filter_map, List.filter_filter]
  rfl

theorem replaceOthers_nodup (js : Journal) (oldNode : Addr) :
    (replaceOthers (replay js) oldNode).Nodup :=
  replaceOthers_eq js oldNode ▸ (validHosts_nodup js).filter _

theorem mem_replaceOthers {js : Journal} {oldNode addr : Addr} :
    addr ∈ replaceOthers (replay js) oldNode ↔ isValidAt js addr = true ∧ addr ≠ oldNode := by
  rw [replaceOthers_eq, List.mem_filter, mem_validHosts, bne_iff_ne]

/-- The hosts whose portals are replaced. -/
theorem replaceSlots_hosts (info : MetaInfo) (oldNode : Addr) :
    (replaceSlots info oldNode).filterMap id =
      (replaceOthers info oldNode).take (info.mpath - 1) := by
  unfold replaceSlots
  generalize replaceOthers info oldNode = others
  generalize info.mpath - 1 = n
  induction n with
  | zero => rfl
  | succ n ih =>
    rw [List.range_succ, List.map_append, List.filterMap_append, ih, List.take_add_one]
    cases hn : others[n]? <;> simp [hn]

/-- The workers of a replace with their outcomes. -/
def replaceWork (blk : BlockReplaceCli) (info : MetaInfo) (checks : ReplaceChecks)
    (env : ReplaceEnv) : List (RemoteJob × JobOutcome) :=
  (if checks.cCheck then []
    else [(glusterBlockCreateRemote blk.newNode (replaceCobj blk info env.volServer),
      env.create)]) ++
  (if checks.rCheck then
      ((replaceOthers info blk.oldNode).take (info.mpath - 1)).map (fun a =>
        (glusterBlockReplacePortalRemote a (replaceRobj blk info), env.portals a))
    else []) ++
  if checks.dCheck then []
  else [(glusterBlockDeleteRemote blk.oldNode { blockName := blk.blockName, gbid := info.gbid },
    env.delete)]

theorem replaceJobs_workers (info : MetaInfo) (checks : ReplaceChecks) :
    (replaceJobs blk info checks env).workers = runWorkers (replaceWork blk info checks env) := by
  unfold ReplaceJobs.workers replaceJobs replaceWork
  rw [replaceSlots_hosts]
  have portals : ∀ list : List Addr,
      (list.map (fun a => (a, (glusterBlockReplacePortalRemote a (replaceRobj blk info)).run
        (env.portals a)))).map Prod.snd =
      runWorkers (list.map (fun a =>
        (glusterBlockReplacePortalRemote a (replaceRobj blk info), env.portals a))) := by
    intro list
    simp [runWorkers]
  cases checks.cCheck <;> cases checks.rCheck <;> cases checks.dCheck <;>
    simp [portals, runWorkers]

/-- The checks that a replace gets past. -/
theorem replaceChecks_ok {info : MetaInfo} {checks : ReplaceChecks}
    (ok : replaceChecks blk info = .ok checks) :
    blockGetHostStatus info (some blk.oldNode) ≠ none ∧
      checks.cCheck = isConfigured (blockGetHostStatus info (some blk.newNode)) ∧
      checks.dCheck = (blockGetHostStatus info (some blk.oldNode) == some .cleanupSuccess) ∧
      (checks.cCheck = false →
        (blockGetHostStatus info (some blk.newNode)).any MetaStatus.isValid = false) := by
  unfold replaceChecks at ok
  dsimp only at ok
  split at ok
  · cases ok
  · rename_i known
    split at ok
    · cases ok
    · rename_i free
      split at ok
      · cases ok
      · cases ok
        refine ⟨known, rfl, rfl, fun unconfigured => ?_⟩
        dsimp only at unconfigured
        simpa [unconfigured] using free

/-- No host has two workers in a replace. -/
theorem replaceWork_distinct {js : Journal} {checks : ReplaceChecks}
    (other : blk.oldNode ≠ blk.newNode) (ok : replaceChecks blk (replay js) = .ok checks) :
    ((replaceWork blk (replay js) checks env).map (fun j => j.1.addr)).Nodup := by
  obtain ⟨_, _, _, free⟩ := replaceChecks_ok blk ok
  let portals := if checks.rCheck then
      (replaceOthers (replay js) blk.oldNode).take ((replay js).mpath - 1) else []
  have addrs : (replaceWork blk (replay js) checks env).map (fun j => j.1.addr) =
      (if checks.cCheck then [] else [blk.newNode]) ++ portals ++
        if checks.dCheck then [] else [blk.oldNode] := by
    have portal : ∀ list : List Addr, (list.map (fun a =>
        (glusterBlockReplacePortalRemote a (replaceRobj blk (replay js)), env.portals a))).map
          (fun j => j.1.addr) = list := by
      intro list
      simp [Function.comp_def, glusterBlockReplacePortalRemote]
    unfold replaceWork
    cases checks.cCheck <;> cases hr : checks.rCheck <;> cases checks.dCheck <;>
      simp [portals, hr, portal, glusterBlockCreateRemote, glusterBlockDeleteRemote]
  have within : ∀ a ∈ portals, a ∈ replaceOthers (replay js) blk.oldNode := by
    intro a ha
    cases hr : checks.rCheck with
    | false => simp [portals, hr] at ha
    | true =>
      simp only [portals, hr, if_true] at ha
      exact List.mem_of_mem_take ha
  have nodup : portals.Nodup := by
    cases hr : checks.rCheck with
    | false => simp [portals, hr]
    | true =>
      simp only [portals, hr, if_true]
      exact (replaceOthers_nodup js blk.oldNode).sublist (List.take_sublist _ _)
  have newAway : checks.cCheck = false → blk.newNode ∉ portals := by
    intro unconfigured hn
    have invalid := free unconfigured
    exact Bool.false_ne_true (invalid.symm.trans (mem_replaceOthers.mp (within _ hn)).1)
  have oldAway : ∀ a ∈ portals, ¬ a = blk.oldNode := fun a ha =>
    (mem_replaceOthers.mp (within a ha)).2
  rw [addrs]
  cases hc : checks.cCheck with
  | true =>
    cases checks.dCheck with
    | true => simp [nodup]
    | false => simpa [nodup, List.nodup_append] using oldAway
  | false =>
    have away := newAway hc
    cases checks.dCheck with
    | true => simp [nodup, away]
    | false => simpa [nodup, List.nodup_append, away, other.symm] using oldAway

/-- The effects of the workers of a replace. -/
def replacePool (blk : BlockReplaceCli) (js : Journal) (checks : ReplaceChecks)
    (env : ReplaceEnv) : List Ev :=
  runPool (runWorkers (replaceWork blk (replay js) checks env)) env.sched

/-- The worker that deletes the old node. -/
def replaceDelete (blk : BlockReplaceCli) (js : Journal) (env : ReplaceEnv) : Act :=
  (glusterBlockDeleteRemote blk.oldNode
    { blockName := blk.blockName, gbid := (replay js).gbid }).run env.delete

theorem replaceAsync_cases (js : Journal) :
    glusterBlockReplaceNodeRemoteAsync blk (replay js) env = .died [] ∨
    (∃ errCode, glusterBlockReplaceNodeRemoteAsync blk (replay js) env = .refused errCode) ∨
    ∃ checks, replaceChecks blk (replay js) = .ok checks ∧
      (glusterBlockReplaceNodeRemoteAsync blk (replay js) env = .skipped ∧
          replacePool blk js checks env = [] ∧ checks.dCheck = true ∨
        glusterBlockReplaceNodeRemoteAsync blk (replay js) env =
          .died (replacePool blk js checks env) ∨
        glusterBlockReplaceNodeRemoteAsync blk (replay js) env =
          .ran (replacePool blk js checks env)
            (collectReplace blk (replay js) checks (replaceJobs blk (replay js) checks env))) := by
  unfold glusterBlockReplaceNodeRemoteAsync
  by_cases overrun : (replaceOthers (replay js) blk.oldNode).length > (replay js).mpath
  · exact .inl (if_pos overrun)
  · rw [if_neg overrun]
    right
    cases checked : replaceChecks blk (replay js) with
    | error errCode => exact .inl ⟨errCode, rfl⟩
    | ok checks =>
      refine .inr ⟨checks, rfl, ?_⟩
      have pool : runPool (replaceJobs blk (replay js) checks env).workers env.sched =
          replacePool blk js checks env := by
        rw [replaceJobs_workers]
        rfl
      dsimp only
      rw [pool]
      by_cases nothing : (!checks.rCheck && checks.dCheck && checks.cCheck) = true
      · obtain ⟨⟨hr, hd⟩, hc⟩ : (checks.rCheck = false ∧ checks.dCheck = true) ∧
            checks.cCheck = true := by simpa using nothing
        refine .inl ⟨if_pos nothing, ?_, hd⟩
        unfold replacePool replaceWork
        rw [hr, hd, hc]
        exact weave_nil env.sched
      · rw [if_neg nothing]
        split
        · exact .inr (.inl rfl)
        · exact .inr (.inr rfl)

/-- A replace ends at its checks, or runs its workers and, unless a thread without
a host kills the daemon, the updates behind them. -/
theorem replace_evs (file : Metafile) :
    (blockReplaceCli blk env file).evs = [] ∨ ∃ js checks, file = some js ∧
      replaceChecks blk (replay js) = .ok checks ∧
      ((blockReplaceCli blk env file).reply = none ∧
          (blockReplaceCli blk env file).evs = replacePool blk js checks env ∨
        ∃ resp, resp.force = blk.force ∧
          (checks.dCheck = false → resp.dop.status = (replaceDelete blk js env).ret) ∧
          (blockReplaceCli blk env file).evs =
            replacePool blk js checks env ++ (replaceTrailer blk (replay js) resp env).evs) := by
  unfold blockReplaceCli
  dsimp only
  split
  · exact .inl rfl
  · rcases access_cases env.session blk.volume blk.blockName file with ⟨e, failed⟩ | ⟨js, rfl, ok⟩
    · rw [failed]
      exact .inl rfl
    · rw [ok]
      dsimp only
      split
      · exact .inl rfl
      · rcases replaceAsync_cases blk env js with
          died | ⟨errCode, refused⟩ | ⟨checks, checked, run⟩
        · rw [died]
          exact .inl rfl
        · rw [refused]
          exact .inl rfl
        · refine .inr ⟨js, checks, rfl, checked, ?_⟩
          rcases run with ⟨skipped, idle, done⟩ | died | ran
          · rw [skipped]
            refine .inr ⟨allSkipped blk, rfl, fun pending => ?_, ?_⟩
            · exact absurd (pending.symm.trans done) Bool.false_ne_true
            · rw [idle]
              rfl
          · rw [died]
            exact .inl ⟨rfl, rfl⟩
          · rw [ran]
            refine .inr ⟨_, rfl, fun pending => ?_, rfl⟩
            simp [collectReplace, replaceJobs, pending, oneOp, replaceDelete]

end Replace

section Removal

theorem last_append {es fs : List Ev} (kept : Ev.unlinkMeta ∉ es)
    (last : Ev.unlinkMeta ∉ fs.dropLast) : Ev.unlinkMeta ∉ (es ++ fs).dropLast := by
  cases fs with
  | nil =>
    rw [List.append_nil]
    exact fun h => kept (List.dropLast_subset es h)
  | cons f fs =>
    rw [List.dropLast_append_cons]
    exact fun h => (List.mem_append.mp h).elim kept last

theorem cleanUp_last (js : Journal) (blockname : String) (forcedel unlink : Bool)
    (env : CleanUpEnv) :
    Ev.unlinkMeta ∉ (glusterBlockCleanUp js blockname forcedel unlink env).act.evs.dropLast := by
  rw [cleanUp_evs]
  refine last_append hostWorkers_keep ?_
  split
  · rcases deleteFiles_cases unlink env with ⟨_, _, evs⟩ | ⟨_, _, kept⟩
    · rw [evs]
      decide
    · exact fun h => kept (List.dropLast_subset _ h)
  · exact List.not_mem_nil

theorem modify_keep (blk : BlockModifyCli) (js : Journal) (env : ModifyEnv) :
    Ev.unlinkMeta ∉ (modifyBody blk js env).evs := by
  intro h
  have parts := (modifyBody_cut blk env js).subset h
  unfold ModifyParts.all modifyParts at parts
  simp only [List.mem_append] at parts
  rcases parts with record | tried | clear | undo
  · unfold modifyRecord at record
    split at record
    · cases record
    · exact metaUpdate_keep _ _ record
  · exact hostWorkers_keep tried
  · unfold modifyClear at clear
    split at clear
    · exact metaUpdate_keep _ _ clear
    · cases clear
  · exact hostWorkers_keep undo

theorem modifySize_keep (blk : BlockModifySizeCli) (js : Journal) (env : ModifySizeEnv) :
    Ev.unlinkMeta ∉ (modifySizeBody blk js env).evs := by
  rcases modifySizeBody_evs blk env js with none | ⟨_, evs⟩
  · rw [none]
    exact List.not_mem_nil
  · rw [evs]
    intro h
    rcases List.mem_append.mp h with record | workers
    · exact metaUpdate_keep _ _ record
    · split at workers
      · exact hostWorkers_keep workers
      · cases workers

theorem trailer_keep (blk : BlockReplaceCli) (info : MetaInfo) (resp : ReplaceResp)
    (env : ReplaceEnv) : Ev.unlinkMeta ∉ (replaceTrailer blk info resp env).evs := by
  intro h
  rcases mem_next h with forced | prio
  · split at forced
    · exact metaUpdate_keep _ _ forced
    · cases forced
  · split at prio
    · exact metaUpdate_keep _ _ prio
    · cases prio

/-- Whatever the request, the metafile is removed at the very end or not at all. -/
theorem outcome_last (req : Request) (file : Metafile)
    (finds : file ≠ none → req.session.accessErr = none) :
    Ev.unlinkMeta ∉ (req.outcome file).evs.dropLast := by
  have kept : ∀ {es : List Ev}, Ev.unlinkMeta ∉ es → Ev.unlinkMeta ∉ es.dropLast :=
    fun h hd => h (List.dropLast_subset _ hd)
  have nothing : ∀ {es : List Ev}, es = [] → Ev.unlinkMeta ∉ es.dropLast := by
    rintro es rfl
    exact List.not_mem_nil
  cases req with
  | create blk env =>
    rcases create_evs blk env finds with none | ⟨rfl, resultCaps, body⟩
    · exact nothing none
    · change Ev.unlinkMeta ∉ (blockCreateCli blk env Option.none).evs.dropLast
      rw [body]
      rcases createBody_evs blk env resultCaps with prep | ⟨prepared, evs⟩
      · rw [prep]
        exact prepare_last blk env resultCaps
      · rw [evs]
        rcases prepare_cases blk env resultCaps with ⟨_, _, _, first⟩ | ⟨failed, _⟩
        · refine last_append (fun h => ?_) ?_
          · exact (List.mem_append.mp h).elim first createEvs_keep
          · unfold rollbackEvs
            split
            · exact List.not_mem_nil
            · exact cleanUp_last _ _ _ _ _
        · exact absurd prepared failed
  | delete blk env =>
    rcases delete_evs blk env file with none | ⟨js, rfl, evs⟩
    · exact nothing none
    · change Ev.unlinkMeta ∉ (blockDeleteCli blk env (some js)).evs.dropLast
      rw [evs]
      exact cleanUp_last _ _ _ _ _
  | modify blk env =>
    rcases modify_evs blk env file with none | ⟨js, rfl, evs⟩
    · exact nothing none
    · change Ev.unlinkMeta ∉ (blockModifyCli blk env (some js)).evs.dropLast
      rw [evs]
      exact kept (modify_keep blk js env)
  | modifySize blk env =>
    rcases modifySize_evs blk env file with none | ⟨js, rfl, _, evs⟩
    · exact nothing none
    · change Ev.unlinkMeta ∉ (blockModifySizeCli blk env (some js)).evs.dropLast
      rw [evs]
      exact kept (modifySize_keep blk js env)
  | replace blk env =>
    rcases replace_evs blk env file with none | ⟨js, checks, rfl, _, run⟩
    · exact nothing none
    · change Ev.unlinkMeta ∉ (blockReplaceCli blk env (some js)).evs.dropLast
      rcases run with ⟨_, evs⟩ | ⟨resp, _, _, evs⟩
      · rw [evs]
        exact kept runWorkers_keep
      · rw [evs]
        refine kept (fun h => ?_)
        exact (List.mem_append.mp h).elim runWorkers_keep (trailer_keep blk _ resp env)

end Removal

section Hosts

variable {addr : Addr}

theorem cleanUp_host (js : Journal) (blockname : String) (forcedel unlink : Bool)
    (env : CleanUpEnv) (node : addr ≠ "ENTRYDELETE") :
    hostEvs addr (glusterBlockCleanUp js blockname forcedel unlink env).act.evs =
      if addr ∈ glusterBlockDeleteFillArgs (replay js) then
        hostEvs addr ((glusterBlockDeleteRemote addr (cleanUpObj js blockname)).run
          (env.jobs addr)).evs
      else [] := by
  rw [cleanUp_evs, hostEvs_append, deleteEvs_host]
  have files : hostEvs addr (if forcedel = true ∨ env.nodesCleared js then
      (deleteFiles unlink env).evs else []) = [] := by
    split
    · exact deleteFiles_host unlink env node
    · rfl
  rw [files, List.append_nil]

theorem modifyEvs_hosts (js : Journal) (mobj : BlockModify) (jobs : Addr → JobOutcome)
    (sched : List Nat) : hosts (js ++ written (modifyEvs js mobj jobs sched)) = hosts js := by
  apply hosts_append_known
  intro a ha
  by_contra unknown
  have away : a ∉ glusterBlockModifyArgsFill mobj.authMode (replay js) :=
    fun h => unknown (mem_modifyArgsFill.mp h).1
  exact hosts_written ha ((modifyEvs_host js mobj jobs sched a).trans (if_neg away))

theorem modifyRecord_plain (blk : BlockModifyCli) (info : MetaInfo) (env : ModifyEnv) (addr : Addr) :
    hostEvs addr (modifyRecord blk info env).evs = [] := by
  unfold modifyRecord
  split
  · rfl
  · exact metaUpdate_host (fun l hl => List.mem_singleton.mp hl ▸ rfl) _ addr

theorem modifyClear_plain (blk : BlockModifyCli) (env : ModifyEnv) (addr : Addr) :
    hostEvs addr (modifyClear blk env).evs = [] := by
  unfold modifyClear
  split
  · exact metaUpdate_host (fun l hl => List.mem_singleton.mp hl ▸ rfl) _ addr
  · rfl

theorem hosts_plain {evs : List Ev} (plain : ∀ a, hostEvs a evs = []) : hosts (written evs) = [] :=
  List.eq_nil_iff_forall_not_mem.mpr (fun a ha => hosts_written ha (plain a))

theorem latest_plain (js : Journal) {evs : List Ev} (plain : hostEvs addr evs = []) :
    latest (js ++ written evs) addr = latest js addr := by
  rw [latest_after, plain]
  rfl

theorem record_plain (blk : BlockModifyCli) (js : Journal) (env : ModifyEnv) (addr : Addr) :
    hostEvs addr (modifyParts blk js env).record = [] := modifyRecord_plain blk (replay js) env addr

theorem clear_plain (blk : BlockModifyCli) (js : Journal) (env : ModifyEnv) (addr : Addr) :
    hostEvs addr (modifyParts blk js env).clear = [] := modifyClear_plain blk env addr

/-- The metafile the second round of a modify reads. -/
def modifyUndoLines (blk : BlockModifyCli) (js : Journal) (env : ModifyEnv) : Journal :=
  js ++ written (modifyParts blk js env).record ++ written (modifyParts blk js env).tried ++
    written (modifyParts blk js env).clear

theorem modifyUndo_latest (blk : BlockModifyCli) (js : Journal) (env : ModifyEnv) (addr : Addr) :
    latest (modifyUndoLines blk js env) addr =
      latest (js ++ written (modifyParts blk js env).tried) addr := by
  unfold modifyUndoLines
  rw [latest_plain _ (clear_plain blk js env addr), latest_append,
    latest_plain js (record_plain blk js env addr), ← latest_append]

theorem modifyUndo_hosts (blk : BlockModifyCli) (js : Journal) (env : ModifyEnv) {addr : Addr}
    (h : addr ∈ hosts (modifyUndoLines blk js env)) : addr ∈ hosts js := by
  have tried := modifyEvs_hosts js (modifyObj blk (replay js) env) env.jobs env.sched
  unfold modifyUndoLines at h
  rw [mem_hosts_append, mem_hosts_append, mem_hosts_append] at h
  rcases h with ((old | record) | workers) | clear
  · exact old
  · rw [hosts_plain (record_plain blk js env)] at record
    cases record
  · rw [← tried]
    exact mem_hosts_append.mpr (.inr workers)
  · rw [hosts_plain (clear_plain blk js env)] at clear
    cases clear

/-- A host takes part in the first round of a modify and then in the second. -/
theorem modify_host (addr : Addr) (blk : BlockModifyCli) (js : Journal) (env : ModifyEnv) :
    hostEvs addr (modifyBody blk js env).evs <+:
      hostEvs addr (modifyParts blk js env).tried ++ hostEvs addr (modifyParts blk js env).undo := by
  have cut := hostEvs_cut addr (modifyBody_cut blk env js)
  unfold ModifyParts.all at cut
  rw [hostEvs_append, hostEvs_append, hostEvs_append] at cut
  rwa [record_plain, clear_plain, List.nil_append, List.nil_append] at cut

/-- Neither round selects a host that is not valid. -/
theorem modify_untouched (blk : BlockModifyCli) (env : ModifyEnv) {js : Journal}
    (invalid : isValidAt js addr = false) : hostEvs addr (modifyBody blk js env).evs = [] := by
  have cut := modify_host addr blk js env
  have tried : hostEvs addr (modifyParts blk js env).tried = _ :=
    modifyEvs_host js (modifyObj blk (replay js) env) env.jobs env.sched addr
  have undo : hostEvs addr (modifyParts blk js env).undo = _ :=
    modifyEvs_host (modifyUndoLines blk js env)
      { modifyObj blk (replay js) env with authMode := !blk.authMode } env.undoJobs
      env.undoSched addr
  have away : ∀ mode ms, latest ms addr = latest js addr →
      addr ∉ glusterBlockModifyArgsFill mode (replay ms) := by
    intro mode ms same h
    have chosen := modifySelects_valid (mem_modifyArgsFill.mp h).2
    rw [same] at chosen
    exact Bool.false_ne_true (invalid.symm.trans chosen)
  have first := tried.trans (if_neg (away (modifyObj blk (replay js) env).authMode js rfl))
  have kept : latest (modifyUndoLines blk js env) addr = latest js addr := by
    rw [modifyUndo_latest, latest_plain js first]
  have second := undo.trans (if_neg (away _ _ kept))
  rw [first, second] at cut
  exact List.prefix_nil.mp cut

theorem modifySize_host (addr : Addr) (blk : BlockModifySizeCli) (js : Journal) (env : ModifySizeEnv) :
    hostEvs addr (modifySizeBody blk js env).evs = [] ∨
      env.sizeUpdate = .ok ∧ hostEvs addr (modifySizeBody blk js env).evs =
        hostEvs addr (modifySizeEvs js (modifySizeObj blk (replay js)) env) := by
  rcases modifySizeBody_evs blk env js with none | ⟨_, evs⟩
  · rw [none]
    exact .inl rfl
  · have record : hostEvs addr (metaUpdate env.sizeUpdate [.size blk.size]).evs = [] :=
      metaUpdate_host (fun l hl => List.mem_singleton.mp hl ▸ rfl) _ addr
    rw [evs, hostEvs_append, record]
    split
    · rename_i ok
      exact .inr ⟨ok, rfl⟩
    · exact .inl rfl

theorem modifySize_untouched (blk : BlockModifySizeCli) (env : ModifySizeEnv) {js : Journal}
    (invalid : isValidAt js addr = false) : hostEvs addr (modifySizeBody blk js env).evs = [] := by
  rcases modifySize_host addr blk js env with none | ⟨_, evs⟩
  · exact none
  · rw [evs, modifySizeEvs_host]
    split
    · rename_i chosen
      have valid := (Bool.and_eq_true_iff.mp (List.mem_filter.mp chosen).2).2
      exact absurd (invalid.symm.trans valid) Bool.false_ne_true
    · rfl

section ReplaceHosts

variable {blk : BlockReplaceCli} {js : Journal} {checks : ReplaceChecks} {env : ReplaceEnv}

theorem mem_replaceWork {j : RemoteJob × JobOutcome} :
    j ∈ replaceWork blk (replay js) checks env ↔
      (checks.cCheck = false ∧ j = (glusterBlockCreateRemote blk.newNode
          (replaceCobj blk (replay js) env.volServer), env.create)) ∨
      (checks.rCheck = true ∧ ∃ a ∈ (replaceOthers (replay js) blk.oldNode).take
          ((replay js).mpath - 1),
        j = (glusterBlockReplacePortalRemote a (replaceRobj blk (replay js)), env.portals a)) ∨
      (checks.dCheck = false ∧ j = (glusterBlockDeleteRemote blk.oldNode
          { blockName := blk.blockName, gbid := (replay js).gbid }, env.delete)) := by
  unfold replaceWork
  generalize (replaceOthers (replay js) blk.oldNode).take ((replay js).mpath - 1) = slots
  cases checks.cCheck <;> cases checks.rCheck <;> cases checks.dCheck <;>
    simp [eq_comm]

variable (other : blk.oldNode ≠ blk.newNode) (ok : replaceChecks blk (replay js) = .ok checks)
include other ok

theorem replacePool_new (todo : checks.cCheck = false) :
    hostEvs blk.newNode (replacePool blk js checks env) =
      hostEvs blk.newNode ((glusterBlockCreateRemote blk.newNode
        (replaceCobj blk (replay js) env.volServer)).run env.create).evs :=
  runWorkers_owner (replaceWork_distinct blk env other ok)
    (mem_replaceWork.mpr (.inl ⟨todo, rfl⟩))

theorem replacePool_old (todo : checks.dCheck = false) :
    hostEvs blk.oldNode (replacePool blk js checks env) =
      hostEvs blk.oldNode (replaceDelete blk js env).evs :=
  runWorkers_owner (replaceWork_distinct blk env other ok)
    (mem_replaceWork.mpr (.inr (.inr ⟨todo, rfl⟩)))

theorem replacePool_portal (todo : checks.rCheck = true)
    (slot : addr ∈ (replaceOthers (replay js) blk.oldNode).take ((replay js).mpath - 1)) :
    hostEvs addr (replacePool blk js checks env) =
      hostEvs addr ((glusterBlockReplacePortalRemote addr (replaceRobj blk (replay js))).run
        (env.portals addr)).evs :=
  runWorkers_owner (replaceWork_distinct blk env other ok)
    (mem_replaceWork.mpr (.inr (.inl ⟨todo, addr, slot, rfl⟩)))

omit other ok

/-- The other hosts stay out of it. -/
theorem replacePool_rest
    (created : checks.cCheck = false → addr ≠ blk.newNode)
    (deleted : checks.dCheck = false → addr ≠ blk.oldNode)
    (slot : checks.rCheck = true →
      addr ∉ (replaceOthers (replay js) blk.oldNode).take ((replay js).mpath - 1)) :
    hostEvs addr (replacePool blk js checks env) = [] := by
  refine runWorkers_absent (fun j hj => ?_)
  rcases mem_replaceWork.mp hj with ⟨todo, rfl⟩ | ⟨todo, a, ha, rfl⟩ | ⟨todo, rfl⟩
  · exact (created todo).symm
  · rintro rfl
    exact slot todo ha
  · exact (deleted todo).symm

/-- A forced replace ends with a line about the old node when the delete failed. -/
theorem trailer_shown (addr : Addr) (blk : BlockReplaceCli) (js : Journal) (env : ReplaceEnv)
    (resp : ReplaceResp) :
    hostEvs addr (replaceTrailer blk (replay js) resp env).evs =
      if addr = blk.oldNode ∧ resp.force = true ∧ resp.dop.status ≠ 0 ∧
          env.cleanupSuccess.wrote = true then
        [.write [.host blk.oldNode .cleanupSuccess none]]
      else [] := by
  have prio : hostEvs addr (if (replay js).prioPath ≠ "" ∧ (replay js).prioPath = blk.oldNode then
      metaUpdate env.prioPath [.prioPath blk.newNode] else .done 0).evs = [] := by
    split
    · exact metaUpdate_host (fun l hl => List.mem_singleton.mp hl ▸ rfl) _ addr
    · rfl
  have line : hostEvs addr
      (metaUpdate env.cleanupSuccess [.host blk.oldNode .cleanupSuccess none]).evs =
        if addr = blk.oldNode ∧ env.cleanupSuccess.wrote = true then
          [.write [.host blk.oldNode .cleanupSuccess none]]
        else [] := by
    by_cases own : addr = blk.oldNode
    · subst own
      cases env.cleanupSuccess <;>
        simp [metaUpdate, hostEvs, Ev.isAbout, hostRecord, UpdRes.wrote]
    · have away : ¬ blk.oldNode = addr := fun same => own same.symm
      cases env.cleanupSuccess <;>
        simp [metaUpdate, hostEvs, Ev.isAbout, hostRecord, own, away]
  unfold replaceTrailer
  by_cases forced : (resp.force && resp.dop.status != 0) = true
  · obtain ⟨force, status⟩ : resp.force = true ∧ resp.dop.status ≠ 0 := by simpa using forced
    rw [if_pos forced]
    have shown := RemoteJob.next_evs addr
      (metaUpdate env.cleanupSuccess [.host blk.oldNode .cleanupSuccess none])
      (if (replay js).prioPath ≠ "" ∧ (replay js).prioPath = blk.oldNode then
        metaUpdate env.prioPath [.prioPath blk.newNode] else .done 0)
    rw [prio, List.append_nil, or_self, line] at shown
    rw [shown]
    simp [force, status]
  · rw [if_neg forced, Act.next_zero rfl]
    have unforced : ¬ (addr = blk.oldNode ∧ resp.force = true ∧ resp.dop.status ≠ 0 ∧
        env.cleanupSuccess.wrote = true) := fun h => forced (by simp [h.2.1, h.2.2.1])
    rw [if_neg unforced]
    exact prio

theorem trailer_host (addr : Addr) (blk : BlockReplaceCli) (js : Journal) (env : ReplaceEnv)
    (resp : ReplaceResp) :
    hostEvs addr (replaceTrailer blk (replay js) resp env).evs = [] ∨
      addr = blk.oldNode ∧ resp.force = true ∧ resp.dop.status ≠ 0 ∧
        hostEvs addr (replaceTrailer blk (replay js) resp env).evs =
          [.write [.host blk.oldNode .cleanupSuccess none]] := by
  rw [trailer_shown]
  split
  · rename_i forced
    exact .inr ⟨forced.1, forced.2.1, forced.2.2.1, rfl⟩
  · exact .inl rfl

/-- What a host sees of a replace, the old node with the line of a forced one. -/
theorem replace_shown (blk : BlockReplaceCli) (env : ReplaceEnv) (file : Metafile) :
    (blockReplaceCli blk env file).evs = [] ∨ ∃ js checks, file = some js ∧
      replaceChecks blk (replay js) = .ok checks ∧
      ∀ addr, hostEvs addr (blockReplaceCli blk env file).evs <+:
        hostEvs addr (replacePool blk js checks env) ++
          if addr = blk.oldNode then [.write [.host blk.oldNode .cleanupSuccess none]] else [] := by
  rcases replace_evs blk env file with none | ⟨js, checks, there, ok, run⟩
  · exact .inl none
  · refine .inr ⟨js, checks, there, ok, fun addr => ?_⟩
    rcases run with ⟨_, evs⟩ | ⟨resp, _, _, evs⟩
    · rw [evs]
      exact List.prefix_append _ _
    · rw [evs, hostEvs_append, trailer_shown]
      apply (List.prefix_append_right_inj _).mpr
      split
      · rename_i forced
        exact (if_pos forced.1 : _ = _) ▸ List.prefix_refl _
      · exact List.nil_prefix

end ReplaceHosts

end Hosts

section Jobs

variable {N : Type} {M : NodeModel N}

theorem hostStep_call {addr : Addr} {msg : Msg} {exit : Int} {h h' : HostView N}
    (step : M.hostStep addr (.call addr msg exit) h h') :
    h'.status = h.status ∧ M.serve msg exit h.node h'.node := by
  refine ⟨step.1, ?_⟩
  have served := step.2
  unfold NodeModel.step at served
  simpa using served

/-- A line sets the status unless its size does not fit, and leaves the node alone. -/
theorem hostStep_line {j : RemoteJob} {status : MetaStatus}
    {h h' : HostView N} (step : M.hostStep j.addr (j.line status) h h') :
    (h'.status = some status ∨ j.size ≠ none ∧ h'.status = h.status) ∧ h'.node = h.node := by
  refine ⟨?_, step.2⟩
  have shown := step.1
  by_cases fits : (statusText status j.size).length ≤ 31
  · left
    rw [shown]
    simp [RemoteJob.line, statusStep, effect, fits]
  · right
    constructor
    · intro plain
      rw [plain] at fits
      exact fits (Nat.le_trans (lookup_short status) (by decide))
    · rw [shown]
      simp [RemoteJob.line, statusStep, effect, fits]

theorem hostStep_plain {j : RemoteJob} (plain : j.size = none) (status : MetaStatus)
    {h h' : HostView N} (step : M.hostStep j.addr (j.line status) h h') :
    h'.status = some status ∧ h'.node = h.node := by
  obtain ⟨new | ⟨sized, _⟩, node⟩ := hostStep_line step
  · exact ⟨new, node⟩
  · exact absurd plain sized

/-- The statuses a worker may write. -/
def RemoteJob.words (j : RemoteJob) : List MetaStatus :=
  j.start :: j.failed :: j.done :: j.extra.toList

theorem modify_words (addr : Addr) (mobj : BlockModify) :
    ∀ s ∈ (glusterBlockModifyRemote addr mobj).words, s.isValid = true := by
  cases mode : mobj.authMode <;>
    simp [RemoteJob.words, glusterBlockModifyRemote, mode, MetaStatus.isValid]

theorem mem_full {j : RemoteJob} {exit : Int} {e : Ev} (he : e ∈ j.full exit) :
    (∃ status ∈ j.words, e = j.line status) ∨ e = .call j.addr j.msg exit := by
  unfold RemoteJob.full at he
  rcases List.mem_append.mp he with first | last
  · rcases List.mem_cons.mp first with rfl | call
    · exact .inl ⟨j.start, by simp [RemoteJob.words], rfl⟩
    · exact .inr (List.mem_singleton.mp call)
  · left
    split at last
    · rcases List.mem_cons.mp last with rfl | extra
      · exact ⟨j.done, by simp [RemoteJob.words], rfl⟩
      · cases hx : j.extra with
        | none =>
          rw [hx] at extra
          cases extra
        | some s =>
          rw [hx] at extra
          exact ⟨s, by simp [RemoteJob.words, hx], List.mem_singleton.mp extra⟩
    · exact ⟨j.failed, by simp [RemoteJob.words], List.mem_singleton.mp last⟩

/-- The lines that report success come behind a call that returned 0. -/
theorem full_order {j : RemoteJob} (strict : j.accepts = isZero)
    (apart : ∀ s ∈ j.done :: j.extra.toList, s ≠ j.start ∧ s ≠ j.failed) (exit : Int) :
    Weaving.Before (fun e => e = .call j.addr j.msg 0)
      (fun e => ∃ s ∈ j.done :: j.extra.toList, e = j.line s) (j.full exit) := by
  have other : ∀ status s, j.line status = j.line s → s = status := by
    intro status s same
    unfold RemoteJob.line at same
    cases same
    rfl
  constructor
  · rintro ⟨s, hs, same⟩
    exact (apart s hs).1 (other _ _ same)
  · right
    constructor
    · rintro ⟨s, _, same⟩
      cases same
    · by_cases zero : exit = 0
      · left
        rw [zero]
      · right
        have failed : ¬ j.accepts exit = true := by
          rw [strict]
          simpa [isZero] using zero
        rw [if_neg failed]
        refine ⟨?_, .inr trivial⟩
        rintro ⟨s, hs, same⟩
        exact (apart s hs).2 (other _ _ same)

theorem create_apart (addr : Addr) (cobj : BlockCreate2) :
    let j := glusterBlockCreateRemote addr cobj
    ∀ s ∈ j.done :: j.extra.toList, s ≠ j.start ∧ s ≠ j.failed := by
  cases mode : cobj.authMode <;> simp [glusterBlockCreateRemote, mode]

/-- All of a worker's effects are about its host. -/
theorem hostEvs_full (j : RemoteJob) (exit : Int) : hostEvs j.addr (j.full exit) = j.full exit := by
  apply List.filter_eq_self.mpr
  intro e he
  rcases mem_full he with ⟨status, _, rfl⟩ | rfl
  · rw [RemoteJob.line_isAbout]
    exact beq_self_eq_true j.addr
  · exact beq_self_eq_true j.addr

/-- A worker that takes only 0 for done and returns 0 has got through. -/
theorem run_zero {j : RemoteJob} (strict : j.accepts = isZero) (plain : j.extra = none)
    {o : JobOutcome} (zero : (j.run o).ret = 0) : (j.run o).evs = j.full 0 := by
  obtain ⟨start, call, done, extra⟩ := o
  have failed : ¬ (-1 : Int) = 0 := by decide
  cases start with
  | notOpened => exact absurd zero failed
  | notWritten => exact absurd zero failed
  | notClosed => exact absurd zero failed
  | ok =>
    cases call with
    | notSent => exact absurd zero failed
    | sent exit =>
      by_cases success : exit = 0
      · subst exit
        have accepted : j.accepts 0 = true := by
          rw [strict]
          rfl
        cases done with
        | ok => simp [RemoteJob.run, RemoteJob.update, RemoteJob.full, RemoteJob.line, Act.next,
            Act.emit, accepted, plain]
        | _ => simp [RemoteJob.run, RemoteJob.update, metaUpdate, Act.next, Act.emit, accepted] at zero
      · have refused : j.accepts exit = false := by
          rw [strict]
          simpa [isZero] using success
        cases done <;>
          simp [RemoteJob.run, RemoteJob.update, metaUpdate, Act.next, Act.emit, refused,
            success] at zero

theorem run_seen {j : RemoteJob} {o : JobOutcome} {e : Ev}
    (he : e ∈ hostEvs j.addr (j.run o).evs) : ∃ exit, e ∈ j.full exit := by
  obtain ⟨exit, cut⟩ := j.run_cut o
  exact ⟨exit, cut.subset he⟩

end Jobs

section CreatePool

variable (list : List Addr) (cobj : BlockCreate2) (jobs : Nat → JobOutcome) (sched : List Nat)
  (addr : Addr)

/-- What a host sees of the create workers is woven from beginnings of full runs. -/
theorem createEvs_woven : ∃ ts, Weaving.Woven ts (hostEvs addr (createEvs list cobj jobs sched)) ∧
    ∀ t ∈ ts, ∃ exit, t <+: (glusterBlockCreateRemote addr cobj).full exit := by
  refine ⟨_, Weaving.woven_filter (pool_woven _ sched) (Ev.isAbout addr), fun t ht => ?_⟩
  obtain ⟨_, ht', rfl⟩ := List.mem_map.mp ht
  obtain ⟨w, hw, rfl⟩ := List.mem_map.mp ht'
  obtain ⟨a, _, o, rfl⟩ := mem_createWorkers hw
  by_cases own : a = addr
  · subst a
    exact RemoteJob.run_cut (glusterBlockCreateRemote addr cobj) o
  · have none := (glusterBlockCreateRemote a cobj).run_other o own
    exact ⟨0, by rw [show List.filter (Ev.isAbout addr) _ = [] from none]; exact List.nil_prefix⟩

variable {list cobj jobs sched addr}

theorem createEvs_before {P Q : Ev → Prop}
    (each : ∀ exit, Weaving.Before P Q ((glusterBlockCreateRemote addr cobj).full exit)) :
    Weaving.Before P Q (hostEvs addr (createEvs list cobj jobs sched)) := by
  obtain ⟨ts, woven, parts⟩ := createEvs_woven list cobj jobs sched addr
  refine Weaving.woven_before woven P Q (fun t ht => ?_)
  obtain ⟨exit, rest, whole⟩ := parts t ht
  exact Weaving.before_cut (whole ▸ each exit)

theorem createEvs_seen {e : Ev} (he : e ∈ hostEvs addr (createEvs list cobj jobs sched)) :
    ∃ exit, e ∈ (glusterBlockCreateRemote addr cobj).full exit := by
  obtain ⟨ts, woven, parts⟩ := createEvs_woven list cobj jobs sched addr
  obtain ⟨t, ht, het⟩ := (Weaving.woven_mem woven e).mp he
  obtain ⟨exit, cut⟩ := parts t ht
  exact ⟨exit, cut.subset het⟩

end CreatePool

section Rollback

variable {addr : Addr} {blk : BlockCreateCli} {env : CreateEnv}

/-- What a host sees of the rollback. -/
theorem rollback_seen {js : Journal} {e : Ev} (he : e ∈ hostEvs addr (rollbackEvs blk env js)) :
    (∃ dobj exit, e ∈ (glusterBlockDeleteRemote addr dobj).full exit) ∨
      e ∈ (deleteFiles true env.cleanUp).evs := by
  unfold rollbackEvs at he
  split at he
  · cases he
  · rw [cleanUp_evs, hostEvs_append, deleteEvs_host] at he
    rcases List.mem_append.mp he with node | files
    · left
      split at node
      · obtain ⟨exit, full⟩ := run_seen (j := glusterBlockDeleteRemote addr
          (cleanUpObj js blk.blockName)) node
        exact ⟨_, exit, full⟩
      · cases node
    · right
      have here := List.mem_of_mem_filter files
      split at here
      · exact here
      · cases here

end Rollback

section Steps

variable {N : Type} {M : NodeModel N} {req : Request} {evs : List Ev} {w w' : World N}

/-- A step that leaves a metafile has added its lines to the one before. -/
theorem step_grows (step : Step M req evs w w') {js : Journal} (left : w'.file = some js) :
    Ev.unlinkMeta ∉ evs ∧ js = w.file.getD [] ++ written evs :=
  metaAfter_grows (outcome_last req w.file step.takes.finds) step.takes.cut (step.file ▸ left)

/-- Behind the create the nodes are those of one target. -/
theorem step_existing (step : Step M req evs w w') {js : Journal} (there : w.file = some js)
    (addr : Addr) : Along (M.step addr) (w.nodes addr) evs (w'.nodes addr) := by
  obtain ⟨n, starts, along⟩ := step.nodes addr
  unfold NodeModel.starts at starts
  rw [there] at starts
  exact starts ▸ along

/-- Every host goes along with the step. -/
theorem step_host (step : Step M req evs w w') {js : Journal} (left : w'.file = some js)
    (addr : Addr) :
    ∃ n, M.starts w addr n ∧ Along (M.hostStep addr) ⟨latest (w.file.getD []) addr, n⟩ evs
      ⟨latest js addr, w'.nodes addr⟩ := by
  obtain ⟨n, starts, along⟩ := step.nodes addr
  refine ⟨n, starts, along_host.mpr ⟨?_, along⟩⟩
  rw [(step_grows step left).2]
  exact latest_foldl _ addr evs

end Steps

end GlusterBlock
