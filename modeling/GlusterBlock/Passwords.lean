import GlusterBlock.BlockModify
import GlusterBlock.CreateReport

/-! Runs that differ only in their passwords. A veil over the passwords commutes with what
the coordinator does, so all that it decides is decided without them. -/
namespace GlusterBlock

def isHex (c : Char) : Bool := c.isDigit || (decide ('a' ≤ c) && decide (c ≤ 'f'))

/-- The text of a UUID. -/
def isUuid (s : String) : Bool :=
  s.toList.length == 36 && s.toList.zipIdx.all (fun c =>
    if c.2 ∈ [8, 13, 18, 23] then c.1 == '-' else isHex c.1)

/-- One UUID stands for all. -/
def veil (passwd : String) : String := if isUuid passwd then "*" else passwd

def MetaLine.repass (f : String → String) : MetaLine → MetaLine
  | .passwd p => .passwd (f p)
  | l => l

/-- The same lines with other passwords. -/
def repass (f : String → String) (js : Journal) : Journal := js.map (MetaLine.repass f)

def MetaInfo.repass (f : String → String) (info : MetaInfo) : MetaInfo :=
  { info with passwd := f info.passwd }

def MetaLine.veil : MetaLine → MetaLine := MetaLine.repass GlusterBlock.veil
def veiled : Journal → Journal := repass veil
def MetaInfo.veil : MetaInfo → MetaInfo := MetaInfo.repass GlusterBlock.veil

def BlockCreate2.veil (obj : BlockCreate2) : BlockCreate2 :=
  { obj with passwd := GlusterBlock.veil obj.passwd }

def BlockModify.veil (obj : BlockModify) : BlockModify :=
  { obj with passwd := GlusterBlock.veil obj.passwd }

def Msg.veil : Msg → Msg
  | .create obj => .create obj.veil
  | .modify obj => .modify obj.veil
  | m => m

def Ev.veil : Ev → Ev
  | .write lines => .write (veiled lines)
  | .call addr msg exit => .call addr msg.veil exit
  | e => e

def Act.veil (a : Act) : Act := { evs := a.evs.map Ev.veil, ret := a.ret }

def RemoteJob.veil (j : RemoteJob) : RemoteJob := { j with msg := j.msg.veil }

section Effects

theorem veil_empty {p : String} : veil p = "" ↔ p = "" := by
  unfold veil
  constructor
  · intro h
    split at h
    · exact absurd h (by decide)
    · exact h
  · rintro rfl
    rfl

theorem hostLog_veiled (js : Journal) : hostLog (veiled js) = hostLog js := by
  have record : ∀ l : MetaLine, hostRecord l.veil = hostRecord l := fun l => by cases l <;> rfl
  unfold hostLog veiled repass
  rw [List.filterMap_map]
  exact List.filterMap_congr (fun l _ => record l)

theorem replay_repass (f : String → String) (empty : f "" = "") (js : Journal) :
    replay (repass f js) = (replay js).repass f := by
  have step : ∀ (info : MetaInfo) (l : MetaLine),
      stuff (info.repass f) (l.repass f) = (stuff info l).repass f := by
    intro info l
    cases l <;> rfl
  have raw : ∀ info : MetaInfo,
      (repass f js).foldl stuff (info.repass f) = (js.foldl stuff info).repass f := by
    induction js with
    | nil => exact fun _ => rfl
    | cons l js ih =>
      intro info
      change (repass f js).foldl stuff (stuff (info.repass f) (l.repass f)) = _
      rw [step, ih]
      rfl
  have start : MetaInfo.repass f {} = {} := by simp [MetaInfo.repass, empty]
  have lines := raw {}
  rw [start] at lines
  rw [replay, lines]
  rfl

theorem replay_veiled (js : Journal) : replay (veiled js) = (replay js).veil :=
  replay_repass veil rfl js

theorem veiled_append (js ms : Journal) : veiled (js ++ ms) = veiled js ++ veiled ms :=
  List.map_append

theorem written_veil (evs : List Ev) : written (evs.map Ev.veil) = veiled (written evs) := by
  induction evs with
  | nil => rfl
  | cons e evs ih =>
    change written ([e.veil] ++ evs.map Ev.veil) = veiled (written ([e] ++ evs))
    rw [written_append, written_append, veiled_append, ih]
    cases e <;> simp [Ev.veil, written, veiled, repass]

theorem metaAfter_veil (file : Metafile) (evs : List Ev) :
    metaAfter (file.map veiled) (evs.map Ev.veil) = (metaAfter file evs).map veiled := by
  induction evs generalizing file with
  | nil => rfl
  | cons e evs ih =>
    have step : metaStep (file.map veiled) e.veil = (metaStep file e).map veiled := by
      cases e <;> cases file <;> simp [metaStep, Ev.veil, veiled, repass]
    change metaAfter (metaStep (file.map veiled) e.veil) (evs.map Ev.veil) = _
    rw [step, ih]
    rfl

theorem metaUpdate_veil (res : UpdRes) (lines : Journal) :
    metaUpdate res (veiled lines) = (metaUpdate res lines).veil := by cases res <;> rfl

theorem next_veil (a b : Act) : (a.next b).veil = a.veil.next b.veil := by
  unfold Act.next
  have code : a.veil.ret = a.ret := rfl
  rw [code]
  split
  · simp [Act.veil]
  · rfl

theorem RemoteJob.run_veil (j : RemoteJob) (o : JobOutcome) : (j.run o).veil = j.veil.run o := by
  have update : ∀ res status, (j.update res status).veil = j.veil.update res status := by
    intro res status
    cases res <;> rfl
  unfold RemoteJob.run
  rw [next_veil, update]
  congr 1
  cases o.call with
  | notSent => rfl
  | sent exit =>
    dsimp only
    rw [next_veil]
    congr 1
    change Act.veil (if j.accepts exit = true then _ else _) = if j.accepts exit = true then _ else _
    split
    · rw [next_veil, update]
      congr 1
      have extra : j.veil.extra = j.extra := rfl
      rw [extra]
      cases j.extra with
      | none => rfl
      | some status => exact update _ _
    · rw [next_veil, update]
      rfl

theorem runWorkers_veil (jobs : List (RemoteJob × JobOutcome)) :
    runWorkers (jobs.map (fun j => (j.1.veil, j.2))) = (runWorkers jobs).map Act.veil := by
  unfold runWorkers
  rw [List.map_map, List.map_map]
  exact List.map_congr_left (fun j _ => (j.1.run_veil j.2).symm)

theorem runPool_veil (workers : List Act) (sched : List Nat) :
    runPool (workers.map Act.veil) sched = (runPool workers sched).map Ev.veil := by
  unfold runPool
  rw [← Weaving.weave_map, List.map_map, List.map_map]
  rfl

end Effects

section Create

variable (blk : BlockCreateCli) (env : CreateEnv)

def CreateEnv.veil : CreateEnv := { env with passwd := GlusterBlock.veil env.passwd }

theorem createPrepare_veil (resultCaps : Caps) :
    createPrepare blk env.veil resultCaps = (createPrepare blk env resultCaps).veil := by
  have header : ∀ gbid path, veiled (headerLines blk gbid path) = headerLines blk gbid path := by
    intro gbid path
    unfold headerLines
    split <;> rfl
  have entry : ∀ size, veiled (entryLines blk size resultCaps) = entryLines blk size resultCaps := by
    intro size
    unfold entryLines
    split <;> rfl
  unfold createPrepare
  rw [next_veil, ← metaUpdate_veil, header]
  congr 1
  have entered : env.veil.createEntry = env.createEntry := rfl
  rw [entered]
  cases env.createEntry with
  | failed errno _ _ unlinkedMeta => cases unlinkedMeta <;> rfl
  | created stSize =>
    dsimp only
    rw [next_veil, ← metaUpdate_veil, entry]
    congr 1
    cases blk.authMode with
    | false => rfl
    | true => exact metaUpdate_veil env.password [.passwd env.passwd]

theorem createWorkers_veil (hosts : List Addr) (cobj : BlockCreate2) (jobs : Nat → JobOutcome) :
    createWorkers hosts cobj.veil jobs = (createWorkers hosts cobj jobs).map Act.veil := by
  unfold createWorkers
  rw [← runWorkers_veil, List.map_map]
  rfl

/-- A cleanup does not look at the password. -/
theorem cleanUp_veil (js : Journal) (blockname : String) (forcedel unlink : Bool) (cleanUp : CleanUpEnv) :
    glusterBlockCleanUp (veiled js) blockname forcedel unlink cleanUp =
      glusterBlockCleanUp js blockname forcedel unlink cleanUp := by
  have again : ∀ ms, (replay (veiled js ++ ms)).list = (replay (js ++ ms)).list := by
    intro ms
    have log : hostLog (veiled js ++ ms) = hostLog (js ++ ms) := by
      have same := hostLog_veiled js
      unfold hostLog at same ⊢
      rw [List.filterMap_append, List.filterMap_append, same]
    rw [replay_list, replay_list, log]
    unfold rawNode hostTexts
    rw [log]
  unfold glusterBlockCleanUp glusterBlockDeleteRemoteAsync
  dsimp only
  rw [again, replay_veiled]
  rfl

theorem cleanUp_evs_veil (js : Journal) (blockname : String) (forcedel unlink : Bool)
    (cleanUp : CleanUpEnv) :
    (glusterBlockCleanUp js blockname forcedel unlink cleanUp).act.veil =
      (glusterBlockCleanUp js blockname forcedel unlink cleanUp).act := by
  have nodes : ∀ dobj, (deleteEvs js dobj cleanUp).map Ev.veil = deleteEvs js dobj cleanUp := by
    intro dobj
    unfold deleteEvs hostWorkers
    rw [← runPool_veil, ← runWorkers_veil, List.map_map]
    rfl
  have files : (deleteFiles unlink cleanUp).veil = deleteFiles unlink cleanUp := by
    have marker : ∀ res state, (metaUpdate res [.entryDelete state]).veil =
        metaUpdate res [.entryDelete state] := fun res state => (metaUpdate_veil res _).symm
    unfold deleteFiles
    rw [next_veil, marker]
    congr 1
    split
    · rw [next_veil, marker]
      rfl
    · rw [next_veil, marker]
      congr 1
      unfold glusterBlockDeleteMetaFile
      split <;> rfl
  have evs : (glusterBlockCleanUp js blockname forcedel unlink cleanUp).act.evs.map Ev.veil =
      (glusterBlockCleanUp js blockname forcedel unlink cleanUp).act.evs := by
    rw [cleanUp_evs, List.map_append, nodes]
    split
    · rw [show (deleteFiles unlink cleanUp).evs.map Ev.veil = _ from congrArg Act.evs files]
    · rfl
  unfold Act.veil
  rw [evs]

theorem audit_veil (js : Journal) (cleanUp : CleanUpEnv) :
    glusterBlockAuditRequest (veiled js) blk cleanUp = glusterBlockAuditRequest js blk cleanUp := by
  unfold glusterBlockAuditRequest
  rw [cleanUp_veil, replay_veiled]
  rfl

theorem audit_evs_veil (js : Journal) (cleanUp : CleanUpEnv) :
    (glusterBlockAuditRequest js blk cleanUp).act.veil =
      (glusterBlockAuditRequest js blk cleanUp).act := by
  unfold glusterBlockAuditRequest
  split
  · rfl
  · exact congrArg (fun a : Act => { a with ret := 0 }) (cleanUp_evs_veil js _ _ _ cleanUp)

theorem createFormat_veil (file : Metafile) (errCode : Int) (errMsg : Option String)
    (saved : List Addr × List Addr) :
    blockCreateCliFormatResponse blk (file.map veiled) errCode errMsg saved =
      blockCreateCliFormatResponse blk file errCode errMsg saved := by
  cases errMsg with
  | some msg => rfl
  | none =>
    cases file with
    | none => rfl
    | some js =>
      unfold blockCreateCliFormatResponse
      rw [Option.map_some]
      dsimp only
      rw [replay_veiled]
      rfl

theorem createBody_veil (resultCaps : Caps) (file : Metafile) :
    createBody blk env.veil resultCaps (file.map veiled) =
      ({ (createBody blk env resultCaps file).1 with
          act := (createBody blk env resultCaps file).1.act.veil },
        (createBody blk env resultCaps file).2) := by
  have obj : createObj blk env.veil resultCaps = (createObj blk env resultCaps).veil := by
    have passwd : (if blk.authMode then GlusterBlock.veil env.passwd else "") =
        GlusterBlock.veil (if blk.authMode then env.passwd else "") := by
      cases blk.authMode <;> rfl
    exact congrArg (fun p => { createObj blk env resultCaps with passwd := p }) passwd
  have workers : ∀ hosts, runPool (createWorkers hosts (createObj blk env.veil resultCaps)
      env.veil.jobs) env.veil.sched = (runPool (createWorkers hosts
        (createObj blk env resultCaps) env.jobs) env.sched).map Ev.veil := by
    intro hosts
    rw [obj, createWorkers_veil, runPool_veil]
    rfl
  have journal : ∀ evs : List Ev, (metaAfter (file.map veiled) (evs.map Ev.veil)).getD [] =
      veiled ((metaAfter file evs).getD []) := by
    intro evs
    rw [metaAfter_veil]
    cases metaAfter file evs <;> rfl
  unfold createBody
  rw [createPrepare_veil]
  dsimp only
  change (if (createPrepare blk env resultCaps).ret ≠ 0 then _ else _) = _
  by_cases failed : (createPrepare blk env resultCaps).ret ≠ 0
  · rw [if_pos failed, if_pos failed]
    rfl
  · rw [if_neg failed, if_neg failed]
    have prep : (createPrepare blk env resultCaps).veil.evs =
        (createPrepare blk env resultCaps).evs.map Ev.veil := rfl
    rw [prep, workers, ← List.map_append, journal, audit_veil]
    have rollback : ∀ js, (glusterBlockAuditRequest js blk env.cleanUp).act.evs.map Ev.veil =
        (glusterBlockAuditRequest js blk env.cleanUp).act.evs :=
      fun js => congrArg Act.evs (audit_evs_veil blk js env.cleanUp)
    simp only [Act.veil, List.map_append, rollback]
    rfl

/-- The reply of a create does not depend on the password. -/
theorem create_reply_veil (file : Metafile) :
    (blockCreateCli blk env.veil (file.map veiled)).reply = (blockCreateCli blk env file).reply := by
  have found : (file.map veiled).isSome = file.isSome := Option.isSome_map
  have after : ∀ evs : List Ev, metaAfter (file.map veiled) (evs.map Ev.veil) =
      (metaAfter file evs).map veiled := metaAfter_veil file
  have caps : env.veil.caps = env.caps := rfl
  have session : env.veil.session = env.session := rfl
  unfold blockCreateCli
  dsimp only
  rw [found, caps, session]
  split
  · exact congrArg some (createFormat_veil ..)
  · split
    · exact congrArg some (createFormat_veil ..)
    · exact congrArg some (createFormat_veil ..)
    · rw [createBody_veil]
      split
      · exact congrArg some (createFormat_veil ..)
      · have evs : ∀ a : Act, a.veil.evs = a.evs.map Ev.veil := fun _ => rfl
        dsimp only
        rw [evs, after]
        exact congrArg some (createFormat_veil ..)

end Create

section Modify

variable (blk : BlockModifyCli) (env : ModifyEnv)

def ModifyEnv.veil : ModifyEnv := { env with passwd := GlusterBlock.veil env.passwd }

def AsyncResult.veil (r : AsyncResult) : AsyncResult := { r with act := r.act.veil }

def ModifyResult.veil (r : ModifyResult) : ModifyResult := { r with evs := r.evs.map Ev.veil }

theorem modifyAsync_veil (info : MetaInfo) (mobj : BlockModify) (jobs : Addr → JobOutcome)
    (sched : List Nat) :
    glusterBlockModifyRemoteAsync info.veil mobj.veil jobs sched =
      (glusterBlockModifyRemoteAsync info mobj jobs sched).veil := by
  have workers : ∀ args, modifyWorkers args mobj.veil jobs =
      (modifyWorkers args mobj jobs).map Act.veil := by
    intro args
    unfold modifyWorkers
    rw [← runWorkers_veil, List.map_map]
    rfl
  have exits : ∀ ws : List Act, (ws.map Act.veil).map Act.ret = ws.map Act.ret := by
    intro ws
    rw [List.map_map]
    rfl
  have collect : ∀ ws : List Act, collectExits (ws.map Act.veil) = collectExits ws := by
    intro ws
    unfold collectExits
    rw [List.all_map]
    rfl
  have args : glusterBlockModifyArgsFill mobj.veil.authMode info.veil =
      glusterBlockModifyArgsFill mobj.authMode info := rfl
  unfold glusterBlockModifyRemoteAsync
  dsimp only
  rw [args, workers, exits, runPool_veil, collect]
  rfl

theorem modifyPasswd_veil (info : MetaInfo) :
    modifyPasswd blk info.veil env.veil.passwd = veil (modifyPasswd blk info env.passwd) := by
  unfold modifyPasswd
  cases blk.authMode with
  | false => rfl
  | true =>
    change (if veil info.passwd = "" then veil env.passwd else veil info.passwd) = _
    by_cases none : info.passwd = ""
    · simp [none, veil_empty.mpr]
    · simp [none, veil_empty]

theorem modifyRecord_veil (info : MetaInfo) :
    modifyRecord blk info.veil env.veil = (modifyRecord blk info env).veil := by
  have reused : (blk.authMode && info.veil.passwd != "") = (blk.authMode && info.passwd != "") := by
    have empty : (veil info.passwd != "") = (info.passwd != "") := by
      rw [Bool.eq_iff_iff, bne_iff_ne, bne_iff_ne, ne_eq, ne_eq, veil_empty]
    exact congrArg (blk.authMode && ·) empty
  unfold modifyRecord
  rw [modifyPasswd_veil, reused]
  split
  · rfl
  · exact metaUpdate_veil env.password [.passwd (modifyPasswd blk info env.passwd)]

theorem modifyObj_veil (info : MetaInfo) :
    modifyObj blk info.veil env.veil = (modifyObj blk info env).veil := by
  unfold modifyObj
  rw [modifyPasswd_veil]
  rfl

theorem modifyUndo_veil (mobj : BlockModify) (js : Journal) (tried : AsyncResult) :
    modifyUndo blk mobj.veil (veiled js) env.veil tried.veil =
      (modifyUndo blk mobj js env tried).veil := by
  let clear := if blk.authMode then metaUpdate env.clearPassword [.passwd ""] else Act.done 0
  have cleared : clear.veil = clear := by
    cases on : blk.authMode with
    | false => simp only [clear, on]; rfl
    | true =>
      simp only [clear, on]
      exact (metaUpdate_veil env.clearPassword [.passwd ""]).symm
  have lines : replay (veiled js ++ written clear.evs) = (replay (js ++ written clear.evs)).veil := by
    rw [← replay_veiled, veiled_append, ← written_veil]
    exact congrArg (fun a : Act => replay (veiled js ++ written a.evs)) cleared.symm
  by_cases failed : clear.ret ≠ 0
  · have left : modifyUndo blk mobj.veil (veiled js) env.veil tried.veil = _ := if_pos failed
    have right : modifyUndo blk mobj js env tried = _ := if_pos failed
    rw [left, right]
    exact congrArg (fun a : Act => ModifyResult.mk a.evs _ _ _ _) cleared.symm
  · let again := fun js => glusterBlockModifyRemoteAsync (replay (js ++ written clear.evs))
    let finish := fun undo : AsyncResult => ModifyResult.mk (clear.evs ++ undo.act.evs) undo.act.ret
      none tried.act.ret ([("FAILED ON", tried.attempt), ("SUCCESSFUL ON", tried.success)] ++
        [("ROLLBACK FAILED ON", undo.attempt), ("ROLLBACK SUCCESS ON", undo.success)])
    have left : modifyUndo blk mobj.veil (veiled js) env.veil tried.veil =
        finish (again (veiled js) { mobj.veil with authMode := !mobj.authMode } env.undoJobs
          env.undoSched) := if_neg failed
    have right : modifyUndo blk mobj js env tried =
        finish (again js { mobj with authMode := !mobj.authMode } env.undoJobs env.undoSched) :=
      if_neg failed
    have undo : again (veiled js) { mobj.veil with authMode := !mobj.authMode } env.undoJobs
        env.undoSched = (again js { mobj with authMode := !mobj.authMode } env.undoJobs
          env.undoSched).veil := by
      simp only [again]
      rw [lines]
      exact modifyAsync_veil _ { mobj with authMode := !mobj.authMode } _ _
    rw [left, right, undo]
    have evs : clear.evs ++ (again js { mobj with authMode := !mobj.authMode } env.undoJobs
        env.undoSched).veil.act.evs = (clear.evs ++ (again js { mobj with authMode := !mobj.authMode }
          env.undoJobs env.undoSched).act.evs).map Ev.veil := by
      rw [List.map_append, show clear.evs.map Ev.veil = clear.evs from congrArg Act.evs cleared]
      rfl
    exact congrArg (fun evs => ModifyResult.mk evs _ _ _ _) evs

theorem modifyBody_veil (js : Journal) :
    modifyBody blk (veiled js) env.veil = (modifyBody blk js env).veil := by
  let record := modifyRecord blk (replay js) env
  let mobj := modifyObj blk (replay js) env
  let tried := glusterBlockModifyRemoteAsync (replay js) mobj env.jobs env.sched
  have recorded : modifyRecord blk (replay (veiled js)) env.veil = record.veil := by
    rw [replay_veiled, modifyRecord_veil]
  have object : modifyObj blk (replay (veiled js)) env.veil = mobj.veil := by
    rw [replay_veiled, modifyObj_veil]
  have again : glusterBlockModifyRemoteAsync (replay (veiled js)) mobj.veil env.jobs env.sched =
      tried.veil := by
    rw [replay_veiled, modifyAsync_veil]
  have lines : veiled js ++ written record.veil.evs ++ written tried.veil.act.evs =
      veiled (js ++ written record.evs ++ written tried.act.evs) := by
    rw [veiled_append, veiled_append, ← written_veil, ← written_veil]
    rfl
  unfold modifyBody
  dsimp only
  rw [recorded, object]
  have both : record.veil.evs ++ tried.veil.act.evs = (record.evs ++ tried.act.evs).map Ev.veil :=
    List.map_append.symm
  by_cases failed : record.ret ≠ 0
  · refine (if_pos failed).trans ?_
    rw [if_pos (show (modifyRecord blk (replay js) env).ret ≠ 0 from failed)]
    rfl
  · refine (if_neg failed).trans (Eq.trans ?_ (congrArg ModifyResult.veil (if_neg failed).symm))
    have session : env.veil.jobs = env.jobs ∧ env.veil.sched = env.sched := ⟨rfl, rfl⟩
    rw [session.1, session.2, again]
    by_cases ok : tried.act.ret = 0
    · refine (if_pos ok).trans (Eq.trans ?_ (congrArg ModifyResult.veil (if_pos ok).symm))
      exact congrArg (fun evs => ModifyResult.mk evs _ _ _ _) both
    · refine (if_neg ok).trans (Eq.trans ?_ (congrArg ModifyResult.veil (if_neg ok).symm))
      rw [lines, modifyUndo_veil, both]
      exact congrArg (fun evs => ModifyResult.mk evs _ _ _ _) List.map_append.symm

/-- The reply of a modify does not depend on the passwords. -/
theorem modify_reply_veil (file : Metafile) :
    (blockModifyCli blk env.veil (file.map veiled)).reply = (blockModifyCli blk env file).reply := by
  have session : env.veil.session = env.session := rfl
  have caps : env.veil.caps = env.caps := rfl
  unfold blockModifyCli
  rw [session, caps]
  cases env.session.connect with
  | some e => rfl
  | none =>
    dsimp only
    unfold Session.access
    cases env.session.accessErr with
    | some errno => rfl
    | none =>
      cases file with
      | none => rfl
      | some js =>
        have checked : checkConfigured (.modify blk) blk.blockName (veiled js) env.caps =
            checkConfigured (.modify blk) blk.blockName js env.caps := by
          unfold checkConfigured
          rw [replay_veiled]
          rfl
        dsimp only [Option.map_some]
        cases env.session.readMeta with
        | false => rfl
        | true =>
          rw [if_pos rfl, if_pos rfl]
          dsimp only
          rw [checked, modifyBody_veil]
          cases checkConfigured (.modify blk) blk.blockName js env.caps with
          | none => rfl
          | some e =>
            dsimp only
            split <;> rfl

end Modify

end GlusterBlock
