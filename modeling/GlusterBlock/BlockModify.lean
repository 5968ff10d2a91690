import GlusterBlock.BlockCreate

/-! Modify: authentication on or off on all nodes with a rollback when a node
fails, and the resize of the block. -/
namespace GlusterBlock

structure ModifyEnv where
  session : Session
  caps : Nat → VersionCall
  passwd : String
  password : UpdRes
  jobs : Addr → JobOutcome
  sched : List Nat
  clearPassword : UpdRes
  undoJobs : Addr → JobOutcome
  undoSched : List Nat

/-- The statuses `glusterBlockModifyArgsFill` sends a host the request for. -/
def modifySelects (authMode : Bool) : Option MetaStatus → Bool
  | some .configSuccess | some .cleanupInprogress | some .authEnforceFail
  | some .authClearEnforced | some .rpSuccess | some .rpFail | some .rpInprogress
  | some .rsSuccess | some .rsFail | some .rsInprogress => authMode
  | some .authEnforced => !authMode
  | some .authEnforceing | some .authClearEnforceing | some .authClearEnforceFail => true
  | _ => false

def glusterBlockModifyArgsFill (authMode : Bool) (info : MetaInfo) : List Addr :=
  (info.list.filter (fun node =>
    modifySelects authMode (blockMetaStatusEnumParse node.status))).map NodeInfo.addr

structure AsyncResult where
  act : Act
  attempt : List Addr
  success : List Addr

def modifyWorkers (args : List Addr) (mobj : BlockModify) (jobs : Addr → JobOutcome) : List Act :=
  runWorkers (args.map (fun a => (glusterBlockModifyRemote a mobj, jobs a)))

/-- Zero when no worker failed. -/
def collectExits (workers : List Act) : Int := if workers.all (fun w => w.ret == 0) then 0 else -1

def glusterBlockModifyRemoteAsync (info : MetaInfo) (mobj : BlockModify)
    (jobs : Addr → JobOutcome) (sched : List Nat) : AsyncResult :=
  let args := glusterBlockModifyArgsFill mobj.authMode info
  let workers := modifyWorkers args mobj jobs
  let lists := glusterBlockCollectAttemptSuccess (args.zip (workers.map Act.ret)) false
  { act := { evs := runPool workers sched, ret := collectExits workers },
    attempt := lists.1, success := lists.2 }

structure ModifyResult where
  evs : List Ev
  errCode : Int
  errMsg : Option String
  asyncret : Int
  lists : List (String × List Addr)

def missingConfiguration (blockName : String) : String :=
  "Some of the nodes are missing configuration, please look at logs for recent operations on the "
    ++ blockName ++ "."

def modifyPasswd (blk : BlockModifyCli) (info : MetaInfo) (passwd : String) : String :=
  if blk.authMode then if info.passwd = "" then passwd else info.passwd else ""

/-- The update of the recorded password, made unless a recorded one is reused. -/
def modifyRecord (blk : BlockModifyCli) (info : MetaInfo) (env : ModifyEnv) : Act :=
  if blk.authMode && info.passwd != "" then .done 0
  else metaUpdate env.password [.passwd (modifyPasswd blk info env.passwd)]

def modifyObj (blk : BlockModifyCli) (info : MetaInfo) (env : ModifyEnv) : BlockModify where
  volume := blk.volume
  blockName := blk.blockName
  gbid := info.gbid
  passwd := modifyPasswd blk info env.passwd
  authMode := blk.authMode

/-- The unwinding behind a failed round: the password is cleared after an enable,
and the opposite request goes to the hosts whose new status selects them. -/
def modifyUndo (blk : BlockModifyCli) (mobj : BlockModify) (js : Journal) (env : ModifyEnv)
    (tried : AsyncResult) : ModifyResult :=
  let clear := if blk.authMode then metaUpdate env.clearPassword [.passwd ""] else .done 0
  let failed := [("FAILED ON", tried.attempt), ("SUCCESSFUL ON", tried.success)]
  if clear.ret ≠ 0 then
    { evs := clear.evs, errCode := clear.ret,
      errMsg := some (updateFailed blk.volume blk.blockName env.session.strerror),
      asyncret := tried.act.ret, lists := failed }
  else
    let info := replay (js ++ written clear.evs)
    let undo := glusterBlockModifyRemoteAsync info { mobj with authMode := !mobj.authMode }
      env.undoJobs env.undoSched
    { evs := clear.evs ++ undo.act.evs, errCode := undo.act.ret, errMsg := none,
      asyncret := tried.act.ret,
      lists := failed ++ [("ROLLBACK FAILED ON", undo.attempt),
                          ("ROLLBACK SUCCESS ON", undo.success)] }

def modifyBody (blk : BlockModifyCli) (js : Journal) (env : ModifyEnv) : ModifyResult :=
  let info := replay js
  let record := modifyRecord blk info env
  if record.ret ≠ 0 then
    { evs := record.evs, errCode := record.ret,
      errMsg := some (updateFailed blk.volume blk.blockName env.session.strerror),
      asyncret := 0, lists := [] }
  else
    let mobj := modifyObj blk info env
    let tried := glusterBlockModifyRemoteAsync info mobj env.jobs env.sched
    if tried.act.ret = 0 then
      { evs := record.evs ++ tried.act.evs, errCode := 0, errMsg := none, asyncret := 0,
        lists := [("FAILED ON", tried.attempt), ("SUCCESSFUL ON", tried.success)] }
    else
      let undo := modifyUndo blk mobj (js ++ written record.evs ++ written tried.act.evs) env tried
      { undo with evs := record.evs ++ tried.act.evs ++ undo.evs }

/-- The reply carries the code of the first round when it failed. -/
def formatModify (asyncret errCode : Int) (errMsg : Option String)
    (lists : List (String × List Addr)) : BlockResponse :=
  let code := if asyncret ≠ 0 then asyncret else errCode
  match errMsg with
  | some msg => blockFormatErrorResponse (exitCode code) (some msg)
  | none => { exit := exitCode code, result := resultOf code, errMsg := none, lists := lists }

/-- The checks of a modify request on the hosts: all `mpath` of them configured and
able. `none` is the overrun of the host array. -/
def checkConfigured (req : CapRequest) (blockName : String) (js : Journal)
    (caps : Nat → VersionCall) : Option (Int × Option String) :=
  let info := replay js
  match glusterBlockGetListFromInfo info with
  | none => none
  | some list =>
    if list.length ≠ info.mpath then some (eNOENT, some (missingConfiguration blockName))
    else some (checkHosts req list caps)

def blockModifyCli (blk : BlockModifyCli) (env : ModifyEnv) (file : Metafile) : Outcome :=
  let finish := fun (res : ModifyResult) =>
    let (errCode, errMsg) := env.session.unlock blk.volume res.errCode res.errMsg
    Outcome.mk res.evs (some (formatModify res.asyncret errCode errMsg res.lists))
  let refuse := fun (errCode : Int) (errMsg : Option String) =>
    finish { evs := [], errCode := errCode, errMsg := errMsg, asyncret := 0, lists := [] }
  match env.session.connect with
  | some (errCode, msg) => { evs := [], reply := some (formatModify 0 errCode (some msg) []) }
  | none =>
    match env.session.access blk.volume blk.blockName file with
    | .error (errCode, errMsg) => refuse errCode errMsg
    | .ok js =>
      match checkConfigured (.modify blk) blk.blockName js env.caps with
      | none => { evs := [], reply := none }
      | some (errCode, errMsg) =>
        if errCode ≠ 0 then refuse errCode errMsg else finish (modifyBody blk js env)

section Size

structure ModifySizeEnv where
  session : Session
  caps : Nat → VersionCall
  resizeEntry : Option String
  sizeUpdate : UpdRes
  jobs : Addr → JobOutcome
  sched : List Nat

/-- The mantissa and unit of a size, a tenth of the unit as the last digit. -/
def sizeUnits : Nat → Nat → Nat → List String → String
  | 0, bytes, _, _ => toString bytes
  | fuel + 1, bytes, rem, units =>
    if bytes ≥ 1024 then sizeUnits fuel (bytes / 1024) (bytes % 1024) units.tail
    else
      let scaled := (bytes * 1024 + rem) * 10
      let up := scaled % 1024 > 512 || (scaled % 1024 == 512 && scaled / 1024 % 2 == 1)
      let tenths := scaled / 1024 + if up then 1 else 0
      toString (tenths / 10) ++ "." ++ toString (tenths % 10) ++ " " ++ units.headD ""

def glusterBlockFormatSize (bytes : Nat) : String :=
  sizeUnits 9 bytes 0 ["B", "KiB", "MiB", "GiB", "TiB", "PiB", "EiB", "ZiB", "YiB"]

/-- A host is skipped when the block has the requested size and its last resize
succeeded, whatever size that was for. -/
def glusterBlockModifySizeArgsFill (mobj : BlockModifySize) (info : MetaInfo) :
    List Addr × List Addr :=
  let skip := fun node : NodeInfo => info.size == mobj.size &&
    blockMetaStatusEnumParse node.status == some .rsSuccess
  ((info.list.filter (fun node => !skip node && blockhostIsValid node.status)).map NodeInfo.addr,
   (info.list.filter skip).map NodeInfo.addr)

def modifySizeWorkers (args : List Addr) (mobj : BlockModifySize) (jobs : Addr → JobOutcome) :
    List Act :=
  runWorkers (args.map (fun a => (glusterBlockModifySizeRemote a mobj, jobs a)))

def glusterBlockIsResizeFailed (info : MetaInfo) : Bool :=
  info.list.any (fun node =>
    let status := blockMetaStatusEnumParse node.status
    status == some .rsFail || status == some .rsInprogress)

def sameSize (cSize rSize : String) : String :=
  "request size (" ++ cSize ++ ") is same as current size (" ++ rSize ++ ") ]"

def shrinkSize (cSize rSize : String) : String :=
  "Shrink size ?\nuse 'force' option [current size " ++ cSize ++ ", request size " ++ rSize ++ "]"

/-- The refusals on the requested size. -/
def sizeRefusal (blk : BlockModifySizeCli) (info : MetaInfo) : Option (Int × String) :=
  if info.blkSize ≠ 0 ∧ blk.size % info.blkSize ≠ 0 then
    some (eINVAL, "size (" ++ toString blk.size ++ ") is incorrect, it should be aligned to " ++
      "block size (" ++ toString info.blkSize ++ ")")
  else if (info.size > blk.size ∧ ¬ blk.force) ∨
      (info.size = blk.size ∧ ¬ glusterBlockIsResizeFailed info) then
    let cSize := glusterBlockFormatSize info.size
    let rSize := glusterBlockFormatSize blk.size
    some (-1, if info.size = blk.size then sameSize cSize rSize else shrinkSize cSize rSize)
  else none

def modifySizeObj (blk : BlockModifySizeCli) (info : MetaInfo) : BlockModifySize where
  volume := blk.volume
  blockName := blk.blockName
  gbid := info.gbid
  size := blk.size

def modifySizeBody (blk : BlockModifySizeCli) (js : Journal) (env : ModifySizeEnv) :
    ModifyResult :=
  let info := replay js
  let mobj := modifySizeObj blk info
  match env.resizeEntry with
  | some msg => { evs := [], errCode := -1, errMsg := some msg, asyncret := 0, lists := [] }
  | none =>
    let record := metaUpdate env.sizeUpdate [.size blk.size]
    if record.ret ≠ 0 then
      { evs := record.evs, errCode := record.ret,
        errMsg := some (updateFailed blk.volume blk.blockName env.session.strerror),
        asyncret := 0, lists := [] }
    else
      let (args, skipped) := glusterBlockModifySizeArgsFill mobj info
      let workers := modifySizeWorkers args mobj env.jobs
      let asyncret := collectExits workers
      let lists := glusterBlockCollectAttemptSuccess (args.zip (workers.map Act.ret)) false
      { evs := record.evs ++ runPool workers env.sched, errCode := asyncret, errMsg := none,
        asyncret := asyncret,
        lists := [("FAILED ON", lists.1), ("SUCCESSFUL ON", lists.2), ("SKIPPED ON", skipped)] }

def blockModifySizeCli (blk : BlockModifySizeCli) (env : ModifySizeEnv) (file : Metafile) :
    Outcome :=
  let finish := fun (res : ModifyResult) =>
    let (errCode, errMsg) := env.session.unlock blk.volume res.errCode res.errMsg
    Outcome.mk res.evs (some (formatModify res.asyncret errCode errMsg res.lists))
  let refuse := fun (errCode : Int) (errMsg : Option String) =>
    finish { evs := [], errCode := errCode, errMsg := errMsg, asyncret := 0, lists := [] }
  match env.session.connect with
  | some (errCode, msg) => { evs := [], reply := some (formatModify 0 errCode (some msg) []) }
  | none =>
    match env.session.access blk.volume blk.blockName file with
    | .error (errCode, errMsg) => refuse errCode errMsg
    | .ok js =>
      match sizeRefusal blk (replay js) with
      | some (errCode, msg) => refuse errCode (some msg)
      | none =>
        match checkConfigured (.modifySize blk) blk.blockName js env.caps with
        | none => { evs := [], reply := none }
        | some (errCode, errMsg) =>
          if errCode ≠ 0 then refuse errCode errMsg else finish (modifySizeBody blk js env)

end Size

end GlusterBlock
