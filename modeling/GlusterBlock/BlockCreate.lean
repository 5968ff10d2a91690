import GlusterBlock.BlockDelete

/-! Create: the capability gate, the first lines of the metafile, the workers, and
the audit that rolls an incomplete create back. -/
namespace GlusterBlock

inductive CreateEntryRes where
  | created (stSize : Nat)
  | failed (errno : Int) (nonzero : errno ≠ 0) (errMsg : String) (unlinkedMeta : Bool)
  deriving Repr

structure CreateEnv where
  session : Session
  caps : Nat → VersionCall
  volServer : String
  prioPath : Addr
  gbid : String
  passwd : String
  header : UpdRes
  createEntry : CreateEntryRes
  entry : UpdRes
  password : UpdRes
  jobs : Nat → JobOutcome
  sched : List Nat
  cleanUp : CleanUpEnv

def updateFailed (volume blockName strerror : String) : String :=
  "Failed to update transaction log for " ++ volume ++ "/" ++ blockName ++ "[" ++ strerror ++ "]"

def createPrioPath (env : CreateEnv) (resultCaps : Caps) : Addr :=
  if resultCaps .createLoadBalance then "" else env.prioPath

def headerLines (blk : BlockCreateCli) (gbid : String) (prioPath : Addr) : Journal :=
  [.volume blk.volume, .gbid gbid, .ha blk.mpath, .entryCreate .inprogress] ++
    if prioPath = "" then [] else [.prioPath prioPath]

/-- A block on an existing storage file takes the size of that file. -/
def createSize (blk : BlockCreateCli) (env : CreateEnv) : Nat :=
  match env.createEntry with
  | .created stSize => if blk.storage = "" then blk.size else stSize
  | .failed _ _ _ _ => blk.size

def entryLines (blk : BlockCreateCli) (size : Nat) (resultCaps : Caps) : Journal :=
  [.size size, .ringBuffer blk.rbSize, .blkSize blk.blkSize] ++
    (if resultCaps .createIoTimeout then [] else [.ioTimeout blk.ioTimeout]) ++
    [.entryCreate .success]

/-- The updates in front of the workers, with the backing file made between them. -/
def createPrepare (blk : BlockCreateCli) (env : CreateEnv) (resultCaps : Caps) : Act :=
  (metaUpdate env.header (headerLines blk env.gbid (createPrioPath env resultCaps))).next <|
    match env.createEntry with
    | .failed errno _ _ unlinkedMeta =>
      { evs := if unlinkedMeta then [.unlinkMeta] else [], ret := errno }
    | .created _ =>
      (metaUpdate env.entry (entryLines blk (createSize blk env) resultCaps)).next <|
        if blk.authMode then metaUpdate env.password [.passwd env.passwd] else .done 0

def createPrepareMsg (blk : BlockCreateCli) (env : CreateEnv) : String :=
  match env.header, env.createEntry with
  | .ok, .failed _ _ errMsg _ => errMsg
  | _, _ => updateFailed blk.volume blk.blockName env.session.strerror

def createObj (blk : BlockCreateCli) (env : CreateEnv) (resultCaps : Caps) : BlockCreate2 where
  ipaddr := ""
  volume := blk.volume
  gbid := env.gbid
  passwd := if blk.authMode then env.passwd else ""
  size := createSize blk env
  blockName := blk.blockName
  prioPath := createPrioPath env resultCaps
  blockHosts := blk.blockHosts
  authMode := blk.authMode
  rbSize := blk.rbSize
  xdata :=
    if !resultCaps .createIoTimeout then .v4 env.volServer blk.blkSize blk.ioTimeout
    else if blk.blkSize ≠ 0 then .v3 env.volServer blk.blkSize
    else .v2 env.volServer

def createWorkers (hosts : List Addr) (cobj : BlockCreate2) (jobs : Nat → JobOutcome) : List Act :=
  runWorkers (hosts.zipIdx.map (fun h => (glusterBlockCreateRemote h.1 cobj, jobs h.2)))

def isConfigured (status : Option MetaStatus) : Bool :=
  status == some .configSuccess || status == some .authEnforced

def successcnt (info : MetaInfo) : Nat :=
  info.list.countP (fun node => isConfigured (blockMetaStatusEnumParse node.status))

/-- The code of the rollback is dropped, what is returned is that of the read. -/
def glusterBlockAuditRequest (js : Journal) (blk : BlockCreateCli) (env : CleanUpEnv) :
    CleanUpResult :=
  if blk.mpath = successcnt (replay js) then { act := .done 0, attempt := [], success := [] }
  else
    let res := glusterBlockCleanUp js blk.blockName false true env
    { res with act := { res.act with ret := 0 } }

/-- A host is dropped when its text is part of one that was kept before it. -/
def removeDuplicateSubstr (addrs : List Addr) : List Addr :=
  addrs.foldl (fun out a =>
    if out.any (fun b => decide (a.toList <:+: b.toList)) then out else out ++ [a]) []

def blockCreateCliFormatResponse (blk : BlockCreateCli) (file : Metafile) (errCode : Int)
    (errMsg : Option String) (saved : List Addr × List Addr) : BlockResponse :=
  match errMsg, file with
  | some msg, _ => blockFormatErrorResponse (exitCode errCode) (some msg)
  | none, none =>
    blockFormatErrorResponse (if exitCode errCode ≠ 0 then exitCode errCode else gbDefaultErrcode)
      none
  | none, some js =>
    if blk.mpath = 0 then blockFormatErrorResponse (exitCode errCode) (some gbDefaultErrmsg)
    else
      let unfinished := ((replay js).list.filter (fun node =>
        blockMetaStatusEnumParse node.status == some .configInprogress)).map NodeInfo.addr
      { exit := exitCode errCode, result := resultOf errCode, errMsg := none,
        lists := [("ROLLBACK FAILED ON", removeDuplicateSubstr (saved.1 ++ unfinished)),
                  ("ROLLBACK SUCCESS ON", removeDuplicateSubstr saved.2)] }

/-- What follows the refusals: the updates, the workers and the audit. -/
def createBody (blk : BlockCreateCli) (env : CreateEnv) (resultCaps : Caps) (file : Metafile) :
    CleanUpResult × Option String :=
  let prep := createPrepare blk env resultCaps
  if prep.ret ≠ 0 then
    ({ act := prep, attempt := [], success := [] }, some (createPrepareMsg blk env))
  else
    let hosts := (blockServerParse blk.blockHosts).take blk.mpath
    let workers := createWorkers hosts (createObj blk env resultCaps) env.jobs
    let evs := prep.evs ++ runPool workers env.sched
    let js := (metaAfter file evs).getD []
    let audit := glusterBlockAuditRequest js blk env.cleanUp
    ({ audit with act := { audit.act with evs := evs ++ audit.act.evs } }, none)

def blockCreateCli (blk : BlockCreateCli) (env : CreateEnv) (file : Metafile) : Outcome :=
  let finish := fun (evs : List Ev) (errCode : Int) (errMsg : Option String) saved =>
    let (errCode, errMsg) := env.session.unlock blk.volume errCode errMsg
    Outcome.mk evs (some
      (blockCreateCliFormatResponse blk (metaAfter file evs) errCode errMsg saved))
  let hosts := blockServerParse blk.blockHosts
  let refuse := fun (errCode : Int) (errMsg : Option String) =>
    Outcome.mk [] (some (blockCreateCliFormatResponse blk file errCode errMsg ([], [])))
  if blk.mpath > hosts.length then
    refuse (-1) (some ("multipath req: " ++ toString blk.mpath ++ " > block-hosts: " ++
      blk.blockHosts))
  else
    match createCapGate blk (capArgs hosts env.caps), env.session.connect with
    | .error (errCode, errMsg), _ => refuse errCode errMsg
    | .ok _, some (errCode, msg) => refuse errCode (some msg)
    | .ok resultCaps, none =>
      if env.session.accessErr.isNone && file.isSome then
        finish [] eEXIST (some ("BLOCK with name: '" ++ blk.blockName ++ "' already EXIST"))
          ([], [])
      else
        let (res, errMsg) := createBody blk env resultCaps file
        finish res.act.evs res.act.ret errMsg (res.attempt, res.success)

end GlusterBlock
