import GlusterBlock.BlockModify

/-! Replace: the new node is created, the portal of the old node is replaced on
the other nodes and the old node is deleted, all at once. Each of the three is
skipped when the metafile shows that an earlier run did it. -/
namespace GlusterBlock

structure ReplaceEnv where
  session : Session
  caps : Nat → VersionCall
  volServer : String
  create : JobOutcome
  portals : Addr → JobOutcome
  delete : JobOutcome
  sched : List Nat
  cleanupSuccess : UpdRes
  prioPath : UpdRes

def blockGetHostStatus (info : MetaInfo) : Option Addr → Option MetaStatus
  | some host => blockGetAddrStatusFromInfo info host
  | none => none

/-- The hosts behind `skiphost` that were valid at some time, by their raw
status text. -/
def blockParseValidServers (js : Journal) (skiphost : Option Addr) : List Addr :=
  js.foldl (fun list l =>
    match l with
    | .host a s n =>
      if some a = skiphost ∨ a ∈ list ∨ ¬ blockhostIsValid (statusText s n) then list
      else list ++ [a]
    | _ => list) []

def replaceXdata (info : MetaInfo) (volServer : String) : CreateXdata :=
  if info.ioTimeout ≠ 0 then .v4 volServer info.blkSize info.ioTimeout
  else if info.blkSize ≠ 0 then .v3 volServer info.blkSize
  else .v2 volServer

/-- The valid hosts other than the old node, in metafile order. -/
def replaceOthers (info : MetaInfo) (oldNode : Addr) : List Addr :=
  (info.list.filter (fun node =>
    node.addr != oldNode && blockhostIsValid node.status)).map NodeInfo.addr

def replaceCobj (blk : BlockReplaceCli) (info : MetaInfo) (volServer : String) : BlockCreate2 where
  ipaddr := blk.newNode
  volume := info.volume
  gbid := info.gbid
  passwd := info.passwd
  size := info.size
  blockName := blk.blockName
  prioPath := if info.prioPath = blk.oldNode then blk.newNode else info.prioPath
  blockHosts := joinServers (blk.newNode :: replaceOthers info blk.oldNode)
  authMode := info.passwd != ""
  rbSize := info.rbSize
  xdata := replaceXdata info volServer

def replaceRobj (blk : BlockReplaceCli) (info : MetaInfo) : BlockReplace where
  volume := info.volume
  blockName := blk.blockName
  gbid := info.gbid
  ipaddr := blk.newNode
  ripaddr := blk.oldNode

/-- The slots 1 to `mpath - 1` of the argument array: the other valid hosts, cut
off by the slot of the old node, and empty where there are too few of them. -/
def replaceSlots (info : MetaInfo) (oldNode : Addr) : List (Option Addr) :=
  (List.range (info.mpath - 1)).map (fun i => (replaceOthers info oldNode)[i]?)

structure ReplaceChecks where
  cCheck : Bool
  dCheck : Bool
  rCheck : Bool
  deriving DecidableEq, Repr

def portalTried : Option MetaStatus → Bool
  | some .rpSuccess | some .rpInprogress | some .rpFail => true
  | _ => false

/-- The checks in front of the sub-operations: an error code, or what is left to do. -/
def replaceChecks (blk : BlockReplaceCli) (info : MetaInfo) : Except Int ReplaceChecks :=
  let oldStatus := blockGetHostStatus info (some blk.oldNode)
  let newStatus := blockGetHostStatus info (some blk.newNode)
  let slots := replaceSlots info blk.oldNode
  let newNodeInUse := newStatus.any MetaStatus.isValid
  let cCheck := isConfigured newStatus
  let flag := slots.any (fun a => !portalTried (blockGetHostStatus info a))
  if oldStatus = none then .error gbNodeNotExist
  else if newNodeInUse && !cCheck then .error gbNodeInUse
  else if cCheck && flag then .error gbNodeInUse
  else .ok
    { cCheck := cCheck, dCheck := oldStatus == some .cleanupSuccess,
      rCheck := slots.any (fun a => blockGetHostStatus info a != some .rpSuccess) }

structure OpResp where
  attempt : List Addr
  success : List Addr
  skipped : List Addr
  status : Int
  deriving DecidableEq, Repr

structure ReplaceResp where
  cop : OpResp
  dop : OpResp
  rop : OpResp
  force : Bool
  status : Int
  deriving DecidableEq, Repr

def skippedOp (addrs : List Addr) : OpResp :=
  { attempt := [], success := [], skipped := addrs, status := gbOpSkipped }

def oneOp (addr : Addr) (exit : Int) : OpResp :=
  { attempt := if exit ≠ 0 then [addr] else [], success := if exit = 0 then [addr] else [],
    skipped := [], status := exit }

def portalOp (rop : OpResp) (addr : Addr) (exit : Int) : OpResp :=
  { rop with
    attempt := if exit ≠ 0 then rop.attempt ++ [addr] else rop.attempt,
    success := if exit = 0 then rop.success ++ [addr] else rop.success,
    status := exit }

/-- The loop over the portal results: the status is that of the last one. -/
def portalOps (exits : List (Addr × Int)) : OpResp :=
  exits.foldl (fun rop a => portalOp rop a.1 a.2)
    { attempt := [], success := [], skipped := [], status := -1 }

structure ReplaceJobs where
  create : Option Act
  portals : List (Addr × Act)
  delete : Option Act

def ReplaceJobs.workers (jobs : ReplaceJobs) : List Act :=
  jobs.create.toList ++ jobs.portals.map Prod.snd ++ jobs.delete.toList

/-- The threads that are started; an empty slot has none here, its thread kills
the daemon. -/
def replaceJobs (blk : BlockReplaceCli) (info : MetaInfo) (checks : ReplaceChecks)
    (env : ReplaceEnv) : ReplaceJobs where
  create :=
    if checks.cCheck then none
    else some ((glusterBlockCreateRemote blk.newNode
      (replaceCobj blk info env.volServer)).run env.create)
  portals :=
    if checks.rCheck then
      ((replaceSlots info blk.oldNode).filterMap id).map (fun a =>
        (a, (glusterBlockReplacePortalRemote a (replaceRobj blk info)).run (env.portals a)))
    else []
  delete :=
    if checks.dCheck then none
    else some ((glusterBlockDeleteRemote blk.oldNode
      { blockName := blk.blockName, gbid := info.gbid }).run env.delete)

def collectReplace (blk : BlockReplaceCli) (info : MetaInfo) (checks : ReplaceChecks)
    (jobs : ReplaceJobs) : ReplaceResp where
  cop :=
    match jobs.create with
    | none => skippedOp [blk.newNode]
    | some w => oneOp blk.newNode w.ret
  dop :=
    match jobs.delete with
    | none => skippedOp [blk.oldNode]
    | some w => oneOp blk.oldNode w.ret
  rop :=
    if checks.rCheck then portalOps (jobs.portals.map (fun p => (p.1, p.2.ret)))
    else if info.mpath = 1 then
      { attempt := [], success := ["N/A"], skipped := [], status := 0 }
    else skippedOp ((replaceSlots info blk.oldNode).filterMap id)
  force := blk.force
  status := 0

def allSkipped (blk : BlockReplaceCli) : ReplaceResp where
  cop := { attempt := [], success := [], skipped := [], status := -1 }
  dop := { attempt := [], success := [], skipped := [], status := -1 }
  rop := { attempt := [], success := [], skipped := [], status := -1 }
  force := blk.force
  status := gbOpSkipped

inductive ReplaceRun where
  | refused (errCode : Int)
  | skipped
  | died (evs : List Ev)
  | ran (evs : List Ev) (resp : ReplaceResp)
  deriving DecidableEq, Repr

/-- The array has `mpath + 1` slots. The hosts are filled in from slot 1 on before
anything is checked, so more than `mpath` of them overrun it. -/
def glusterBlockReplaceNodeRemoteAsync (blk : BlockReplaceCli) (info : MetaInfo)
    (env : ReplaceEnv) : ReplaceRun :=
  if (replaceOthers info blk.oldNode).length > info.mpath then .died []
  else
    match replaceChecks blk info with
    | .error errCode => .refused errCode
    | .ok checks =>
      if !checks.rCheck && checks.dCheck && checks.cCheck then .skipped
      else
        let jobs := replaceJobs blk info checks env
        let evs := runPool jobs.workers env.sched
        if checks.rCheck && (replaceSlots info blk.oldNode).any Option.isNone then .died evs
        else .ran evs (collectReplace blk info checks jobs)

def opDone (status : Int) : Bool := status == gbOpSkipped || status == 0

def replaceResult (cop dop rop : Int) : ResultWord :=
  if opDone cop && opDone dop && opDone rop then .success else .fail

def replaceLists (resp : ReplaceResp) : List (String × List Addr) :=
  let one := fun (op : OpResp) (label ignored : String) =>
    if op.status = gbOpSkipped then [(label ++ " SKIPPED", op.skipped)]
    else if op.status ≠ 0 then [(label ++ " FAILED" ++ ignored, op.attempt)]
    else [(label ++ " SUCCESS", op.success)]
  one resp.cop "CREATE" "" ++ one resp.dop "DELETE" (if resp.force then " (ignored)" else "") ++
    if resp.rop.status = gbOpSkipped then [("REPLACE PORTAL SKIPPED ON", resp.rop.skipped)]
    else [("REPLACE PORTAL FAILED ON", resp.rop.attempt),
          ("REPLACE PORTAL SUCCESS ON", resp.rop.success)]

/-- A failed delete is turned into a success under force in the plain text, and
always in the JSON text. -/
def mimicSuccess (blk : BlockReplaceCli) (resp : ReplaceResp) : Int :=
  if resp.dop.status ≠ gbOpSkipped ∧ resp.dop.status ≠ 0 then
    if blk.jsonResp.given || resp.force then 0 else resp.dop.status
  else resp.dop.status

def blockReplaceNodeCliFormatResponse (blk : BlockReplaceCli) (errCode : Int)
    (errMsg : Option String) (saved : Option ReplaceResp) : BlockResponse :=
  match errMsg, saved with
  | some msg, _ => blockFormatErrorResponse (exitCode errCode) (some msg)
  | none, none => blockFormatErrorResponse (exitCode errCode) (some gbDefaultErrmsg)
  | none, some resp =>
    if resp.status = gbOpSkipped then
      { exit := exitCode errCode, result := .skipped, errMsg := none, lists := [] }
    else if resp.status = -1 then
      { exit := exitCode errCode, result := .fail,
        errMsg := some "Given new-node is already in-use with this block, use other node",
        lists := [] }
    else
      { exit := exitCode errCode,
        result := replaceResult resp.cop.status (mimicSuccess blk resp) resp.rop.status,
        errMsg := none, lists := replaceLists resp }

def replaceRefusal (blk : BlockReplaceCli) (errCode : Int) : String :=
  if errCode = gbNodeNotExist then
    "block '" ++ blk.blockName ++ "' is not configured on node '" ++ blk.oldNode ++
      "' for volume '" ++ blk.volume ++ "'"
  else
    "block '" ++ blk.blockName ++ "' was already configured on node '" ++ blk.newNode ++
      "' for volume '" ++ blk.volume ++ "'"

/-- The updates behind the sub-operations. -/
def replaceTrailer (blk : BlockReplaceCli) (info : MetaInfo) (resp : ReplaceResp)
    (env : ReplaceEnv) : Act :=
  (if resp.force && resp.dop.status != 0 then
      metaUpdate env.cleanupSuccess [.host blk.oldNode .cleanupSuccess none]
    else .done 0).next <|
  if info.prioPath ≠ "" ∧ info.prioPath = blk.oldNode then
    metaUpdate env.prioPath [.prioPath blk.newNode]
  else .done 0

/-- The capability check, on all hosts that were ever valid; it passes when there
is no such host. -/
def replaceCaps (blk : BlockReplaceCli) (js : Journal) (caps : Nat → VersionCall) :
    Int × Option String :=
  let list := blockParseValidServers js (if blk.force then some blk.oldNode else none)
  if list = [] then (0, none) else checkHosts (.replace blk) list caps

def blockReplaceCli (blk : BlockReplaceCli) (env : ReplaceEnv) (file : Metafile) : Outcome :=
  let finish := fun (evs : List Ev) (errCode : Int) (errMsg : Option String) saved =>
    let (errCode, errMsg) := env.session.unlock blk.volume errCode errMsg
    Outcome.mk evs (some (blockReplaceNodeCliFormatResponse blk errCode errMsg saved))
  match env.session.connect with
  | some _ => -- this way out passes the formatting by
    { evs := [], reply := some { exit := -1, result := .fail, errMsg := none, lists := [] } }
  | none =>
    match env.session.access blk.volume blk.blockName file with
    | .error (errCode, errMsg) => finish [] errCode errMsg none
    | .ok js =>
      let info := replay js
      let (errCode, errMsg) := replaceCaps blk js env.caps
      if errCode ≠ 0 then finish [] errCode errMsg none
      else
        match glusterBlockReplaceNodeRemoteAsync blk info env with
        | .died evs => { evs := evs, reply := none }
        | .refused errCode => finish [] errCode (some (replaceRefusal blk errCode)) none
        | .skipped =>
          let trailer := replaceTrailer blk info (allSkipped blk) env
          finish trailer.evs trailer.ret
            (if trailer.ret ≠ 0
              then some (updateFailed blk.volume blk.blockName env.session.strerror) else none)
            (some (allSkipped blk))
        | .ran evs resp =>
          let trailer := replaceTrailer blk info resp env
          finish (evs ++ trailer.evs) trailer.ret
            (if trailer.ret ≠ 0
              then some (updateFailed blk.volume blk.blockName env.session.strerror) else none)
            (some resp)

end GlusterBlock
