import GlusterBlock.Coordinator

/-! Delete: the cleanup of the nodes, of the backing file and of the metafile,
which a failed create uses too. -/
namespace GlusterBlock

inductive StoreRes where
  | ok | notFound | failed
  deriving DecidableEq, Repr

/-- The outcomes of a cleanup: one job a host, the schedule of the workers, the
updates around the backing file, its removal and that of the metafile. -/
structure CleanUpEnv where
  jobs : Addr → JobOutcome
  sched : List Nat
  entryStart : UpdRes
  deleteEntry : StoreRes
  entryEnd : UpdRes
  unlinkMeta : Bool

def untouched (status : Option MetaStatus) : Bool :=
  status == some .configInprogress || status == some .cleanupSuccess

def glusterBlockDeleteFillArgs (info : MetaInfo) : List Addr :=
  (info.list.filter (fun node => !untouched (blockMetaStatusEnumParse node.status))).map
    NodeInfo.addr

/-- A backing file that is gone already counts as deleted. -/
def glusterBlockDeleteEntry : StoreRes → Int
  | .ok | .notFound => 0
  | .failed => -1

def glusterBlockDeleteMetaFile (unlinked : Bool) : Act :=
  if unlinked then .emit .unlinkMeta else .done (-1)

structure CleanUpResult where
  act : Act
  attempt : List Addr
  success : List Addr

def deleteWorkers (args : List Addr) (dobj : BlockDelete) (env : CleanUpEnv) : List Act :=
  runWorkers (args.map (fun a => (glusterBlockDeleteRemote a dobj, env.jobs a)))

def glusterBlockDeleteRemoteAsync (js : Journal) (dobj : BlockDelete) (env : CleanUpEnv) :
    CleanUpResult :=
  let info := replay js
  let args := glusterBlockDeleteFillArgs info
  let workers := deleteWorkers args dobj env
  let evs := runPool workers env.sched
  let exits := workers.map Act.ret
  let lists := glusterBlockCollectAttemptSuccess (args.zip exits) true
  -- the metafile is read again and compared with what was read before
  let infoNew := replay (js ++ written evs)
  let settled := infoNew.list.countP (fun node =>
    untouched (blockMetaStatusEnumParse node.status))
  let cleanupsuccess := exits.count gbBlockNotFound + settled
  { act := { evs := evs, ret := if cleanupsuccess = info.nhosts then 0 else -1 },
    attempt := lists.1, success := lists.2 }

def deleteFiles (unlink : Bool) (env : CleanUpEnv) : Act :=
  (metaUpdate env.entryStart [.entryDelete .inprogress]).next <|
    if unlink && glusterBlockDeleteEntry env.deleteEntry != 0 then
      (metaUpdate env.entryEnd [.entryDelete .fail]).next (.done (-1))
    else
      (metaUpdate env.entryEnd [.entryDelete .success]).next
        (glusterBlockDeleteMetaFile env.unlinkMeta)

def glusterBlockCleanUp (js : Journal) (blockname : String) (forcedel unlink : Bool)
    (env : CleanUpEnv) : CleanUpResult :=
  let info := replay js
  let dobj : BlockDelete := { blockName := blockname, gbid := info.gbid }
  let nodes : CleanUpResult :=
    if (glusterBlockDeleteFillArgs info).length > 0 then glusterBlockDeleteRemoteAsync js dobj env
    else { act := .done 0, attempt := [], success := [] }
  let asyncret := nodes.act.ret
  let files := if forcedel || asyncret == 0 then deleteFiles unlink env else .done 0
  { nodes with
    act := { evs := nodes.act.evs ++ files.evs,
             ret := if !forcedel && asyncret != 0 then asyncret else files.ret } }

structure DeleteEnv where
  session : Session
  caps : Nat → VersionCall
  cleanUp : CleanUpEnv

def blockDeleteCliFormatResponse (errCode : Int) (errMsg : Option String)
    (saved : List Addr × List Addr) : BlockResponse :=
  match errMsg with
  | some msg => blockFormatErrorResponse (exitCode errCode) (some msg)
  | none =>
    { exit := exitCode errCode, result := resultOf errCode, errMsg := none,
      lists := [("FAILED ON", saved.1), ("SUCCESSFUL ON", saved.2)] }

def blockDeleteCli (blk : BlockDeleteCli) (env : DeleteEnv) (file : Metafile) : Outcome :=
  let finish := fun (evs : List Ev) (errCode : Int) (errMsg : Option String) saved =>
    let (errCode, errMsg) := env.session.unlock blk.volume errCode errMsg
    Outcome.mk evs (some (blockDeleteCliFormatResponse errCode errMsg saved))
  match env.session.connect with
  | some (errCode, msg) =>
    { evs := [], reply := some (blockDeleteCliFormatResponse errCode (some msg) ([], [])) }
  | none =>
    match env.session.access blk.volume blk.blockName file with
    | .error (errCode, errMsg) => finish [] errCode errMsg ([], [])
    | .ok js =>
      let run :=
        let res := glusterBlockCleanUp js blk.blockName blk.force blk.unlink env.cleanUp
        finish res.act.evs res.act.ret none (res.attempt, res.success)
      if blk.force then run
      else
        match glusterBlockGetListFromInfo (replay js) with
        | none => { evs := [], reply := none }
        | some list =>
          let (errCode, errMsg) := checkHosts (.delete blk) list env.caps
          if errCode ≠ 0 then finish [] errCode errMsg ([], []) else run

end GlusterBlock
