import GlusterBlock.Capabilities
import GlusterBlock.Workers

/-! What the requests of the command line share: the way in through the lock and
the metafile, the hosts a replayed metafile names, and the reply. -/
namespace GlusterBlock

inductive ResultWord where
  | success | fail | skipped
  deriving DecidableEq, Repr

structure BlockResponse where
  exit : Int
  result : ResultWord
  errMsg : Option String
  lists : List (String × List Addr)
  deriving DecidableEq, Repr

/-- The effects of a request and its reply; no reply means that the daemon died
of a bad access on the way. -/
structure Outcome where
  evs : List Ev
  reply : Option BlockResponse
  deriving DecidableEq, Repr

def exitCode (errCode : Int) : Int := if errCode < 0 then gbDefaultErrcode else errCode

def blockFormatErrorResponse (errCode : Int) (errMsg : Option String) : BlockResponse :=
  { exit := errCode, result := .fail, errMsg := errMsg, lists := [] }

def gbDefaultErrmsg : String :=
  "Operation failed, please check the log file to find the reason."

def resultOf (errCode : Int) : ResultWord := if errCode = 0 then .success else .fail

/-- How the storage answers while a request finds its block: the volume and the
lock, the access check for a reason other than a missing file, the first read of
the metafile, the unlock at the end, and what `strerror` says of the one that fails. -/
structure Session where
  connect : Option (Int × String)
  accessErr : Option Int
  readMeta : Bool
  unlocked : Bool
  strerror : String
  deriving DecidableEq, Repr

def Session.good : Session where
  connect := none
  accessErr := none
  readMeta := true
  unlocked := true
  strerror := "Success"

/-- `GB_METAUNLOCK`: a failure keeps an earlier message. -/
def Session.unlock (s : Session) (volume : String) (errCode : Int) (errMsg : Option String) :
    Int × Option String :=
  if s.unlocked then (errCode, errMsg)
  else
    (-1, some (errMsg.getD
      ("Not able to acquire lock on " ++ volume ++ "[" ++ s.strerror ++ "]")))

/-- The error of a request that ends before it reads its metafile. -/
def Session.access (s : Session) (volume blockName : String) (file : Metafile) :
    Except (Int × Option String) Journal :=
  match s.accessErr, file with
  | some errno, _ =>
    .error (errno, some ("block " ++ volume ++ "/" ++ blockName ++ " is not accessible (" ++
      s.strerror ++ ")"))
  | none, none =>
    .error (eNOENT, some ("block " ++ volume ++ "/" ++ blockName ++ " doesn't exist"))
  | none, some js => if s.readMeta then .ok js else .error (-1, none)

/-- The array has room for `mpath` hosts; one more is written past its end. -/
def glusterBlockGetListFromInfo (info : MetaInfo) : Option (List Addr) :=
  let hosts := (info.list.filter (fun node => blockhostIsValid node.status)).map NodeInfo.addr
  if hosts.length ≤ info.mpath then some hosts else none

theorem getListFromInfo_replay (js : Journal) :
    glusterBlockGetListFromInfo (replay js) =
      if (validHosts js).length ≤ (replay js).mpath then some (validHosts js) else none := rfl

/-- The hosts a worker failed on and the others. A node that does not know the
block counts as done for a delete. -/
def glusterBlockCollectAttemptSuccess (args : List (Addr × Int)) (isDelete : Bool) :
    List Addr × List Addr :=
  let failed := fun a : Addr × Int => a.2 != 0 && !(a.2 == gbBlockNotFound && isDelete)
  ((args.filter failed).map Prod.fst, (args.filter (fun a => !failed a)).map Prod.fst)

/-- The metafile of a block that was created on these hosts one after another. -/
def configuredLines (mpath : Nat) (hosts : List Addr) : Journal :=
  [.volume "vol", .gbid "6b60c53c-8ce0-4d8d-a42c-5b546bca3d09", .ha mpath,
   .entryCreate .inprogress, .size 1048576, .ringBuffer 0, .blkSize 0, .ioTimeout 0,
   .entryCreate .success] ++
    hosts.flatMap (fun a => [.host a .configInprogress none, .host a .configSuccess none])

/-- One worker a host, and what became of each. -/
def runWorkers (jobs : List (RemoteJob × JobOutcome)) : List Act :=
  jobs.map (fun j => j.1.run j.2)

/-- The capability check of a request on an existing block. -/
def checkHosts (req : CapRequest) (hosts : List Addr) (calls : Nat → VersionCall) :
    Int × Option String :=
  let res := glusterBlockCheckCapabilities req (capArgs hosts calls) none
  (res.ret, res.errMsg)

end GlusterBlock
