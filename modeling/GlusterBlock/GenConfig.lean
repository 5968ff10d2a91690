import GlusterBlock.Coordinator
import GlusterBlock.Lib.Tally
import GlusterBlock.PrioPath

/-! `genconfig`: the storage object and the target that a host gets for each block of a
volume, made from the metafiles. A block without a priority path is given one on the
way. -/
namespace GlusterBlock

structure AluaTpg where
  accessType : Nat
  accessState : Nat
  supportOffline : Nat
  supportStandby : Nat
  supportUnavailable : Nat
  name : String
  tgPtGpId : Nat
  deriving DecidableEq, Repr

/-- What a storage object stands on: a file of a volume and the timeout of its commands,
zero where none is given. -/
structure CfgString where
  volume : String
  server : String
  gbid : String
  ioTimeout : Nat
  deriving DecidableEq, Repr

def gbIoTimeoutStr : String := "tcmur_cmd_time_out"

def CfgString.text (cfg : CfgString) : String :=
  cfg.volume ++ "@" ++ cfg.server ++ "/block-store/" ++ cfg.gbid ++
    if cfg.ioTimeout = 0 then "" else ";" ++ gbIoTimeoutStr ++ "=" ++ toString cfg.ioTimeout

/-- The text of `config` has the handler `glfs/` in front. -/
structure SoObj where
  aluaTpgs : List AluaTpg
  cmdTimeOut : Nat
  devSize : Nat
  config : CfgString
  control : Option String
  name : String
  plugin : String
  size : Nat
  wwn : String
  deriving DecidableEq, Repr

structure TpgObj where
  authentication : Nat
  cacheDynamicAcls : Nat
  demoModeWriteProtect : Nat
  generateNodeAcls : Nat
  enabledSendtargets : Option Nat
  chapPassword : Option String
  chapUserid : Option String
  enable : Bool
  lunAlias : String
  aluaTgPtGpName : Option String
  storageObject : String
  lunIndex : Nat
  authMethod : Option String
  ipAddress : Addr
  port : Nat
  tag : Nat
  deriving DecidableEq, Repr

structure TgObj where
  fabric : String
  tpgs : List TpgObj
  wwn : String
  deriving DecidableEq, Repr

structure SoTgObj where
  soArr : List SoObj
  tgArr : List TgObj
  deriving DecidableEq, Repr

def gbCmdTimeOut : Nat := 130
def gbRingBufferStr : String := "max_data_area_mb"
def gbBlockSizeStr : String := "hw_block_size"
def gbTgcliIqnPrefix : String := "iqn.2016-12.org.gluster-block:"
def gbAluaAoTpgName : String := "glfs_tg_pt_gp_ao"
def gbAluaAnoTpgName : String := "glfs_tg_pt_gp_ano"

/-- What a daemon uses besides the metafiles: its volfile server and the random part of
the names of the luns. -/
structure GenConf where
  volServer : String
  lunAlias : String → Nat → String

def getTpgObj (conf : GenConf) (block : String) (info : MetaInfo) (addr portal : Addr)
    (tag : Nat) : TpgObj :=
  let auth := info.passwd ≠ ""
  { authentication := if auth then 1 else 0
    cacheDynamicAcls := 1
    demoModeWriteProtect := 0
    generateNodeAcls := 1
    enabledSendtargets := if addr = portal then none else some 0
    chapPassword := if auth then some info.passwd else none
    chapUserid := if auth then some info.gbid else none
    enable := decide (addr = portal)
    lunAlias := conf.lunAlias block tag
    aluaTgPtGpName :=
      if info.prioPath = "" then none
      else some (if info.prioPath = portal then gbAluaAoTpgName else gbAluaAnoTpgName)
    storageObject := "/backstores/user/" ++ block
    lunIndex := 0
    authMethod := if auth then some "CHAP" else none
    ipAddress := portal
    port := 3260
    tag := tag }

/-- The valid hosts in the order of the metafile. -/
def blockMetaInfoToServerParse (info : MetaInfo) : List Addr :=
  (info.list.filter (fun node => blockhostIsValid node.status)).map NodeInfo.addr

def getTgObj (conf : GenConf) (block : String) (info : MetaInfo) (addr : Addr) : TgObj where
  fabric := "iscsi"
  tpgs := ((blockMetaInfoToServerParse info).zipIdx 1).map (fun portal =>
    getTpgObj conf block info addr portal.1 portal.2)
  wwn := gbTgcliIqnPrefix ++ info.gbid

def aluaTpg (accessState : Nat) (name : String) (tgPtGpId : Nat) : AluaTpg where
  accessType := 1
  accessState := accessState
  supportOffline := 0
  supportStandby := 0
  supportUnavailable := 0
  name := name
  tgPtGpId := tgPtGpId

def genControl (rbSize blkSize : Nat) : Option String :=
  let ring := if rbSize = 0 then "" else gbRingBufferStr ++ "=" ++ toString rbSize
  let text := if blkSize = 0 then ring
    else ring ++ (if rbSize = 0 then "" else ",") ++ gbBlockSizeStr ++ "=" ++ toString blkSize
  if text = "" then none else some text

def getSoObj (conf : GenConf) (block : String) (info : MetaInfo) (addr : Addr) : SoObj where
  aluaTpgs :=
    if info.prioPath = "" then []
    else [aluaTpg 0 gbAluaAoTpgName 1, aluaTpg 1 gbAluaAnoTpgName 2]
  cmdTimeOut := gbCmdTimeOut
  devSize := info.size
  config := {
    volume := info.volume
    server := if conf.volServer = "localhost" then addr else conf.volServer
    gbid := info.gbid
    ioTimeout := info.ioTimeout }
  control := genControl info.rbSize info.blkSize
  name := block
  plugin := "user"
  size := info.size
  wwn := info.gbid

/-- The metadata directory of a volume. -/
structure VolumeMeta where
  metas : Tally.Table String Journal
  prio : Prio

/-- The names as the directory lists them and what the storage answers. -/
structure GenConfigEnv where
  conf : GenConf
  listing : List String
  prioCalls : PrioCalls
  readMeta : String → Bool
  update : String → UpdRes

/-- A block without a path gets one in memory, in the counters and in its metafile. -/
def assignPrioPath (env : GenConfigEnv) (name : String) (js : Journal) (v : VolumeMeta) :
    Addr × VolumeMeta × Int :=
  if (replay js).prioPath ≠ "" then ((replay js).prioPath, v, 0)
  else
    let path := blockGetPrioPath v.prio env.prioCalls (blockMetaInfoToServerParse (replay js))
    let update := metaUpdate (env.update name) [.prioPath path]
    (path, { metas := v.metas.insert name ((metaAfter (some js) update.evs).getD js),
             prio := blockIncPrioAttr v.prio env.prioCalls path }, update.ret)

/-- The loop over the metafiles, other files are the ones with a dot. An update that
fails ends it with the code of the read before it. -/
def genConfigLoop (env : GenConfigEnv) (addr : Addr) :
    List String → VolumeMeta → SoTgObj → VolumeMeta × SoTgObj × Int
  | [], v, objs => (v, objs, 0)
  | name :: names, v, objs =>
    match (v.metas.lookup name).filter (fun _ => !name.toList.contains '.') with
    | none => genConfigLoop env addr names v objs
    | some js =>
      if env.readMeta name = false then (v, objs, -1)
      else
        let (path, v, failed) := assignPrioPath env name js v
        let info := { replay js with prioPath := path }
        if failed ≠ 0 then (v, objs, 0)
        else if addr ∈ blockMetaInfoToServerParse info then
          genConfigLoop env addr names v
            { soArr := objs.soArr ++ [getSoObj env.conf name info addr],
              tgArr := objs.tgArr ++ [getTgObj env.conf name info addr] }
        else genConfigLoop env addr names v objs

/-- The pass over one volume. -/
def getSoTgArrays (env : GenConfigEnv) (addr : Addr) (v : VolumeMeta) (objs : SoTgObj) :
    VolumeMeta × SoTgObj × Int :=
  genConfigLoop env addr env.listing v objs

theorem serverParse_replay (js : Journal) :
    blockMetaInfoToServerParse (replay js) = validHosts js := rfl

end GlusterBlock
