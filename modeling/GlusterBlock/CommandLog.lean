import GlusterBlock.GenConfig
import GlusterBlock.Lib.Json
import GlusterBlock.Lib.Masking
import GlusterBlock.Passwords

/-! The replies with a password in them, as text and as JSON, and the line that goes to
the command log for each. -/
namespace GlusterBlock

abbrev Text := List Char

/-- UUIDs have letters, digits and dashes. -/
def maskChar (c : Char) : Char := if c.isAlphanum || c == '-' then '*' else c

/-- Plain text ends a value at the end of the line, JSON at a comma. -/
def passwordMask : Masking.Mask Char where
  head := 'P'
  tail := "ASSWORD".toList
  sep := ':'
  stop := fun c => c == ',' || c == '\n'
  hide := maskChar
  once := by decide
  apart := by decide
  passes := by decide

def gbClipoffSensitiveDetails (buf : Text) : Text := passwordMask.clip buf

section Reply

-- the layout of each format
variable (json : JsonResponseFormat → Json.Layout)

def jsonText (format : JsonResponseFormat) (v : Json.Value) : Text := v (json format) 0 ++ ['\n']

def resultText : ResultWord → String
  | .success => "SUCCESS"
  | .fail => "FAIL"
  | .skipped => "SKIPPED"

def errorText (format : JsonResponseFormat) (isInfo : Bool) (errCode : Int)
    (errMsg : Option String) : Text :=
  if format.given then
    jsonText json format (Json.obj [("RESULT", Json.str "FAIL"), ("errCode", Json.int errCode),
      ("errMsg", Json.str (errMsg.getD ""))])
  else
    (errMsg.getD "null").toList ++ (if isInfo then [] else "\nRESULT:FAIL".toList) ++ ['\n']

/-- What the workers of a create read out of the replies of the nodes. -/
structure RemoteCreateResp where
  iqn : Option String
  portals : List String
  errMsg : Option String
  deriving DecidableEq, Repr

def spaced (words : List String) : Text := words.flatMap (fun w => ' ' :: w.toList)

def listText (label : String) (words : List String) : Text :=
  if words = [] then [] else label.toList ++ ": ".toList ++ spaced words ++ ['\n']

def listField (label : String) (words : List String) : List (String × Json.Value) :=
  if words = [] then [] else [(label, Json.arr (words.map Json.str))]

def loginFields (gbid passwd : String) : List (String × Json.Value) :=
  [("USERNAME", Json.str gbid), ("PASSWORD", Json.str passwd)]

def loginText (gbid passwd : String) : Text :=
  "USERNAME: ".toList ++ gbid.toList ++ "\nPASSWORD: ".toList ++ passwd.toList ++ ['\n']

/-- The reply of a create, in the format of an error unless it has its two lists. -/
def createText (blk : BlockCreateCli) (gbid passwd : String) (resp : RemoteCreateResp)
    (r : BlockResponse) : Text :=
  match r.lists with
  | [(failed, attempt), (done, success)] =>
    if blk.jsonResp.given then
      jsonText json blk.jsonResp (Json.obj ([("IQN", Json.str (resp.iqn.getD ""))] ++
        (if blk.authMode && resp.iqn.isSome then loginFields gbid passwd else []) ++
        [("PORTAL(S)", Json.arr (resp.portals.map Json.str))] ++ listField failed attempt ++
        listField done success ++ [("RESULT", Json.str (resultText r.result))]))
    else
      -- the printed text of a null pointer stands for the login of an unknown target
      "IQN: ".toList ++ (resp.iqn.getD "-").toList ++ ['\n'] ++
        (if blk.authMode then
          if resp.iqn.isSome then loginText gbid passwd else "(null)".toList
        else []) ++
        "PORTAL(S): ".toList ++
        (if resp.portals = [] then ['-'] else spaced resp.portals) ++ ['\n'] ++
        listText failed attempt ++ listText done success ++
        "RESULT: ".toList ++ (resultText r.result).toList ++ ['\n']
  | _ => errorText json blk.jsonResp false r.exit (r.errMsg <|> resp.errMsg)

def modifyText (blk : BlockModifyCli) (gbid passwd : String) (r : BlockResponse) : Text :=
  match r.errMsg with
  | some msg => errorText json blk.jsonResp false r.exit (some msg)
  | none =>
    let login := decide (r.exit = 0) && blk.authMode
    if blk.jsonResp.given then
      jsonText json blk.jsonResp (Json.obj ([("IQN", Json.str (gbTgcliIqnPrefix ++ gbid))] ++
        (if login then loginFields gbid passwd else []) ++
        r.lists.flatMap (fun l => listField l.1 l.2) ++
        [("RESULT", Json.str (resultText r.result))]))
    else
      "IQN: ".toList ++ (gbTgcliIqnPrefix ++ gbid).toList ++ ['\n'] ++
        (if login then loginText gbid passwd else []) ++
        r.lists.flatMap (fun l => listText l.1 l.2) ++
        "RESULT: ".toList ++ (resultText r.result).toList ++ ['\n']

structure BlockInfoCli where
  blockName : String
  volume : String
  jsonResp : JsonResponseFormat
  deriving DecidableEq, Repr

/-- The size in the last success of the host, or the first size of the block. -/
def blockInfoGetCurrentSizeOfNode (info : MetaInfo) (node : NodeInfo) : Option String :=
  let isSuccess := fun text : String => decide ("RSSUCCESS".toList <:+: text.toList)
  match node.stJournal.reverse.find? isSuccess with
  | none => some (glusterBlockFormatSize info.initialSize)
  | some text =>
    (CText.after '-' text.toList).map (fun rest =>
      glusterBlockFormatSize ((CText.scanZu rest).getD 0))

def infoFailed (node : NodeInfo) : Bool :=
  !blockhostIsValid node.status && (blockMetaStatusEnumParse node.status == some .configFail ||
    blockMetaStatusEnumParse node.status == some .cleanupFail)

def infoUnsized (node : NodeInfo) : Bool :=
  blockMetaStatusEnumParse node.status == some .rsFail ||
    blockMetaStatusEnumParse node.status == some .rsInprogress

/-- The part of an info behind the password. -/
def infoTail (info : MetaInfo) : List (String × Json.Value) :=
  let unsized := info.list.filter infoUnsized
  let failed := (info.list.filter infoFailed).map NodeInfo.addr
  [("EXPORTED ON", Json.arr ((info.list.filter (fun node =>
      blockhostIsValid node.status)).map (fun node => Json.str node.addr)))] ++
    (if unsized = [] then [] else [("RESIZE FAILED ON", Json.obj (unsized.map (fun node =>
      (node.addr, Json.str ((blockInfoGetCurrentSizeOfNode info node).getD "")))))]) ++
    listField "ENCOUNTERED FAILURES ON" failed

def infoFields (blk : BlockInfoCli) (info : MetaInfo) : List (String × Json.Value) :=
  [("NAME", Json.str blk.blockName), ("VOLUME", Json.str info.volume), ("GBID", Json.str info.gbid),
   ("SIZE", Json.str (glusterBlockFormatSize info.size)), ("HA", Json.int info.mpath),
   ("IOTIMEOUT", Json.str (toString info.ioTimeout ++ " Seconds")), ("PASSWORD", Json.str info.passwd)]

def infoTailText (info : MetaInfo) : Text :=
  let unsized := info.list.filter infoUnsized
  let failed := (info.list.filter infoFailed).map NodeInfo.addr
  "\nEXPORTED ON:".toList ++
    spaced ((info.list.filter (fun node => blockhostIsValid node.status)).map NodeInfo.addr) ++
    (if unsized = [] then []
     else "\nRESIZE FAILED ON:".toList ++ spaced (unsized.map (fun node =>
      node.addr ++ ":[" ++ (blockInfoGetCurrentSizeOfNode info node).getD "null" ++ "]"))) ++
    (if failed = [] then [] else "\nENCOUNTERED FAILURES ON:".toList ++ spaced failed) ++ ['\n']

def infoText (blk : BlockInfoCli) (info : MetaInfo) : Text :=
  if blk.jsonResp.given then
    jsonText json blk.jsonResp (Json.obj (infoFields blk info ++ infoTail info))
  else
    "NAME: ".toList ++ blk.blockName.toList ++ "\nVOLUME: ".toList ++ info.volume.toList ++
      "\nGBID: ".toList ++ info.gbid.toList ++
      "\nSIZE: ".toList ++ (glusterBlockFormatSize info.size).toList ++
      "\nHA: ".toList ++ (toString info.mpath).toList ++
      "\nIOTIMEOUT: ".toList ++ (toString info.ioTimeout).toList ++ " Seconds".toList ++
      "\nPASSWORD: ".toList ++ info.passwd.toList ++ infoTailText info

/-- The storage and what an error of the read says. -/
structure InfoEnv where
  session : Session
  readErr : Int × String

def blockInfoCli (blk : BlockInfoCli) (env : InfoEnv) (file : Metafile) : Text :=
  match env.session.connect with
  | some (errCode, msg) => errorText json blk.jsonResp true (exitCode errCode) (some msg)
  | none =>
    let finish := fun (errCode : Int) (errMsg : Option String) (info : MetaInfo) =>
      let (errCode, errMsg) := env.session.unlock blk.volume errCode errMsg
      match errMsg with
      | some msg => errorText json blk.jsonResp true (exitCode errCode) (some msg)
      | none => infoText json blk info
    match file with
    | none =>
      finish eNOENT (some ("block " ++ blk.volume ++ "/" ++ blk.blockName ++ " doesn't exist")) {}
    | some js =>
      if env.session.readMeta then finish 0 none (replay js)
      else finish env.readErr.1 (some ("Not able to get metadata information for " ++ blk.volume ++
        "/" ++ blk.blockName ++ "[" ++ env.readErr.2 ++ "]")) {}

section GenConfig

def AluaTpg.toJson (t : AluaTpg) : Json.Value :=
  Json.obj [("alua_access_type", Json.int t.accessType), ("alua_access_state", Json.int t.accessState),
    ("alua_support_offline", Json.int t.supportOffline),
    ("alua_support_standby", Json.int t.supportStandby),
    ("alua_support_unavailable", Json.int t.supportUnavailable), ("name", Json.str t.name),
    ("tg_pt_gp_id", Json.int t.tgPtGpId)]

def SoObj.toJson (so : SoObj) : Json.Value :=
  Json.obj ((if so.aluaTpgs = [] then []
      else [("alua_tpgs", Json.arr (so.aluaTpgs.map AluaTpg.toJson))]) ++
    [("attributes", Json.obj [("cmd_time_out", Json.int so.cmdTimeOut),
        ("dev_size", Json.int so.devSize)]),
     ("config", Json.str ("glfs/" ++ so.config.text))] ++
    (so.control.map (fun control => ("control", Json.str control))).toList ++
    [("name", Json.str so.name), ("plugin", Json.str so.plugin), ("size", Json.int so.size),
     ("wwn", Json.str so.wwn)])

def TpgObj.toJson (t : TpgObj) : Json.Value :=
  Json.obj ([("attributes", Json.obj ([("authentication", Json.int t.authentication),
        ("cache_dynamic_acls", Json.int t.cacheDynamicAcls),
        ("demo_mode_write_protect", Json.int t.demoModeWriteProtect),
        ("generate_node_acls", Json.int t.generateNodeAcls)] ++
        (t.enabledSendtargets.map (fun n : Nat =>
          ("tpg_enabled_sendtargets", Json.int n))).toList))] ++
    (t.chapPassword.map (fun passwd => ("chap_password", Json.str passwd))).toList ++
    (t.chapUserid.map (fun userid => ("chap_userid", Json.str userid))).toList ++
    [("enable", Json.bool t.enable),
     ("luns", Json.arr [Json.obj ([("alias", Json.str t.lunAlias)] ++
        (t.aluaTgPtGpName.map (fun name => ("alua_tg_pt_gp_name", Json.str name))).toList ++
        [("storage_object", Json.str t.storageObject), ("index", Json.int t.lunIndex)])]),
     ("parameters", Json.obj
        (t.authMethod.map (fun method => ("AuthMethod", Json.str method))).toList),
     ("portals", Json.arr [Json.obj [("ip_address", Json.str t.ipAddress),
        ("port", Json.int t.port)]]),
     ("tag", Json.int t.tag)])

def TgObj.toJson (tg : TgObj) : Json.Value :=
  Json.obj [("fabric", Json.str tg.fabric), ("tpgs", Json.arr (tg.tpgs.map TpgObj.toJson)),
    ("wwn", Json.str tg.wwn)]

/-- A volume of the request: it can be opened and locked, its metadata directory can be
opened, and what it holds. -/
structure GenVolume where
  connects : Bool
  lists : Bool
  env : GenConfigEnv
  held : VolumeMeta

def readable (v : VolumeMeta) (name : String) : Option Journal :=
  (v.metas.lookup name).filter (fun _ => !name.toList.contains '.')

/-- The pass ends at a file that cannot be read, and at one that cannot be given a path. -/
def genConfigAborts (env : GenConfigEnv) : List String → VolumeMeta → Bool
  | [], _ => false
  | name :: names, v =>
    match readable v name with
    | none => genConfigAborts env names v
    | some js =>
      if env.readMeta name = false then true
      else
        let (_, v, failed) := assignPrioPath env name js v
        if failed ≠ 0 then true else genConfigAborts env names v

/-- A full pass over the volume reads a metafile. -/
def GenVolume.reads (vol : GenVolume) : Bool :=
  vol.env.listing.any (fun name => (readable vol.held name).isSome)

/-- The code `ret` of the last read is kept from volume to volume. An abort ends the request
with the code of the pass, and a volume that cannot be opened or locked with the kept one. -/
def getSoTgArraysForAllVolume (addr : Addr) : Int → List GenVolume → SoTgObj → SoTgObj × Int
  | _, [], objs => (objs, 0)
  | ret, vol :: vols, objs =>
    if vol.connects = false then (objs, ret)
    else if vol.lists = false then (objs, -1)
    else
      let (_, objs, code) := getSoTgArrays vol.env addr vol.held objs
      if code ≠ 0 ∨ genConfigAborts vol.env vol.env.listing vol.held = true then (objs, code)
      else getSoTgArraysForAllVolume addr (if vol.reads then 0 else ret) vols objs

def glusterBlockGenConfigSvc (addr : Addr) (format : JsonResponseFormat) (errCode : Int)
    (vols : List GenVolume) : Text :=
  let (objs, ret) := getSoTgArraysForAllVolume addr (-1) vols ⟨[], []⟩
  if ret ≠ 0 then errorText json format false errCode (some gbDefaultErrmsg)
  else jsonText json .pretty (Json.obj [("storage_objects", Json.arr (objs.soArr.map SoObj.toJson)),
    ("targets", Json.arr (objs.tgArr.map TgObj.toJson))])

end GenConfig

end Reply

end GlusterBlock
