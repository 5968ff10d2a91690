import GlusterBlock.CommandLog
import GlusterBlock.TargetConfig
import GlusterBlock.Lib.Fields
import GlusterBlock.Lib.Search

/-! Running a script of `targetcli` on a node: the text of the script of each request, the
messages that are looked for in the output, and the lines that go to the log of the daemon
on the way. `none` is undefined behaviour. -/
namespace GlusterBlock

section Script

/-- What `asprintf` makes of `%s\n%s` and so on. -/
def linesOf (lines : List Text) : Text := ['\n'].intercalate lines

def tgcliTarget (gbid : String) : Text := "/iscsi/".toList ++ (gbTgcliIqnPrefix ++ gbid).toList

def tgcliTpg (gbid : String) (i : Nat) : Text :=
  tgcliTarget gbid ++ ("/tpg".toList ++ (toString i).toList)

def tgcliGlfs (blockName : String) : Text := (gbTgcliGlfsPath ++ "/" ++ blockName).toList

def tgcliAttributes : Text := "generate_node_acls=1 demo_mode_write_protect=0".toList

/-- The login on a portal group. -/
def authcred (gbid : String) (i : Nat) (passwd : Text) : Text :=
  tgcliTpg gbid i ++ (" set auth userid=".toList ++ (gbid.toList ++ (" password=".toList ++ passwd)))

/-- Whatever the commands are, the configuration is saved behind them. -/
def targetcliScript (tmp : Option Text) (blockName : String) : Text :=
  "targetcli <<EOF".toList ++ '\n' :: (tmp.getD "(null)".toList ++
    '\n' :: (tgcliGlfs blockName ++ " saveconfig\nexit\nEOF".toList))

section Create

variable (args : CommonArgs) (capable : Bool)

def Backstore.createText (b : Backstore) : Text :=
  gbTgcliGlfsPath.toList ++ " create name=".toList ++ b.name.toList ++ " size=".toList ++
    (toString b.size).toList ++ " cfgstring=".toList ++ b.cfg.text.toList ++
    (b.control.getD "").toList ++ " wwn=".toList ++ b.wwn.toList

def aluaSet (group attr : String) (value : Nat) : Text :=
  tgcliGlfs args.blk.blockName ++ ("/alua/" ++ group ++ " set alua " ++ attr ++ "=" ++
    toString value).toList

def glfsAlua : Text :=
  linesOf [
    tgcliGlfs args.blk.blockName ++ ("/alua create name=" ++ gbAluaAoTpgName ++ " tag=1").toList,
    tgcliGlfs args.blk.blockName ++ ("/alua create name=" ++ gbAluaAnoTpgName ++ " tag=2").toList]

def glfsAluaType : Text :=
  linesOf [
    aluaSet args gbAluaAoTpgName "alua_access_type" 1,
    aluaSet args gbAluaAnoTpgName "alua_access_type" 1,
    aluaSet args gbAluaAoTpgName "alua_access_state" 0,
    aluaSet args gbAluaAnoTpgName "alua_access_state" 1]

def glfsAluaSup : Text :=
  linesOf [
    aluaSet args gbAluaAoTpgName "alua_support_offline" 0,
    aluaSet args gbAluaAoTpgName "alua_support_standby" 0,
    aluaSet args gbAluaAoTpgName "alua_support_unavailable" 0,
    aluaSet args gbAluaAnoTpgName "alua_support_offline" 0,
    aluaSet args gbAluaAnoTpgName "alua_support_standby" 0,
    aluaSet args gbAluaAnoTpgName "alua_support_unavailable" 0] ++ ['\n']

def backstoreLines : List Text :=
  [(backstoreOf args capable).createText,
   tgcliGlfs args.blk.blockName ++ (" set attribute cmd_time_out=" ++ toString gbCmdTimeOut).toList] ++
    if args.prio = "" then [] else [glfsAlua args, glfsAluaType args, glfsAluaSup args]

/-- The other portal groups: the first one comes with the target. -/
def tpgText : Text :=
  [' '].intercalate ((List.range' 2 (args.hosts.length - 1)).map (fun i =>
    tgcliTarget args.blk.gbid ++ (" create tpg".toList ++ (toString i).toList ++ ['\n'])))

def lunText (i : Nat) : Text :=
  tgcliTpg args.blk.gbid i ++ "/luns create ".toList ++ tgcliGlfs args.blk.blockName

def lun0Lines (host : Addr) (i : Nat) : List Text :=
  if args.prio = "" then []
  else [tgcliTpg args.blk.gbid i ++ "/luns/lun0 set alua alua_tg_pt_gp_name=".toList ++
    (if args.prio = host then gbAluaAoTpgName else gbAluaAnoTpgName).toList]

def authAttribute : Text :=
  (if args.blk.authMode then "authentication=1".toList else []) ++ [' '] ++ tgcliAttributes

def portalText (host : Addr) (i : Nat) : Text :=
  tgcliTpg args.blk.gbid i ++ "/portals create ".toList ++ host.toList ++
    if args.blk.ipaddr = host then [' '] else []

def attrText (host : Addr) (i : Nat) : Text :=
  if args.blk.ipaddr = host then
    linesOf [tgcliTpg args.blk.gbid i ++ " enable".toList,
      tgcliTpg args.blk.gbid i ++ " set attribute ".toList ++ authAttribute args]
  else
    tgcliTpg args.blk.gbid i ++ " set attribute tpg_enabled_sendtargets=0 ".toList ++
      authAttribute args

def createAuthcred (i : Nat) : Text :=
  if args.blk.authMode then '\n' :: authcred args.blk.gbid i args.blk.passwd.toList else []

/-- What the commands so far become with those of the next host. -/
def createExec (tmp : Option Text) (host : Addr × Nat) : Option Text :=
  match tmp with
  | none => some (linesOf (backstoreLines args capable ++
      ["/iscsi create ".toList ++ (gbTgcliIqnPrefix ++ args.blk.gbid).toList,
       tpgText args ++ ' ' :: lunText args host.2] ++ lun0Lines args host.1 host.2 ++
      [portalText args host.1 host.2,
       attrText args host.1 host.2 ++ ' ' :: createAuthcred args host.2]))
  | some tmp => some (linesOf ([tmp, lunText args host.2] ++ lun0Lines args host.1 host.2 ++
      [portalText args host.1 host.2, attrText args host.1 host.2, createAuthcred args host.2]))

def createScript : Text :=
  targetcliScript ((args.hosts.zipIdx 1).foldl (createExec args capable) none) args.blk.blockName

end Create

section Modify

variable (blk : BlockModify)

def modifyLines (i : Nat) : List Text :=
  if blk.authMode then
    [tgcliTpg blk.gbid i ++ " set attribute authentication=1".toList,
     authcred blk.gbid i blk.passwd.toList]
  else [tgcliTpg blk.gbid i ++ " set attribute authentication=0".toList]

def modifyExec (tmp : Option Text) (i : Nat) : Option Text :=
  match tmp with
  | none => some (linesOf (modifyLines blk i))
  | some tmp => some (linesOf (tmp :: modifyLines blk i))

def modifyScript (tpgs : Nat) : Text :=
  targetcliScript ((List.range' 1 tpgs).foldl (modifyExec blk) none) blk.blockName

end Modify

/-- The requests whose scripts set a login: `CREATE_SRV`, and `MODIFY_SRV` on a target with
so many portal groups. -/
inductive SrvRequest where
  | create (args : CommonArgs) (capable : Bool)
  | modify (blk : BlockModify) (tpgs : Nat)
  deriving DecidableEq, Repr

namespace SrvRequest

def volume : SrvRequest → String
  | .create args _ => args.blk.volume
  | .modify blk _ => blk.volume

def blockName : SrvRequest → String
  | .create args _ => args.blk.blockName
  | .modify blk _ => blk.blockName

def gbid : SrvRequest → String
  | .create args _ => args.blk.gbid
  | .modify blk _ => blk.gbid

def authMode : SrvRequest → Bool
  | .create args _ => args.blk.authMode
  | .modify blk _ => blk.authMode

def command : SrvRequest → Text
  | .create args capable => createScript args capable
  | .modify blk tpgs => modifyScript blk tpgs

/-- The same request with another password. -/
def repass (passwd : String) : SrvRequest → SrvRequest
  | .create args capable => .create { args with blk := { args.blk with passwd := passwd } } capable
  | .modify blk tpgs => .modify { blk with passwd := passwd } tpgs

def loginMessages (gbid passwd : String) : List (String × Text) :=
  [("attribute authentication set failed for: ", "Parameter authentication is now '1'.".toList),
   ("userid set failed for: ", ("Parameter userid is now '" ++ gbid ++ "'.").toList),
   ("password set failed for: ", ("Parameter password is now '" ++ passwd ++ "'.").toList)]

def createMessages (args : CommonArgs) : List (String × Text) :=
  [("backend creation failed for: ", ("Created user-backed storage object " ++
      args.blk.blockName ++ " size " ++ toString args.blk.size ++ ".").toList),
   ("target iqn creation failed for: ",
      ("Created target " ++ gbTgcliIqnPrefix ++ args.blk.gbid ++ ".").toList),
   ("LUN creation failed for: ", "Created LUN 0.".toList),
   ("portal creation failed for ", ("Created network portal " ++ args.blk.ipaddr ++ ":3260.").toList),
   ("TPGT enablement failed for: ", "The TPGT has been enabled.".toList),
   ("generate_node_acls set failed for: ", "Parameter generate_node_acls is now '1'".toList),
   ("demo_mode_write_protect set failed for: ",
      "Parameter demo_mode_write_protect is now '0'.".toList)]

/-- The messages that the output must have, and what is said when one is missing. -/
def messages : SrvRequest → List (String × Text)
  | .create args _ =>
    createMessages args ++
      if args.blk.authMode then loginMessages args.blk.gbid args.blk.passwd else []
  | .modify blk _ =>
    if blk.authMode then loginMessages blk.gbid blk.passwd
    else [("attribute authentication unset failed for: ",
      "Parameter authentication is now '0'.".toList)]

/-- `snprintf` into 1024 bytes. -/
def volBlk (req : SrvRequest) : Text := ((req.volume ++ "/" ++ req.blockName).toList).take 1023

end SrvRequest

end Script

section Mask

def atExecStop (c : Char) : Bool := c == '\n' || c == '\x00' || c == ' ' || c == '\'' || c == '.'

def starValue : Text → Text
  | [] => []
  | c :: cs => if atExecStop c then c :: cs else maskChar c :: starValue cs

def passwordArg : Text := "password=".toList
def passwordEcho : Text := "Parameter password is now".toList

/-- The value behind the first `=` or else the first quote of what was found. Without both
of them the pointer is null, and it is read from. -/
def clipLine (line : Text) : Option Text :=
  match Search.strstr passwordArg line <|> Search.strstr passwordEcho line with
  | none => some line
  | some ptr =>
    (CText.after '=' ptr <|> CText.after '\'' ptr).map (fun value =>
      line.take (line.length - value.length) ++ starValue value)

def gbClipoffSensitiveDetailsAtExec (cmd : Text) : Option Text :=
  if passwordArg <:+: cmd ∨ passwordEcho <:+: cmd then
    ((Fields.tokens '\n' cmd).mapM clipLine).map (fun lines => lines.flatMap (fun l => '\n' :: l))
  else some cmd

end Mask

section Exec

def gbLogError : Nat := 2
def gbLogInfo : Nat := 4
def gbLogDebug : Nat := 5

abbrev LogLine := Nat × Text

def log (logLevel level : Nat) (text : Text) : List LogLine :=
  if level ≤ logLevel then [(level, text)] else []

/-- The first message that is missing is said, with the whole output. -/
def blockValidateCommandOutput (logLevel : Nat) (req : SrvRequest) (out : Text) :
    List LogLine × Int :=
  match req.messages.find? (fun m => !decide (m.2 <:+: out)) with
  | none => ([], 0)
  | some m =>
    (log logLevel gbLogError (m.1.toList ++ req.volBlk) ++
      log logLevel gbLogError ("Error from targetcli:\n".toList ++ out ++ ['\n']), -1)

/-- What comes of the pipe. The lines of the log are those of an output without nulls. -/
inductive Popen where
  | failed (errno : Text)
  | unreadable (errno : Text)
  | output (out : Text)
  deriving DecidableEq, Repr

/-- The reply in front of the run. -/
structure SrvReply where
  out : Text
  exit : Int
  deriving DecidableEq, Repr

def outMax : Nat := 8192

/-- Only with the debug level the command and the output are written, behind the mask. -/
def debugLine (logLevel : Nat) (label : String) (text : Text) : Option (List LogLine) :=
  if gbLogDebug ≤ logLevel then
    (gbClipoffSensitiveDetailsAtExec text).map (fun t => [(gbLogDebug, label.toList ++ t)])
  else some []

/-- `GB_CMD_EXEC_AND_VALIDATE`: the lines it writes. Behind an output that fills the buffer
the null is written out of it. -/
def gbCmdExecAndValidate (logLevel : Nat) (req : SrvRequest) (sr : SrvReply) (popen : Popen) :
    Option (List LogLine) := do
  let command ← debugLine logLevel "command: " req.command
  match popen with
  | .unreadable errno =>
    return command ++ log logLevel gbLogError ("reading command ".toList ++ req.volBlk ++
      " output for ".toList ++ req.command ++ (" failed(".toList ++ errno ++ [')']))
  | .failed errno =>
    let raw ← debugLine logLevel "raw output: " sr.out
    return command ++ log logLevel gbLogError ("popen(): for ".toList ++ req.volBlk ++
      " executing command ".toList ++ req.command ++ (" failed(".toList ++ errno ++ [')'])) ++ raw ++
      log logLevel gbLogInfo ("command exit code, ".toList ++ (toString sr.exit).toList)
  | .output out =>
    if out.length < outMax then
      let (lines, exit) := blockValidateCommandOutput logLevel req out
      let raw ← debugLine logLevel "raw output: " out
      return command ++ lines ++ raw ++
        log logLevel gbLogInfo ("command exit code, ".toList ++ (toString exit).toList)
    else none

end Exec

end GlusterBlock
