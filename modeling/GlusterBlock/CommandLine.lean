import GlusterBlock.CommandLog
import GlusterBlock.HostLists

/-! The command line: what each command makes of its arguments and what it returns. A
command that is not sent returns what its return variable holds at that point. -/
namespace GlusterBlock

open Fields (tokens)

structure BlockListCli where
  volume : String
  jsonResp : JsonResponseFormat
  deriving DecidableEq, Repr

structure BlockGenConfigCli where
  volume : String
  addr : Addr
  jsonResp : JsonResponseFormat
  deriving DecidableEq, Repr

inductive CliRequest where
  | create (obj : BlockCreateCli)
  | list (obj : BlockListCli)
  | info (obj : BlockInfoCli)
  | delete (obj : BlockDeleteCli)
  | modify (obj : BlockModifyCli)
  | modifySize (obj : BlockModifySizeCli)
  | replace (obj : BlockReplaceCli)
  | genConfig (obj : BlockGenConfigCli)
  | reload (obj : BlockReloadCli)
  deriving DecidableEq, Repr

section Words

/-- The words for a switch, in turn for on and off. -/
def trillianWords : List String :=
  ["yes", "no", "true", "false", "enable", "disable", "1", "0", "set", "unset", "full"]

/-- 1 for on, 0 for off and -1 for any other word. -/
def convertStringToTrillianParse : Option String → Int
  | none => -1
  | some opt =>
    match trillianWords.idxOf? opt with
    | some i => if i % 2 = 0 then 1 else 0
    | none => -1

def isNumber (number : String) : Bool :=
  match number.toList with
  | '-' :: digits => digits.all Char.isDigit
  | digits => digits.all Char.isDigit

/-- `sscanf("%u")` of a text that `isNumber` accepts. A negative number wraps around, and
without a digit the variable is left as it was. -/
def scanU (number : String) (old : Nat) : Nat :=
  match number.toList with
  | [] | ['-'] => old
  | '-' :: digits =>
    let n := Nat.ofDigitChars 10 digits 0
    (if n > CText.maxSize then CText.maxSize else (CText.maxSize + 1 - n) % (CText.maxSize + 1))
      % 2 ^ 32
  | digits => min (Nat.ofDigitChars 10 digits 0) CText.maxSize % 2 ^ 32

/-- How often a unit multiplies by 1024; no unit is the end of the text. -/
def unitPower : List Char → Option Nat
  | [] => some 0
  | c :: _ => ['b', 'k', 'm', 'g', 't', 'p', 'e', 'z', 'y'].idxOf? c.toLower

/-- Behind the unit stands nothing, or `ib` in part where the unit is not a byte. -/
def unitTail : List Char → Bool
  | [] | [_] => true
  | c :: tail => c.toLower != 'b' && decide (tail.map Char.toLower <+: ['i', 'b'])

def gbDefaultSectorSize : Int := 512

-- the number in front of a text, cut down to an integer, and what is behind it
variable (strtod : List Char → Int × List Char)

def glusterBlockParseSize (value : String) (blksize : Int) : Int :=
  let (sizef, behind) := strtod value.toList
  if sizef ≤ 0 then -1
  else
    let tmp := if behind.head? = some ' ' then behind.tail else behind
    let blksize := if blksize = 0 then gbDefaultSectorSize else blksize
    match unitPower tmp with
    | none => -1
    | some power =>
      let sizef := (sizef * 1024 ^ power).bmod (2 ^ 64)
      if sizef < blksize then -1
      else if unitTail tmp then sizef - sizef.tmod blksize else -1

def glusterBlockIsVolListAcceptable (name : String) : Bool :=
  (tokens ',' name.toList).all (fun tok => glusterBlockIsNameAcceptable (String.ofList tok))

def glusterBlockParseVolumeBlock (volumeblock : String) : Option (String × String) :=
  match CText.after '/' volumeblock.toList with
  | none => none
  | some block =>
    let volume := String.ofList (volumeblock.toList.takeWhile (· != '/'))
    if glusterBlockIsNameAcceptable volume && glusterBlockIsNameAcceptable (String.ofList block)
    then some (volume, String.ofList block) else none

/-- The word for the format; the command finds it behind its arguments. -/
def jsonFlag : JsonResponseFormat → Option String
  | .none => none
  | .plain => some "--json-plain"
  | .spaced => some "--json-spaced"
  | .pretty => some "--json-pretty"
  | .default => some "--json"

end Words

section Create

inductive CreateOption where
  | ha | auth | prealloc | storage | rbSize | blkSize | ioTimeout
  deriving DecidableEq, Repr

def glusterBlockCLICreateOptEnumParse : String → Option CreateOption
  | "ha" => some .ha
  | "auth" => some .auth
  | "prealloc" => some .prealloc
  | "storage" => some .storage
  | "ring-buffer" => some .rbSize
  | "block-size" => some .blkSize
  | "io-timeout" => some .ioTimeout
  | _ => none

/-- The variables of the command, `ret` among them. -/
structure CreateVars where
  obj : BlockCreateCli
  takeSize : Bool
  preallocOpt : Bool
  ret : Int
  deriving DecidableEq, Repr

def createVars (volume blockName : String) (json : JsonResponseFormat) : CreateVars where
  obj :=
    { volume := volume, blockName := blockName, size := 0, rbSize := 0, blkSize := 0,
      ioTimeout := 0, mpath := 1, authMode := false, prealloc := true, storage := "",
      blockHosts := "", jsonResp := json }
  takeSize := true
  preallocOpt := false
  ret := -1

/-- One option and its value, or what is returned for it. -/
def createOption (v : CreateVars) (key value : String) : Except Int CreateVars :=
  match glusterBlockCLICreateOptEnumParse key with
  | some .ha =>
    let mpath := scanU value v.obj.mpath
    if isNumber value = false ∨ mpath = 0 then .error v.ret
    else .ok { v with obj := { v.obj with mpath := mpath } }
  | some .auth =>
    let ret := convertStringToTrillianParse (some value)
    if ret ≥ 0 then .ok { v with obj := { v.obj with authMode := ret ≠ 0 }, ret := ret }
    else .error ret
  | some .prealloc =>
    let ret := convertStringToTrillianParse (some value)
    if ret ≥ 0 then
      .ok { v with obj := { v.obj with prealloc := ret ≠ 0 }, preallocOpt := true, ret := ret }
    else .error ret
  | some .storage =>
    .ok { v with obj := { v.obj with storage := CText.copy 255 v.obj.storage value },
                 takeSize := false }
  | some .ioTimeout =>
    let ioTimeout := scanU value v.obj.ioTimeout
    if isNumber value = false ∨ ioTimeout < 1 then .error v.ret
    else .ok { v with obj := { v.obj with ioTimeout := ioTimeout } }
  | some .rbSize =>
    let rbSize := scanU value v.obj.rbSize
    if isNumber value = false ∨ rbSize < 1 ∨ rbSize > 1024 then .error v.ret
    else .ok { v with obj := { v.obj with rbSize := rbSize } }
  | some .blkSize =>
    let blkSize := scanU value v.obj.blkSize
    if isNumber value = false ∨ blkSize % 512 ≠ 0 then .error v.ret
    else .ok { v with obj := { v.obj with blkSize := blkSize } }
  | none => .error v.ret

/-- Options are taken while there are more than two arguments. -/
def createOptions (v : CreateVars) : List String → Except Int (CreateVars × List String)
  | key :: value :: next :: rest =>
    match createOption v key value with
    | .ok v => createOptions v (next :: rest)
    | .error ret => .error ret
  | rest => .ok (v, rest)

variable (strtod : List Char → Int × List Char)

/-- The hosts, and the size where one is taken. -/
def createTarget (v : CreateVars) (hosts : String) (size : Option String) :
    Except Int CliRequest :=
  let ret := glusterBlockIsAddrListAcceptable v.obj.mpath hosts
  if ret ≠ 0 then .error (-1)
  else
    match size with
    | none => .ok (.create { v.obj with blockHosts := hosts })
    | some size =>
      let sparse := glusterBlockParseSize strtod size (BitVec.ofNat 32 v.obj.blkSize).toInt
      if sparse < 0 then .error ret
      else .ok (.create { v.obj with blockHosts := hosts, size := sparse.toNat })

def createOperands (v : CreateVars) (rest : List String) : Except Int CliRequest :=
  if v.takeSize then
    match rest with
    | [hosts, size] => createTarget strtod v hosts (some size)
    | _ => .error v.ret
  else if v.preallocOpt then .error v.ret
  else
    match rest with
    | [hosts] => createTarget strtod v hosts none
    | _ => .error v.ret

/-- The options start with the command. -/
def glusterBlockCreate (options : List String) (json : JsonResponseFormat) :
    Except Int CliRequest :=
  match options with
  | _ :: volumeblock :: args =>
    match glusterBlockParseVolumeBlock volumeblock with
    | none => .error (-1)
    | some (volume, block) =>
      match createOptions (createVars volume block json) args with
      | .error ret => .error ret
      | .ok (v, rest) => createOperands strtod v rest
  | _ => .error (-1)

end Create

section Commands

def glusterBlockModify (strtod : List Char → Int × List Char) (options : List String)
    (json : JsonResponseFormat) : Except Int CliRequest :=
  match options with
  | _ :: volumeblock :: what :: value :: more =>
    if more.length > 1 then .error (-1)
    else
      match glusterBlockParseVolumeBlock volumeblock with
      | none => .error (-1)
      | some (volume, block) =>
        if what = "auth" then
          let ret := convertStringToTrillianParse (some value)
          if ret < 0 then .error ret
          else if more ≠ [] then .error (-1)
          else .ok (.modify { volume := volume, blockName := block, authMode := ret ≠ 0,
                              jsonResp := json })
        else if what = "size" then
          let sparse := glusterBlockParseSize strtod value 0
          let force := more.head? = some "force"
          if sparse < 0 then .error (-1)
          else if (if force then more.tail else more) ≠ [] then .error (-1)
          else .ok (.modifySize { volume := volume, blockName := block, size := sparse.toNat,
                                  force := force, jsonResp := json })
        else .error (-1)
  | _ => .error (-1)

/-- What is behind the switch for the storage. -/
def deleteArgs (obj : BlockDeleteCli) (ret : Int) (args : List String) : Except Int CliRequest :=
  let force := args.head? = some "force"
  if (if force then args.tail else args) ≠ [] then .error ret
  else .ok (.delete { obj with force := force })

def glusterBlockDelete (options : List String) (json : JsonResponseFormat) :
    Except Int CliRequest :=
  match options with
  | _ :: volumeblock :: args =>
    if args.length > 3 then .error (-1)
    else
      match glusterBlockParseVolumeBlock volumeblock with
      | none => .error (-1)
      | some (volume, block) =>
        let obj : BlockDeleteCli :=
          { volume := volume, blockName := block, unlink := true, force := false,
            jsonResp := json }
        match args with
        | "unlink-storage" :: value :: more =>
          let ret := convertStringToTrillianParse (some value)
          if ret ≥ 0 then deleteArgs { obj with unlink := ret ≠ 0 } ret more else .error ret
        -- the value is missing, and neither a format nor the end is a switch
        | ["unlink-storage"] => .error (convertStringToTrillianParse (jsonFlag json))
        | args => deleteArgs obj (-1) args
  | _ => .error (-1)

def glusterBlockReload (options : List String) (json : JsonResponseFormat) :
    Except Int CliRequest :=
  match options with
  | _ :: volumeblock :: more =>
    if more.length > 1 then .error (-1)
    else
      match glusterBlockParseVolumeBlock volumeblock with
      | none => .error (-1)
      | some (volume, block) =>
        if more ≠ [] ∧ more ≠ ["force"] then .error (-1)
        else .ok (.reload { volume := volume, blockName := block, force := more = ["force"],
                            jsonResp := json })
  | _ => .error (-1)

def glusterBlockInfo (options : List String) (json : JsonResponseFormat) :
    Except Int CliRequest :=
  match options with
  | [_, volumeblock] =>
    match glusterBlockParseVolumeBlock volumeblock with
    | none => .error (-1)
    | some (volume, block) => .ok (.info { volume := volume, blockName := block, jsonResp := json })
  | _ => .error (-1)

def glusterBlockList (options : List String) (json : JsonResponseFormat) :
    Except Int CliRequest :=
  match options with
  | [_, volume] => .ok (.list { volume := CText.copy 255 "" volume, jsonResp := json })
  | _ => .error (-1)

def glusterBlockReplace (options : List String) (json : JsonResponseFormat) :
    Except Int CliRequest :=
  match options with
  | _ :: volumeblock :: oldNode :: newNode :: more =>
    if more.length > 1 then .error (-1)
    else
      match glusterBlockParseVolumeBlock volumeblock with
      | none => .error (-1)
      | some (volume, block) =>
        if ¬ glusterBlockIsAddrAcceptable oldNode ∨ ¬ glusterBlockIsAddrAcceptable newNode ∨
            oldNode = newNode then .error (-1)
        else if more ≠ [] ∧ more ≠ ["force"] then .error (-1)
        else .ok (.replace { volume := volume, blockName := block, oldNode := oldNode,
                             newNode := newNode, force := more = ["force"], jsonResp := json })
  | _ => .error (-1)

def glusterBlockGenConfig (options : List String) (json : JsonResponseFormat) :
    Except Int CliRequest :=
  match options with
  | [_, volume, word, addr] =>
    if ¬ glusterBlockIsVolListAcceptable volume then .error (-1)
    else if word ≠ "enable-tpg" then .error (-1)
    else if ¬ glusterBlockIsAddrAcceptable addr then .error (-1)
    else .ok (.genConfig { volume := volume, addr := addr, jsonResp := json })
  | _ => .error (-1)

end Commands

section Call

/-- What becomes of a request: it does not get out, it gets no reply, or it gets one. -/
inductive CliCall where
  | unsent (errMsg : String)
  | lost
  | answered (exit : Int) (out : String)
  deriving DecidableEq, Repr

/-- What `glusterBlockCliRPC_1` returns. -/
def glusterBlockCliRpc : CliCall → Int
  | .answered exit _ => exit
  | .unsent _ => -1
  | .lost => -1

inductive CliCommand where
  | create | list | info | delete | modify | replace | reload | genConfig
  deriving DecidableEq, Repr

def CliCommand.parse (strtod : List Char → Int × List Char) (options : List String)
    (json : JsonResponseFormat) : CliCommand → Except Int CliRequest
  | create => glusterBlockCreate strtod options json
  | list => glusterBlockList options json
  | info => glusterBlockInfo options json
  | delete => glusterBlockDelete options json
  | modify => glusterBlockModify strtod options json
  | replace => glusterBlockReplace options json
  | reload => glusterBlockReload options json
  | genConfig => glusterBlockGenConfig options json

/-- What the function of a command returns. -/
def CliCommand.returns (strtod : List Char → Int × List Char) (options : List String)
    (json : JsonResponseFormat) (daemon : CliRequest → CliCall) (cmd : CliCommand) : Int :=
  match cmd.parse strtod options json with
  | .error ret => ret
  | .ok req => glusterBlockCliRpc (daemon req)

end Call

end GlusterBlock
