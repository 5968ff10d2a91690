import GlusterBlock.Metafile

/-! The requests of the command line, the calls a daemon makes to the nodes and
their exit codes. -/
namespace GlusterBlock

def gbOpSkipped : Int := 222
def gbNodeNotExist : Int := 223
def gbNodeInUse : Int := 224
def gbBlockNotLoaded : Int := 225
def gbBlockNotFound : Int := 226
def gbDefaultErrcode : Int := 255

def eNOENT : Int := 2
def eEXIST : Int := 17
def eINVAL : Int := 22
def eNOTCONN : Int := 107

/-- `RPC_PROCUNAVAIL`, the answer of a daemon without the version call. -/
def rpcProcunavail : Int := 10

inductive JsonResponseFormat where
  | none | plain | spaced | pretty | default
  deriving DecidableEq, Repr

structure BlockCreateCli where
  volume : String
  blockName : String
  size : Nat
  rbSize : Nat
  blkSize : Nat
  ioTimeout : Nat
  mpath : Nat
  authMode : Bool
  prealloc : Bool
  storage : String
  blockHosts : String
  jsonResp : JsonResponseFormat
  deriving DecidableEq, Repr

structure BlockDeleteCli where
  volume : String
  blockName : String
  unlink : Bool
  force : Bool
  jsonResp : JsonResponseFormat
  deriving DecidableEq, Repr

structure BlockModifyCli where
  volume : String
  blockName : String
  authMode : Bool
  jsonResp : JsonResponseFormat
  deriving DecidableEq, Repr

structure BlockModifySizeCli where
  volume : String
  blockName : String
  size : Nat
  force : Bool
  jsonResp : JsonResponseFormat
  deriving DecidableEq, Repr

structure BlockReplaceCli where
  volume : String
  blockName : String
  oldNode : Addr
  newNode : Addr
  force : Bool
  jsonResp : JsonResponseFormat
  deriving DecidableEq, Repr

structure BlockReloadCli where
  volume : String
  blockName : String
  force : Bool
  jsonResp : JsonResponseFormat
  deriving DecidableEq, Repr

/-- The trailing data of a create call, by its version. -/
inductive CreateXdata where
  | v4 (volServer : String) (blkSize ioTimeout : Nat)
  | v3 (volServer : String) (blkSize : Nat)
  | v2 (volServer : String)
  deriving DecidableEq, Repr

structure BlockCreate2 where
  ipaddr : Addr
  volume : String
  gbid : String
  passwd : String
  size : Nat
  blockName : String
  prioPath : String
  blockHosts : String
  authMode : Bool
  rbSize : Nat
  xdata : CreateXdata
  deriving DecidableEq, Repr

structure BlockDelete where
  blockName : String
  gbid : String
  deriving DecidableEq, Repr

structure BlockModify where
  volume : String
  blockName : String
  gbid : String
  passwd : String
  authMode : Bool
  deriving DecidableEq, Repr

structure BlockModifySize where
  volume : String
  blockName : String
  gbid : String
  size : Nat
  deriving DecidableEq, Repr

structure BlockReplace where
  volume : String
  blockName : String
  gbid : String
  ipaddr : Addr
  ripaddr : Addr
  deriving DecidableEq, Repr

inductive Msg where
  | create (obj : BlockCreate2)
  | delete (obj : BlockDelete)
  | modify (obj : BlockModify)
  | modifySize (obj : BlockModifySize)
  | replace (obj : BlockReplace)
  deriving DecidableEq, Repr

/-- `strsep` on the delimiter of the host list. -/
def blockServerParse (blkServers : String) : List Addr :=
  (blkServers.toList.splitOn ',').map String.ofList

def joinServers (hosts : List Addr) : String :=
  String.ofList ([','].intercalate (hosts.map String.toList))

theorem blockServerParse_join {hosts : List Addr} (some_host : hosts ≠ [])
    (clean : ∀ h ∈ hosts, ',' ∉ h.toList) : blockServerParse (joinServers hosts) = hosts := by
  have separated : ∀ l ∈ hosts.map String.toList, ',' ∉ l := by
    intro l hl
    obtain ⟨h, hh, rfl⟩ := List.mem_map.mp hl
    exact clean h hh
  have id : String.ofList ∘ String.toList = id := funext fun _ => String.ofList_toList
  rw [blockServerParse, joinServers, String.toList_ofList,
    List.splitOn_intercalate ',' separated (by simpa using some_host), List.map_map, id, List.map_id]

end GlusterBlock
