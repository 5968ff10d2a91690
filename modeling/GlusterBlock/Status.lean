import Mathlib.Data.List.Basic

/-! The status words of a block host and the keys of a metafile line. The enum
order is the order of the lookup tables; the enumerator one past the last is
`none`. -/
namespace GlusterBlock

inductive MetaStatus where
  | configSuccess | configFail | configInprogress
  | authEnforceing | authEnforced | authEnforceFail
  | authClearEnforceing | authClearEnforced | authClearEnforceFail
  | cleanupSuccess | cleanupFail | cleanupInprogress
  | rpSuccess | rpInprogress | rpFail
  | rsSuccess | rsInprogress | rsFail
  deriving DecidableEq, Repr

namespace MetaStatus

def all : List MetaStatus :=
  [configSuccess, configFail, configInprogress, authEnforceing, authEnforced, authEnforceFail,
   authClearEnforceing, authClearEnforced, authClearEnforceFail, cleanupSuccess, cleanupFail,
   cleanupInprogress, rpSuccess, rpInprogress, rpFail, rsSuccess, rsInprogress, rsFail]

end MetaStatus

def metaStatusLookup : MetaStatus → String
  | .configSuccess => "CONFIGSUCCESS"
  | .configFail => "CONFIGFAIL"
  | .configInprogress => "CONFIGINPROGRESS"
  | .authEnforceing => "AUTHENFORCEING"
  | .authEnforced => "AUTHENFORCED"
  | .authEnforceFail => "AUTHENFORCEFAIL"
  | .authClearEnforceing => "AUTHCLEARENFORCEING"
  | .authClearEnforced => "AUTHCLEARENFORCED"
  | .authClearEnforceFail => "AUTHCLEARENFORCEFAIL"
  | .cleanupSuccess => "CLEANUPSUCCESS"
  | .cleanupFail => "CLEANUPFAIL"
  | .cleanupInprogress => "CLEANUPINPROGRESS"
  | .rpSuccess => "RPSUCCESS"
  | .rpInprogress => "RPINPROGRESS"
  | .rpFail => "RPFAIL"
  | .rsSuccess => "RSSUCCESS"
  | .rsInprogress => "RSINPROGRESS"
  | .rsFail => "RSFAIL"

def blockMetaStatusEnumParse (opt : String) : Option MetaStatus :=
  MetaStatus.all.find? (fun s => metaStatusLookup s == opt)

def MetaStatus.isValid : MetaStatus → Bool
  | .configSuccess | .cleanupInprogress
  | .authEnforceing | .authEnforced | .authEnforceFail
  | .authClearEnforced | .authClearEnforceing | .authClearEnforceFail
  | .rpSuccess | .rpFail | .rpInprogress
  | .rsSuccess | .rsFail | .rsInprogress => true
  | .configFail | .configInprogress | .cleanupSuccess | .cleanupFail => false

def blockhostIsValid (status : String) : Bool :=
  (blockMetaStatusEnumParse status).any MetaStatus.isValid

@[simp] theorem statusParse_lookup (s : MetaStatus) :
    blockMetaStatusEnumParse (metaStatusLookup s) = some s := by
  cases s <;> decide

theorem lookup_short (s : MetaStatus) : (metaStatusLookup s).length ≤ 20 := by
  cases s <;> decide

theorem lookup_no_dash (s : MetaStatus) : '-' ∉ (metaStatusLookup s).toList := by
  cases s <;> decide

inductive Metakey where
  | volume | gbid | size | ha | entryCreate | entryDelete
  | passwd | ringBuffer | prioPath | blkSize | ioTimeout
  deriving DecidableEq, Repr

namespace Metakey

def all : List Metakey :=
  [volume, gbid, size, ha, entryCreate, entryDelete, passwd, ringBuffer, prioPath, blkSize,
   ioTimeout]

end Metakey

def metakeyLookup : Metakey → String
  | .volume => "VOLUME"
  | .gbid => "GBID"
  | .size => "SIZE"
  | .ha => "HA"
  | .entryCreate => "ENTRYCREATE"
  | .entryDelete => "ENTRYDELETE"
  | .passwd => "PASSWORD"
  | .ringBuffer => "RINGBUFFER"
  | .prioPath => "PRIOPATH"
  | .blkSize => "BLKSIZE"
  | .ioTimeout => "IOTIMEOUT"

def blockMetaKeyEnumParse (opt : String) : Option Metakey :=
  Metakey.all.find? (fun k => metakeyLookup k == opt)

@[simp] theorem keyParse_lookup (k : Metakey) :
    blockMetaKeyEnumParse (metakeyLookup k) = some k := by
  cases k <;> decide

theorem keyParse_some {opt : String} {k : Metakey} (h : blockMetaKeyEnumParse opt = some k) :
    opt = metakeyLookup k := by
  have hit := List.find?_some h
  exact (beq_iff_eq.mp hit).symm

end GlusterBlock
