import Mathlib.Logic.Relation
import GlusterBlock.CreateAtomic

/-! The blocks of one volume and the files behind them. Whether a file is in use is read
off its link count, and the file of a block that was made without the storage option has
one link like a file nobody uses. -/
namespace GlusterBlock

/-- All metafiles of a volume, by block name, and its backing files. -/
structure Volume.State where
  blocks : String → Metafile
  store : Store

/-- A create or a delete with the outcomes of its calls. -/
inductive StorageRequest where
  | create (blk : BlockCreateCli) (env : CreateEnv) (calls : EntryCalls)
  | delete (blk : BlockDeleteCli) (env : DeleteEnv)

namespace StorageRequest

def name : StorageRequest → String
  | create blk _ _ => blk.blockName
  | delete blk _ => blk.blockName

def run (v : Volume.State) : StorageRequest → Outcome × Store
  | create blk env calls =>
    Volume.blockCreateCli blk env calls .good (v.blocks blk.blockName) v.store
  | delete blk env => Volume.blockDeleteCli blk env .good (v.blocks blk.blockName) v.store

def after (req : StorageRequest) (v : Volume.State) : Volume.State where
  blocks := Function.update v.blocks req.name
    (metaAfter (v.blocks req.name) (req.run v).1.evs)
  store := (req.run v).2

/-- The storage calls of the request succeed. A new file has an inode that no name stands
for, and a metafile that is there is found. -/
def storageOk (v : Volume.State) : StorageRequest → Prop
  | create blk env calls =>
    (v.blocks blk.blockName ≠ none → env.session.accessErr = none) ∧
      env.header = .ok ∧ env.entry = .ok ∧ env.password = .ok ∧
      calls.unlinkFile = none ∧ calls.unlinkMeta = true ∧
      Links.nlink v.store.dir calls.inode = 0 ∧ env.cleanUp.filesOk true
  | delete blk env => env.cleanUp.filesOk blk.unlink

end StorageRequest

/-- The file behind a block. -/
def Volume.State.backing (v : Volume.State) (b : String) : Option Nat :=
  (v.blocks b).bind (fun js => v.store.dir.lookup (replay js).gbid)

section Create

variable {env : CreateEnv} {calls : EntryCalls}

end Create

section Delete

variable {blk : BlockDeleteCli} {env : DeleteEnv}

end Delete

section Steps

variable {v v' : Volume.State}

end Steps

section Sample

/-- A volume with a file that is no block's. -/
def diskVolume : Volume.State := ⟨fun _ => none, ⟨AList.singleton "disk" 7, fun _ => 1048576⟩⟩

end Sample

end GlusterBlock
