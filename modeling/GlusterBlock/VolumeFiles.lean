import GlusterBlock.CreateReport
import GlusterBlock.Lib.Links

/-! Create and delete with the files behind them: the directory of the backing files,
each call of `glusterBlockCreateEntry`, and the reads of the metafile, any of which may
fail. With reads that succeed the requests are those of the coordinator. -/
namespace GlusterBlock

/-- An error number as a failed call leaves it, with its text of `strerror`. -/
structure Errno where
  code : Int
  nonzero : code ≠ 0
  text : String
  deriving DecidableEq, Repr

def Errno.noEntry : Errno := ⟨eNOENT, by decide, "No such file or directory"⟩
def Errno.exist : Errno := ⟨eEXIST, by decide, "File exists"⟩
def Errno.busy : Errno := ⟨16, by decide, "Device or resource busy"⟩
def Errno.noSpace : Errno := ⟨28, by decide, "No space left on device"⟩
def Errno.notSupported : Errno := ⟨95, by decide, "Operation not supported"⟩

/-- The files of a volume, those of `/block-store` under their names, and the size of each. -/
structure Store where
  dir : Links.Dir String Nat
  size : Nat → Nat

/-- The walk of `glfs` from `/block-store` along a path, to the name of the file it ends at. A
name ends at itself, and so do other paths to the same file. -/
abbrev PathWalk := String → Option String

namespace Store

def find (s : Store) (walk : PathWalk) (path : String) : Option Nat :=
  (walk path).bind s.dir.lookup

/-- Size and link count of a file. -/
def stat (s : Store) (walk : PathWalk) (path : String) (answer : Option Errno) :
    Except Errno (Nat × Nat) :=
  match answer, s.find walk path with
  | some e, _ => .error e
  | none, none => .error .noEntry
  | none, some i => .ok (s.size i, Links.nlink s.dir i)

def link (s : Store) (walk : PathWalk) (path new : String) (answer : Option Errno) :
    Except Errno Store :=
  match answer, s.find walk path, s.dir.lookup new with
  | some e, _, _ => .error e
  | none, none, _ => .error .noEntry
  | none, some _, some _ => .error .exist
  | none, some i, none => .ok { s with dir := s.dir.insert new i }

/-- An exclusive creation of an empty file. -/
def creat (s : Store) (name : String) (inode : Nat) (answer : Option Errno) : Except Errno Store :=
  match answer, s.dir.lookup name with
  | some e, _ => .error e
  | none, some _ => .error .exist
  | none, none =>
    .ok { dir := s.dir.insert name inode, size := Function.update s.size inode 0 }

def truncate (s : Store) (inode size : Nat) : Store :=
  { s with size := Function.update s.size inode size }

def unlink (s : Store) (name : String) : Store := { s with dir := s.dir.erase name }

end Store

inductive SpaceRes where
  | enough | low
  | failed (e : Errno)
  deriving DecidableEq, Repr

/-- What the calls behind the entry of a new block answer, a failure with its error
number, where a path leads, and the inode of a new file. -/
structure EntryCalls where
  space : SpaceRes
  walk : PathWalk
  mkdir : Option Errno
  chdir : Option Errno
  stat : Option Errno
  link : Option Errno
  creat : Option Errno
  truncate : Option Errno
  zerofill : Option Errno
  writeZeros : Option Errno
  close : Option Errno
  unlinkFile : Option Errno
  unlinkMeta : Bool
  inode : Nat

/-- The reads of the metafile that succeed: in the audit, in the cleanup, behind the
delete workers and for the reply. -/
structure MetaReads where
  audit : Bool
  cleanUp : Bool
  settled : Bool
  report : Bool
  deriving DecidableEq, Repr

def MetaReads.good : MetaReads := ⟨true, true, true, true⟩

/-- An error with its message; the general message stands in for a missing one. -/
abbrev EntryError := Errno × Option String

/-- A file that is given becomes the backing file when it has no other name. -/
def linkStorage (blk : BlockCreateCli) (gbid : String) (calls : EntryCalls) (s : Store) :
    Store × Except EntryError Nat :=
  match s.stat calls.walk blk.storage calls.stat with
  | .error e =>
    (s, .error (e, some (if e.code = eNOENT then
        "storage file '/block-store/" ++ blk.storage ++ "' doesn't exist in volume " ++
          blk.volume ++ "\n"
      else "glfs_stat failed on /block-store/" ++ blk.storage ++ " in volume " ++ blk.volume ++
        " [" ++ e.text ++ "]")))
  | .ok (stSize, nlink) =>
    if nlink = 1 then
      match s.link calls.walk blk.storage gbid calls.link with
      | .error e =>
        (s, .error (e, some ("glfs_link(" ++ blk.storage ++ ", " ++ gbid ++ ") on volume " ++
          blk.volume ++ " for block " ++ blk.blockName ++ " failed [" ++ e.text ++ "]")))
      | .ok linked => (linked, .ok stSize)
    else
      (s, .error (.busy, some ("storage file /block-store/" ++ blk.storage ++
        " is already in use in volume " ++ blk.volume ++ " [" ++ Errno.busy.text ++
        "]\nhint: delete the hardlink file, make sure file is not in use\n")))

/-- The zeros are written by hand where the volume cannot fill a file. -/
def fillZeros (blk : BlockCreateCli) (calls : EntryCalls) : Option Errno :=
  if blk.prealloc then
    match calls.zerofill with
    | none => none
    | some e => if e.code = Errno.notSupported.code then calls.writeZeros else some e
  else none

/-- A new file is removed again when it could not be sized, filled or closed. -/
def makeFile (blk : BlockCreateCli) (gbid : String) (calls : EntryCalls) (s : Store) :
    Store × Except EntryError Nat :=
  match s.creat gbid calls.inode calls.creat with
  | .error e => (s, .error (e, none))
  | .ok made =>
    let (filled, failed) := match calls.truncate with
      | some e => (made, some e)
      | none => (made.truncate calls.inode blk.size, fillZeros blk calls)
    match calls.close.or failed, calls.unlinkFile with
    | none, _ => (filled, .ok blk.size)
    | some e, none => (filled.unlink gbid, .error (e, none))
    | some e, some kept => (filled, .error (if kept.code = eNOENT then e else kept, none))

def storageEntry (blk : BlockCreateCli) (gbid : String) (calls : EntryCalls) (s : Store) :
    Store × Except EntryError Nat :=
  match calls.space with
  | .low => (s, .error (.noSpace, some ("Low space on the volume " ++ blk.volume ++ "\n")))
  | .failed e =>
    (s, .error (e, some ("couldn't get file-system statistics on volume " ++ blk.volume ++ "\n")))
  | .enough =>
    match calls.mkdir.filter (fun e => e.code != eEXIST), calls.chdir with
    | some e, _ => (s, .error (e, none))
    | none, some e => (s, .error (e, none))
    | none, none =>
      if blk.storage ≠ "" then linkStorage blk gbid calls s else makeFile blk gbid calls s

/-- A failure takes the metafile away too. -/
def glusterBlockCreateEntry (blk : BlockCreateCli) (gbid : String) (calls : EntryCalls)
    (s : Store) : Store × CreateEntryRes :=
  match storageEntry blk gbid calls s with
  | (s', .ok size) => (s', .created size)
  | (s', .error (e, errMsg)) =>
    (s', .failed e.code e.nonzero
      (errMsg.getD ("Not able to create storage for " ++ blk.volume ++ "/" ++ blk.blockName ++
        " [" ++ e.text ++ "]"))
      calls.unlinkMeta)

/-- The environment of a create with the outcome of its entry. -/
def entryEnv (blk : BlockCreateCli) (env : CreateEnv) (calls : EntryCalls) (s : Store) :
    CreateEnv :=
  { env with createEntry := (glusterBlockCreateEntry blk env.gbid calls s).2 }

namespace Volume

/-- The backing file is removed behind the first update. -/
def deleteFiles (unlink : Bool) (gbid : String) (env : CleanUpEnv) (s : Store) : Act × Store :=
  (GlusterBlock.deleteFiles unlink env,
    if env.entryStart = .ok ∧ unlink = true ∧ env.deleteEntry ≠ .failed then s.unlink gbid else s)

def glusterBlockCleanUp (js : Journal) (blockname : String) (forcedel unlink : Bool)
    (env : CleanUpEnv) (reads : MetaReads) (s : Store) : CleanUpResult × Store :=
  if reads.cleanUp = false then ({ act := .done (-1), attempt := [], success := [] }, s)
  else
    let info := replay js
    let dobj : BlockDelete := { blockName := blockname, gbid := info.gbid }
    let nodes : CleanUpResult :=
      if (glusterBlockDeleteFillArgs info).length > 0 then
        let async := glusterBlockDeleteRemoteAsync js dobj env
        if reads.settled then async else { async with act := { async.act with ret := -1 } }
      else { act := .done 0, attempt := [], success := [] }
    let asyncret := nodes.act.ret
    let (files, s) := if forcedel || asyncret == 0 then deleteFiles unlink info.gbid env s
      else (.done 0, s)
    ({ nodes with
       act := { evs := nodes.act.evs ++ files.evs,
                ret := if !forcedel && asyncret != 0 then asyncret else files.ret } }, s)

/-- A metafile that cannot be read is rolled back like an incomplete block. -/
def glusterBlockAuditRequest (js : Journal) (blk : BlockCreateCli) (env : CleanUpEnv)
    (reads : MetaReads) (s : Store) : CleanUpResult × Store :=
  if reads.audit = true ∧ blk.mpath = successcnt (replay js) then
    ({ act := .done 0, attempt := [], success := [] }, s)
  else
    let (res, s) := glusterBlockCleanUp js blk.blockName false true env reads s
    ({ res with act := { res.act with ret := if reads.audit then 0 else -1 } }, s)

/-- The entry is made behind the first update. -/
def createBody (blk : BlockCreateCli) (env : CreateEnv) (calls : EntryCalls) (reads : MetaReads)
    (resultCaps : Caps) (file : Metafile) (s : Store) :
    (CleanUpResult × Option String) × Store :=
  let made := entryEnv blk env calls s
  let s := if env.header = .ok then (glusterBlockCreateEntry blk env.gbid calls s).1 else s
  let prep := createPrepare blk made resultCaps
  if prep.ret ≠ 0 then
    (({ act := prep, attempt := [], success := [] }, some (createPrepareMsg blk made)), s)
  else
    let hosts := (blockServerParse blk.blockHosts).take blk.mpath
    let workers := createWorkers hosts (createObj blk made resultCaps) env.jobs
    let evs := prep.evs ++ runPool workers env.sched
    let js := (metaAfter file evs).getD []
    let (audit, s) := glusterBlockAuditRequest js blk env.cleanUp reads s
    (({ audit with act := { audit.act with evs := evs ++ audit.act.evs } }, none), s)

/-- Without a message the reply is made from the metafile, if that can be read. -/
def blockCreateCliFormatResponse (blk : BlockCreateCli) (file : Metafile) (reads : MetaReads)
    (errCode : Int) (errMsg : Option String) (saved : List Addr × List Addr) : BlockResponse :=
  if errMsg = none ∧ reads.report = false then
    blockFormatErrorResponse (exitCode errCode) (some gbDefaultErrmsg)
  else GlusterBlock.blockCreateCliFormatResponse blk file errCode errMsg saved

def blockCreateCli (blk : BlockCreateCli) (env : CreateEnv) (calls : EntryCalls)
    (reads : MetaReads) (file : Metafile) (s : Store) : Outcome × Store :=
  let finish := fun (evs : List Ev) (errCode : Int) (errMsg : Option String) saved =>
    let (errCode, errMsg) := env.session.unlock blk.volume errCode errMsg
    Outcome.mk evs (some
      (blockCreateCliFormatResponse blk (metaAfter file evs) reads errCode errMsg saved))
  let hosts := blockServerParse blk.blockHosts
  let refuse := fun (errCode : Int) (errMsg : Option String) =>
    Outcome.mk [] (some (blockCreateCliFormatResponse blk file reads errCode errMsg ([], [])))
  if blk.mpath > hosts.length then
    (refuse (-1) (some ("multipath req: " ++ toString blk.mpath ++ " > block-hosts: " ++
      blk.blockHosts)), s)
  else
    match createCapGate blk (capArgs hosts env.caps), env.session.connect with
    | .error (errCode, errMsg), _ => (refuse errCode errMsg, s)
    | .ok _, some (errCode, msg) => (refuse errCode (some msg), s)
    | .ok resultCaps, none =>
      if env.session.accessErr.isNone && file.isSome then
        (finish [] eEXIST (some ("BLOCK with name: '" ++ blk.blockName ++ "' already EXIST"))
          ([], []), s)
      else
        let ((res, errMsg), s) := createBody blk env calls reads resultCaps file s
        (finish res.act.evs res.act.ret errMsg (res.attempt, res.success), s)

def blockDeleteCli (blk : BlockDeleteCli) (env : DeleteEnv) (reads : MetaReads) (file : Metafile)
    (s : Store) : Outcome × Store :=
  let finish := fun (evs : List Ev) (errCode : Int) (errMsg : Option String) saved =>
    let (errCode, errMsg) := env.session.unlock blk.volume errCode errMsg
    Outcome.mk evs (some (blockDeleteCliFormatResponse errCode errMsg saved))
  match env.session.connect with
  | some (errCode, msg) =>
    ({ evs := [], reply := some (blockDeleteCliFormatResponse errCode (some msg) ([], [])) }, s)
  | none =>
    match env.session.access blk.volume blk.blockName file with
    | .error (errCode, errMsg) => (finish [] errCode errMsg ([], []), s)
    | .ok js =>
      let run :=
        let (res, s) :=
          glusterBlockCleanUp js blk.blockName blk.force blk.unlink env.cleanUp reads s
        (finish res.act.evs res.act.ret none (res.attempt, res.success), s)
      if blk.force then run
      else
        match glusterBlockGetListFromInfo (replay js) with
        | none => ({ evs := [], reply := none }, s)
        | some list =>
          let (errCode, errMsg) := checkHosts (.delete blk) list env.caps
          if errCode ≠ 0 then (finish [] errCode errMsg ([], []), s) else run

end Volume

section Entry

variable (blk : BlockCreateCli) (gbid : String) (calls : EntryCalls) (s : Store)

/-- The calls behind the entry get through. -/
def EntryMade : Prop :=
  calls.space = .enough ∧ calls.mkdir.filter (fun e => e.code != eEXIST) = none ∧
    calls.chdir = none ∧
    if blk.storage ≠ "" then
      calls.stat = none ∧ calls.link = none ∧
        ∃ i, s.find calls.walk blk.storage = some i ∧ Links.nlink s.dir i = 1
    else
      calls.creat = none ∧ calls.truncate = none ∧ fillZeros blk calls = none ∧
        calls.close = none

/-- The new name stands for the file that was given or for a new one. -/
def BackedBy (i : Nat) : Prop :=
  if blk.storage ≠ "" then s.find calls.walk blk.storage = some i ∧ Links.nlink s.dir i = 1
  else i = calls.inode

theorem linkStorage_cases :
    (∃ i, (calls.stat = none ∧ calls.link = none ∧ s.dir.lookup gbid = none) ∧
        (s.find calls.walk blk.storage = some i ∧ Links.nlink s.dir i = 1) ∧
        linkStorage blk gbid calls s = ({ s with dir := s.dir.insert gbid i }, .ok (s.size i))) ∨
      ¬ (s.dir.lookup gbid = none ∧ calls.stat = none ∧ calls.link = none ∧
        ∃ i, s.find calls.walk blk.storage = some i ∧ Links.nlink s.dir i = 1) ∧
        ∃ e, linkStorage blk gbid calls s = (s, .error e) := by
  unfold linkStorage Store.stat
  cases stat : calls.stat with
  | some e => exact .inr ⟨fun h => (nomatch h.2.1), _, rfl⟩
  | none =>
    cases given : s.find calls.walk blk.storage with
    | none => exact .inr ⟨fun h => (nomatch h.2.2.2.choose_spec.1), _, rfl⟩
    | some i =>
      dsimp only
      by_cases one : Links.nlink s.dir i = 1
      · rw [if_pos one]
        unfold Store.link
        cases link : calls.link with
        | some e => exact .inr ⟨fun h => (nomatch h.2.2.1), _, rfl⟩
        | none =>
          rw [given]
          cases taken : s.dir.lookup gbid with
          | some j => exact .inr ⟨fun h => (nomatch h.1), _, rfl⟩
          | none => exact .inl ⟨i, ⟨rfl, rfl, rfl⟩, ⟨rfl, one⟩, rfl⟩
      · rw [if_neg one]
        refine .inr ⟨fun h => ?_, _, rfl⟩
        obtain ⟨j, same, links⟩ := h.2.2.2
        cases same
        exact one links

theorem makeFile_cases :
    (s.dir.lookup gbid = none ∧ calls.creat = none ∧ calls.truncate = none ∧
        fillZeros blk calls = none ∧ calls.close = none) ∧
        (∃ filled, filled.dir = s.dir.insert gbid calls.inode ∧
          makeFile blk gbid calls s = (filled, .ok blk.size)) ∨
      ¬ (s.dir.lookup gbid = none ∧ calls.creat = none ∧ calls.truncate = none ∧
        fillZeros blk calls = none ∧ calls.close = none) ∧
        ∃ left e, makeFile blk gbid calls s = (left, .error e) ∧
          (calls.unlinkFile = none → ∀ n, left.dir.lookup n = s.dir.lookup n) := by
  unfold makeFile Store.creat
  cases creat : calls.creat with
  | some e => exact .inr ⟨fun h => (nomatch h.2.1), _, _, rfl, fun _ _ => rfl⟩
  | none =>
    cases taken : s.dir.lookup gbid with
    | some j => exact .inr ⟨fun h => (nomatch h.1), _, _, rfl, fun _ _ => rfl⟩
    | none =>
      dsimp only
      have back : ∀ n, ((s.dir.insert gbid calls.inode).erase gbid).lookup n = s.dir.lookup n :=
        Links.lookup_erase_insert taken
      cases size : calls.truncate with
      | some e =>
        refine .inr ⟨fun h => (nomatch h.2.2.1), ?_⟩
        cases calls.close <;> cases calls.unlinkFile <;>
          exact ⟨_, _, rfl, fun kept n => by first | exact back n | cases kept⟩
      | none =>
        cases fill : fillZeros blk calls with
        | some e =>
          refine .inr ⟨fun h => (nomatch h.2.2.2.1), ?_⟩
          cases calls.close <;> cases calls.unlinkFile <;>
            exact ⟨_, _, rfl, fun kept n => by first | exact back n | cases kept⟩
        | none =>
          cases close : calls.close with
          | none => exact .inl ⟨⟨rfl, rfl, rfl, rfl, rfl⟩, _, rfl, rfl⟩
          | some e =>
            refine .inr ⟨fun h => (nomatch h.2.2.2.2), ?_⟩
            cases calls.unlinkFile <;>
              exact ⟨_, _, rfl, fun kept n => by first | exact back n | cases kept⟩

/-- The entry is made under the new name, or the directory is as it was. -/
theorem createEntry_cases :
    (s.dir.lookup gbid = none ∧ EntryMade blk calls s) ∧
        (∃ i size, (glusterBlockCreateEntry blk gbid calls s).2 = .created size ∧
          (glusterBlockCreateEntry blk gbid calls s).1.dir = s.dir.insert gbid i ∧
          BackedBy blk calls s i) ∨
      ¬ (s.dir.lookup gbid = none ∧ EntryMade blk calls s) ∧
        ∃ code nonzero errMsg, (glusterBlockCreateEntry blk gbid calls s).2 =
            .failed code nonzero errMsg calls.unlinkMeta ∧
          (calls.unlinkFile = none → ∀ n,
            (glusterBlockCreateEntry blk gbid calls s).1.dir.lookup n = s.dir.lookup n) := by
  have failing : ∀ {left : Store} {e : EntryError},
      storageEntry blk gbid calls s = (left, .error e) →
      (calls.unlinkFile = none → ∀ n, left.dir.lookup n = s.dir.lookup n) →
      ∃ code nonzero errMsg, (glusterBlockCreateEntry blk gbid calls s).2 =
          .failed code nonzero errMsg calls.unlinkMeta ∧
        (calls.unlinkFile = none → ∀ n,
          (glusterBlockCreateEntry blk gbid calls s).1.dir.lookup n = s.dir.lookup n) := by
    intro left e run kept
    unfold glusterBlockCreateEntry
    rw [run]
    exact ⟨e.1.code, e.1.nonzero, _, rfl, kept⟩
  have stopped : (∃ e, storageEntry blk gbid calls s = (s, .error e)) → _ :=
    fun run => failing run.choose_spec (fun _ _ => rfl)
  unfold EntryMade
  cases space : calls.space with
  | low =>
    have run : ∃ e, storageEntry blk gbid calls s = (s, .error e) := by
      unfold storageEntry
      rw [space]
      exact ⟨_, rfl⟩
    exact .inr ⟨fun h => (nomatch h.2.1), stopped run⟩
  | failed e =>
    have run : ∃ e, storageEntry blk gbid calls s = (s, .error e) := by
      unfold storageEntry
      rw [space]
      exact ⟨_, rfl⟩
    exact .inr ⟨fun h => (nomatch h.2.1), stopped run⟩
  | enough =>
    cases mkdir : calls.mkdir.filter (fun e => e.code != eEXIST) with
    | some e =>
      have run : ∃ e, storageEntry blk gbid calls s = (s, .error e) := by
        unfold storageEntry
        rw [space, mkdir]
        exact ⟨_, rfl⟩
      exact .inr ⟨fun h => (nomatch h.2.2.1), stopped run⟩
    | none =>
      cases chdir : calls.chdir with
      | some e =>
        have run : ∃ e, storageEntry blk gbid calls s = (s, .error e) := by
          unfold storageEntry
          rw [space, mkdir, chdir]
          exact ⟨_, rfl⟩
        exact .inr ⟨fun h => (nomatch h.2.2.2.1), stopped run⟩
      | none =>
        have entry : storageEntry blk gbid calls s =
            if blk.storage ≠ "" then linkStorage blk gbid calls s
            else makeFile blk gbid calls s := by
          unfold storageEntry
          rw [space, mkdir, chdir]
        unfold BackedBy
        by_cases given : blk.storage ≠ ""
        · rw [if_pos given] at entry ⊢
          simp only [if_pos given]
          rcases linkStorage_cases blk gbid calls s with
            ⟨i, ⟨stat, link, free⟩, backed, run⟩ | ⟨refused, e, run⟩
          · refine .inl ⟨⟨free, trivial, trivial, trivial, stat, link, i, backed⟩, i, s.size i, ?_⟩
            unfold glusterBlockCreateEntry
            rw [entry, run]
            exact ⟨rfl, rfl, backed⟩
          · refine .inr ⟨fun h => refused ⟨h.1, h.2.2.2.2⟩, ?_⟩
            exact failing (entry.trans run) (fun _ _ => rfl)
        · rw [if_neg given] at entry ⊢
          simp only [if_neg given]
          rcases makeFile_cases blk gbid calls s with
            ⟨⟨free, made⟩, filled, dir, run⟩ | ⟨refused, left, e, run, kept⟩
          · refine .inl ⟨⟨free, trivial, trivial, trivial, made⟩, calls.inode, blk.size, ?_⟩
            unfold glusterBlockCreateEntry
            rw [entry, run]
            exact ⟨rfl, dir, rfl⟩
          · refine .inr ⟨fun h => refused ⟨h.1, h.2.2.2.2⟩, ?_⟩
            exact failing (entry.trans run) kept

end Entry

namespace Volume

section CleanUp

variable (js : Journal) (blockname : String) (forcedel unlink : Bool) (env : CleanUpEnv)
  (reads : MetaReads) (s : Store)

/-- The cleanup gets as far as the files. -/
def CleanUpGoes (js : Journal) (forcedel : Bool) (env : CleanUpEnv) (reads : MetaReads) : Prop :=
  reads.cleanUp = true ∧ (forcedel = true ∨
    (glusterBlockDeleteFillArgs (replay js) = [] ∨ reads.settled = true) ∧ env.nodesCleared js)

instance : Decidable (CleanUpGoes js forcedel env reads) :=
  inferInstanceAs (Decidable (_ ∧ (_ ∨ (_ ∨ _) ∧ _)))

theorem cleanUp_cases :
    let run := glusterBlockCleanUp js blockname forcedel unlink env reads s
    CleanUpGoes js forcedel env reads ∧
        run.1.act.evs = deleteEvs js (cleanUpObj js blockname) env ++
          (GlusterBlock.deleteFiles unlink env).evs ∧
        run.2 = (deleteFiles unlink (replay js).gbid env s).2 ∨
      ¬ CleanUpGoes js forcedel env reads ∧ run.2 = s ∧
        (reads.cleanUp = false ∧ run.1.act.evs = [] ∨
          run.1.act.evs = deleteEvs js (cleanUpObj js blockname) env) := by
  dsimp only
  unfold CleanUpGoes
  by_cases read : reads.cleanUp = false
  · refine .inr ⟨fun h => absurd (read.symm.trans h.1) Bool.false_ne_true, ?_⟩
    unfold glusterBlockCleanUp
    rw [if_pos read]
    exact ⟨rfl, .inl ⟨read, rfl⟩⟩
  · -- the return code of the nodes says whether the files are reached
    let nodes : CleanUpResult :=
      if (glusterBlockDeleteFillArgs (replay js)).length > 0 then
        let async := glusterBlockDeleteRemoteAsync js (cleanUpObj js blockname) env
        if reads.settled then async else { async with act := { async.act with ret := -1 } }
      else { act := .done 0, attempt := [], success := [] }
    have spec : nodes.act.evs = deleteEvs js (cleanUpObj js blockname) env ∧
        (nodes.act.ret = 0 ↔
          (glusterBlockDeleteFillArgs (replay js) = [] ∨ reads.settled = true) ∧
            env.nodesCleared js) := by
      have plain := cleanUp_nodes js blockname env
      dsimp only [nodes] at plain ⊢
      by_cases hosted : (glusterBlockDeleteFillArgs (replay js)).length > 0
      · have nonempty : glusterBlockDeleteFillArgs (replay js) ≠ [] :=
          List.ne_nil_of_length_pos hosted
        rw [if_pos hosted] at plain ⊢
        cases settled : reads.settled with
        | true => simpa using plain
        | false => exact ⟨plain.1, by simp [nonempty]⟩
      · have none : glusterBlockDeleteFillArgs (replay js) = [] :=
          List.eq_nil_of_length_eq_zero (Nat.eq_zero_of_not_pos hosted)
        rw [if_neg hosted] at plain ⊢
        simpa [none] using plain
    have run : glusterBlockCleanUp js blockname forcedel unlink env reads s =
        (let files := if forcedel || nodes.act.ret == 0 then
            deleteFiles unlink (replay js).gbid env s else (.done 0, s)
         ({ nodes with
            act := { evs := nodes.act.evs ++ files.1.evs,
                     ret := if !forcedel && nodes.act.ret != 0 then nodes.act.ret
                       else files.1.ret } }, files.2)) := by
      unfold glusterBlockCleanUp
      rw [if_neg read]
      rfl
    rw [run, spec.1]
    dsimp only
    have done : reads.cleanUp = true := (Bool.not_eq_false _).mp read
    by_cases goes : forcedel = true ∨ nodes.act.ret = 0
    · refine .inl ⟨⟨done, goes.imp id spec.2.mp⟩, ?_⟩
      rw [if_pos (by simpa using goes)]
      exact ⟨rfl, rfl⟩
    · refine .inr ⟨fun h => goes (h.2.imp id spec.2.mpr), ?_⟩
      rw [if_neg (by simpa using goes)]
      exact ⟨rfl, .inr (List.append_nil _)⟩

end CleanUp

section Agreement

/-- With reads that succeed the files change nothing of what the coordinator does. -/
theorem cleanUp_good (js : Journal) (blockname : String) (forcedel unlink : Bool)
    (env : CleanUpEnv) (s : Store) :
    (glusterBlockCleanUp js blockname forcedel unlink env .good s).1 =
      GlusterBlock.glusterBlockCleanUp js blockname forcedel unlink env := by
  have files : ∀ reached : Bool,
      (if reached = true then deleteFiles unlink (replay js).gbid env s else (.done 0, s)).1 =
        if reached = true then GlusterBlock.deleteFiles unlink env else .done 0 := by
    intro reached
    cases reached <;> rfl
  unfold glusterBlockCleanUp GlusterBlock.glusterBlockCleanUp
  rw [if_neg (by decide)]
  simp only [MetaReads.good, if_true, files]

theorem createBody_good (blk : BlockCreateCli) (env : CreateEnv) (calls : EntryCalls)
    (resultCaps : Caps) (file : Metafile) (s : Store) :
    (createBody blk env calls .good resultCaps file s).1 =
      GlusterBlock.createBody blk (entryEnv blk env calls s) resultCaps file := by
  have audit : ∀ js t, (glusterBlockAuditRequest js blk env.cleanUp .good t).1 =
      GlusterBlock.glusterBlockAuditRequest js blk (entryEnv blk env calls s).cleanUp := by
    intro js t
    unfold glusterBlockAuditRequest GlusterBlock.glusterBlockAuditRequest
    by_cases all : blk.mpath = successcnt (replay js)
    · rw [if_pos ⟨rfl, all⟩, if_pos all]
    · rw [if_neg (fun h => all h.2), if_neg all]
      exact congrArg (fun res : CleanUpResult => { res with act := { res.act with ret := 0 } })
        (cleanUp_good js blk.blockName false true env.cleanUp t)
  unfold createBody GlusterBlock.createBody
  dsimp only
  split
  · rfl
  · rw [← audit]
    rfl

theorem blockCreateCli_good (blk : BlockCreateCli) (env : CreateEnv) (calls : EntryCalls)
    (file : Metafile) (s : Store) :
    (blockCreateCli blk env calls .good file s).1 =
      GlusterBlock.blockCreateCli blk (entryEnv blk env calls s) file := by
  have format : ∀ file errCode errMsg saved,
      blockCreateCliFormatResponse blk file .good errCode errMsg saved =
        GlusterBlock.blockCreateCliFormatResponse blk file errCode errMsg saved := by
    intro file errCode errMsg saved
    exact if_neg (fun h => absurd h.2 (by decide))
  have session : (entryEnv blk env calls s).session = env.session := rfl
  have caps : (entryEnv blk env calls s).caps = env.caps := rfl
  unfold blockCreateCli GlusterBlock.blockCreateCli
  rw [session, caps]
  dsimp only
  by_cases few : blk.mpath > (blockServerParse blk.blockHosts).length
  · rw [if_pos few, if_pos few, format]
  · rw [if_neg few, if_neg few]
    cases createCapGate blk (capArgs (blockServerParse blk.blockHosts) env.caps) with
    | error e => simp only [format]
    | ok resultCaps =>
      cases env.session.connect with
      | some e => simp only [format]
      | none =>
        dsimp only
        by_cases taken : (env.session.accessErr.isNone && file.isSome) = true
        · rw [if_pos taken, if_pos taken, format]
        · rw [if_neg taken, if_neg taken, format, ← createBody_good]

theorem blockDeleteCli_good (blk : BlockDeleteCli) (env : DeleteEnv) (file : Metafile)
    (s : Store) :
    (blockDeleteCli blk env .good file s).1 = GlusterBlock.blockDeleteCli blk env file := by
  unfold blockDeleteCli GlusterBlock.blockDeleteCli
  cases env.session.connect with
  | some e => rfl
  | none =>
    dsimp only
    cases env.session.access blk.volume blk.blockName file with
    | error e => rfl
    | ok js =>
      dsimp only
      by_cases force : blk.force = true
      · rw [if_pos force, if_pos force, cleanUp_good]
      · rw [if_neg force, if_neg force]
        cases glusterBlockGetListFromInfo (replay js) with
        | none => rfl
        | some list =>
          dsimp only
          by_cases refused : (checkHosts (.delete blk) list env.caps).1 ≠ 0
          · rw [if_pos refused, if_pos refused]
          · rw [if_neg refused, if_neg refused, cleanUp_good]

end Agreement

end Volume

end GlusterBlock
