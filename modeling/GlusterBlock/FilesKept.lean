import GlusterBlock.BlockRecord
import GlusterBlock.PrioCounters
import GlusterBlock.StorageShare

/-! The backing files of a volume under all its requests, each with any of its calls failing
and cut short anywhere. A request reaches the file of its own block and no other. -/
namespace GlusterBlock

/-- A request with what its calls on the volume answer. -/
inductive FileRequest where
  | create (blk : BlockCreateCli) (env : CreateEnv) (calls : EntryCalls) (reads : MetaReads)
  | delete (blk : BlockDeleteCli) (env : DeleteEnv) (reads : MetaReads)
  | modifySize (blk : BlockModifySizeCli) (env : ModifySizeEnv) (calls : StorageCalls)
  | modify (blk : BlockModifyCli) (env : ModifyEnv)
  | replace (blk : BlockReplaceCli) (env : ReplaceEnv)

section Run

/-- The file behind a name, without the parts that are zeros. -/
def Store.file (s : Store) (name : String) (blocks : BitVec 64) : Option BackingFile :=
  (s.dir.lookup name).map (fun i => ⟨⟨BitVec.ofNat 64 (s.size i), blocks⟩, []⟩)

/-- The store behind the resize of a file. -/
def Store.resized (s : Store) (mobj : BlockModifySize) (calls : StorageCalls) : Store :=
  match s.dir.lookup mobj.gbid, (resizeBack mobj calls (s.file mobj.gbid calls.blocks)).2 with
  | some i, some file => s.truncate i file.stat.size.toNat
  | _, _ => s

/-- The resize sees what became of the file. -/
def fileResizeEnv (mobj : BlockModifySize) (env : ModifySizeEnv) (calls : StorageCalls)
    (s : Store) : ModifySizeEnv :=
  { env with resizeEntry := (resizeBack mobj calls (s.file mobj.gbid calls.blocks)).1.errMsg }

namespace FileRequest

def name : FileRequest → String
  | create blk _ _ _ => blk.blockName
  | delete blk _ _ => blk.blockName
  | modifySize blk _ _ => blk.blockName
  | modify blk _ => blk.blockName
  | replace blk _ => blk.blockName

def evs (v : Volume.State) : FileRequest → List Ev
  | create blk env calls reads =>
    (Volume.blockCreateCli blk env calls reads (v.blocks blk.blockName) v.store).1.evs
  | delete blk env reads =>
    (Volume.blockDeleteCli blk env reads (v.blocks blk.blockName) v.store).1.evs
  | modifySize blk env calls =>
    match v.blocks blk.blockName with
    | none => []
    | some js =>
      (blockModifySizeCli blk (fileResizeEnv (modifySizeObj blk (replay js)) env calls v.store)
        (some js)).evs
  | modify blk env => (blockModifyCli blk env (v.blocks blk.blockName)).evs
  | replace blk env => (blockReplaceCli blk env (v.blocks blk.blockName)).evs

/-- The stores that the request leaves one after another. -/
def stores (v : Volume.State) : FileRequest → List Store
  | create blk env calls reads =>
    let file := v.blocks blk.blockName
    match createReaches blk env file with
    | none => []
    | some resultCaps =>
      (if env.header = .ok then [(glusterBlockCreateEntry blk env.gbid calls v.store).1] else []) ++
        [(Volume.createBody blk env calls reads resultCaps file v.store).2]
  | delete blk env reads =>
    [(Volume.blockDeleteCli blk env reads (v.blocks blk.blockName) v.store).2]
  | modifySize blk env calls =>
    match v.blocks blk.blockName with
    | none => []
    | some js =>
      if modifySizeReaches blk env js then
        [v.store.resized (modifySizeObj blk (replay js)) calls]
      else []
  | _ => []

/-- A block gets a new gbid, and a new file has an inode that no name stands for. A metafile
that is there is found. -/
def ready (v : Volume.State) : FileRequest → Prop
  | create _ env calls _ =>
    env.gbid ≠ "" ∧ v.store.dir.lookup env.gbid = none ∧
      (∀ b js, v.blocks b = some js → (replay js).gbid ≠ env.gbid) ∧
      Links.nlink v.store.dir calls.inode = 0
  | delete _ _ _ => True
  | modifySize _ env _ => env.session.accessErr = none
  | modify _ env => env.session.accessErr = none
  | replace _ env => env.session.accessErr = none

end FileRequest

/-- A request up to a crash: some of its effects are done, and the store is one of those that
it goes through. -/
structure FileStep (req : FileRequest) (v v' : Volume.State) : Prop where
  ready : req.ready v
  blocks : ∃ part, part <+: req.evs v ∧
    v'.blocks = Function.update v.blocks req.name (metaAfter (v.blocks req.name) part)
  store : v'.store = v.store ∨ v'.store ∈ req.stores v

def FileRun (cond : Volume.State → FileRequest → Prop) : Volume.State → Volume.State → Prop :=
  Relation.ReflTransGen (fun v v' => ∃ req, FileStep req v v' ∧ cond v req)

end Run

section Within

/-- Only these names and the sizes of these files may have changed. -/
structure Store.Within (names : String → Prop) (files : Nat → Prop) (s s' : Store) : Prop where
  dir : ∀ n, ¬ names n → s'.dir.lookup n = s.dir.lookup n
  size : ∀ i, ¬ files i → s'.size i = s.size i

variable {names : String → Prop} {files : Nat → Prop} {s s' s'' : Store}

theorem Store.Within.refl (s : Store) : s.Within names files s := ⟨fun _ _ => rfl, fun _ _ => rfl⟩

theorem Store.Within.trans (first : s.Within names files s') (second : s'.Within names files s'') :
    s.Within names files s'' where
  dir n away := (second.dir n away).trans (first.dir n away)
  size i away := (second.size i away).trans (first.size i away)

end Within

section Entry

variable (blk : BlockCreateCli) (gbid : String) (calls : EntryCalls) (s : Store)

/-- A store that an entry left: the name may be new, and stands for the file of the block. -/
structure EntryLeft (s' : Store) : Prop where
  within : s.Within (· = gbid) (· = calls.inode) s'
  backed : ∀ i, s'.dir.lookup gbid = some i → BackedBy blk calls s i

variable {blk gbid calls s}

theorem entry_same (fresh : s.dir.lookup gbid = none) : EntryLeft blk gbid calls s s where
  within := .refl s
  backed i there := by
    rw [fresh] at there
    cases there

theorem entry_unlinked {s' : Store} (left : EntryLeft blk gbid calls s s') :
    EntryLeft blk gbid calls s (s'.unlink gbid) where
  within := left.within.trans
    ⟨fun _ away => AList.lookup_erase_ne away, fun _ _ => rfl⟩
  backed i there := by
    rw [Store.unlink, AList.lookup_erase] at there
    cases there

theorem link_left (given : blk.storage ≠ "") (fresh : s.dir.lookup gbid = none) :
    EntryLeft blk gbid calls s (linkStorage blk gbid calls s).1 := by
  rcases linkStorage_cases blk gbid calls s with ⟨i, _, backed, run⟩ | ⟨_, e, run⟩
  · rw [run]
    refine ⟨⟨fun _ away => AList.lookup_insert_ne away, fun _ _ => rfl⟩, fun j there => ?_⟩
    dsimp only at there
    rw [AList.lookup_insert] at there
    cases there
    unfold BackedBy
    rw [if_pos given]
    exact backed
  · rw [run]
    exact entry_same fresh

theorem makeFile_left (new : blk.storage = "") (fresh : s.dir.lookup gbid = none) :
    EntryLeft blk gbid calls s (makeFile blk gbid calls s).1 := by
  have sized (size : Nat → Nat) (same : ∀ i, i ≠ calls.inode → size i = s.size i) :
      EntryLeft blk gbid calls s ⟨s.dir.insert gbid calls.inode, size⟩ := by
    refine ⟨⟨fun _ away => AList.lookup_insert_ne away, same⟩, fun i there => ?_⟩
    dsimp only at there
    rw [AList.lookup_insert] at there
    unfold BackedBy
    rw [if_neg (not_not.mpr new)]
    exact (Option.some.inj there).symm
  have empty : ∀ i, i ≠ calls.inode → Function.update s.size calls.inode 0 i = s.size i :=
    fun i away => Function.update_of_ne away _ _
  have filled : ∀ i, i ≠ calls.inode → Function.update (Function.update s.size calls.inode 0)
      calls.inode blk.size i = s.size i :=
    fun i away => (Function.update_of_ne away _ _).trans (empty i away)
  unfold makeFile Store.creat
  rw [fresh]
  cases calls.creat with
  | some e => exact entry_same fresh
  | none =>
    dsimp only
    cases calls.truncate with
    | some e =>
      cases calls.close <;> cases calls.unlinkFile <;>
        first | exact sized _ empty | exact entry_unlinked (sized _ empty)
    | none =>
      dsimp only
      cases calls.close.or (fillZeros blk calls) with
      | none => exact sized _ filled
      | some e =>
        cases calls.unlinkFile with
        | none => exact entry_unlinked (sized _ filled)
        | some kept => exact sized _ filled

theorem entry_left (fresh : s.dir.lookup gbid = none) :
    EntryLeft blk gbid calls s (glusterBlockCreateEntry blk gbid calls s).1 := by
  have stored : EntryLeft blk gbid calls s (storageEntry blk gbid calls s).1 := by
    unfold storageEntry
    cases calls.space with
    | low => exact entry_same fresh
    | failed e => exact entry_same fresh
    | enough =>
      cases calls.mkdir.filter (fun e => e.code != eEXIST) with
      | some e => exact entry_same fresh
      | none =>
        cases calls.chdir with
        | some e => exact entry_same fresh
        | none =>
          dsimp only
          split_ifs with given
          · exact link_left given fresh
          · exact makeFile_left (not_not.mp given) fresh
  unfold glusterBlockCreateEntry
  generalize storageEntry blk gbid calls s = entry at stored
  obtain ⟨left, made | failed⟩ := entry <;> exact stored

end Entry

section CleanUp

/-- A cleanup removes the name of the file at most, and records no gbid. -/
theorem cleanUp_left (js : Journal) (blockname : String) (forcedel unlink : Bool)
    (env : CleanUpEnv) (reads : MetaReads) (s : Store) :
    ((Volume.glusterBlockCleanUp js blockname forcedel unlink env reads s).2 = s ∨
        (Volume.glusterBlockCleanUp js blockname forcedel unlink env reads s).2 =
          s.unlink (replay js).gbid) ∧
      ∀ l ∈ written
          (Volume.glusterBlockCleanUp js blockname forcedel unlink env reads s).1.act.evs,
        gbidOf? l = none := by
  have nodes : ∀ l ∈ written (deleteEvs js (cleanUpObj js blockname) env), gbidOf? l = none :=
    fun l mem => host_gbid (runWorkers_lines mem)
  rcases Volume.cleanUp_cases js blockname forcedel unlink env reads s with
    ⟨_, evs, store⟩ | ⟨_, store, none | evs⟩
  · rw [evs, store]
    constructor
    · unfold Volume.deleteFiles
      dsimp only
      split
      · exact .inr rfl
      · exact .inl rfl
    · intro l mem
      rw [written_append] at mem
      rcases List.mem_append.mp mem with host | files
      · exact nodes l host
      · obtain ⟨state, rfl⟩ := deleteFiles_lines files
        rfl
  · rw [store, none.2]
    exact ⟨.inl rfl, fun l mem => (List.not_mem_nil mem).elim⟩
  · rw [store, evs]
    exact ⟨.inl rfl, nodes⟩

/-- An audit does the same, if anything. -/
theorem audit_left (js : Journal) (blk : BlockCreateCli) (env : CleanUpEnv) (reads : MetaReads)
    (s : Store) :
    ((Volume.glusterBlockAuditRequest js blk env reads s).2 = s ∨
        (Volume.glusterBlockAuditRequest js blk env reads s).2 = s.unlink (replay js).gbid) ∧
      ∀ l ∈ written (Volume.glusterBlockAuditRequest js blk env reads s).1.act.evs,
        gbidOf? l = none := by
  unfold Volume.glusterBlockAuditRequest
  split
  · exact ⟨.inl rfl, fun l mem => (List.not_mem_nil mem).elim⟩
  · exact cleanUp_left js blk.blockName false true env reads s

end CleanUp

section Body

variable {blk : BlockCreateCli} {env : CreateEnv} {calls : EntryCalls} {resultCaps : Caps}
  {s : Store}

theorem prepared_gbid (env : CreateEnv) (js hosts : Journal)
    (plain : ∀ l ∈ hosts, l.isHost = true) :
    (replay (js ++ (preparedLines blk env resultCaps ++ hosts))).gbid = env.gbid := by
  have own : (preparedLines blk env resultCaps).filterMap gbidOf? = [env.gbid] := by
    unfold preparedLines headerLines entryLines
    split_ifs <;> rfl
  rw [gbid_append, List.filterMap_append, own, no_pick (fun l mem => host_gbid (plain l mem))]
  rfl

theorem prepare_gbid (env : CreateEnv) {l : MetaLine}
    (mem : l ∈ written (createPrepare blk env resultCaps).evs) :
    ∀ g, gbidOf? l = some g → g = env.gbid := by
  intro g picks
  unfold createPrepare at mem
  rcases next_lines mem with header | rest
  · have line := metaUpdate_lines header
    unfold headerLines at line
    rcases List.mem_append.mp line with first | path
    · simp only [List.mem_cons, List.not_mem_nil, or_false] at first
      rcases first with rfl | rfl | rfl | rfl <;> cases picks
      rfl
    · split at path
      · cases path
      · rw [List.mem_singleton.mp path] at picks
        cases picks
  · split at rest
    · split at rest <;> cases rest
    · have plain : ∀ l ∈ entryLines blk (createSize blk env) resultCaps, gbidOf? l = none := by
        unfold entryLines
        split_ifs <;> simp [gbidOf?]
      rcases next_lines rest with entry | password
      · rw [plain l (metaUpdate_lines entry)] at picks
        cases picks
      · split at password
        · rw [List.mem_singleton.mp (metaUpdate_lines password)] at picks
          cases picks
        · cases password

/-- The store in front of the audit. -/
def enteredStore (blk : BlockCreateCli) (env : CreateEnv) (calls : EntryCalls) (s : Store) :
    Store :=
  if env.header = .ok then (glusterBlockCreateEntry blk env.gbid calls s).1 else s

theorem entered_left (fresh : s.dir.lookup env.gbid = none) :
    EntryLeft blk env.gbid calls s (enteredStore blk env calls s) := by
  unfold enteredStore
  split
  · exact entry_left fresh
  · exact entry_same fresh

/-- A create records its own gbid only, and its audit removes its own file only. -/
theorem body_left (blk : BlockCreateCli) (env : CreateEnv) (calls : EntryCalls)
    (reads : MetaReads) (resultCaps : Caps) (file : Metafile) (s : Store) :
    ((Volume.createBody blk env calls reads resultCaps file s).2 = enteredStore blk env calls s ∨
        (Volume.createBody blk env calls reads resultCaps file s).2 =
          (enteredStore blk env calls s).unlink env.gbid) ∧
      ∀ l ∈ written (Volume.createBody blk env calls reads resultCaps file s).1.1.act.evs,
        ∀ g, gbidOf? l = some g → g = env.gbid := by
  have lines : ∀ l ∈ written (createPrepare blk (entryEnv blk env calls s) resultCaps).evs,
      ∀ g, gbidOf? l = some g → g = env.gbid :=
    fun l mem => prepare_gbid (entryEnv blk env calls s) mem
  unfold Volume.createBody
  dsimp only
  rcases prepare_cases blk (entryEnv blk env calls s) resultCaps with
    ⟨_, ret, shown, keep⟩ | ⟨_, ret, _⟩
  · rw [if_neg (not_not.mpr ret)]
    generalize workers : runPool (createWorkers _ _ env.jobs) env.sched = pool
    have plain : ∀ l ∈ written pool, l.isHost = true := by
      intro l mem
      rw [← workers] at mem
      exact runWorkers_lines mem
    have unlinks : Ev.unlinkMeta ∉ pool := by
      rw [← workers]
      exact createEvs_keep
    have prepared := metaAfter_none keep shown
    have journal : (replay ((metaAfter file ((createPrepare blk (entryEnv blk env calls s)
        resultCaps).evs ++ pool)).getD [])).gbid = env.gbid := by
      rw [metaAfter_append]
      cases file with
      | none =>
        rw [shown, metaAfter_some _ unlinks]
        exact prepared_gbid (entryEnv blk env calls s) [] _ plain
      | some js =>
        rw [metaAfter_some js keep, metaAfter_some _ unlinks, ← prepared, Option.getD_some,
          List.append_assoc]
        exact prepared_gbid (entryEnv blk env calls s) js _ plain
    obtain ⟨store, clean⟩ := audit_left ((metaAfter file ((createPrepare blk
      (entryEnv blk env calls s) resultCaps).evs ++ pool)).getD []) blk env.cleanUp reads
      (enteredStore blk env calls s)
    rw [journal] at store
    refine ⟨store, fun l mem => ?_⟩
    dsimp only at mem
    rw [written_append, written_append, List.append_assoc] at mem
    rcases List.mem_append.mp mem with first | rest
    · exact lines l first
    · have none : gbidOf? l = none :=
        (List.mem_append.mp rest).elim (fun host => host_gbid (plain l host)) (clean l)
      simp [none]
  · rw [if_pos ret]
    exact ⟨.inl rfl, lines⟩

end Body

section Requests

variable {v v' : Volume.State} {req : FileRequest}

theorem create_run (blk : BlockCreateCli) (env : CreateEnv) (calls : EntryCalls)
    (reads : MetaReads) (file : Metafile) (s : Store) :
    (Volume.blockCreateCli blk env calls reads file s).1.evs = [] ∨ ∃ resultCaps,
      (Volume.blockCreateCli blk env calls reads file s).1.evs =
        (Volume.createBody blk env calls reads resultCaps file s).1.1.act.evs := by
  unfold Volume.blockCreateCli
  dsimp only
  by_cases few : blk.mpath > (blockServerParse blk.blockHosts).length
  · rw [if_pos few]
    exact .inl rfl
  · rw [if_neg few]
    cases createCapGate blk (capArgs (blockServerParse blk.blockHosts) env.caps) with
    | error e => exact .inl rfl
    | ok resultCaps =>
      cases env.session.connect with
      | some e => exact .inl rfl
      | none =>
        dsimp only
        by_cases taken : (env.session.accessErr.isNone && file.isSome) = true
        · rw [if_pos taken]
          exact .inl rfl
        · rw [if_neg taken]
          exact .inr ⟨resultCaps, rfl⟩

theorem delete_left (blk : BlockDeleteCli) (env : DeleteEnv) (reads : MetaReads) (file : Metafile)
    (s : Store) :
    ((Volume.blockDeleteCli blk env reads file s).2 = s ∨ ∃ js, file = some js ∧
        (Volume.blockDeleteCli blk env reads file s).2 = s.unlink (replay js).gbid) ∧
      ∀ l ∈ written (Volume.blockDeleteCli blk env reads file s).1.evs, gbidOf? l = none := by
  have refused : (s = s ∨ ∃ js, file = some js ∧ s = s.unlink (replay js).gbid) ∧
      ∀ l ∈ written [], gbidOf? l = none := ⟨.inl rfl, fun l mem => (List.not_mem_nil mem).elim⟩
  unfold Volume.blockDeleteCli
  cases env.session.connect with
  | some e => exact refused
  | none =>
    dsimp only
    rcases access_cases env.session blk.volume blk.blockName file with ⟨e, failed⟩ | ⟨js, rfl, ok⟩
    · rw [failed]
      exact refused
    · rw [ok]
      have cleaned := cleanUp_left js blk.blockName blk.force blk.unlink env.cleanUp reads s
      dsimp only
      split_ifs with force
      · exact ⟨cleaned.1.imp_right (fun gone => ⟨js, rfl, gone⟩), cleaned.2⟩
      · cases glusterBlockGetListFromInfo (replay js) with
        | none => exact refused
        | some list =>
          dsimp only
          split_ifs
          · exact refused
          · exact ⟨cleaned.1.imp_right (fun gone => ⟨js, rfl, gone⟩), cleaned.2⟩

/-- The gbid that a request may record. -/
def FileRequest.gbid? : FileRequest → Option String
  | .create _ env _ _ => some env.gbid
  | _ => none

theorem outcome_gbid {req : Request} {js : Journal} (finds : req.session.accessErr = none)
    {l : MetaLine} (mem : l ∈ written (req.outcome (some js)).evs) : gbidOf? l = none := by
  rcases outcome_lines finds mem with host | own
  · exact host_gbid host
  · cases req with
    | create blk env => cases own
    | delete blk env =>
      obtain ⟨state, rfl⟩ := own
      rfl
    | modify blk env =>
      obtain ⟨passwd, rfl⟩ := own
      rfl
    | modifySize blk env =>
      rw [show l = .size blk.size from own]
      rfl
    | replace blk env =>
      obtain ⟨addr, rfl⟩ := own
      rfl

/-- A request on a block that is not there writes nothing, unless it is a create. -/
theorem absent_lines {req : Request} (other : ∀ blk env, req ≠ .create blk env) {l : MetaLine} :
    l ∉ written (req.outcome none).evs := by
  intro mem
  have some_evs : (req.outcome none).evs ≠ [] := by
    intro none
    rw [none] at mem
    cases mem
  obtain ⟨blk, env, _, same, _⟩ := free_evs some_evs
  exact other blk env same

theorem evs_gbid (ready : req.ready v) {l : MetaLine} (mem : l ∈ written (req.evs v)) :
    ∀ g, gbidOf? l = some g → req.gbid? = some g := by
  intro g picks
  have known {r : Request} (other : ∀ blk env, r ≠ .create blk env)
      (finds : r.session.accessErr = none) {file : Metafile}
      (line : l ∈ written (r.outcome file).evs) : req.gbid? = some g := by
    cases file with
    | none => exact absurd line (absent_lines other)
    | some js =>
      rw [outcome_gbid finds line] at picks
      cases picks
  cases req with
  | create blk env calls reads =>
    rcases create_run blk env calls reads (v.blocks blk.blockName) v.store with
      none | ⟨resultCaps, run⟩
    · rw [FileRequest.evs, none] at mem
      cases mem
    · rw [FileRequest.evs, run] at mem
      rw [(body_left blk env calls reads resultCaps (v.blocks blk.blockName) v.store).2 l mem g
        picks]
      rfl
  | delete blk env reads =>
    rw [(delete_left blk env reads (v.blocks blk.blockName) v.store).2 l mem] at picks
    cases picks
  | modifySize blk env calls =>
    rw [FileRequest.evs] at mem
    split at mem
    · cases mem
    · exact known (r := .modifySize blk (fileResizeEnv _ env calls v.store)) (by simp) ready mem
  | modify blk env => exact known (r := .modify blk env) (by simp) ready mem
  | replace blk env => exact known (r := .replace blk env) (by simp) ready mem

/-- What a request may make of the store. -/
inductive StoreMove (v : Volume.State) : FileRequest → Store → Prop where
  | still (req : FileRequest) : StoreMove v req v.store
  | entered {blk : BlockCreateCli} {env : CreateEnv} {calls : EntryCalls} {reads : MetaReads}
      {s : Store} (left : EntryLeft blk env.gbid calls v.store s) :
      StoreMove v (.create blk env calls reads) s
  | unlinked {req : FileRequest} {js : Journal} (plain : req.gbid? = none)
      (there : v.blocks req.name = some js) :
      StoreMove v req (v.store.unlink (replay js).gbid)
  | truncated {req : FileRequest} {js : Journal} {i : Nat} (size : Nat) (plain : req.gbid? = none)
      (there : v.blocks req.name = some js)
      (file : v.store.dir.lookup (replay js).gbid = some i) :
      StoreMove v req (v.store.truncate i size)

theorem resized_move {blk : BlockModifySizeCli} {env : ModifySizeEnv} {calls : StorageCalls}
    {js : Journal} (there : v.blocks blk.blockName = some js) :
    StoreMove v (.modifySize blk env calls)
      (v.store.resized (modifySizeObj blk (replay js)) calls) := by
  unfold Store.resized
  split
  · rename_i i file found _
    exact .truncated _ rfl there found
  · exact .still _

theorem step_store (step : FileStep req v v') : StoreMove v req v'.store := by
  rcases step.store with same | mem
  · rw [same]
    exact .still req
  · cases req with
    | create blk env calls reads =>
      have fresh : v.store.dir.lookup env.gbid = none := step.ready.2.1
      have entered : EntryLeft blk env.gbid calls v.store (enteredStore blk env calls v.store) :=
        entered_left fresh
      rw [FileRequest.stores] at mem
      split at mem
      · cases mem
      · rename_i resultCaps _
        rcases List.mem_append.mp mem with entry | last
        · split at entry
          · rw [List.mem_singleton.mp entry]
            exact .entered (entry_left fresh)
          · cases entry
        · rw [List.mem_singleton.mp last]
          rcases (body_left blk env calls reads resultCaps (v.blocks blk.blockName)
            v.store).1 with kept | gone
          · rw [kept]
            exact .entered entered
          · rw [gone]
            exact .entered (entry_unlinked entered)
    | delete blk env reads =>
      rw [List.mem_singleton.mp mem]
      rcases (delete_left blk env reads (v.blocks blk.blockName) v.store).1 with
        same | ⟨js, there, gone⟩
      · rw [same]
        exact .still _
      · rw [gone]
        exact .unlinked rfl there
    | modifySize blk env calls =>
      rw [FileRequest.stores] at mem
      split at mem
      · cases mem
      · rename_i js there
        split at mem
        · rw [List.mem_singleton.mp mem]
          exact resized_move there
        · cases mem
    | modify blk env => cases mem
    | replace blk env => cases mem

theorem gbid_after {P : String → Prop} (empty : P "") {evs : List Ev}
    (lines : ∀ l ∈ written evs, ∀ g, gbidOf? l = some g → P g) {file : Metafile}
    (old : ∀ js, file = some js → P (replay js).gbid) {js : Journal}
    (left : metaAfter file evs = some js) : P (replay js).gbid := by
  have grown (js ms : Journal) (first : P (replay js).gbid)
      (each : ∀ l ∈ ms, ∀ g, gbidOf? l = some g → P g) : P (replay (js ++ ms)).gbid := by
    rw [gbid_append]
    cases last : (ms.filterMap gbidOf?).getLast? with
    | none => exact first
    | some g =>
      obtain ⟨l, mem, picks⟩ := List.mem_filterMap.mp (List.mem_of_getLast? last)
      exact each l mem g picks
  have start : P (replay (file.getD [])).gbid := by
    cases file with
    | none => exact empty
    | some js => exact old js rfl
  induction evs generalizing file with
  | nil =>
    cases file with
    | none => cases left
    | some js' =>
      cases left
      exact start
  | cons e evs ih =>
    have later : ∀ l ∈ written evs, ∀ g, gbidOf? l = some g → P g := fun l mem =>
      lines l (List.mem_append_right _ mem)
    have next : P (replay ((metaStep file e).getD [])).gbid := by
      cases e with
      | write ms => exact grown _ ms start (fun l mem => lines l (List.mem_append_left _ mem))
      | touch => exact start
      | call addr msg exit => exact start
      | unlinkMeta => exact empty
    have kept : ∀ js', metaStep file e = some js' → P (replay js').gbid := by
      intro js' there
      rw [there] at next
      exact next
    exact ih later kept left next

theorem written_part {part evs : List Ev} (cut : part <+: evs) {l : MetaLine}
    (mem : l ∈ written part) : l ∈ written evs := by
  obtain ⟨lines, he, hl⟩ := mem_written.mp mem
  exact mem_written.mpr ⟨lines, cut.subset he, hl⟩

/-- The gbid that a request leaves to its block is the one from before or its own, or there is
none. -/
theorem step_gbid (step : FileStep req v v') {js : Journal} (left : v'.blocks req.name = some js) :
    (replay js).gbid = "" ∨ (∃ old, v.blocks req.name = some old ∧
      (replay js).gbid = (replay old).gbid) ∨ req.gbid? = some (replay js).gbid := by
  obtain ⟨part, cut, blocks⟩ := step.blocks
  rw [blocks, Function.update_self] at left
  exact gbid_after (P := fun g => g = "" ∨ (∃ old, v.blocks req.name = some old ∧
      g = (replay old).gbid) ∨ req.gbid? = some g) (.inl rfl)
    (fun l mem g picks => .inr (.inr (evs_gbid step.ready (written_part cut mem) g picks)))
    (fun old there => .inr (.inl ⟨old, there, rfl⟩)) left

theorem step_others (step : FileStep req v v') {b : String} (other : b ≠ req.name) :
    v'.blocks b = v.blocks b := by
  obtain ⟨_, _, blocks⟩ := step.blocks
  rw [blocks, Function.update_of_ne other]

end Requests

section Apart

variable {v v' : Volume.State} {req : FileRequest}

/-- A name that no block has. -/
def Volume.State.Foreign (v : Volume.State) (n : String) (i : Nat) : Prop :=
  v.store.dir.lookup n = some i ∧ ∀ b js, v.blocks b = some js → (replay js).gbid ≠ n

theorem step_foreign {n : String} {i : Nat} (nonempty : n ≠ "") (foreign : v.Foreign n i)
    (step : FileStep req v v') : v'.Foreign n i := by
  obtain ⟨there, apart⟩ := foreign
  constructor
  · have moved := step_store step
    generalize v'.store = s at moved ⊢
    cases moved with
    | still => exact there
    | @entered blk env _ _ _ left =>
      refine (left.within.dir n ?_).trans there
      rintro rfl
      cases step.ready.2.1.symm.trans there
    | unlinked _ known => exact (AList.lookup_erase_ne (apart _ _ known).symm).trans there
    | truncated => exact there
  · intro b js left same
    by_cases own : b = req.name
    · subst b
      rcases step_gbid step left with empty | ⟨old, known, gbid⟩ | new
      · exact nonempty (same.symm.trans empty)
      · exact apart _ old known (gbid.symm.trans same)
      · cases req with
        | create blk env calls reads =>
          have gbid : env.gbid = n := (Option.some.inj new).trans same
          cases step.ready.2.1.symm.trans (gbid ▸ there)
        | _ => cases new
    · rw [step_others step own] at left
      exact apart b js left same

/-- A file that was there before the blocks keeps its name, also when blocks are made on it and
deleted with their storage. -/
theorem storage_named (v₀ : Volume.State) (empty : ∀ b, v₀.blocks b = none)
    (run : FileRun (fun _ _ => True) v₀ v) {n : String} (nonempty : n ≠ "") {i : Nat}
    (there : v₀.store.dir.lookup n = some i) : v.store.dir.lookup n = some i := by
  have foreign : v.Foreign n i := by
    induction run with
    | refl =>
      refine ⟨there, fun b js block => ?_⟩
      rw [empty b] at block
      cases block
    | tail _ step ih =>
      obtain ⟨req, took, _⟩ := step
      exact step_foreign nonempty ih took
  exact foreign.1

end Apart

section Sample

/-- The volume behind a request that is carried out to its end. -/
def FileRequest.done (req : FileRequest) (v : Volume.State) : Volume.State where
  blocks := Function.update v.blocks req.name (metaAfter (v.blocks req.name) (req.evs v))
  store := (req.stores v).getLast?.getD v.store

theorem done_step {v : Volume.State} {req : FileRequest} (ready : req.ready v) :
    FileStep req v (req.done v) := by
  refine ⟨ready, ⟨_, List.prefix_refl _, rfl⟩, ?_⟩
  unfold FileRequest.done
  cases last : (req.stores v).getLast? with
  | none => exact .inl rfl
  | some s => exact .inr (List.mem_of_getLast? last)

/-- A block on a file that is no block's. -/
def diskBlock : FileRequest :=
  .create { oneHost with storage := "./disk" } (createSampleEnv []) goodCalls .good

def diskDelete : FileRequest :=
  .delete
    { volume := "vol", blockName := "block", unlink := true, force := true, jsonResp := .none }
    { session := .good, caps := allCapable, cleanUp := (createSampleEnv []).cleanUp } .good

theorem storage_named_sample :
    (diskDelete.done (diskBlock.done diskVolume)).store.dir.lookup "disk" = some 7 := by
  have ready : diskBlock.ready diskVolume :=
    ⟨by decide, by decide, fun _ _ absurd => (nomatch absurd), by decide⟩
  exact storage_named diskVolume (fun _ => rfl)
    (.tail (.single ⟨diskBlock, done_step ready, trivial⟩) ⟨diskDelete, done_step trivial, trivial⟩)
    (by decide) (by decide)

end Sample

end GlusterBlock
