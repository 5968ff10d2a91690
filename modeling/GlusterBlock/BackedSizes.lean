import GlusterBlock.CurrentSize
import GlusterBlock.ResizeFile

/-! The backing file of a block beside its metafile and the devices of its nodes. A resize
changes the file first, records the size behind that and gets to the nodes last, so that no
device is larger than the file unless a forced request made the file smaller. -/
namespace GlusterBlock

open Trail

section Device

/-- The size that a message brings to the device of a node. -/
def Msg.size? : Msg → Option Nat
  | .create obj => some obj.size
  | .modifySize obj => some obj.size
  | _ => none

/-- What a message makes of the device of a node that carries it out. -/
def exportSet (device : Option Nat) : Msg → Option Nat
  | .create obj => some obj.size
  | .modifySize obj => device.map (fun _ => obj.size)
  | .delete _ => none
  | _ => device

/-- A call that failed may have been carried out. -/
def exportModel : NodeModel (Option Nat) where
  fresh := (· = none)
  serve := fun msg exit device device' =>
    device' = exportSet device msg ∨ exit ≠ 0 ∧ device' = device

/-- The size on a call. -/
def Ev.carries : Ev → Option Nat
  | .call _ msg _ => msg.size?
  | _ => none

variable {addr : Addr} {bound : Nat}

theorem exportSet_from {device : Option Nat} {msg : Msg} {n : Nat}
    (set : exportSet device msg = some n) : device = some n ∨ msg.size? = some n := by
  cases msg with
  | create obj => exact .inr set
  | modifySize obj =>
    cases device with
    | none => cases set
    | some m => exact .inr set
  | delete obj => cases set
  | _ => exact .inl set

theorem export_step {e : Ev} {device device' : Option Nat}
    (step : exportModel.step addr e device device') {n : Nat} (set : device' = some n) :
    device = some n ∨ e.isAbout addr = true ∧ e.carries = some n := by
  unfold NodeModel.step at step
  cases e with
  | call a msg exit =>
    dsimp only at step
    split at step
    · rename_i same
      have about : Ev.isAbout addr (.call a msg exit) = true := beq_iff_eq.mpr same
      rcases step with served | ⟨_, kept⟩
      · exact (exportSet_from (served ▸ set)).imp_right (fun size => ⟨about, size⟩)
      · exact .inl (kept ▸ set)
    · exact .inl (step ▸ set)
  | _ => exact .inl (step ▸ set)

/-- A device is within a bound when it was before and every call to its node is. -/
theorem export_along {evs : List Ev} {device device' : Option Nat}
    (along : Along (exportModel.step addr) device evs device')
    (before : ∀ n, device = some n → n ≤ bound)
    (calls : ∀ e ∈ hostEvs addr evs, ∀ n, e.carries = some n → n ≤ bound) :
    ∀ n, device' = some n → n ≤ bound := by
  refine keeps_of_step (I := fun device => ∀ n, device = some n → n ≤ bound) ?_ evs
    (List.prefix_refl evs) device device' before along
  intro e he s t small step n set
  rcases export_step step set with old | ⟨about, size⟩
  · exact small n old
  · exact calls e (List.mem_filter.mpr ⟨he, about⟩) n size

theorem full_carries {j : RemoteJob} {exit : Int} {e : Ev} (he : e ∈ j.full exit) {n : Nat}
    (size : e.carries = some n) : j.msg.size? = some n := by
  rcases mem_full he with ⟨_, _, rfl⟩ | rfl
  · cases size
  · exact size

theorem full_uncarried {j : RemoteJob} (plain : j.msg.size? = none) {exit : Int} {e : Ev}
    (he : e ∈ j.full exit) : e.carries = none := by
  cases size : e.carries with
  | none => rfl
  | some n => cases plain.symm.trans (full_carries he size)

end Device

section Stored

/-- An effect of a request, or what it makes of the backing file. -/
inductive Stored where
  | ev (e : Ev)
  | file (back : Option BackingFile)

def Stored.ev? : Stored → Option Ev
  | ev e => some e
  | file _ => none

def Stored.file? : Stored → Option (Option BackingFile)
  | ev _ => none
  | file back => some back

/-- Effects with what is done to the file behind some of them. -/
def withFile (change : Ev → Option (Option BackingFile)) (evs : List Ev) : List Stored :=
  evs.flatMap (fun e => .ev e :: (change e).toList.map .file)

variable {change : Ev → Option (Option BackingFile)} {evs : List Ev}

theorem withFile_evs : (withFile change evs).filterMap Stored.ev? = evs := by
  induction evs with
  | nil => rfl
  | cons e evs ih =>
    have rest : ((change e).toList.map Stored.file).filterMap Stored.ev? = [] := by
      cases change e <;> rfl
    unfold withFile at ih ⊢
    rw [List.flatMap_cons, List.filterMap_append, ih,
      List.filterMap_cons_some (show (Stored.ev e).ev? = some e from rfl), rest]
    rfl

theorem withFile_files {back : Option BackingFile} (mem : .file back ∈ withFile change evs) :
    ∃ e ∈ evs, change e = some back := by
  obtain ⟨e, he, item⟩ := List.mem_flatMap.mp mem
  rcases List.mem_cons.mp item with effect | changed
  · cases effect
  · obtain ⟨_, put, same⟩ := List.mem_map.mp changed
    cases same
    exact ⟨e, he, Option.mem_toList.mp put⟩

theorem map_evs : (evs.map Stored.ev).filterMap Stored.ev? = evs := by
  rw [List.filterMap_map]
  exact List.filterMap_some

end Stored

section Requests

/-- What the calls on the backing file answer: the file that a failed create leaves, the
blocks of a new file, and the calls of a resize. -/
structure StorageCalls where
  left : Option BackingFile
  blocks : BitVec 64
  resize : ResizeEnv

/-- A block with its backing file. -/
structure Backed where
  world : World (Option Nat)
  back : Option BackingFile

/-- A block that is not there yet gets a file of its own. -/
def Backed.start (b : Backed) : Option BackingFile :=
  match b.world.file with
  | none => none
  | some _ => b.back

/-- The file is removed behind the line that announces it. -/
def removal (unlink : Bool) (env : CleanUpEnv) : Ev → Option (Option BackingFile)
  | .write [.entryDelete .inprogress] =>
    if env.entryStart = .ok ∧ unlink = true ∧ glusterBlockDeleteEntry env.deleteEntry = 0 then
      some none
    else none
  | _ => none

/-- The file is made behind the first lines of the metafile. -/
def creation (blk : BlockCreateCli) (env : CreateEnv) (calls : StorageCalls) :
    Ev → Option (Option BackingFile)
  | .write (.volume _ :: _) =>
    if env.header = .ok then
      match env.createEntry with
      | .created _ => some (some ⟨⟨BitVec.ofNat 64 (createSize blk env), calls.blocks⟩, []⟩)
      | .failed _ _ _ _ => some calls.left
    else none
  | _ => none

/-- The resize of the file of a block. One that is not there cannot be opened. -/
def resizeBack (mobj : BlockModifySize) (calls : StorageCalls) :
    Option BackingFile → ResizeEntryRes × Option BackingFile
  | none =>
    ((Volume.glusterBlockResizeEntry mobj { calls.resize with opened := some .noEntry }
      ⟨⟨0, 0⟩, []⟩).1, none)
  | some file =>
    let res := Volume.glusterBlockResizeEntry mobj calls.resize file
    (res.1, some res.2)

/-- A request gets to the resize of the file. -/
def modifySizeReaches (blk : BlockModifySizeCli) (env : ModifySizeEnv) (js : Journal) : Bool :=
  env.session.connect.isNone && env.session.accessErr.isNone && env.session.readMeta &&
    (sizeRefusal blk (replay js)).isNone &&
      (checkConfigured (.modifySize blk) blk.blockName js env.caps).any (fun r => r.1 == 0)

/-- The effects of a request with what it does to the file. -/
def Request.stored (calls : StorageCalls) (b : Backed) (req : Request) : List Stored :=
  let evs := (req.outcome b.world.file).evs
  match req, b.world.file with
  | .create blk env, _ =>
    withFile (fun e => (creation blk env calls e).or (removal true env.cleanUp e)) evs
  | .delete blk env, _ => withFile (removal blk.unlink env.cleanUp) evs
  | .modifySize blk env, some js =>
    if modifySizeReaches blk env js then
      .file (resizeBack (modifySizeObj blk (replay js)) calls b.start).2 :: evs.map .ev
    else evs.map .ev
  | _, _ => evs.map .ev

/-- The answers of the volume are those that the request saw, for sizes of 64 bits. -/
def Request.answered (calls : StorageCalls) (b : Backed) : Request → Prop
  | create blk env => createSize blk env < 2 ^ 64
  | modifySize blk env => blk.size < 2 ^ 64 ∧ ∀ js, b.world.file = some js →
      env.resizeEntry =
        (resizeBack (modifySizeObj blk (replay js)) calls b.start).1.errMsg
  | _ => True

/-- A request up to a crash, which may come between any two effects and also between an
effect and what is done to the file. -/
structure BackedStep (req : Request) (calls : StorageCalls) (part : List Stored)
    (b b' : Backed) : Prop where
  answered : req.answered calls b
  cut : part <+: req.stored calls b
  step : Step exportModel req (part.filterMap Stored.ev?) b.world b'.world
  back : b'.back = (part.filterMap Stored.file?).getLast?.getD b.start

/-- No forced request asks for less than the recorded size. -/
def Unshrunk (b : Backed) : Request → Prop
  | .modifySize blk _ => ∀ js, b.world.file = some js → blk.force = true →
      (replay js).size ≤ blk.size
  | _ => True

/-- Runs of requests, each carried out or cut short. -/
def BackedRun : Backed → Backed → Prop :=
  Relation.ReflTransGen (fun b b' => ∃ req calls part, BackedStep req calls part b b' ∧
    Unshrunk b req)

/-- The sizes in their order: devices, metafile, backing file. -/
structure SizesBacked (b : Backed) : Prop where
  devices : ∀ js, b.world.file = some js →
    ∀ a n, b.world.nodes a = some n → n ≤ (replay js).size
  recorded : ∀ js file, b.world.file = some js → b.back = some file →
    (replay js).size ≤ file.stat.size.toNat

end Requests

section Steps

variable {b b' : Backed} {calls : StorageCalls} {part : List Stored}

/-- The file is the one from before or what the request made of it. -/
theorem back_cases {req : Request} (took : BackedStep req calls part b b') :
    b'.back = b.start ∨ .file b'.back ∈ part := by
  cases last : (part.filterMap Stored.file?).getLast? with
  | none => exact .inl (by rw [took.back, last, Option.getD_none])
  | some back =>
    right
    obtain ⟨item, mem, file⟩ := List.mem_filterMap.mp (List.mem_of_getLast? last)
    have same : b'.back = back := by rw [took.back, last, Option.getD_some]
    cases item with
    | ev e => cases file
    | file other =>
      cases file
      rw [same]
      exact mem

theorem start_there {js : Journal} (there : b.world.file = some js) : b.start = b.back := by
  unfold Backed.start
  rw [there]

/-- Behind the request the recorded size is not below the one before it and what its calls
carried, and not above the file. -/
theorem sizes_grown {req : Request} {evs : List Ev} {m : Nat} (inv : SizesBacked b)
    (step : Step exportModel req evs b.world b'.world) {js : Journal}
    (there : b.world.file = some js) (recorded : (replay (js ++ written evs)).size = m)
    (grown : (replay js).size ≤ m)
    (calls : ∀ a, ∀ e ∈ hostEvs a evs, ∀ n, e.carries = some n → n ≤ m)
    (back : ∀ file, b'.back = some file → m ≤ file.stat.size.toNat) : SizesBacked b' := by
  constructor
  · intro js' left a n
    obtain ⟨_, rfl⟩ := step_grows step left
    rw [there, Option.getD_some, recorded]
    have before : ∀ n, b.world.nodes a = some n → n ≤ m :=
      fun n device => (inv.devices js there a n device).trans grown
    exact export_along (step_existing step there a) before (calls a) n
  · intro js' file left there'
    obtain ⟨_, rfl⟩ := step_grows step left
    rw [there, Option.getD_some, recorded]
    exact back file there'

/-- Nothing that a request with these effects does raises the recorded size or puts a larger
device or file in its place. -/
theorem sizes_still {req : Request} (inv : SizesBacked b) (took : BackedStep req calls part b b')
    {js : Journal} (there : b.world.file = some js)
    (unsized : ∀ l ∈ written (part.filterMap Stored.ev?), sizeOf? l = none)
    (calls : ∀ a, ∀ e ∈ hostEvs a (part.filterMap Stored.ev?), ∀ n, e.carries = some n →
      n ≤ (replay js).size)
    (back : ∀ file, b'.back = some file → b.back = some file) : SizesBacked b' :=
  sizes_grown inv took.step there (size_kept unsized) (Nat.le_refl _) calls
    (fun file left => inv.recorded js file there (back file left))

/-- A request that did nothing leaves the sizes as they are. -/
theorem sizes_idle_backed {req : Request} (inv : SizesBacked b)
    (took : BackedStep req calls part b b') (none : part = []) : SizesBacked b' := by
  subst none
  have file : b'.world.file = b.world.file := took.step.file
  constructor
  · intro js left a n device
    have there := file.symm.trans left
    rw [along_nil.mp (step_existing took.step there a)] at device
    exact inv.devices js there a n device
  · intro js f left there'
    have there := file.symm.trans left
    have back : b'.back = b.start := took.back
    rw [start_there there] at back
    exact inv.recorded js f there (back ▸ there')

theorem part_evs {req : Request} (took : BackedStep req calls part b b') :
    part.filterMap Stored.ev? <+: (req.outcome b.world.file).evs :=
  took.step.takes.cut

theorem removal_back {unlink : Bool} {env : CleanUpEnv} {e : Ev} {back : Option BackingFile}
    (put : removal unlink env e = some back) : back = none := by
  unfold removal at put
  split at put
  · split at put
    · exact (Option.some.inj put).symm
    · cases put
  · cases put

theorem delete_backed {blk : BlockDeleteCli} {env : DeleteEnv} (inv : SizesBacked b)
    (took : BackedStep (.delete blk env) calls part b b') : SizesBacked b' := by
  have cut := part_evs took
  have removed : ∀ file, b'.back = some file → b'.back = b.start := by
    intro file left
    rcases back_cases took with same | mem
    · exact same
    · obtain ⟨_, _, put⟩ := withFile_files (took.cut.subset mem)
      cases (removal_back put).symm.trans left
  rcases delete_evs blk env b.world.file with none | ⟨js, there, body⟩
  · apply sizes_idle_backed inv took
    have whole : Request.stored calls b (.delete blk env) = [] := by
      change withFile _ (blockDeleteCli blk env b.world.file).evs = []
      rw [none]
      rfl
    exact List.prefix_nil.mp (whole ▸ took.cut)
  · apply sizes_still inv took there
    · intro l hl
      rcases step_lines took.step there hl with host | ⟨state, rfl⟩
      · exact host_noSize host
      · rfl
    · intro a e he n size
      have whole := (hostEvs_cut a cut).subset he
      change e ∈ hostEvs a (blockDeleteCli blk env b.world.file).evs at whole
      rw [body, cleanUp_evs, hostEvs_append, deleteEvs_host] at whole
      rcases List.mem_append.mp whole with node | files
      · split at node
        · obtain ⟨exit, full⟩ := run_seen (j := glusterBlockDeleteRemote a _) node
          cases (full_uncarried rfl full).symm.trans size
        · cases node
      · have here := List.mem_of_mem_filter files
        split at here
        · cases e with
          | call a msg exit => exact absurd here deleteFiles_calls
          | _ => cases size
        · cases here
    · intro file left
      rw [← start_there there, ← removed file left]
      exact left

/-- A request that never gets to the file. -/
theorem back_kept {req : Request} (took : BackedStep req calls part b b')
    (plain : req.stored calls b = (req.outcome b.world.file).evs.map .ev) :
    b'.back = b.start := by
  rcases back_cases took with same | mem
  · exact same
  · have whole := took.cut.subset mem
    rw [plain] at whole
    obtain ⟨e, _, absurd⟩ := List.mem_map.mp whole
    cases absurd

theorem part_nil {req : Request} (took : BackedStep req calls part b b')
    (plain : req.stored calls b = (req.outcome b.world.file).evs.map .ev)
    (none : (req.outcome b.world.file).evs = []) : part = [] := by
  have cut := took.cut
  rw [plain, none] at cut
  exact List.prefix_nil.mp cut

theorem modify_backed {blk : BlockModifyCli} {env : ModifyEnv} (inv : SizesBacked b)
    (took : BackedStep (.modify blk env) calls part b b') : SizesBacked b' := by
  rcases modify_evs blk env b.world.file with none | ⟨js, there, body⟩
  · exact sizes_idle_backed inv took (part_nil took rfl none)
  · apply sizes_still inv took there
    · intro l hl
      rcases step_lines took.step there hl with host | ⟨passwd, rfl⟩
      · exact host_noSize host
      · rfl
    · intro a e he n size
      have whole : e ∈ hostEvs a (blockModifyCli blk env b.world.file).evs :=
        (hostEvs_cut a (part_evs took)).subset he
      rw [body] at whole
      have round : ∀ ms mobj jobs sched, e ∈ hostEvs a (modifyEvs ms mobj jobs sched) →
          e.carries = none := by
        intro ms mobj jobs sched he
        rw [modifyEvs_host] at he
        split at he
        · obtain ⟨exit, full⟩ := run_seen (j := glusterBlockModifyRemote a mobj) he
          exact full_uncarried rfl full
        · cases he
      rcases List.mem_append.mp ((modify_host _ blk js env).subset whole) with tried | undo
      · cases (round _ _ _ _ tried).symm.trans size
      · cases (round _ _ _ _ undo).symm.trans size
    · intro file left
      rwa [← start_there there, ← back_kept took rfl]

theorem replace_backed {blk : BlockReplaceCli} {env : ReplaceEnv} (inv : SizesBacked b)
    (took : BackedStep (.replace blk env) calls part b b') : SizesBacked b' := by
  rcases replace_shown blk env b.world.file with none | ⟨js, checks, there, ok, shown⟩
  · exact sizes_idle_backed inv took (part_nil took rfl none)
  · have other : blk.oldNode ≠ blk.newNode := took.step.takes.accepted
    have cut := fun a => (hostEvs_cut a (part_evs took)).trans (shown a)
    apply sizes_still inv took there
    · intro l hl
      rcases step_lines took.step there hl with host | ⟨addr, rfl⟩
      · exact host_noSize host
      · rfl
    · intro a e he n size
      by_cases isOld : a = blk.oldNode
      · subst isOld
        have cut := cut blk.oldNode
        rw [if_pos rfl] at cut
        rcases replace_old other ok (cut.subset he) with ⟨exit, full⟩ | rfl
        · cases (full_uncarried rfl full).symm.trans size
        · cases size
      · have cut := cut a
        rw [if_neg isOld, List.append_nil] at cut
        by_cases isNew : a = blk.newNode ∧ checks.cCheck = false
        · obtain ⟨rfl, todo⟩ := isNew
          rw [replacePool_new other ok todo] at cut
          obtain ⟨exit, full⟩ := run_seen (j := glusterBlockCreateRemote blk.newNode
            (replaceCobj blk (replay js) env.volServer)) (cut.subset he)
          have same : (replay js).size = n := Option.some.inj (full_carries full size)
          exact Nat.le_of_eq same.symm
        · obtain ⟨_, exit, full⟩ := replace_portal other ok isOld isNew (cut.subset he)
          cases (full_uncarried rfl full).symm.trans size
    · intro file left
      rwa [← start_there there, ← back_kept took rfl]

section Create

variable {blk : BlockCreateCli} {env : CreateEnv} {resultCaps : Caps}

theorem recorded_size (js : Journal) :
    (replay js).size = 0 ∨ ∃ l ∈ js, sizeOf? l = some (replay js).size := by
  have scan : (replay ([] ++ js)).size = (js.filterMap sizeOf?).getLast?.getD 0 := size_append [] js
  rw [List.nil_append] at scan
  cases last : (js.filterMap sizeOf?).getLast? with
  | none => exact .inl (by rw [scan, last, Option.getD_none])
  | some n =>
    right
    rw [scan, last]
    exact List.mem_filterMap.mp (List.mem_of_getLast? last)

theorem header_sizes (gbid : String) (prioPath : Addr) :
    (headerLines blk gbid prioPath).filterMap sizeOf? = [] := by
  unfold headerLines
  split <;> rfl

theorem entry_sizes (size : Nat) : (entryLines blk size resultCaps).filterMap sizeOf? = [size] := by
  unfold entryLines
  split <;> rfl

/-- The size that a create records is that of the file which it has made. -/
theorem prepare_sizes {l : MetaLine} (h : l ∈ written (createPrepare blk env resultCaps).evs)
    {n : Nat} (size : sizeOf? l = some n) :
    n = createSize blk env ∧ ∃ stSize, env.createEntry = .created stSize := by
  unfold createPrepare at h
  rcases next_lines h with header | rest
  · have mem : n ∈ (headerLines blk env.gbid (createPrioPath env resultCaps)).filterMap sizeOf? :=
      List.mem_filterMap.mpr ⟨l, metaUpdate_lines header, size⟩
    rw [header_sizes] at mem
    cases mem
  · cases made : env.createEntry with
    | failed errno nonzero errMsg unlinkedMeta =>
      rw [made] at rest
      cases unlinkedMeta <;> cases rest
    | created stSize =>
      rw [made] at rest
      rcases next_lines rest with entry | password
      · have mem : n ∈ (entryLines blk (createSize blk env) resultCaps).filterMap sizeOf? :=
          List.mem_filterMap.mpr ⟨l, metaUpdate_lines entry, size⟩
        rw [entry_sizes] at mem
        exact ⟨List.mem_singleton.mp mem, stSize, rfl⟩
      · split at password
        · obtain rfl := List.mem_singleton.mp (metaUpdate_lines password)
          cases size
        · cases password

theorem createBody_sizes {l : MetaLine}
    (h : l ∈ written (createBody blk env resultCaps none).1.act.evs) {n : Nat}
    (size : sizeOf? l = some n) :
    n = createSize blk env ∧ ∃ stSize, env.createEntry = .created stSize := by
  rcases createBody_evs blk env resultCaps with prep | ⟨prepared, whole⟩
  · exact prepare_sizes (prep ▸ h) size
  · rw [whole, written_append, written_append] at h
    rcases List.mem_append.mp h with front | undo
    · rcases List.mem_append.mp front with prep | workers
      · exact prepare_sizes prep size
      · cases (host_noSize (runWorkers_lines workers)).symm.trans size
    · unfold rollbackEvs at undo
      split at undo
      · cases undo
      · rcases cleanUp_lines undo with host | ⟨state, rfl⟩
        · cases (host_noSize host).symm.trans size
        · cases size

/-- The file that a create leaves has its size, or is what a failed call left. -/
theorem creation_back {e : Ev} {file : BackingFile}
    (put : (creation blk env calls e).or (removal true env.cleanUp e) = some (some file)) :
    (∃ stSize, env.createEntry = .created stSize) →
      file.stat.size = BitVec.ofNat 64 (createSize blk env) := by
  rintro ⟨stSize, made⟩
  rcases Option.or_eq_some_iff.mp put with new | ⟨_, gone⟩
  · unfold creation at new
    split at new
    · split at new
      · rw [made] at new
        cases new
        rfl
      · cases new
    · cases new
  · cases removal_back gone

/-- What a node of the create gets is the size of the create. -/
theorem create_carries (cut : part.filterMap Stored.ev? <+:
      (createBody blk env resultCaps none).1.act.evs) {a : Addr} {e : Ev}
    (he : e ∈ hostEvs a (part.filterMap Stored.ev?)) {n : Nat} (size : e.carries = some n) :
    n = createSize blk env ∧
      (replay (written (part.filterMap Stored.ev?))).size = createSize blk env := by
  rcases createBody_evs blk env resultCaps with prep | ⟨prepared, whole⟩
  · have none := hostEvs_cut a (prep ▸ cut)
    rw [prepare_host] at none
    rw [List.prefix_nil.mp none] at he
    cases he
  · rw [whole] at cut
    refine ⟨?_, create_recorded cut prepared (List.ne_nil_of_mem he)⟩
    rcases List.mem_append.mp ((create_cut cut a).subset he) with worker | undo
    · obtain ⟨exit, full⟩ := createEvs_seen worker
      have same : createSize blk env = n := Option.some.inj (full_carries full size)
      exact same.symm
    · rcases rollback_seen undo with ⟨dobj, exit, full⟩ | files
      · cases (full_uncarried (j := glusterBlockDeleteRemote a dobj) rfl full).symm.trans size
      · cases e with
        | call a msg exit => exact absurd files deleteFiles_calls
        | _ => cases size

end Create

theorem create_backed {blk : BlockCreateCli} {env : CreateEnv} (inv : SizesBacked b)
    (took : BackedStep (.create blk env) calls part b b') : SizesBacked b' := by
  rcases create_evs blk env took.step.takes.finds with none | ⟨free, resultCaps, body⟩
  · apply sizes_idle_backed inv took
    have whole : Request.stored calls b (.create blk env) = [] := by
      change withFile _ (blockCreateCli blk env b.world.file).evs = []
      rw [none]
      rfl
    exact List.prefix_nil.mp (whole ▸ took.cut)
  · have cut : part.filterMap Stored.ev? <+: (createBody blk env resultCaps none).1.act.evs :=
      body ▸ part_evs took
    have grown : ∀ js, b'.world.file = some js → js = written (part.filterMap Stored.ev?) := by
      intro js left
      obtain ⟨_, rfl⟩ := step_grows took.step left
      rw [free, Option.getD_none, List.nil_append]
    constructor
    · intro js left a n device
      obtain rfl := grown js left
      obtain ⟨device₀, fresh, along⟩ := took.step.nodes a
      unfold NodeModel.starts at fresh
      rw [free] at fresh
      obtain rfl : device₀ = none := fresh
      refine export_along along (fun _ absurd => nomatch absurd) (fun e he n size => ?_) n device
      obtain ⟨same, recorded⟩ := create_carries cut he size
      rw [same, recorded]
    · intro js file left there
      obtain rfl := grown js left
      rcases recorded_size (written (part.filterMap Stored.ev?)) with zero | ⟨l, hl, size⟩
      · rw [zero]
        exact Nat.zero_le _
      · obtain ⟨lines, he, mem⟩ := mem_written.mp hl
        obtain ⟨same, made⟩ := createBody_sizes (mem_written.mpr ⟨lines, cut.subset he, mem⟩) size
        rcases back_cases took with start | changed
        · rw [there] at start
          unfold Backed.start at start
          rw [free] at start
          cases start
        · obtain ⟨e, _, put⟩ := withFile_files (took.cut.subset changed)
          rw [same, creation_back (there ▸ put) made, BitVec.toNat_ofNat,
            Nat.mod_eq_of_lt took.answered]

section Resize

variable {mobj : BlockModifySize} {env : ResizeEnv} {file : BackingFile}

/-- A resize leaves the file alone or gives it the new size, and does so when it returns 0. -/
theorem resizeEntry_size :
    let res := Volume.glusterBlockResizeEntry mobj env file
    (res.2.stat.size = file.stat.size ∨ res.2.stat.size = BitVec.ofNat 64 mobj.size) ∧
      (res.1.errMsg = none → res.2.stat.size = BitVec.ofNat 64 mobj.size) := by
  have message : (Volume.glusterBlockResizeEntry mobj env file).1.errMsg = none →
      (Volume.glusterBlockResizeEntry mobj env file).1.ret = 0 := by
    rw [resizeEntry_answers]
    exact (resizeEntry_ret _ _).mpr
  by_cases goes : Truncates mobj env file
  · obtain ⟨after, size, _⟩ := resize_truncated goes
    exact ⟨.inr (after ▸ size), fun _ => after ▸ size⟩
  · obtain ⟨after, zero⟩ := resize_refused goes
    refine ⟨.inl (congrArg (fun f => f.stat.size) after), fun none => ?_⟩
    rw [after]
    exact (zero (message none)).symm

theorem resizeBack_some {calls : StorageCalls} {back : Option BackingFile}
    (there : (resizeBack mobj calls back).2 = some file) : ∃ old, back = some old ∧
      (file.stat.size = old.stat.size ∨ file.stat.size = BitVec.ofNat 64 mobj.size) ∧
        ((resizeBack mobj calls back).1.errMsg = none →
          file.stat.size = BitVec.ofNat 64 mobj.size) := by
  cases back with
  | none => cases there
  | some old =>
    obtain rfl := Option.some.inj there
    exact ⟨old, rfl, resizeEntry_size⟩

end Resize

section Reached

variable {blk : BlockModifySizeCli} {env : ModifySizeEnv} {js : Journal}

/-- A resize that has an effect has got to the file. -/
theorem reaches_of_evs (some_evs : (blockModifySizeCli blk env (some js)).evs ≠ []) :
    modifySizeReaches blk env js = true := by
  unfold modifySizeReaches
  unfold blockModifySizeCli Session.access at some_evs
  dsimp only at some_evs
  cases connected : env.session.connect with
  | some e =>
    rw [connected] at some_evs
    exact absurd rfl some_evs
  | none =>
    rw [connected] at some_evs
    cases accessed : env.session.accessErr with
    | some e =>
      rw [accessed] at some_evs
      exact absurd rfl some_evs
    | none =>
      rw [accessed] at some_evs
      cases read : env.session.readMeta with
      | false =>
        rw [read] at some_evs
        exact absurd rfl some_evs
      | true =>
        rw [read] at some_evs
        cases refusal : sizeRefusal blk (replay js) with
        | some e =>
          simp only [if_true, refusal] at some_evs
          exact absurd rfl some_evs
        | none =>
          simp only [if_true, refusal] at some_evs
          rcases checked : checkConfigured (.modifySize blk) blk.blockName js env.caps with
            _ | ⟨errCode, errMsg⟩
          · rw [checked] at some_evs
            exact absurd rfl some_evs
          · rw [checked] at some_evs
            dsimp only at some_evs
            by_cases zero : errCode = 0
            · simp [zero]
            · rw [if_pos zero] at some_evs
              exact absurd rfl some_evs

theorem reaches_refusal (reaches : modifySizeReaches blk env js = true) :
    sizeRefusal blk (replay js) = none := by
  unfold modifySizeReaches at reaches
  simp only [Bool.and_eq_true, Option.isNone_iff_eq_none] at reaches
  exact reaches.1.2

/-- Without force the requested size is not below the recorded one. -/
theorem unshrunk_size (accepted : sizeRefusal blk (replay js) = none)
    (forced : blk.force = true → (replay js).size ≤ blk.size) : (replay js).size ≤ blk.size := by
  cases force : blk.force with
  | true => exact forced force
  | false =>
    by_contra larger
    unfold sizeRefusal at accepted
    split at accepted
    · cases accepted
    · rw [if_pos (.inl ⟨Nat.lt_of_not_le larger, by simp [force]⟩)] at accepted
      cases accepted

end Reached

section ModifySize

variable {blk : BlockModifySizeCli} {env : ModifySizeEnv} {js : Journal}

/-- Behind the resize of the file the size is recorded, or nothing is done to the metafile
and the nodes. -/
theorem resized_backed (inv : SizesBacked b) (there : b.world.file = some js)
    (accepted : sizeRefusal blk (replay js) = none)
    (forced : blk.force = true → (replay js).size ≤ blk.size) {evs : List Ev}
    (answered : Request.answered calls b (.modifySize blk env))
    (step : Step exportModel (.modifySize blk env) evs b.world b'.world)
    (back : b'.back = (resizeBack (modifySizeObj blk (replay js)) calls b.back).2) :
    SizesBacked b' := by
  obtain ⟨fits, answer⟩ := answered
  have answer := answer js there
  rw [start_there there] at answer
  have sized : (BitVec.ofNat 64 blk.size).toNat = blk.size := by
    rw [BitVec.toNat_ofNat, Nat.mod_eq_of_lt fits]
  have larger := unshrunk_size accepted forced
  have resized : ∀ file, b'.back = some file → (replay js).size ≤ file.stat.size.toNat ∧
      (env.resizeEntry = none → file.stat.size.toNat = blk.size) := by
    intro file left
    obtain ⟨old, before, size, done⟩ := resizeBack_some (back ▸ left)
    constructor
    · rcases size with same | size
      · rw [same]
        exact inv.recorded js old there before
      · rw [size]
        exact sized ▸ larger
    · intro none
      rw [done (answer ▸ none)]
      exact sized
  have still : (∀ l ∈ written evs, sizeOf? l = none) →
      (∀ a, ∀ e ∈ hostEvs a evs, ∀ n, e.carries = some n → n ≤ (replay js).size) →
        SizesBacked b' := fun unsized carried =>
    sizes_grown inv step there (size_kept unsized) (Nat.le_refl _) carried
      (fun file left => (resized file left).1)
  have cut := step.takes.cut
  rw [there] at cut
  change evs <+: (blockModifySizeCli blk env (some js)).evs at cut
  rcases modifySize_evs blk env (some js) with none | ⟨js', same, _, body⟩
  · obtain rfl := List.prefix_nil.mp (none ▸ cut)
    exact still (fun l hl => nomatch hl) (fun a e he => nomatch he)
  · obtain rfl := Option.some.inj same
    rcases resize_cut (body ▸ cut) with rfl | rfl | ⟨p, rfl, workers⟩
    · exact still (fun l hl => nomatch hl) (fun a e he => nomatch he)
    · exact still (fun l hl => nomatch hl) (fun a e he => nomatch he)
    · have recorded := resize_recorded workers
      have done : env.resizeEntry = none := by
        rcases modifySizeBody_evs blk env js with none | ⟨done, _⟩
        · rw [body, none] at cut
          cases List.prefix_nil.mp cut
        · exact done
      refine sizes_grown inv step there recorded larger (fun a e he n size => ?_)
        (fun file left => Nat.le_of_eq ((resized file left).2 done).symm)
      obtain ⟨exit, full⟩ := resize_seen workers he
      have same : blk.size = n := Option.some.inj (full_carries full size)
      exact Nat.le_of_eq same.symm

theorem modifySize_backed (inv : SizesBacked b)
    (took : BackedStep (.modifySize blk env) calls part b b')
    (unshrunk : Unshrunk b (.modifySize blk env)) : SizesBacked b' := by
  cases there : b.world.file with
  | none =>
    have plain : Request.stored calls b (.modifySize blk env) =
        (blockModifySizeCli blk env b.world.file).evs.map .ev := by
      unfold Request.stored
      rw [there]
      rfl
    rcases modifySize_evs blk env b.world.file with none | ⟨js, found, _⟩
    · exact sizes_idle_backed inv took (part_nil took plain none)
    · cases there.symm.trans found
  | some js =>
    by_cases reaches : modifySizeReaches blk env js = true
    · have whole : Request.stored calls b (.modifySize blk env) =
          .file (resizeBack (modifySizeObj blk (replay js)) calls b.start).2 ::
            (blockModifySizeCli blk env b.world.file).evs.map .ev := by
        unfold Request.stored
        rw [there]
        exact if_pos reaches
      have cut := took.cut
      rw [whole] at cut
      cases part with
      | nil => exact sizes_idle_backed inv took rfl
      | cons item rest =>
        obtain ⟨rfl, rest_cut⟩ := List.cons_prefix_cons.mp cut
        have only : rest.filterMap Stored.file? = [] := by
          apply List.filterMap_eq_nil_iff.mpr
          intro item mem
          obtain ⟨e, _, rfl⟩ := List.mem_map.mp (rest_cut.subset mem)
          rfl
        have back := took.back
        rw [List.filterMap_cons_some (show Stored.file? (.file _) = _ from rfl), only,
          start_there there] at back
        exact resized_backed inv there (reaches_refusal reaches) (unshrunk js there) took.answered
          took.step back
    · have plain : Request.stored calls b (.modifySize blk env) =
          (blockModifySizeCli blk env b.world.file).evs.map .ev := by
        unfold Request.stored
        rw [there]
        exact if_neg reaches
      have none : (blockModifySizeCli blk env b.world.file).evs = [] := by
        rw [there]
        by_contra some_evs
        exact reaches (reaches_of_evs some_evs)
      exact sizes_idle_backed inv took (part_nil took plain none)

end ModifySize

theorem step_backed {req : Request} (inv : SizesBacked b)
    (took : BackedStep req calls part b b') (unshrunk : Unshrunk b req) : SizesBacked b' := by
  cases req with
  | create blk env => exact create_backed inv took
  | delete blk env => exact delete_backed inv took
  | modify blk env => exact modify_backed inv took
  | modifySize blk env => exact modifySize_backed inv took unshrunk
  | replace blk env => exact replace_backed inv took

end Steps

section Truth

/-- A block that is not there yet. -/
def Backed.none (nodes : Addr → Option Nat) : Backed := ⟨.none nodes, Option.none⟩

/-- Whatever fails and wherever requests are cut short, no device is larger than the recorded
size and that is not larger than the backing file, as long as nobody forces a shrink. -/
theorem sizes_backed {nodes : Addr → Option Nat} {b : Backed}
    (run : BackedRun (.none nodes) b) : SizesBacked b := by
  induction run with
  | refl =>
    constructor
    · intro js absurd
      cases absurd
    · intro js file absurd
      cases absurd
  | tail _ step ih =>
    obtain ⟨req, calls, part, took, unshrunk⟩ := step
    exact step_backed ih took unshrunk

end Truth

section Sample

/-- The effects with the file are those of the request. -/
theorem stored_evs (calls : StorageCalls) (b : Backed) (req : Request) :
    (req.stored calls b).filterMap Stored.ev? = (req.outcome b.world.file).evs := by
  unfold Request.stored
  cases req with
  | create blk env => exact withFile_evs
  | delete blk env => exact withFile_evs
  | modify blk env => exact map_evs
  | replace blk env => exact map_evs
  | modifySize blk env =>
    cases there : b.world.file with
    | none => exact map_evs
    | some js =>
      dsimp only
      split
      · exact map_evs
      · exact map_evs

/-- A node that does what a call asks for when the call returns 0. -/
def exportServe (device : Option Nat) (msg : Msg) (exit : Int) : Option Nat :=
  if exit = 0 then exportSet device msg else device

/-- The block behind so much of a request. -/
def Backed.advance (calls : StorageCalls) (b : Backed) (req : Request) (steps : Nat) : Backed :=
  let part := (req.stored calls b).take steps
  ⟨b.world.advance exportServe (part.filterMap Stored.ev?),
    (part.filterMap Stored.file?).getLast?.getD b.start⟩

theorem advance_backed {calls : StorageCalls} {b : Backed} {req : Request} (steps : Nat)
    (answered : req.answered calls b) (accepted : req.accepted)
    (finds : b.world.file ≠ none → req.session.accessErr = none)
    (fresh : b.world.file = none → ∀ addr, b.world.nodes addr = none) :
    BackedStep req calls ((req.stored calls b).take steps) b (b.advance calls req steps) := by
  have cut := List.take_prefix steps (req.stored calls b)
  refine ⟨answered, cut, ?_, rfl⟩
  apply advance_step _ ⟨accepted, finds, stored_evs calls b req ▸ cut.filterMap _⟩ fresh
  intro device msg exit
  unfold exportModel exportServe
  dsimp only
  split
  · exact .inl rfl
  · rename_i failed
    exact .inr ⟨failed, rfl⟩

def backedCalls : StorageCalls := { left := none, blocks := 2048, resize := growthEnv none }

/-- A block of 1048576 bytes with its file. -/
def backedCreated : Backed :=
  (Backed.none fun _ => none).advance backedCalls (.create oneHost (createSampleEnv [])) 100

theorem created_backed : BackedRun (.none fun _ => none) backedCreated := by
  refine .single ⟨_, _, _, advance_backed 100 ?_ Nat.one_pos (fun there => (there rfl).elim)
    (fun _ _ => rfl), trivial⟩
  show createSize oneHost (createSampleEnv []) < 2 ^ 64
  decide

def cutRequest (size : Nat) (force : Bool) : Request :=
  .modifySize { resizeSample size with force := force } (resizeSampleEnv (.sent 0))

/-- A resize that is cut short behind its file. -/
def cutResize (size : Nat) (force : Bool) : Backed :=
  backedCreated.advance backedCalls (cutRequest size force) 1

theorem cutResize_step {size : Nat} {force : Bool}
    (answered : (cutRequest size force).answered backedCalls backedCreated) :
    BackedStep (cutRequest size force) backedCalls
      (((cutRequest size force).stored backedCalls backedCreated).take 1) backedCreated
      (cutResize size force) := by
  refine advance_backed 1 answered trivial (fun _ => rfl) (fun none => ?_)
  exact absurd none (by decide)

theorem sizes_backed_sample : SizesBacked (cutResize 2097152 false) := by
  apply sizes_backed (created_backed.tail
    ⟨_, _, _, cutResize_step ⟨by decide, fun js there => ?_⟩, fun _ _ force => ?_⟩)
  · cases there
    decide
  · cases force

/-- A forced shrink that is cut short there leaves a device that is larger than the file. -/
theorem forced_shrink_unbacked :
    (∃ part, BackedStep (cutRequest 524288 true) backedCalls part backedCreated
      (cutResize 524288 true)) ∧ ¬ SizesBacked (cutResize 524288 true) := by
  constructor
  · refine ⟨_, cutResize_step ⟨by decide, fun js there => ?_⟩⟩
    cases there
    decide
  · intro sizes
    obtain ⟨js, there⟩ := Option.ne_none_iff_exists'.mp
      (show (cutResize 524288 true).world.file ≠ none by decide)
    obtain ⟨file, back⟩ := Option.ne_none_iff_exists'.mp
      (show (cutResize 524288 true).back ≠ none by decide)
    have small := (sizes.devices js there "10.0.0.1" 1048576 (by decide)).trans
      (sizes.recorded js file there back)
    have size : (cutResize 524288 true).back.map (fun f => f.stat.size.toNat) = some 524288 := by
      decide
    rw [back] at size
    have same : file.stat.size.toNat = 524288 := Option.some.inj size
    omega

end Sample

end GlusterBlock
