import Mathlib.Data.List.Perm.Subperm
import GlusterBlock.BlockCreate
import GlusterBlock.CleanUp

/-! What a create reports. The audit counts the configured hosts and rolls back
when one is missing; a rollback that gets stuck keeps the metafile, and then the
reply takes the create for done. -/
namespace GlusterBlock

/-- The hosts that are configured as the metafile shows them. -/
def configuredHosts (js : Journal) : List Addr :=
  (hosts js).filter (fun a => isConfigured (latest js a))

theorem successcnt_replay (js : Journal) : successcnt (replay js) = (configuredHosts js).length := by
  rw [successcnt, countP_replay js isConfigured, List.countP_eq_length_filter]
  rfl

/-- Exit code 0 says that the metafile is there and has all its hosts configured. -/
def CreateTruthful (blk : BlockCreateCli) (env : CreateEnv) (file : Metafile) : Prop :=
  let out := blockCreateCli blk env file
  ∃ r, out.reply = some r ∧
    (r.exit = 0 ↔ ∃ js, metaAfter file out.evs = some js ∧
      (configuredHosts js).length = blk.mpath)

section Prepare

/-- The backing file is made and the first lines are recorded. -/
def CreateEnv.prepared (env : CreateEnv) (blk : BlockCreateCli) : Prop :=
  env.header = .ok ∧ (∃ stSize, env.createEntry = .created stSize) ∧ env.entry = .ok ∧
    (blk.authMode = true → env.password = .ok)

variable (blk : BlockCreateCli) (env : CreateEnv) (resultCaps : Caps)

/-- The lines in front of the workers. -/
def preparedLines : Journal :=
  headerLines blk env.gbid (createPrioPath env resultCaps) ++
    entryLines blk (createSize blk env) resultCaps ++
    if blk.authMode then [.passwd env.passwd] else []

theorem hosts_of_plain {ms : Journal} (plain : ∀ l ∈ ms, hostRecord l = none) : hosts ms = [] := by
  have empty : hostLog ms = [] := List.filterMap_eq_nil_iff.mpr plain
  rw [hosts, empty]
  rfl

theorem header_plain (gbid : String) (prioPath : Addr) :
    ∀ l ∈ headerLines blk gbid prioPath, hostRecord l = none := by
  intro l hl
  unfold headerLines at hl
  split at hl
  · simp at hl
    rcases hl with rfl | rfl | rfl | rfl <;> rfl
  · simp at hl
    rcases hl with rfl | rfl | rfl | rfl | rfl <;> rfl

theorem entry_plain (size : Nat) : ∀ l ∈ entryLines blk size resultCaps, hostRecord l = none := by
  intro l hl
  unfold entryLines at hl
  split at hl
  · simp at hl
    rcases hl with rfl | rfl | rfl | rfl <;> rfl
  · simp at hl
    rcases hl with rfl | rfl | rfl | rfl | rfl <;> rfl

/-- The steps in front of the workers get through, or they end with an error and
no host in what they wrote. -/
theorem prepare_cases :
    env.prepared blk ∧ (createPrepare blk env resultCaps).ret = 0 ∧
        metaAfter none (createPrepare blk env resultCaps).evs =
          some (preparedLines blk env resultCaps) ∧
        Ev.unlinkMeta ∉ (createPrepare blk env resultCaps).evs ∨
      ¬ env.prepared blk ∧ (createPrepare blk env resultCaps).ret ≠ 0 ∧
        ∀ js, metaAfter none (createPrepare blk env resultCaps).evs = some js → hosts js = [] := by
  have header := hosts_of_plain (header_plain blk env.gbid (createPrioPath env resultCaps))
  have lines : ∀ ms : Journal, (∀ l ∈ ms, hostRecord l = none) →
      hosts (headerLines blk env.gbid (createPrioPath env resultCaps) ++ ms) = [] := by
    intro ms plain
    refine hosts_of_plain (fun l hl => (List.mem_append.mp hl).elim (header_plain blk _ _ l) ?_)
    exact plain l
  have entry := lines _ (entry_plain blk resultCaps (createSize blk env))
  have nothing : hosts [] = [] := rfl
  unfold CreateEnv.prepared createPrepare preparedLines
  cases env.header with
  | notOpened => simp [metaUpdate, Act.next, metaAfter]
  | notWritten => simp [metaUpdate, Act.next, metaAfter, metaStep, nothing]
  | notClosed => simp [metaUpdate, Act.next, metaAfter, metaStep, header]
  | ok =>
    rw [metaUpdate_ok, Act.next_zero rfl]
    cases env.createEntry with
    | failed errno nonzero errMsg unlinkedMeta =>
      cases unlinkedMeta <;> simp [metaAfter, metaStep, nonzero, header]
    | created stSize =>
      cases env.entry with
      | notOpened => simp [metaUpdate, Act.next, metaAfter, metaStep, header]
      | notWritten => simp [metaUpdate, Act.next, metaAfter, metaStep, header]
      | notClosed => simp [metaUpdate, Act.next, metaAfter, metaStep, entry]
      | ok =>
        cases blk.authMode with
        | false => simp [Act.next, metaAfter, metaStep]
        | true =>
          cases env.password with
          | ok => simp [Act.next, metaAfter, metaStep]
          | notOpened => simp [metaUpdate, Act.next, metaAfter, metaStep, entry]
          | notWritten => simp [metaUpdate, Act.next, metaAfter, metaStep, entry]
          | notClosed =>
            have more := lines (entryLines blk (createSize blk env) resultCaps ++
              [.passwd env.passwd]) (fun l hl => by
                rcases List.mem_append.mp hl with hl | hl
                · exact entry_plain blk resultCaps _ l hl
                · exact List.mem_singleton.mp hl ▸ rfl)
            simp [metaUpdate, Act.next, metaAfter, metaStep, more]

theorem preparedLines_hosts : hosts (preparedLines blk env resultCaps) = [] := by
  apply hosts_of_plain
  intro l hl
  unfold preparedLines at hl
  rcases List.mem_append.mp hl with hl | hl
  · exact (List.mem_append.mp hl).elim (header_plain blk _ _ l) (entry_plain blk resultCaps _ l)
  · split at hl
    · exact List.mem_singleton.mp hl ▸ rfl
    · cases hl

end Prepare

section Workers

variable (list : List Addr) (cobj : BlockCreate2) (jobs : Nat → JobOutcome) (sched : List Nat)

/-- The effects of the create workers. -/
def createEvs : List Ev := runPool (createWorkers list cobj jobs) sched

/-- The worker leaves its host configured. -/
def JobOutcome.configures (o : JobOutcome) : Prop :=
  o.start = .ok ∧ o.call = .sent 0 ∧ o.done.wrote = true

instance (o : JobOutcome) : Decidable o.configures := inferInstanceAs (Decidable (_ ∧ _ ∧ _))

theorem create_configured (addr : Addr) (o : JobOutcome) :
    isConfigured ((glusterBlockCreateRemote addr cobj).after o none) = true ↔ o.configures := by
  obtain ⟨start, call, done, extra⟩ := o
  rw [RemoteJob.after_plain _ rfl]
  cases start with
  | notOpened => simp [RemoteJob.statuses, UpdRes.wrote, JobOutcome.configures, isConfigured]
  | notWritten => simp [RemoteJob.statuses, UpdRes.wrote, JobOutcome.configures, isConfigured]
  | notClosed =>
    simp [RemoteJob.statuses, UpdRes.wrote, JobOutcome.configures, isConfigured,
      glusterBlockCreateRemote]
  | ok =>
    cases call with
    | notSent =>
      simp [RemoteJob.statuses, UpdRes.wrote, JobOutcome.configures, isConfigured,
        glusterBlockCreateRemote]
    | sent exit =>
      by_cases zero : exit = 0
      · subst exit
        cases auth : cobj.authMode <;> cases done <;> cases extra <;>
          simp [RemoteJob.statuses, UpdRes.wrote, JobOutcome.configures, isConfigured,
            glusterBlockCreateRemote, isZero, auth]
      · cases done <;>
          simp [RemoteJob.statuses, UpdRes.wrote, JobOutcome.configures, isConfigured,
            glusterBlockCreateRemote, isZero, zero]

variable {list cobj jobs sched}

theorem createWorkers_get {i : Nat} {w : Act} :
    (createWorkers list cobj jobs)[i]? = some w ↔
      ∃ a, list[i]? = some a ∧ (glusterBlockCreateRemote a cobj).run (jobs i) = w := by
  simp [createWorkers, runWorkers, List.getElem?_zipIdx]

theorem mem_createWorkers {w : Act} (hw : w ∈ createWorkers list cobj jobs) :
    ∃ a ∈ list, ∃ o, w = (glusterBlockCreateRemote a cobj).run o := by
  obtain ⟨i, hi⟩ := List.getElem?_of_mem hw
  obtain ⟨a, ha, rfl⟩ := createWorkers_get.mp hi
  exact ⟨a, List.mem_of_getElem? ha, jobs i, rfl⟩

theorem createEvs_keep : Ev.unlinkMeta ∉ createEvs list cobj jobs sched := by
  intro h
  obtain ⟨w, hw, he⟩ := pool_mem.mp h
  obtain ⟨a, _, o, rfl⟩ := mem_createWorkers hw
  exact RemoteJob.run_keeps _ o he

theorem createEvs_absent {addr : Addr} (away : addr ∉ list) :
    hostEvs addr (createEvs list cobj jobs sched) = [] := by
  refine pool_absent (fun w hw => ?_)
  obtain ⟨a, ha, o, rfl⟩ := mem_createWorkers hw
  have other : a ≠ addr := fun e => away (e ▸ ha)
  exact RemoteJob.run_other _ o other

theorem createEvs_hosts {addr : Addr}
    (h : addr ∈ hosts (written (createEvs list cobj jobs sched))) : addr ∈ list := by
  by_contra away
  exact hosts_written h (createEvs_absent away)

/-- On a list without duplicates every host has its own worker. -/
theorem createEvs_host (nodup : list.Nodup) {i : Nat} {addr : Addr} (hi : list[i]? = some addr) :
    hostEvs addr (createEvs list cobj jobs sched) =
      hostEvs addr ((glusterBlockCreateRemote addr cobj).run (jobs i)).evs := by
  refine pool_owner (createWorkers_get.mpr ⟨addr, hi, rfl⟩) (fun j v hne hj => ?_)
  obtain ⟨b, hb, rfl⟩ := createWorkers_get.mp hj
  have other : b ≠ addr := by
    rintro rfl
    obtain ⟨_, same⟩ := List.getElem?_eq_some_iff.mp hb
    obtain ⟨_, first⟩ := List.getElem?_eq_some_iff.mp hi
    exact hne (nodup.getElem_inj_iff.mp (same.trans first.symm))
  exact RemoteJob.run_other _ _ other

theorem configured_within {js : Journal} (fresh : hosts js = []) :
    configuredHosts (js ++ written (createEvs list cobj jobs sched)) ⊆ list := by
  intro a ha
  rcases mem_hosts_append.mp (List.mem_filter.mp ha).1 with old | new
  · rw [fresh] at old
    cases old
  · exact createEvs_hosts new

theorem configured_bound {js : Journal} (fresh : hosts js = []) :
    (configuredHosts (js ++ written (createEvs list cobj jobs sched))).length ≤ list.length :=
  (List.subperm_of_subset ((hosts_nodup _).filter _) (configured_within fresh)).length_le

theorem configured_all {js : Journal} (fresh : hosts js = []) :
    (configuredHosts (js ++ written (createEvs list cobj jobs sched))).length = list.length ↔
      list.Nodup ∧ ∀ i < list.length, (jobs i).configures := by
  let shown := js ++ written (createEvs list cobj jobs sched)
  have old : ∀ a, latest js a = none := fun a => latest_unmentioned (by rw [fresh]; exact List.not_mem_nil)
  have status : list.Nodup → ∀ i a, list[i]? = some a →
      (isConfigured (latest shown a) = true ↔ (jobs i).configures) := by
    intro nodup i a hi
    have own := effects_hostEvs a ((glusterBlockCreateRemote a cobj).run (jobs i)).evs
    rw [latest_after, createEvs_host nodup hi, own, RemoteJob.run_written, old a]
    exact create_configured cobj a (jobs i)
  have distinct : (configuredHosts shown).Nodup := (hosts_nodup shown).filter _
  have within : configuredHosts shown ⊆ list := configured_within fresh
  constructor
  · intro count
    have perm : (configuredHosts shown).Perm list :=
      (List.subperm_of_subset distinct within).perm_of_length_le (le_of_eq count.symm)
    have nodup := perm.nodup_iff.mp distinct
    refine ⟨nodup, fun i hi => ?_⟩
    have here : list[i]? = some list[i] := List.getElem?_eq_getElem hi
    have mem : list[i] ∈ configuredHosts shown := perm.mem_iff.mpr (List.getElem_mem hi)
    exact (status nodup i list[i] here).mp (List.mem_filter.mp mem).2
  · rintro ⟨nodup, all⟩
    have covered : list ⊆ configuredHosts shown := by
      intro a ha
      obtain ⟨i, hi, rfl⟩ := List.getElem_of_mem ha
      have here : list[i]? = some list[i] := List.getElem?_eq_getElem hi
      have done := (status nodup i list[i] here).mpr (all i hi)
      refine List.mem_filter.mpr ⟨?_, done⟩
      by_contra unknown
      rw [latest_unmentioned unknown] at done
      exact Bool.false_ne_true done
    exact Nat.le_antisymm (configured_bound fresh) (List.subperm_of_subset nodup covered).length_le

end Workers

section Rollback

/-- A host that a cleanup contacts is not configured afterwards if it was not
before. -/
theorem delete_unconfigures (addr : Addr) (dobj : BlockDelete) (o : JobOutcome)
    {old : Option MetaStatus}
    (h : isConfigured ((glusterBlockDeleteRemote addr dobj).after o old) = true) :
    isConfigured old = true := by
  obtain ⟨start, call, done, extra⟩ := o
  rw [RemoteJob.after_plain _ rfl] at h
  revert h
  cases start with
  | ok =>
    cases call with
    | notSent => simp [RemoteJob.statuses, UpdRes.wrote, isConfigured, glusterBlockDeleteRemote]
    | sent exit =>
      by_cases zero : exit = 0
      · cases done <;> simp [RemoteJob.statuses, UpdRes.wrote, isConfigured,
          glusterBlockDeleteRemote, isZero, zero]
      · cases done <;> simp [RemoteJob.statuses, UpdRes.wrote, isConfigured,
          glusterBlockDeleteRemote, isZero, zero]
  | _ => simp [RemoteJob.statuses, UpdRes.wrote, isConfigured, glusterBlockDeleteRemote]

theorem deleteFiles_latest (js : Journal) (unlink : Bool) (env : CleanUpEnv) (addr : Addr) :
    latest (js ++ written (deleteFiles unlink env).evs) addr = latest js addr ∨
      latest (js ++ written (deleteFiles unlink env).evs) addr = none := by
  by_cases marker : addr = "ENTRYDELETE"
  · subst addr
    have lines : ∀ s ∈ (written (deleteFiles unlink env).evs).filterMap (effect "ENTRYDELETE"),
        s = none := by
      intro s hs
      obtain ⟨l, hl, he⟩ := List.mem_filterMap.mp hs
      obtain ⟨state, rfl⟩ := deleteFiles_lines hl
      exact (Option.some.inj he).symm
    rw [latest_append]
    cases last : ((written (deleteFiles unlink env).evs).filterMap
        (effect "ENTRYDELETE")).getLast? with
    | none => exact .inl rfl
    | some s => exact .inr (lines s (List.mem_of_getLast? last))
  · left
    rw [latest_after, deleteFiles_host unlink env marker]
    rfl

/-- A cleanup configures nobody. -/
theorem cleanUp_configured (js : Journal) (blockname : String) (forcedel unlink : Bool)
    (env : CleanUpEnv) :
    (configuredHosts (js ++ written
      (glusterBlockCleanUp js blockname forcedel unlink env).act.evs)).length ≤
        (configuredHosts js).length := by
  have nodes : ∀ a, isConfigured (latest (js ++ written
      (deleteEvs js (cleanUpObj js blockname) env)) a) = true → isConfigured (latest js a) = true := by
    intro a h
    rw [deleteEvs_latest] at h
    split at h
    · exact delete_unconfigures a _ _ h
    · exact h
  have all : ∀ a, isConfigured (latest (js ++ written
      (glusterBlockCleanUp js blockname forcedel unlink env).act.evs) a) = true →
        isConfigured (latest js a) = true := by
    intro a h
    rw [cleanUp_evs, written_append, ← List.append_assoc] at h
    split at h
    · rcases deleteFiles_latest (js ++ written (deleteEvs js (cleanUpObj js blockname) env)) unlink
        env a with same | none
      · exact nodes a (same ▸ h)
      · rw [none] at h
        exact absurd h Bool.false_ne_true
    · rw [written_nil, List.append_nil] at h
      exact nodes a h
  refine (List.subperm_of_subset ((hosts_nodup _).filter _) (fun a ha => ?_)).length_le
  have before := all a (List.mem_filter.mp ha).2
  refine List.mem_filter.mpr ⟨?_, before⟩
  by_contra unknown
  rw [latest_unmentioned unknown] at before
  exact Bool.false_ne_true before

end Rollback

section Report

variable (blk : BlockCreateCli) (env : CreateEnv)

/-- The hosts the block is created on. -/
def createHosts : List Addr := (blockServerParse blk.blockHosts).take blk.mpath

/-- The metafile as the audit reads it. -/
def auditedLines (resultCaps : Caps) : Journal :=
  preparedLines blk env resultCaps ++
    written (createEvs (createHosts blk) (createObj blk env resultCaps) env.jobs env.sched)

/-- Past the refusals and the first updates either all hosts are configured or the
rollback gets to its end. A refused name belongs to a block that is incomplete, or
has another number of hosts. -/
def CreateReportable : Metafile → Prop
  | some js => (configuredHosts js).length ≠ blk.mpath
  | none => ∀ resultCaps, blk.mpath ≤ (blockServerParse blk.blockHosts).length →
      createCapGate blk (capArgs (blockServerParse blk.blockHosts) env.caps) = .ok resultCaps →
      env.prepared blk →
        ((createHosts blk).Nodup ∧ ∀ i < blk.mpath, (env.jobs i).configures) ∨
        (env.cleanUp.nodesCleared (auditedLines blk env resultCaps) ∧ env.cleanUp.filesOk true)

theorem exitCode_zero {errCode : Int} : exitCode errCode = 0 ↔ errCode = 0 := by
  unfold exitCode
  split
  · have positive : gbDefaultErrcode ≠ 0 := by decide
    constructor
    · intro h
      exact absurd h positive
    · intro h
      omega
  · exact Iff.rfl

theorem createFormat_failed (file : Metafile) {errCode : Int} (failed : errCode ≠ 0)
    (errMsg : Option String) (saved : List Addr × List Addr) :
    (blockCreateCliFormatResponse blk file errCode errMsg saved).exit ≠ 0 := by
  have code : exitCode errCode ≠ 0 := fun h => failed (exitCode_zero.mp h)
  unfold blockCreateCliFormatResponse
  split
  · exact code
  · rw [if_pos code]
    exact code
  · split
    · exact code
    · exact code

theorem createGate_code {args : List CapArg} {e : Int × Option String}
    (h : createCapGate blk args = .error e) : e.1 ≠ 0 := by
  unfold createCapGate at h
  dsimp only at h
  split at h
  · rename_i failed
    cases h
    exact failed.1
  · cases h

theorem refused_truthful {file : Metafile} {errCode : Int} (failed : errCode ≠ 0)
    {errMsg : Option String}
    (refused : blockCreateCli blk env file =
      ⟨[], some (blockCreateCliFormatResponse blk file errCode errMsg ([], []))⟩) :
    CreateTruthful blk env file ↔ ∀ js, file = some js → (configuredHosts js).length ≠ blk.mpath := by
  unfold CreateTruthful
  rw [refused]
  have code := createFormat_failed blk file failed errMsg ([], [])
  simp only [Option.some.injEq, exists_eq_left', code, false_iff, not_exists, not_and]
  exact Iff.rfl

theorem createBody_failed (resultCaps : Caps) (failed : ¬ env.prepared blk) :
    (createBody blk env resultCaps none).1.act = createPrepare blk env resultCaps ∧
      (createPrepare blk env resultCaps).ret ≠ 0 ∧
      ∀ js, metaAfter none (createPrepare blk env resultCaps).evs = some js → hosts js = [] := by
  rcases prepare_cases blk env resultCaps with ⟨ok, _⟩ | ⟨_, ret, none⟩
  · exact absurd ok failed
  · refine ⟨?_, ret, none⟩
    rw [createBody, if_pos ret]

/-- The effects of the workers follow on those of the first updates, and the audit
reads what they wrote. -/
theorem createBody_eq (resultCaps : Caps) (prepared : env.prepared blk) :
    createBody blk env resultCaps none =
      (let audit := glusterBlockAuditRequest (auditedLines blk env resultCaps) blk env.cleanUp
       ({ audit with act := { audit.act with
            evs := ((createPrepare blk env resultCaps).evs ++ createEvs (createHosts blk)
              (createObj blk env resultCaps) env.jobs env.sched) ++ audit.act.evs } }, none)) ∧
      metaAfter none ((createPrepare blk env resultCaps).evs ++ createEvs (createHosts blk)
        (createObj blk env resultCaps) env.jobs env.sched) =
          some (auditedLines blk env resultCaps) := by
  rcases prepare_cases blk env resultCaps with ⟨_, ret, lines, kept⟩ | ⟨failed, _⟩
  · have shown : metaAfter none ((createPrepare blk env resultCaps).evs ++
        createEvs (createHosts blk) (createObj blk env resultCaps) env.jobs env.sched) =
          some (auditedLines blk env resultCaps) := by
      rw [metaAfter_append, lines, metaAfter_some _ createEvs_keep]
      rfl
    refine ⟨?_, shown⟩
    unfold createBody
    dsimp only
    rw [if_neg (not_not.mpr ret)]
    have journal := congrArg (fun file => Option.getD file []) shown
    dsimp only [Option.getD_some] at journal
    simp only [createEvs, createHosts] at journal ⊢
    rw [journal]
  · exact absurd prepared failed

theorem createBody_prepared (resultCaps : Caps) (prepared : env.prepared blk) :
    let audit := glusterBlockAuditRequest (auditedLines blk env resultCaps) blk env.cleanUp
    metaAfter none (createBody blk env resultCaps none).1.act.evs =
        metaAfter (some (auditedLines blk env resultCaps)) audit.act.evs ∧
      (createBody blk env resultCaps none).1.act.ret = 0 ∧
      (createBody blk env resultCaps none).2 = none := by
  obtain ⟨body, shown⟩ := createBody_eq blk env resultCaps prepared
  rw [body]
  refine ⟨?_, ?_, rfl⟩
  · rw [metaAfter_append, shown]
  · dsimp only
    unfold glusterBlockAuditRequest
    split <;> rfl

/-- The audit finds all hosts configured exactly when every worker got through. -/
theorem audited_complete (resultCaps : Caps)
    (few : blk.mpath ≤ (blockServerParse blk.blockHosts).length) :
    (configuredHosts (auditedLines blk env resultCaps)).length = blk.mpath ↔
      (createHosts blk).Nodup ∧ ∀ i < blk.mpath, (env.jobs i).configures := by
  have count : (createHosts blk).length = blk.mpath := by
    rw [createHosts, List.length_take]
    omega
  rw [← count]
  exact configured_all (preparedLines_hosts blk env resultCaps)

/-- What the audit leaves and the reply it leads to. -/
theorem audit_report (resultCaps : Caps) (saved : List Addr × List Addr)
    (positive : 0 < blk.mpath) (few : ¬ blk.mpath > (blockServerParse blk.blockHosts).length) :
    let audited := auditedLines blk env resultCaps
    let file := metaAfter (some audited) (glusterBlockAuditRequest audited blk env.cleanUp).act.evs
    ((blockCreateCliFormatResponse blk file 0 none saved).exit = 0 ↔
        ∃ js, file = some js ∧ (configuredHosts js).length = blk.mpath) ↔
      ((createHosts blk).Nodup ∧ ∀ i < blk.mpath, (env.jobs i).configures) ∨
        (env.cleanUp.nodesCleared audited ∧ env.cleanUp.filesOk true) := by
  intro audited
  have complete := audited_complete blk env resultCaps (Nat.not_lt.mp few)
  have gone : (blockCreateCliFormatResponse blk none 0 none saved).exit ≠ 0 := by
    simp [blockCreateCliFormatResponse, exitCode, blockFormatErrorResponse, gbDefaultErrcode]
  have there : ∀ js, (blockCreateCliFormatResponse blk (some js) 0 none saved).exit = 0 := by
    intro js
    have nonzero : ¬ blk.mpath = 0 := Nat.ne_of_gt positive
    simp [blockCreateCliFormatResponse, exitCode, nonzero]
  unfold glusterBlockAuditRequest
  rw [successcnt_replay]
  by_cases all : blk.mpath = (configuredHosts audited).length
  · rw [if_pos all]
    have kept : metaAfter (some audited) (Act.done 0).evs = some audited := rfl
    dsimp only
    rw [kept]
    exact ⟨fun _ => .inl (complete.mp all.symm),
      fun _ => ⟨fun _ => ⟨audited, rfl, all.symm⟩, fun _ => there audited⟩⟩
  · rw [if_neg all]
    dsimp only
    have removes := cleanUp_removes audited blk.blockName false true env.cleanUp
    cases file : metaAfter (some audited)
        (glusterBlockCleanUp audited blk.blockName false true env.cleanUp).act.evs with
    | none =>
      obtain ⟨cleared, ok⟩ := removes.mp file
      have nodes := cleared.resolve_left Bool.false_ne_true
      exact ⟨fun _ => .inr ⟨nodes, ok⟩,
        fun _ => ⟨fun h => absurd h gone, fun ⟨js, h, _⟩ => nomatch h⟩⟩
    | some js =>
      have stuck : ¬ (env.cleanUp.nodesCleared audited ∧ env.cleanUp.filesOk true) := by
        intro h
        rw [removes.mpr ⟨.inr h.1, h.2⟩] at file
        cases file
      have fewer : ¬ (configuredHosts js).length = blk.mpath := by
        have kept := cleanUp_keeps blk.blockName (fun h =>
          stuck ⟨h.1.resolve_left Bool.false_ne_true, h.2⟩)
        rw [metaAfter_some audited kept] at file
        cases file
        have less := cleanUp_configured audited blk.blockName false true env.cleanUp
        have bound : (configuredHosts audited).length ≤ (createHosts blk).length :=
          configured_bound (preparedLines_hosts blk env resultCaps)
        have most : (createHosts blk).length ≤ blk.mpath := List.length_take_le _ _
        omega
      constructor
      · intro h
        obtain ⟨js', hjs, hcount⟩ := h.mp (there js)
        cases hjs
        exact absurd hcount fewer
      · intro h
        rcases h with configured | cleared
        · exact absurd (complete.mpr configured).symm all
        · exact absurd cleared stuck

/-- A create tells the truth exactly when it stops early, configures all its hosts
or takes everything back. -/
theorem create_report (file : Metafile) (positive : 0 < blk.mpath) (good : env.session = .good) :
    CreateTruthful blk env file ↔ CreateReportable blk env file := by
  have connect : env.session.connect = none := by rw [good]; rfl
  have access : env.session.accessErr.isNone = true := by rw [good]; rfl
  have unlock : ∀ volume errCode errMsg,
      env.session.unlock volume errCode errMsg = (errCode, errMsg) := by
    intro volume errCode errMsg
    rw [good]
    rfl
  have refusal : (∀ resultCaps, blk.mpath ≤ (blockServerParse blk.blockHosts).length →
      createCapGate blk (capArgs (blockServerParse blk.blockHosts) env.caps) ≠ .ok resultCaps) →
        ((∀ js, file = some js → (configuredHosts js).length ≠ blk.mpath) ↔
          CreateReportable blk env file) := by
    intro none
    cases file with
    | none => exact ⟨fun _ caps fits ok => absurd ok (none caps fits), fun _ js hjs => nomatch hjs⟩
    | some js => exact ⟨fun h => h js rfl, fun h js' hjs => Option.some.inj hjs ▸ h⟩
  by_cases few : blk.mpath > (blockServerParse blk.blockHosts).length
  · have out : blockCreateCli blk env file = ⟨[], some (blockCreateCliFormatResponse blk file (-1)
        (some ("multipath req: " ++ toString blk.mpath ++ " > block-hosts: " ++ blk.blockHosts))
        ([], []))⟩ := by
      unfold blockCreateCli
      dsimp only
      rw [if_pos few]
    rw [refused_truthful blk env (by decide) out]
    exact refusal (fun _ fits => absurd fits (Nat.not_le.mpr few))
  · cases gate : createCapGate blk (capArgs (blockServerParse blk.blockHosts) env.caps) with
    | error e =>
      have out : blockCreateCli blk env file =
          ⟨[], some (blockCreateCliFormatResponse blk file e.1 e.2 ([], []))⟩ := by
        unfold blockCreateCli
        dsimp only
        rw [if_neg few, gate]
      rw [refused_truthful blk env (createGate_code blk gate) out]
      exact refusal (fun _ _ ok => nomatch gate.symm.trans ok)
    | ok resultCaps =>
      cases file with
      | some js =>
        have out : blockCreateCli blk env (some js) =
            ⟨[], some (blockCreateCliFormatResponse blk (some js) eEXIST
              (some ("BLOCK with name: '" ++ blk.blockName ++ "' already EXIST")) ([], []))⟩ := by
          unfold blockCreateCli
          dsimp only
          rw [if_neg few, gate, connect]
          dsimp only
          rw [access, unlock]
          rfl
        rw [refused_truthful blk env (by decide) out]
        exact ⟨fun h => h js rfl, fun h js' hjs => Option.some.inj hjs ▸ h⟩
      | none =>
        -- the workers run: what is left is the audit, or the error of a first update
        have out : blockCreateCli blk env none =
            (let body := createBody blk env resultCaps none
             ⟨body.1.act.evs, some (blockCreateCliFormatResponse blk
               (metaAfter none body.1.act.evs) body.1.act.ret body.2
               (body.1.attempt, body.1.success))⟩) := by
          unfold blockCreateCli
          dsimp only
          rw [if_neg few, gate, connect]
          dsimp only
          simp [unlock]
        have starts : CreateReportable blk env none ↔
            (env.prepared blk → ((createHosts blk).Nodup ∧
                ∀ i < blk.mpath, (env.jobs i).configures) ∨
              (env.cleanUp.nodesCleared (auditedLines blk env resultCaps) ∧
                env.cleanUp.filesOk true)) := by
          constructor
          · intro h
            exact h resultCaps (Nat.not_lt.mp few) gate
          · intro h caps _ ok
            cases gate.symm.trans ok
            exact h
        rw [starts]
        unfold CreateTruthful
        rw [out]
        simp only [Option.some.injEq, exists_eq_left']
        by_cases prepared : env.prepared blk
        · have body := createBody_prepared blk env resultCaps prepared
          dsimp only at body
          obtain ⟨evs, ret, msg⟩ := body
          rw [evs, ret, msg]
          exact (audit_report blk env resultCaps _ positive few).trans
            ⟨fun h _ => h, fun h => h prepared⟩
        · obtain ⟨act, ret, empty⟩ := createBody_failed blk env resultCaps prepared
          rw [act]
          have code := createFormat_failed blk (metaAfter none
            (createPrepare blk env resultCaps).evs) ret (createBody blk env resultCaps none).2
            ((createBody blk env resultCaps none).1.attempt,
              (createBody blk env resultCaps none).1.success)
          have missing : ¬ ∃ js, metaAfter none (createPrepare blk env resultCaps).evs = some js ∧
              (configuredHosts js).length = blk.mpath := by
            rintro ⟨js, shown, count⟩
            rw [configuredHosts, empty js shown] at count
            exact absurd count.symm (Nat.ne_of_gt positive)
          exact ⟨fun _ h => absurd h prepared,
            fun _ => ⟨fun h => absurd h code, fun h => absurd h missing⟩⟩

def createSample : BlockCreateCli where
  volume := "vol"
  blockName := "block"
  size := 1048576
  rbSize := 0
  blkSize := 0
  ioTimeout := 0
  mpath := 2
  authMode := false
  prealloc := false
  storage := ""
  blockHosts := "10.0.0.1,10.0.0.2"
  jsonResp := .none

def oneHost : BlockCreateCli := { createSample with mpath := 1, blockHosts := "10.0.0.1" }

/-- The second host fails to create, and then these hosts fail to delete. -/
def createSampleEnv (failing : List Addr) : CreateEnv where
  session := .good
  caps := allCapable
  volServer := "localhost"
  prioPath := ""
  gbid := "6b60c53c-8ce0-4d8d-a42c-5b546bca3d09"
  passwd := ""
  header := .ok
  createEntry := .created 1048576
  entry := .ok
  password := .ok
  jobs := fun i => if i = 1 then { JobOutcome.good with call := .sent 1 } else .good
  sched := []
  cleanUp :=
    { jobs := fun a => if a ∈ failing then { JobOutcome.good with call := .sent 1 } else .good,
      sched := [], entryStart := .ok, deleteEntry := .ok, entryEnd := .ok, unlinkMeta := true }

theorem create_report_sample :
    CreateTruthful createSample (createSampleEnv []) none ↔
      CreateReportable createSample (createSampleEnv []) none :=
  create_report createSample (createSampleEnv []) none (by decide) rfl

/-- The rollback fails on the host that was configured. -/
theorem stuck_rollback_reported : ¬ CreateTruthful createSample (createSampleEnv ["10.0.0.1"]) none := by
  rintro ⟨r, hr, truth⟩
  have code : (blockCreateCli createSample (createSampleEnv ["10.0.0.1"]) none).reply.map
      BlockResponse.exit = some 0 := by decide
  rw [hr] at code
  obtain ⟨js, shown, count⟩ := truth.mp (Option.some.inj code)
  have left : (metaAfter none (blockCreateCli createSample (createSampleEnv ["10.0.0.1"])
      none).evs).map (fun js => (configuredHosts js).length) = some 0 := by decide
  rw [shown] at left
  exact absurd ((Option.some.inj left).symm.trans count) (by decide)

end Report

end GlusterBlock
