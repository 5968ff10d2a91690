import GlusterBlock.Recorded
import GlusterBlock.ReplaceReport

/-! The number of valid hosts against the recorded HA value. Create, modify and
resize stay within it; a replace brings its new node in whatever the old node still
counts for, and a delete that does not reach its hosts makes them valid again. -/
namespace GlusterBlock

section Runs

/-- The metafile after some requests, each carried out to its end. -/
def fileAfter (file : Metafile) (reqs : List Request) : Metafile :=
  reqs.foldl (fun file req => metaAfter file (req.outcome file).evs) file

theorem fileAfter_snoc (file : Metafile) (reqs : List Request) (req : Request) :
    fileAfter file (reqs ++ [req]) =
      metaAfter (fileAfter file reqs) (req.outcome (fileAfter file reqs)).evs := by
  unfold fileAfter
  rw [List.foldl_append]
  rfl

/-- The command line takes the request, a metafile that is there is found, and the
request ends with a reply. -/
structure Request.Served (req : Request) (file : Metafile) : Prop where
  accepted : req.accepted
  finds : file ≠ none → req.session.accessErr = none
  replies : (req.outcome file).reply ≠ none

def ServedRun (file : Metafile) (reqs : List Request) : Prop :=
  ∀ before req, before ++ [req] <+: reqs → req.Served (fileAfter file before)

theorem served_nil (file : Metafile) : ServedRun file [] := by
  intro before req cut
  have short := cut.length_le
  rw [List.length_append] at short
  cases short

theorem served_cons {file : Metafile} {req : Request} {reqs : List Request}
    (first : req.Served file) (rest : ServedRun (metaAfter file (req.outcome file).evs) reqs) :
    ServedRun file (req :: reqs) := by
  intro before last cut
  cases before with
  | nil =>
    obtain ⟨rfl, _⟩ := List.cons_prefix_cons.mp cut
    exact first
  | cons b before =>
    obtain ⟨rfl, tail⟩ := List.cons_prefix_cons.mp cut
    exact rest before last tail

end Runs

/-- At most `mpath` hosts are valid, so that the host arrays of modify, delete and
replace have room for them. -/
def HaBounded (file : Metafile) : Prop :=
  ∀ js, file = some js →
    (validHosts js).length ≤ (replay js).mpath ∧
      glusterBlockGetListFromInfo (replay js) ≠ none ∧
      ∀ oldNode, (replaceOthers (replay js) oldNode).length ≤ (replay js).mpath

/-- The host counts as valid behind its delete: the call got no answer, or not even
the first line was written and the host was valid before. -/
def JobOutcome.lingers (o : JobOutcome) (old : Option MetaStatus) : Bool :=
  if o.start.wrote then !(o.start == .ok && o.call != .notSent && o.done.wrote)
  else old.any MetaStatus.isValid

/-- The hosts that a cleanup leaves valid. A forced one takes the status of the
backing file's marker away. -/
def lingering (js : Journal) (force : Bool) (env : CleanUpEnv) : List Addr :=
  (glusterBlockDeleteFillArgs (replay js)).filter (fun a =>
    (env.jobs a).lingers (latest js a) && !(force && env.entryStart.wrote && a == "ENTRYDELETE"))

def DeleteEnv.passes (env : DeleteEnv) (blk : BlockDeleteCli) (js : Journal) : Prop :=
  env.session.connect = none ∧ env.session.readMeta = true ∧
    (blk.force = true ∨ (checkHosts (.delete blk) (validHosts js) env.caps).1 = 0)

def ReplaceEnv.passes (env : ReplaceEnv) (blk : BlockReplaceCli) (js : Journal) : Prop :=
  env.session.connect = none ∧ env.session.readMeta = true ∧ (replaceCaps blk js env.caps).1 = 0

/-- The new node comes in with its create. -/
def ReplaceEnv.joins (env : ReplaceEnv) (checks : ReplaceChecks) : Prop :=
  checks.cCheck = false ∧ env.create.configures

/-- The old node stays valid. -/
def ReplaceEnv.stays (env : ReplaceEnv) (blk : BlockReplaceCli) (js : Journal)
    (checks : ReplaceChecks) : Prop :=
  checks.dCheck = false ∧ env.delete.lingers (latest js blk.oldNode) = true ∧
    ¬ (blk.force = true ∧ env.cleanupSuccess.wrote = true)

instance (env : ReplaceEnv) (checks : ReplaceChecks) : Decidable (env.joins checks) :=
  inferInstanceAs (Decidable (_ ∧ _))

instance (env : ReplaceEnv) (blk : BlockReplaceCli) (js : Journal) (checks : ReplaceChecks) :
    Decidable (env.stays blk js checks) := inferInstanceAs (Decidable (_ ∧ _ ∧ _))

/-- A delete leaves at most `mpath` of its hosts valid or removes the metafile. In a
replace there is room for the other valid hosts with the new node, when its create
gets through, and the old node, when it stays. -/
def Request.HasRoom (file : Metafile) : Request → Prop
  | delete blk env => ∀ js, file = some js → env.passes blk js →
      ¬ (blk.force = true ∧ env.cleanUp.filesOk blk.unlink) →
        (lingering js blk.force env.cleanUp).length ≤ (replay js).mpath
  | replace blk env => ∀ js checks, file = some js → env.passes blk js →
      replaceChecks blk (replay js) = .ok checks →
        (replaceOthers (replay js) blk.oldNode).length +
          (if env.joins checks then 1 else 0) + (if env.stays blk js checks then 1 else 0) ≤
            (replay js).mpath
  | _ => True

section Counting

theorem bounded_iff {js : Journal} :
    HaBounded (some js) ↔ (validHosts js).length ≤ (replay js).mpath := by
  constructor
  · intro h
    exact (h js rfl).1
  · intro bound js' hjs
    cases hjs
    refine ⟨bound, ?_, fun oldNode => ?_⟩
    · rw [getListFromInfo_replay, if_pos bound]
      simp
    · rw [replaceOthers_eq]
      exact Nat.le_trans (List.length_filter_le _ _) bound

theorem bounded_none : HaBounded none := fun _ h => nomatch h

theorem validHosts_length {js : Journal} {list : List Addr} (nodup : list.Nodup)
    (same : ∀ a, isValidAt js a = true ↔ a ∈ list) : (validHosts js).length = list.length := by
  apply List.Perm.length_eq
  apply (List.perm_ext_iff_of_nodup (validHosts_nodup js) nodup).mpr
  intro a
  rw [mem_validHosts]
  exact same a

/-- What only writes valid statuses to valid hosts changes none of the two counts. -/
theorem validHosts_same {js ms : Journal}
    (same : ∀ a, isValidAt (js ++ ms) a = isValidAt js a) :
    (validHosts (js ++ ms)).length = (validHosts js).length := by
  apply validHosts_length (validHosts_nodup js)
  intro a
  rw [same, mem_validHosts]

theorem valid_kept {js : Journal} {addr : Addr} {evs : List Ev} (valid : isValidAt js addr = true)
    (words : ∀ lines, Ev.write lines ∈ hostEvs addr evs → ∀ l ∈ lines, ∀ s,
      effect addr l = some s → s.any MetaStatus.isValid = true) :
    isValidAt (js ++ written evs) addr = true := by
  unfold isValidAt
  rw [latest_after]
  cases last : ((written (hostEvs addr evs)).filterMap (effect addr)).getLast? with
  | none => exact valid
  | some s =>
    obtain ⟨l, hl, put⟩ := List.mem_filterMap.mp (List.mem_of_getLast? last)
    obtain ⟨lines, he, hmem⟩ := mem_written.mp hl
    exact words lines he l hmem s put

/-- A worker that writes valid statuses only. -/
theorem run_words {j : RemoteJob} {o : JobOutcome} (good : ∀ s ∈ j.words, s.isValid = true) :
    ∀ lines, Ev.write lines ∈ hostEvs j.addr (j.run o).evs → ∀ l ∈ lines, ∀ s,
      effect j.addr l = some s → s.any MetaStatus.isValid = true := by
  intro lines he l hl s put
  obtain ⟨exit, full⟩ := run_seen he
  rcases mem_full full with ⟨status, word, line⟩ | call
  · unfold RemoteJob.line at line
    cases line
    rw [List.mem_singleton.mp hl] at put
    have shown : (if j.addr = j.addr ∧ (statusText status j.size).length ≤ 31 then
        some (some status) else none) = some s := put
    split at shown
    · cases shown
      exact good status word
    · cases shown
  · cases call

end Counting

section Requests

variable {js : Journal} {addr : Addr}

theorem untouched_same {evs : List Ev} (none : hostEvs addr evs = []) :
    isValidAt (js ++ written evs) addr = isValidAt js addr := by
  unfold isValidAt
  rw [latest_plain js none]

theorem modify_same (blk : BlockModifyCli) (env : ModifyEnv) :
    isValidAt (js ++ written (modifyBody blk js env).evs) addr = isValidAt js addr := by
  have round : ∀ ms mobj jobs sched lines,
      Ev.write lines ∈ hostEvs addr (modifyEvs ms mobj jobs sched) → ∀ l ∈ lines, ∀ s,
        effect addr l = some s → s.any MetaStatus.isValid = true := by
    intro ms mobj jobs sched lines he
    rw [modifyEvs_host] at he
    split at he
    · exact run_words (modify_words addr mobj) lines he
    · cases he
  cases valid : isValidAt js addr with
  | true =>
    refine valid_kept valid (fun lines he => ?_)
    rcases List.mem_append.mp ((modify_host addr blk js env).subset he) with first | second
    · exact round _ _ _ _ lines first
    · exact round _ _ _ _ lines second
  | false => exact (untouched_same (modify_untouched blk env valid)).trans valid

theorem modifySize_same (blk : BlockModifySizeCli) (env : ModifySizeEnv) :
    isValidAt (js ++ written (modifySizeBody blk js env).evs) addr = isValidAt js addr := by
  cases valid : isValidAt js addr with
  | true =>
    refine valid_kept valid (fun lines he => ?_)
    rcases modifySize_host addr blk js env with none | ⟨_, evs⟩
    · rw [none] at he
      cases he
    · rw [evs, modifySizeEvs_host] at he
      split at he
      · exact run_words (j := glusterBlockModifySizeRemote addr _)
          (by simp [RemoteJob.words, glusterBlockModifySizeRemote, MetaStatus.isValid]) lines he
      · cases he
  | false => exact (untouched_same (modifySize_untouched blk env valid)).trans valid

end Requests

section CleanUp

theorem delete_lingers (addr : Addr) (dobj : BlockDelete) (o : JobOutcome)
    (old : Option MetaStatus) :
    ((glusterBlockDeleteRemote addr dobj).after o old).any MetaStatus.isValid = o.lingers old := by
  obtain ⟨start, call, done, extra⟩ := o
  rw [RemoteJob.after_plain _ rfl]
  cases start with
  | notOpened => rfl
  | notWritten => rfl
  | notClosed => rfl
  | ok =>
    cases call with
    | notSent => rfl
    | sent exit =>
      cases zero : isZero exit <;> cases done <;>
        simp [RemoteJob.statuses, JobOutcome.lingers, UpdRes.wrote, glusterBlockDeleteRemote, zero,
          MetaStatus.isValid]

theorem mem_lingering {js : Journal} {force : Bool} {env : CleanUpEnv} {addr : Addr} :
    addr ∈ lingering js force env ↔
      addr ∈ glusterBlockDeleteFillArgs (replay js) ∧
        (env.jobs addr).lingers (latest js addr) = true ∧
          ¬ (force = true ∧ env.entryStart.wrote = true ∧ addr = "ENTRYDELETE") := by
  unfold lingering
  rw [List.mem_filter]
  cases force <;> cases env.entryStart.wrote <;> simp

theorem lingering_nodup (js : Journal) (force : Bool) (env : CleanUpEnv) :
    (lingering js force env).Nodup := (deleteFillArgs_nodup js).filter _

/-- The lines about the backing file reset the marker's status and leave the rest. -/
theorem deleteFiles_valid (js : Journal) (unlink : Bool) (env : CleanUpEnv) (addr : Addr) :
    isValidAt (js ++ written (deleteFiles unlink env).evs) addr = true ↔
      isValidAt js addr = true ∧ ¬ (env.entryStart.wrote = true ∧ addr = "ENTRYDELETE") := by
  by_cases marker : addr = "ENTRYDELETE"
  · subst marker
    have none : ∀ s ∈ (written (deleteFiles unlink env).evs).filterMap (effect "ENTRYDELETE"),
        s = none := by
      intro s hs
      obtain ⟨l, hl, put⟩ := List.mem_filterMap.mp hs
      obtain ⟨state, rfl⟩ := deleteFiles_lines hl
      exact (Option.some.inj put).symm
    unfold isValidAt
    rw [latest_append]
    cases wrote : env.entryStart.wrote with
    | true =>
      have first : (written (deleteFiles unlink env).evs).filterMap (effect "ENTRYDELETE") ≠ [] := by
        have line : MetaLine.entryDelete .inprogress ∈ written (deleteFiles unlink env).evs := by
          unfold deleteFiles
          cases start : env.entryStart with
          | ok => exact mem_written.mpr ⟨_, List.mem_append_left _ List.mem_cons_self,
              List.mem_cons_self⟩
          | notClosed => exact List.mem_cons_self
          | notOpened =>
            rw [start] at wrote
            cases wrote
          | notWritten =>
            rw [start] at wrote
            cases wrote
        exact List.ne_nil_of_mem (List.mem_filterMap.mpr ⟨_, line, rfl⟩)
      rw [List.getLast?_eq_some_getLast first, Option.getD_some,
        none _ (List.getLast_mem first)]
      simp
    | false =>
      have empty : written (deleteFiles unlink env).evs = [] := by
        unfold deleteFiles
        cases start : env.entryStart with
        | notOpened => rfl
        | notWritten => rfl
        | ok =>
          rw [start] at wrote
          cases wrote
        | notClosed =>
          rw [start] at wrote
          cases wrote
      rw [empty]
      simp
  · have still := latest_plain js (deleteFiles_host unlink env marker)
    unfold isValidAt
    rw [still]
    simp [marker]

theorem cleanUp_valid (js : Journal) (blockname : String) (forcedel unlink : Bool)
    (env : CleanUpEnv) (addr : Addr) :
    isValidAt (js ++ written (glusterBlockCleanUp js blockname forcedel unlink env).act.evs) addr =
      true ↔ addr ∈ lingering js forcedel env := by
  let behind := js ++ written (deleteEvs js (cleanUpObj js blockname) env)
  have nodes : isValidAt behind addr = true ↔
      addr ∈ glusterBlockDeleteFillArgs (replay js) ∧
        (env.jobs addr).lingers (latest js addr) = true := by
    unfold isValidAt
    rw [deleteEvs_latest]
    by_cases contacted : addr ∈ glusterBlockDeleteFillArgs (replay js)
    · rw [if_pos contacted, delete_lingers]
      exact ⟨fun h => ⟨contacted, h⟩, fun h => h.2⟩
    · rw [if_neg contacted]
      constructor
      · intro valid
        refine absurd (mem_deleteFillArgs.mpr ⟨valid_hosted valid, ?_⟩) contacted
        cases status : latest js addr with
        | none => rfl
        | some s =>
          rw [status] at valid
          cases s <;> first | rfl | cases valid
      · intro h
        exact absurd h.1 contacted
  rw [cleanUp_evs, written_append, ← List.append_assoc, mem_lingering]
  change isValidAt (behind ++ _) addr = true ↔ _
  by_cases goes : forcedel = true ∨ env.nodesCleared js
  · rw [if_pos goes, deleteFiles_valid, nodes, and_assoc]
    cases forcedel with
    | true => simp
    | false =>
      -- a cleared host does not linger
      have cleared := goes.resolve_left Bool.false_ne_true
      have gone : addr ∈ glusterBlockDeleteFillArgs (replay js) →
          (env.jobs addr).lingers (latest js addr) = false := by
        intro contacted
        obtain ⟨start, ⟨call, done⟩ | ⟨call, done⟩⟩ := cleared addr contacted
        · unfold JobOutcome.lingers
          rw [start, call, done]
          rfl
        · unfold JobOutcome.lingers
          rw [start, call, done]
          rfl
      constructor
      · rintro ⟨contacted, lingers, _⟩
        exact absurd ((gone contacted).symm.trans lingers) Bool.false_ne_true
      · rintro ⟨contacted, lingers, _⟩
        exact absurd ((gone contacted).symm.trans lingers) Bool.false_ne_true
  · rw [if_neg goes, written_nil, List.append_nil, nodes]
    have unforced : ¬ forcedel = true := fun h => goes (.inl h)
    simp [unforced]

end CleanUp

section Create

variable (blk : BlockCreateCli) (env : CreateEnv)

theorem prepared_mpath (resultCaps : Caps) :
    (replay (preparedLines blk env resultCaps)).mpath = blk.mpath := by
  have start : preparedLines blk env resultCaps = [] ++ preparedLines blk env resultCaps := rfl
  rw [start, mpath_append]
  unfold preparedLines headerLines entryLines
  split <;> split <;> split <;> rfl

theorem createEvs_lines {list : List Addr} {cobj : BlockCreate2} {jobs : Nat → JobOutcome}
    {sched : List Nat} {l : MetaLine} (h : l ∈ written (createEvs list cobj jobs sched)) :
    l.isHost = true := runWorkers_lines h

/-- A create makes no more hosts valid than it was asked for. -/
theorem create_bounded {file : Metafile} (bounded : HaBounded file)
    (finds : file ≠ none → env.session.accessErr = none) :
    HaBounded (metaAfter file (blockCreateCli blk env file).evs) := by
  rcases create_evs blk env finds with none | ⟨rfl, resultCaps, evs⟩
  · rw [none]
    exact bounded
  · rw [evs]
    have others : ∀ l : MetaLine, l.isHost = true → haOf? l = none := by
      intro l hl
      cases l <;> first | rfl | cases hl
    rcases createBody_evs blk env resultCaps with prep | ⟨prepared, body⟩
    · -- no host is mentioned yet
      intro js hjs
      rw [prep] at hjs
      have empty : hosts js = [] := by
        rcases prepare_cases blk env resultCaps with ⟨_, _, lines, _⟩ | ⟨_, _, lines⟩
        · rw [lines] at hjs
          cases hjs
          exact preparedLines_hosts blk env resultCaps
        · exact lines js hjs
      refine bounded_iff.mpr ?_ js rfl
      rw [validHosts_eq, empty]
      exact Nat.zero_le _
    · let audited := auditedLines blk env resultCaps
      obtain ⟨_, shown⟩ := createBody_eq blk env resultCaps prepared
      have known : ∀ a ∈ hosts audited, a ∈ createHosts blk := by
        intro a ha
        rcases mem_hosts_append.mp ha with old | new
        · rw [preparedLines_hosts] at old
          cases old
        · exact createEvs_hosts new
      have room : (createHosts blk).length ≤ blk.mpath := by
        unfold createHosts
        rw [List.length_take]
        omega
      have recorded : (replay audited).mpath = blk.mpath := by
        unfold audited auditedLines
        rw [mpath_append, no_pick (fun l hl => others l (createEvs_lines hl)), prepared_mpath]
        rfl
      have bound : ∀ js, (∀ a, isValidAt js a = true → a ∈ hosts audited) →
          (replay js).mpath = (replay audited).mpath → HaBounded (some js) := by
        intro js valid mpath
        apply bounded_iff.mpr
        rw [mpath, recorded]
        refine Nat.le_trans ?_ room
        refine (List.subperm_of_subset (validHosts_nodup js) (fun a ha => ?_)).length_le
        exact known a (valid a (mem_validHosts.mp ha))
      rw [body, metaAfter_append, shown]
      unfold rollbackEvs
      split
      · exact bound audited (fun _ => valid_hosted) rfl
      · cases left : metaAfter (some audited)
            (glusterBlockCleanUp audited blk.blockName false true env.cleanUp).act.evs with
        | none => exact bounded_none
        | some js =>
          obtain ⟨_, rfl⟩ := metaAfter_grows (cleanUp_last _ _ _ _ _) (List.prefix_refl _) left
          refine bound _ (fun a valid => ?_) ?_
          · exact (mem_deleteFillArgs.mp
              (mem_lingering.mp ((cleanUp_valid _ _ _ _ _ _).mp valid)).1).1
          · rw [Option.getD_some, mpath_append, no_pick]
            · rfl
            · intro l hl
              rcases cleanUp_lines hl with host | ⟨state, rfl⟩
              · exact others l host
              · rfl

end Create

section Replace

variable {blk : BlockReplaceCli} {js : Journal} {checks : ReplaceChecks} {env : ReplaceEnv}

/-- A create makes an unused node valid exactly when it is configured. -/
theorem create_valid (addr : Addr) (cobj : BlockCreate2) (o : JobOutcome)
    {old : Option MetaStatus} (unused : old.any MetaStatus.isValid = false) :
    ((glusterBlockCreateRemote addr cobj).after o old).any MetaStatus.isValid = true ↔
      o.configures := by
  obtain ⟨start, call, done, extra⟩ := o
  rw [RemoteJob.after_plain _ rfl]
  cases start with
  | notOpened => simp [RemoteJob.statuses, UpdRes.wrote, JobOutcome.configures, unused]
  | notWritten => simp [RemoteJob.statuses, UpdRes.wrote, JobOutcome.configures, unused]
  | notClosed =>
    simp [RemoteJob.statuses, UpdRes.wrote, JobOutcome.configures, MetaStatus.isValid,
      glusterBlockCreateRemote]
  | ok =>
    cases call with
    | notSent =>
      simp [RemoteJob.statuses, UpdRes.wrote, JobOutcome.configures, MetaStatus.isValid,
        glusterBlockCreateRemote]
    | sent exit =>
      by_cases zero : exit = 0
      · cases mode : cobj.authMode <;> cases done <;> cases extra <;>
          simp [RemoteJob.statuses, UpdRes.wrote, JobOutcome.configures, MetaStatus.isValid,
            glusterBlockCreateRemote, isZero, mode, zero]
      · cases done <;>
          simp [RemoteJob.statuses, UpdRes.wrote, JobOutcome.configures, MetaStatus.isValid,
            glusterBlockCreateRemote, isZero, zero]

theorem portal_words (addr : Addr) (robj : BlockReplace) :
    ∀ s ∈ (glusterBlockReplacePortalRemote addr robj).words, s.isValid = true := by
  simp [RemoteJob.words, glusterBlockReplacePortalRemote, MetaStatus.isValid]

theorem latest_run {j : RemoteJob} {o : JobOutcome} {evs : List Ev} (js : Journal)
    (shown : hostEvs j.addr evs = hostEvs j.addr (j.run o).evs) :
    latest (js ++ written evs) j.addr = j.after o (latest js j.addr) := by
  rw [latest_after, shown, effects_hostEvs, RemoteJob.run_written]
  rfl

/-- A worker that leaves its host valid has failed. -/
theorem lingers_ret (addr : Addr) (dobj : BlockDelete) {o : JobOutcome} {old : Option MetaStatus}
    (lingers : o.lingers old = true) : ((glusterBlockDeleteRemote addr dobj).run o).ret ≠ 0 := by
  obtain ⟨start, call, done, extra⟩ := o
  have failed : (-1 : Int) ≠ 0 := by decide
  cases start with
  | notOpened => exact failed
  | notWritten => exact failed
  | notClosed => exact failed
  | ok =>
    cases call with
    | notSent => exact failed
    | sent exit =>
      cases done with
      | ok => cases lingers
      | notClosed => cases lingers
      | notOpened =>
        unfold RemoteJob.run
        cases isZero exit <;>
          simp [RemoteJob.update, metaUpdate, Act.next, Act.emit]
      | notWritten =>
        unfold RemoteJob.run
        cases isZero exit <;>
          simp [RemoteJob.update, metaUpdate, Act.next, Act.emit]

variable (other : blk.oldNode ≠ blk.newNode) (ok : replaceChecks blk (replay js) = .ok checks)
include other ok

/-- The workers of a replace change the validity of the two nodes only. -/
theorem replacePool_valid (addr : Addr) :
    isValidAt (js ++ written (replacePool blk js checks env)) addr = true ↔
      addr ∈ replaceOthers (replay js) blk.oldNode ∨ addr = blk.newNode ∧ env.joins checks ∨
        addr = blk.oldNode ∧ checks.dCheck = false ∧
          env.delete.lingers (latest js blk.oldNode) = true := by
  obtain ⟨_, _, deleted, free⟩ := replaceChecks_ok blk ok
  by_cases isOld : addr = blk.oldNode
  · subst isOld
    have away : blk.oldNode ∉ replaceOthers (replay js) blk.oldNode :=
      fun h => (mem_replaceOthers.mp h).2 rfl
    cases done : checks.dCheck with
    | false =>
      have shown := latest_run (o := env.delete) js
        (j := glusterBlockDeleteRemote blk.oldNode ⟨blk.blockName, (replay js).gbid⟩)
        (replacePool_old other ok done)
      unfold isValidAt
      rw [show latest _ blk.oldNode = _ from shown, delete_lingers]
      simp [away, other, glusterBlockDeleteRemote]
    | true =>
      have gone : latest js blk.oldNode = some .cleanupSuccess := by
        rw [done] at deleted
        exact beq_iff_eq.mp deleted.symm
      have still : hostEvs blk.oldNode (replacePool blk js checks env) = [] :=
        replacePool_rest (fun _ => other)
          (fun pending => absurd (pending.symm.trans done) Bool.false_ne_true)
          (fun _ h => away (List.mem_of_mem_take h))
      unfold isValidAt
      rw [latest_plain js still, gone]
      simp [away, other, MetaStatus.isValid]
  · by_cases isNew : addr = blk.newNode ∧ checks.cCheck = false
    · obtain ⟨rfl, todo⟩ := isNew
      have unused : (latest js blk.newNode).any MetaStatus.isValid = false := free todo
      have away : blk.newNode ∉ replaceOthers (replay js) blk.oldNode :=
        fun h => Bool.false_ne_true (unused.symm.trans (mem_replaceOthers.mp h).1)
      have shown := latest_run (o := env.create) js
        (j := glusterBlockCreateRemote blk.newNode (replaceCobj blk (replay js) env.volServer))
        (replacePool_new other ok todo)
      unfold isValidAt
      rw [show latest _ blk.newNode = _ from shown]
      refine (create_valid blk.newNode _ env.create unused).trans ?_
      unfold ReplaceEnv.joins
      simp [away, isOld, todo]
    · have notIn : ¬ (addr = blk.newNode ∧ env.joins checks) := fun h => isNew ⟨h.1, h.2.1⟩
      have before : addr ∈ replaceOthers (replay js) blk.oldNode ↔ isValidAt js addr = true := by
        rw [mem_replaceOthers]
        exact ⟨fun h => h.1, fun h => ⟨h, isOld⟩⟩
      have same : isValidAt (js ++ written (replacePool blk js checks env)) addr = true ↔
          isValidAt js addr = true := by
        by_cases slot : checks.rCheck = true ∧
            addr ∈ (replaceOthers (replay js) blk.oldNode).take ((replay js).mpath - 1)
        · have valid := before.mp (List.mem_of_mem_take slot.2)
          have shown : hostEvs addr (replacePool blk js checks env) = _ :=
            replacePool_portal other ok slot.1 slot.2
          refine ⟨fun _ => valid, fun _ => valid_kept valid ?_⟩
          rw [shown]
          exact run_words (portal_words addr _)
        · have still : hostEvs addr (replacePool blk js checks env) = [] :=
            replacePool_rest (fun todo h => isNew ⟨h, todo⟩) (fun _ => isOld)
              (fun todo h => slot ⟨todo, h⟩)
          unfold isValidAt
          rw [latest_plain js still]
      rw [same, before]
      simp [notIn, isOld]

/-- The valid hosts behind a replace. -/
theorem replace_valid (resp : ReplaceResp) (force : resp.force = blk.force)
    (status : checks.dCheck = false → resp.dop.status = (replaceDelete blk js env).ret)
    (addr : Addr) :
    isValidAt (js ++ written (replacePool blk js checks env ++
        (replaceTrailer blk (replay js) resp env).evs)) addr = true ↔
      addr ∈ replaceOthers (replay js) blk.oldNode ∨ addr = blk.newNode ∧ env.joins checks ∨
        addr = blk.oldNode ∧ env.stays blk js checks := by
  let behind := js ++ written (replacePool blk js checks env)
  have pool : isValidAt behind addr = true ↔ _ := replacePool_valid other ok addr
  have trailer := trailer_shown addr blk js env resp
  rw [written_append, ← List.append_assoc]
  change isValidAt (behind ++ _) addr = true ↔ _
  by_cases forced : addr = blk.oldNode ∧ resp.force = true ∧ resp.dop.status ≠ 0 ∧
      env.cleanupSuccess.wrote = true
  · rw [if_pos forced] at trailer
    obtain ⟨rfl, force', _, wrote⟩ := forced
    have gone : latest (behind ++ written (replaceTrailer blk (replay js) resp env).evs)
        blk.oldNode = some .cleanupSuccess := by
      have fits : (statusText .cleanupSuccess none).length ≤ 31 := by decide
      rw [latest_after, trailer]
      simp [written, effect, fits]
    have away : blk.oldNode ∉ replaceOthers (replay js) blk.oldNode :=
      fun h => (mem_replaceOthers.mp h).2 rfl
    unfold isValidAt ReplaceEnv.stays
    rw [gone, ← force]
    simp [away, other, force', wrote, MetaStatus.isValid]
  · rw [if_neg forced] at trailer
    unfold isValidAt
    rw [latest_plain behind trailer]
    refine pool.trans ?_
    unfold ReplaceEnv.stays
    constructor
    · rintro (others | new | ⟨rfl, pending, lingers⟩)
      · exact .inl others
      · exact .inr (.inl new)
      · refine .inr (.inr ⟨rfl, pending, lingers, fun h => forced ⟨rfl, force.trans h.1, ?_, h.2⟩⟩)
        rw [status pending]
        exact lingers_ret _ _ lingers
    · rintro (others | new | ⟨rfl, pending, lingers, _⟩)
      · exact .inl others
      · exact .inr (.inl new)
      · exact .inr (.inr ⟨rfl, pending, lingers⟩)

theorem replace_length (resp : ReplaceResp) (force : resp.force = blk.force)
    (status : checks.dCheck = false → resp.dop.status = (replaceDelete blk js env).ret) :
    (validHosts (js ++ written (replacePool blk js checks env ++
        (replaceTrailer blk (replay js) resp env).evs))).length =
      (replaceOthers (replay js) blk.oldNode).length +
        (if env.joins checks then 1 else 0) + (if env.stays blk js checks then 1 else 0) := by
  obtain ⟨_, _, _, free⟩ := replaceChecks_ok blk ok
  let list := replaceOthers (replay js) blk.oldNode ++
    (if env.joins checks then [blk.newNode] else []) ++
      if env.stays blk js checks then [blk.oldNode] else []
  have newAway : env.joins checks → ∀ a ∈ replaceOthers (replay js) blk.oldNode,
      ¬ a = blk.newNode := by
    rintro joins a ha rfl
    exact Bool.false_ne_true ((free joins.1).symm.trans (mem_replaceOthers.mp ha).1)
  have oldAway : ∀ a ∈ replaceOthers (replay js) blk.oldNode, ¬ a = blk.oldNode :=
    fun a ha => (mem_replaceOthers.mp ha).2
  have others := replaceOthers_nodup js blk.oldNode
  have nodup : list.Nodup := by
    unfold list
    split
    · rename_i joins
      have away := newAway joins
      split
      · have both := fun a ha => And.intro (away a ha) (oldAway a ha)
        simpa [List.nodup_append, others, other.symm] using both
      · simpa [List.nodup_append, others] using away
    · split
      · simpa [List.nodup_append, others] using oldAway
      · simpa using others
  have members : ∀ a, isValidAt (js ++ written (replacePool blk js checks env ++
      (replaceTrailer blk (replay js) resp env).evs)) a = true ↔ a ∈ list := by
    intro a
    rw [replace_valid other ok resp force status]
    unfold list
    split <;> split <;> simp_all
  rw [validHosts_length nodup members]
  unfold list
  split <;> split <;> simp

end Replace

section Steps

theorem access_found {s : Session} (volume blockName : String) (js : Journal)
    (finds : s.accessErr = none) : s.access volume blockName (some js) =
      if s.readMeta then .ok js else .error (-1, none) := by
  unfold Session.access
  rw [finds]

/-- A delete that gets a reply is a cleanup or was refused. -/
theorem delete_served {blk : BlockDeleteCli} {env : DeleteEnv} {js : Journal}
    (served : (Request.delete blk env).Served (some js)) :
    env.passes blk js ∧ (blockDeleteCli blk env (some js)).evs =
        (glusterBlockCleanUp js blk.blockName blk.force blk.unlink env.cleanUp).act.evs ∨
      ¬ env.passes blk js ∧ (blockDeleteCli blk env (some js)).evs = [] := by
  have replies : (blockDeleteCli blk env (some js)).reply ≠ none := served.replies
  have finds : env.session.accessErr = none := served.finds (by simp)
  revert replies
  unfold blockDeleteCli DeleteEnv.passes
  cases env.session.connect with
  | some e => exact fun _ => .inr ⟨fun h => (nomatch h.1), rfl⟩
  | none =>
    have found := access_found blk.volume blk.blockName js finds
    dsimp only
    rw [found]
    cases env.session.readMeta with
    | false => exact fun _ => .inr ⟨fun h => (nomatch h.2.1), rfl⟩
    | true =>
      simp only [if_true]
      cases blk.force with
      | true => exact fun _ => .inl ⟨⟨trivial, trivial, .inl rfl⟩, rfl⟩
      | false =>
        rw [if_neg Bool.false_ne_true, getListFromInfo_replay]
        split
        · rename_i none
          intro replies
          exact absurd rfl replies
        · rename_i list found
          have same : list = validHosts js := by
            split at found
            · exact (Option.some.inj found).symm
            · cases found
          subst same
          intro _
          by_cases refused : (checkHosts (.delete blk) (validHosts js) env.caps).1 ≠ 0
          · rw [if_pos refused]
            refine .inr ⟨fun h => ?_, rfl⟩
            exact h.2.2.elim Bool.false_ne_true refused
          · rw [if_neg refused]
            exact .inl ⟨⟨trivial, trivial, .inr (not_not.mp refused)⟩, rfl⟩

/-- A replace that gets a reply runs its workers and its trailer or was refused. -/
theorem replace_served {blk : BlockReplaceCli} {env : ReplaceEnv} {js : Journal}
    (served : (Request.replace blk env).Served (some js)) :
    (∃ checks resp, env.passes blk js ∧ replaceChecks blk (replay js) = .ok checks ∧
        resp.force = blk.force ∧
        (checks.dCheck = false → resp.dop.status = (replaceDelete blk js env).ret) ∧
        (blockReplaceCli blk env (some js)).evs =
          replacePool blk js checks env ++ (replaceTrailer blk (replay js) resp env).evs) ∨
      (∀ checks, env.passes blk js → replaceChecks blk (replay js) ≠ .ok checks) ∧
        (blockReplaceCli blk env (some js)).evs = [] := by
  have replies : (blockReplaceCli blk env (some js)).reply ≠ none := served.replies
  have finds : env.session.accessErr = none := served.finds (by simp)
  revert replies
  unfold blockReplaceCli ReplaceEnv.passes
  cases env.session.connect with
  | some e => exact fun _ => .inr ⟨fun _ h => (nomatch h.1), rfl⟩
  | none =>
    have found := access_found blk.volume blk.blockName js finds
    dsimp only
    rw [found]
    cases env.session.readMeta with
    | false => exact fun _ => .inr ⟨fun _ h => (nomatch h.2.1), rfl⟩
    | true =>
      simp only [if_true]
      by_cases able : (replaceCaps blk js env.caps).1 = 0
      · rw [if_neg (not_not.mpr able)]
        rcases replaceAsync_cases blk env js with
          died | ⟨errCode, refused⟩ | ⟨checks, ok, run⟩
        · rw [died]
          exact fun replies => absurd rfl replies
        · rw [refused]
          refine fun _ => .inr ⟨fun checks _ ok => ?_, rfl⟩
          -- checks that are passed are not answered with a refusal
          unfold glusterBlockReplaceNodeRemoteAsync at refused
          rw [ok] at refused
          dsimp only at refused
          split at refused
          · cases refused
          · split at refused
            · cases refused
            · split at refused <;> cases refused
        · rcases run with ⟨skipped, idle, done⟩ | died | ran
          · rw [skipped]
            refine fun _ => .inl ⟨checks, allSkipped blk, ⟨trivial, trivial, able⟩, ok, rfl, ?_, ?_⟩
            · exact fun pending => absurd (pending.symm.trans done) Bool.false_ne_true
            · rw [idle]
              rfl
          · rw [died]
            exact fun replies => absurd rfl replies
          · rw [ran]
            refine fun _ => .inl ⟨checks, _, ⟨trivial, trivial, able⟩, ok, rfl, fun pending => ?_, rfl⟩
            simp [collectReplace, replaceJobs, pending, oneOp, replaceDelete]
      · rw [if_pos able]
        exact fun _ => .inr ⟨fun _ h => absurd h.2.2 able, rfl⟩

theorem bounded_kept {req : Request} {js : Journal} (served : req.Served (some js))
    (keep : Ev.unlinkMeta ∉ (req.outcome (some js)).evs) :
    HaBounded (metaAfter (some js) (req.outcome (some js)).evs) ↔
      (validHosts (js ++ written (req.outcome (some js)).evs)).length ≤ (replay js).mpath := by
  rw [metaAfter_some js keep, bounded_iff, mpath_append, no_pick]
  · rfl
  · intro l hl
    rcases outcome_lines (served.finds (by simp)) hl with host | record
    · cases l <;> first | rfl | cases host
    · cases req with
      | create blk env => cases record
      | delete blk env =>
        obtain ⟨state, rfl⟩ := record
        rfl
      | modify blk env =>
        obtain ⟨passwd, rfl⟩ := record
        rfl
      | modifySize blk env =>
        cases record
        rfl
      | replace blk env =>
        obtain ⟨addr, rfl⟩ := record
        rfl

/-- One request keeps the bound exactly when there is room for what it leaves valid. -/
theorem bounded_step {req : Request} {file : Metafile} (bounded : HaBounded file)
    (served : req.Served file) :
    HaBounded (metaAfter file (req.outcome file).evs) ↔ req.HasRoom file := by
  have idle : (req.outcome file).evs = [] → HaBounded (metaAfter file (req.outcome file).evs) := by
    intro none
    rw [none]
    exact bounded
  cases req with
  | create blk env =>
    exact ⟨fun _ => trivial, fun _ => create_bounded blk env bounded served.finds⟩
  | delete blk env =>
    cases file with
    | none =>
      rcases delete_evs blk env none with none | ⟨js, absurd, _⟩
      · exact ⟨fun _ js hjs => (nomatch hjs), fun _ => idle none⟩
      · cases absurd
    | some js =>
      rcases delete_served served with ⟨passes, evs⟩ | ⟨refused, none⟩
      · change HaBounded (metaAfter (some js) (blockDeleteCli blk env (some js)).evs) ↔ _
        have valid := cleanUp_valid js blk.blockName blk.force blk.unlink env.cleanUp
        have room : (Request.delete blk env).HasRoom (some js) ↔
            (¬ (blk.force = true ∧ env.cleanUp.filesOk blk.unlink) →
              (lingering js blk.force env.cleanUp).length ≤ (replay js).mpath) := by
          constructor
          · intro h
            exact h js rfl passes
          · intro h js' hjs _
            cases hjs
            exact h
        rw [room, evs]
        by_cases removed : (blk.force = true ∨ env.cleanUp.nodesCleared js) ∧
            env.cleanUp.filesOk blk.unlink
        · rw [(cleanUp_removes js blk.blockName blk.force blk.unlink env.cleanUp).mpr removed]
          refine ⟨fun _ stuck => ?_, fun _ => bounded_none⟩
          -- every host is cleared, and none lingers
          have cleared := removed.1.resolve_left (fun force => stuck ⟨force, removed.2⟩)
          have empty : lingering js blk.force env.cleanUp = [] := by
            apply List.eq_nil_iff_forall_not_mem.mpr
            intro a ha
            obtain ⟨contacted, lingers, _⟩ := mem_lingering.mp ha
            obtain ⟨start, ⟨call, done⟩ | ⟨call, done⟩⟩ := cleared a contacted
            · unfold JobOutcome.lingers at lingers
              rw [start, call, done] at lingers
              cases lingers
            · unfold JobOutcome.lingers at lingers
              rw [start, call, done] at lingers
              cases lingers
          rw [empty]
          exact Nat.zero_le _
        · have keep := cleanUp_keeps blk.blockName removed
          have left := bounded_kept served (show Ev.unlinkMeta ∉ ((Request.delete blk env).outcome (some js)).evs by
            change Ev.unlinkMeta ∉ (blockDeleteCli blk env (some js)).evs
            rw [evs]
            exact keep)
          have bound : HaBounded (metaAfter (some js) (glusterBlockCleanUp js blk.blockName
              blk.force blk.unlink env.cleanUp).act.evs) ↔
                (lingering js blk.force env.cleanUp).length ≤ (replay js).mpath := by
            rw [← validHosts_length (lingering_nodup js blk.force env.cleanUp) valid, ← evs]
            exact left
          rw [bound]
          exact ⟨fun h _ => h, fun h => h (fun forced => removed ⟨.inl forced.1, forced.2⟩)⟩
      · refine ⟨fun _ js' hjs passes => ?_, fun _ => idle none⟩
        cases hjs
        exact absurd passes refused
  | modify blk env =>
    refine ⟨fun _ => trivial, fun _ => ?_⟩
    rcases modify_evs blk env file with none | ⟨js, rfl, evs⟩
    · exact idle none
    · have keep : Ev.unlinkMeta ∉ (blockModifyCli blk env (some js)).evs := by
        rw [evs]
        exact modify_keep blk js env
      apply (bounded_kept served keep).mpr
      change (validHosts (js ++ written (blockModifyCli blk env (some js)).evs)).length ≤ _
      rw [evs, validHosts_same (fun _ => modify_same blk env)]
      exact bounded_iff.mp bounded
  | modifySize blk env =>
    refine ⟨fun _ => trivial, fun _ => ?_⟩
    rcases modifySize_evs blk env file with none | ⟨js, rfl, _, evs⟩
    · exact idle none
    · have keep : Ev.unlinkMeta ∉ (blockModifySizeCli blk env (some js)).evs := by
        rw [evs]
        exact modifySize_keep blk js env
      apply (bounded_kept served keep).mpr
      change (validHosts (js ++ written (blockModifySizeCli blk env (some js)).evs)).length ≤ _
      rw [evs, validHosts_same (fun _ => modifySize_same blk env)]
      exact bounded_iff.mp bounded
  | replace blk env =>
    cases file with
    | none =>
      rcases replace_evs blk env none with none | ⟨js, checks, absurd, _⟩
      · exact ⟨fun _ js checks hjs => (nomatch hjs), fun _ => idle none⟩
      · cases absurd
    | some js =>
      rcases replace_served served with ⟨checks, resp, passes, ok, force, status, evs⟩ | ⟨refused, none⟩
      · have other : blk.oldNode ≠ blk.newNode := served.accepted
        have keep : Ev.unlinkMeta ∉ (blockReplaceCli blk env (some js)).evs := by
          rw [evs]
          intro h
          exact (List.mem_append.mp h).elim runWorkers_keep (trailer_keep blk _ resp env)
        have count := replace_length other ok resp force status
        refine (bounded_kept served keep).trans ?_
        change (validHosts (js ++ written (blockReplaceCli blk env (some js)).evs)).length ≤ _ ↔ _
        rw [evs, count]
        constructor
        · intro room js' checks' hjs _ ok'
          cases hjs
          cases ok.symm.trans ok'
          exact room
        · intro h
          exact h js checks rfl passes ok
      · refine ⟨fun _ js' checks hjs passes ok => ?_, fun _ => idle none⟩
        cases hjs
        exact absurd ok (refused checks passes)

/-- Over a run from no block on, the bound holds after every request exactly when
every request has room. -/
theorem ha_bound (reqs : List Request) (served : ServedRun none reqs) :
    (∀ before, before <+: reqs → HaBounded (fileAfter none before)) ↔
      ∀ before req, before ++ [req] <+: reqs → req.HasRoom (fileAfter none before) := by
  constructor
  · intro bounded before req cut
    have after := bounded (before ++ [req]) cut
    rw [fileAfter_snoc] at after
    have here := bounded before ((List.prefix_append before [req]).trans cut)
    exact (bounded_step here (served before req cut)).mp after
  · intro room before
    induction before using List.reverseRecOn with
    | nil =>
      intro _
      exact bounded_none
    | append_singleton before req ih =>
      intro cut
      rw [fileAfter_snoc]
      have here := ih ((List.prefix_append before [req]).trans cut)
      exact (bounded_step here (served before req cut)).mpr (room before req cut)

end Steps

section Sample

/-- The block is created on one host, moved to a second, and moved from the first
again to a third. -/
def movedTwice : List Request :=
  [.create oneHost (createSampleEnv []),
   .replace { replaceSample with newNode := "10.0.0.2" } (replaceSampleEnv ""),
   .replace { replaceSample with newNode := "10.0.0.3" } (replaceSampleEnv "")]

theorem movedTwice_served : ServedRun none movedTwice := by
  have nodes : ∀ newNode file, newNode ≠ "10.0.0.1" →
      (blockReplaceCli { replaceSample with newNode := newNode } (replaceSampleEnv "")
        file).reply ≠ none →
      (Request.replace { replaceSample with newNode := newNode } (replaceSampleEnv "")).Served
        file := by
    intro newNode file other replies
    exact ⟨other.symm, fun _ => rfl, replies⟩
  refine served_cons ⟨Nat.one_pos, fun h => absurd rfl h, ?_⟩ ?_
  · change (blockCreateCli oneHost (createSampleEnv []) none).reply ≠ none
    decide
  · apply served_cons (nodes "10.0.0.2" _ (by decide) (by decide))
    apply served_cons (nodes "10.0.0.3" _ (by decide) (by decide))
    exact served_nil _

theorem ha_bound_sample :
    (∀ before, before <+: movedTwice → HaBounded (fileAfter none before)) ↔
      ∀ before req, before ++ [req] <+: movedTwice → req.HasRoom (fileAfter none before) :=
  ha_bound movedTwice movedTwice_served

/-- Two hosts are valid then and the recorded value is 1. -/
theorem moved_twice_overruns : ServedRun none movedTwice ∧
    ∃ js, fileAfter none movedTwice = some js ∧ (replay js).mpath = 1 ∧
      validHosts js = ["10.0.0.2", "10.0.0.3"] ∧ glusterBlockGetListFromInfo (replay js) = none ∧
      (replaceOthers (replay js) "10.0.0.1").length = 2 := by
  refine ⟨movedTwice_served, (fileAfter none movedTwice).getD [], ?_⟩
  decide

end Sample

end GlusterBlock
