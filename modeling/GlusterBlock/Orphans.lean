import GlusterBlock.DeleteRetry
import GlusterBlock.HostInvariant

/-! Targets left behind by a cleanup. A host whose status says that nothing was
configured is passed over; the status is right about it unless the create stopped
between the call and the line for its result. -/
namespace GlusterBlock

open Trail

/-- The node has the target of the block configured. A create that returns 0 leaves
it so, a delete that returns 0 does not, and only a node without it says that it
does not find the block. Of all other calls nothing is assumed. -/
def targetModel : NodeModel Bool where
  fresh := fun n => n = false
  serve := fun msg exit n n' =>
    match msg with
    | .create _ => exit = 0 → n' = true
    | .delete _ => (exit = 0 → n' = false) ∧ (exit = gbBlockNotFound → n = false ∧ n' = false)
    | _ => True

def Request.unforced : Request → Prop
  | delete blk _ => blk.force = false
  | replace blk _ => blk.force = false
  | _ => True

def unforcedRuns (req : Request) (_ : List Ev) (_ _ : World Bool) : Prop := req.unforced

/-- A host that no line mentions or that was cleaned up is not configured. -/
def Cleared (h : HostView Bool) : Prop :=
  h.status = none ∨ h.status = some .cleanupSuccess → h.node = false

/-- The status says that the host may be configured. -/
def Touched (h : HostView Bool) : Prop := h.status ≠ none ∧ h.status ≠ some .cleanupSuccess

theorem touched_cleared (h : HostView Bool) (touched : Touched h) : Cleared h :=
  fun gone => (gone.elim touched.1 touched.2).elim

section Jobs

variable {addr : Addr}

/-- The worker never writes CLEANUPSUCCESS. -/
def RemoteJob.builds (j : RemoteJob) : Prop := MetaStatus.cleanupSuccess ∉ j.words

theorem create_builds (cobj : BlockCreate2) : (glusterBlockCreateRemote addr cobj).builds := by
  cases auth : cobj.authMode <;>
    simp [RemoteJob.builds, RemoteJob.words, glusterBlockCreateRemote, auth]

theorem modify_builds (mobj : BlockModify) : (glusterBlockModifyRemote addr mobj).builds := by
  cases auth : mobj.authMode <;>
    simp [RemoteJob.builds, RemoteJob.words, glusterBlockModifyRemote, auth]

theorem modifySize_builds (mobj : BlockModifySize) :
    (glusterBlockModifySizeRemote addr mobj).builds := by
  simp [RemoteJob.builds, RemoteJob.words, glusterBlockModifySizeRemote]

theorem portal_builds (robj : BlockReplace) :
    (glusterBlockReplacePortalRemote addr robj).builds := by
  simp [RemoteJob.builds, RemoteJob.words, glusterBlockReplacePortalRemote]

theorem full_touched {j : RemoteJob} (builds : j.builds) {exit : Int} {e : Ev}
    (he : e ∈ j.full exit) {h h' : HostView Bool} (touched : Touched h)
    (step : targetModel.hostStep j.addr e h h') : Touched h' := by
  rcases mem_full he with ⟨status, word, rfl⟩ | rfl
  · obtain ⟨new | ⟨_, same⟩, _⟩ := hostStep_line step
    · refine ⟨by rw [new]; simp, ?_⟩
      rw [new]
      rintro ⟨⟩
      exact builds word
    · exact ⟨same ▸ touched.1, same ▸ touched.2⟩
  · have same : h'.status = h.status := step.1
    exact ⟨same ▸ touched.1, same ▸ touched.2⟩

theorem start_touches {j : RemoteJob} (builds : j.builds) (plain : j.size = none)
    {es : List Ev} (each : ∀ e ∈ es, ∃ exit, e ∈ j.full exit) :
    Keeps (targetModel.hostStep j.addr) Cleared Cleared (j.line j.start :: es) := by
  refine keeps_cons (fun _ hs => hs) (fun h h' _ step => ?_) (Q := Touched) ?_
  · obtain ⟨new | ⟨sized, _⟩, _⟩ := hostStep_line step
    · refine ⟨by rw [new]; simp, ?_⟩
      rw [new]
      rintro eq
      refine builds ?_
      rw [← Option.some.inj eq]
      exact List.mem_cons_self
    · exact absurd plain sized
  · refine (keeps_of_step fun e he h h' touched step => ?_).mono (fun _ ht => ht) touched_cleared
    obtain ⟨exit, seen⟩ := each e he
    exact full_touched builds seen touched step

/-- A delete worker keeps the book right: CLEANUPSUCCESS follows a 0 only. -/
theorem delete_clears (dobj : BlockDelete) (exit : Int) :
    Keeps (targetModel.hostStep addr) Cleared Cleared
      ((glusterBlockDeleteRemote addr dobj).full exit) := by
  let j := glusterBlockDeleteRemote addr dobj
  let started : HostView Bool → Prop := fun h => h.status = some .cleanupInprogress
  let called : HostView Bool → Prop := fun h =>
    h.status = some .cleanupInprogress ∧ (exit = 0 → h.node = false)
  have plain : j.size = none := rfl
  have line : ∀ status h h', targetModel.hostStep addr (j.line status) h h' →
      h'.status = some status ∧ h'.node = h.node :=
    fun _ _ _ step => hostStep_plain (j := j) plain _ step
  have away : ∀ h : HostView Bool, started h → Cleared h := by
    intro h status gone
    rw [show h.status = some .cleanupInprogress from status] at gone
    rcases gone with none | done
    · cases none
    · cases done
  refine keeps_cons (fun _ hs => hs) (fun h h' _ step => ?_) (Q := started) ?_
  · exact (line _ h h' step).1
  · refine keeps_cons away (fun h h' status step => ?_) (Q := called) ?_
    · refine ⟨step.1.trans status, fun zero => ?_⟩
      exact (hostStep_call step).2.1 zero
    · by_cases zero : exit = 0
      · have done : (glusterBlockDeleteRemote addr dobj).accepts exit = true := by
          subst exit
          rfl
        rw [if_pos done]
        refine keeps_cons (fun h c => away h c.1) (fun h h' c step => ?_) (keeps_nil fun _ hs => hs)
        intro _
        rw [(line _ h h' step).2]
        exact c.2 zero
      · have failed : ¬ (glusterBlockDeleteRemote addr dobj).accepts exit = true := by
          simpa [glusterBlockDeleteRemote, isZero] using zero
        rw [if_neg failed]
        refine keeps_cons (fun h c => away h c.1) (fun h h' c step => ?_) (keeps_nil fun _ hs => hs)
        intro gone
        rw [(line _ h h' step).1] at gone
        rcases gone with none | success
        · cases none
        · cases success

/-- The first thing a create worker does for a host is to write its line. -/
theorem create_clears (list : List Addr) (cobj : BlockCreate2) (jobs : Nat → JobOutcome)
    (sched : List Nat) :
    Keeps (targetModel.hostStep addr) Cleared Cleared
      (hostEvs addr (createEvs list cobj jobs sched)) := by
  let j := glusterBlockCreateRemote addr cobj
  have first : Weaving.Before (fun e => e = j.line .configInprogress)
      (fun e => e ≠ j.line .configInprogress) (hostEvs addr (createEvs list cobj jobs sched)) :=
    createEvs_before (fun exit => ⟨fun h => h rfl, .inl rfl⟩)
  have each : ∀ e ∈ hostEvs addr (createEvs list cobj jobs sched), ∃ exit, e ∈ j.full exit :=
    fun e he => createEvs_seen he
  generalize hostEvs addr (createEvs list cobj jobs sched) = es at first each
  cases es with
  | nil => exact keeps_nil (fun _ hs => hs)
  | cons e es =>
    have start : e = j.line j.start := not_not.mp first.1
    subst start
    exact start_touches (j := j) (create_builds cobj) rfl
      (fun d hd => each d (List.mem_cons_of_mem _ hd))

end Jobs

section Requests

variable {addr : Addr}

/-- A worker that builds and only goes to touched hosts. -/
theorem full_clears {j : RemoteJob} (builds : j.builds) {P : HostView Bool → Prop}
    (selected : ∀ h, P h → Touched h) (exit : Int) :
    Keeps (targetModel.hostStep j.addr) (fun h => Cleared h ∧ P h) Cleared (j.full exit) := by
  refine (keeps_of_step (I := Touched) fun e he h h' touched step => ?_).mono
    (fun h known => selected h known.2) touched_cleared
  exact full_touched builds he touched step

theorem valid_touched (h : HostView Bool) (valid : h.status.any MetaStatus.isValid = true) :
    Touched h := by
  constructor
  · intro none
    rw [none] at valid
    cases valid
  · intro success
    rw [success] at valid
    cases valid

/-- Without force no worker takes a host off the books that is still configured. -/
theorem targets_upheld (node : addr ≠ "ENTRYDELETE") : Upheld targetModel addr Cleared where
  created list cobj jobs sched := by
    exact (create_clears list cobj jobs sched).mono (fun _ known => known.1) (fun _ kept => kept)
  deleted dobj exit := delete_clears dobj exit
  modified mobj exit := by
    apply full_clears (j := glusterBlockModifyRemote addr mobj) (modify_builds mobj)
    intro h selected
    exact valid_touched h (modifySelects_valid selected)
  resized mobj exit :=
    full_clears (j := glusterBlockModifySizeRemote addr mobj) (modifySize_builds mobj)
      valid_touched exit
  ported robj exit :=
    full_clears (j := glusterBlockReplacePortalRemote addr robj) (portal_builds robj)
      valid_touched exit
  files unlink env := by
    rw [deleteFiles_host unlink env node]
    exact keeps_nil (fun _ hs => hs)

end Requests

section Runs

/-- The metafile has every host right that it does not mention or shows as cleaned up. -/
def Books (w : World Bool) : Prop :=
  ∀ js, w.file = some js → ∀ a, a ≠ "ENTRYDELETE" → Cleared ⟨latest js a, w.nodes a⟩

theorem run_books {w w' : World Bool} (start : Books w)
    (run : Run targetModel unforcedRuns w w') : Books w' := by
  apply run_upheld (fun _ => Cleared) (fun a => a ≠ "ENTRYDELETE") _ _ _ run start
  · intro a n fresh _
    exact fresh
  · intro a node
    exact targets_upheld node
  · intro blk env evs v v' unforced force
    exact absurd (force.symm.trans unforced) (by simp)

end Runs

section CleanUp

variable {addr : Addr}

theorem cleared_run (addr : Addr) (dobj : BlockDelete) {o : JobOutcome} (cleared : o.cleared) :
    ∃ exit status, (exit = 0 ∨ exit = gbBlockNotFound) ∧
      hostEvs addr ((glusterBlockDeleteRemote addr dobj).run o).evs =
        [(glusterBlockDeleteRemote addr dobj).line .cleanupInprogress,
          .call addr (.delete dobj) exit, (glusterBlockDeleteRemote addr dobj).line status] := by
  have shown : ∀ exit status, hostEvs addr
      [(glusterBlockDeleteRemote addr dobj).line .cleanupInprogress,
        .call addr (.delete dobj) exit, (glusterBlockDeleteRemote addr dobj).line status] =
      [(glusterBlockDeleteRemote addr dobj).line .cleanupInprogress,
        .call addr (.delete dobj) exit, (glusterBlockDeleteRemote addr dobj).line status] := by
    intro exit status
    have own : ∀ s, ((glusterBlockDeleteRemote addr dobj).line s).isAbout addr = true :=
      fun s => ((glusterBlockDeleteRemote addr dobj).line_isAbout s addr).trans (beq_self_eq_true addr)
    refine List.filter_eq_self.mpr (fun e he => ?_)
    rcases List.mem_cons.mp he with rfl | he
    · exact own _
    · rcases List.mem_cons.mp he with rfl | he
      · exact beq_self_eq_true addr
      · exact List.mem_singleton.mp he ▸ own _
  obtain ⟨start, call, done, extra⟩ := o
  obtain ⟨started, ⟨zero, wrote⟩ | ⟨gone, closed⟩⟩ := cleared
  · dsimp only at started zero wrote
    subst started zero
    refine ⟨0, .cleanupSuccess, .inl rfl, ?_⟩
    rw [← shown]
    refine congrArg (hostEvs addr) ?_
    cases done with
    | ok => rfl
    | notClosed => rfl
    | notOpened => cases wrote
    | notWritten => cases wrote
  · dsimp only at started gone closed
    subst started gone closed
    exact ⟨gbBlockNotFound, .cleanupFail, .inr rfl, shown _ _⟩

/-- A host that was contacted by a cleanup that got through is not configured. -/
theorem contacted_gone {js : Journal} {blockname : String} {unlink : Bool} {env : CleanUpEnv}
    (node : addr ≠ "ENTRYDELETE") (cleared : env.nodesCleared js)
    (contacted : addr ∈ glusterBlockDeleteFillArgs (replay js)) {h h' : HostView Bool}
    (along : Along (targetModel.hostStep addr) h
      (glusterBlockCleanUp js blockname false unlink env).act.evs h') : h'.node = false := by
  have own := along_hostEvs.mpr along
  rw [cleanUp_host js blockname false unlink env node, if_pos contacted] at own
  obtain ⟨exit, status, answer, evs⟩ :=
    cleared_run addr (cleanUpObj js blockname) (cleared addr contacted)
  rw [evs] at own
  obtain ⟨h₁, _, rest⟩ := along_cons.mp own
  obtain ⟨h₂, call, rest⟩ := along_cons.mp rest
  obtain ⟨h₃, line, done⟩ := along_cons.mp rest
  have served := (hostStep_call call).2
  have gone : h₂.node = false :=
    answer.elim (fun zero => served.1 zero) (fun absent => (served.2 absent).2)
  have kept : h₃.node = h₂.node :=
    (hostStep_line (j := glusterBlockDeleteRemote addr (cleanUpObj js blockname)) line).2
  rw [along_nil.mp done, kept, gone]

/-- After a cleanup that removed the metafile no node has the target left exactly when
no host was configured whose create had not got to the line for its result. -/
theorem no_orphans {nodes : Addr → Bool} {w : World Bool}
    (run : Run targetModel unforcedRuns (World.none nodes) w) {js : Journal}
    (there : w.file = some js) {blockname : String} {unlink : Bool} {env : CleanUpEnv}
    (done : (glusterBlockCleanUp js blockname false unlink env).act.ret = 0)
    {nodes' : Addr → Bool}
    (after : ∀ a, Along (targetModel.step a) (w.nodes a)
      (glusterBlockCleanUp js blockname false unlink env).act.evs (nodes' a)) :
    (∀ a, addrAcceptable a = true → nodes' a = false) ↔
      ∀ a, addrAcceptable a = true → latest js a = some .configInprogress → w.nodes a = false := by
  have fresh : Books (World.none nodes) := fun js hjs => nomatch hjs
  have books := run_books fresh run js there
  obtain ⟨cleared, _⟩ := (cleanUp_ret js blockname false unlink env).mp done
  have nodesCleared := cleared.resolve_left Bool.false_ne_true
  have isNode : ∀ a, addrAcceptable a = true → a ≠ "ENTRYDELETE" := by
    rintro a ok rfl
    exact absurd ok (by decide)
  have view : ∀ a, Along (targetModel.hostStep a) ⟨latest js a, w.nodes a⟩
      (glusterBlockCleanUp js blockname false unlink env).act.evs
        ⟨_, nodes' a⟩ := fun a => along_host.mpr ⟨rfl, after a⟩
  have kept : ∀ a, a ≠ "ENTRYDELETE" → a ∉ glusterBlockDeleteFillArgs (replay js) →
      nodes' a = w.nodes a := by
    intro a node away
    have own := along_hostEvs.mpr (view a)
    rw [cleanUp_host js blockname false unlink env node, if_neg away] at own
    exact congrArg HostView.node (along_nil.mp own)
  constructor
  · intro clean a ok untouchedHost
    have away : a ∉ glusterBlockDeleteFillArgs (replay js) := by
      intro h
      have touched := (mem_deleteFillArgs.mp h).2
      rw [untouchedHost] at touched
      cases touched
    rw [← kept a (isNode a ok) away]
    exact clean a ok
  · intro started a ok
    by_cases contacted : a ∈ glusterBlockDeleteFillArgs (replay js)
    · exact contacted_gone (isNode a ok) nodesCleared contacted (view a)
    · rw [kept a (isNode a ok) contacted]
      by_cases mentioned : a ∈ hosts js
      · have untouchedHost : untouched (latest js a) = true := by
          by_contra touched
          exact contacted (mem_deleteFillArgs.mpr ⟨mentioned, Bool.eq_false_iff.mpr touched⟩)
        unfold untouched at untouchedHost
        rcases Bool.or_eq_true_iff.mp untouchedHost with inprogress | success
        · exact started a ok (beq_iff_eq.mp inprogress)
        · exact books a (isNode a ok) (.inr (beq_iff_eq.mp success))
      · exact books a (isNode a ok) (.inl (latest_unmentioned mentioned))

end CleanUp

section Sample

/-- The only host is configured and the line for it cannot be written. -/
def unrecordedEnv : CreateEnv :=
  { createSampleEnv [] with jobs := fun _ => { JobOutcome.good with done := .notOpened } }

def unrecordedLines : Journal :=
  configuredLines 1 [] ++ [.host "10.0.0.1" .configInprogress none]

/-- The effects of the create up to its rollback. -/
def unrecordedEvs : List Ev :=
  (createPrepare oneHost unrecordedEnv (fun _ => false)).evs ++
    createEvs (createHosts oneHost) (createObj oneHost unrecordedEnv (fun _ => false))
      unrecordedEnv.jobs unrecordedEnv.sched

def unrecordedWorld : World Bool where
  file := some unrecordedLines
  nodes := fun a => a == "10.0.0.1"

theorem unrecorded_rollback : (blockCreateCli oneHost unrecordedEnv none).evs = unrecordedEvs ++
    (glusterBlockCleanUp unrecordedLines "block" false true unrecordedEnv.cleanUp).act.evs := by
  decide

theorem unrecorded_run :
    Run targetModel unforcedRuns (World.none fun _ => false) unrecordedWorld := by
  refine .single ⟨.create oneHost unrecordedEnv, unrecordedEvs, ⟨⟨Nat.one_pos,
    fun h => absurd rfl h, ⟨_, unrecorded_rollback.symm⟩⟩, ?_, fun addr => ⟨false, rfl, ?_⟩⟩,
    trivial⟩
  · change some unrecordedLines = metaAfter none unrecordedEvs
    decide
  · refine .cons rfl (.cons rfl (.cons rfl (.cons ?_ (.nil _))))
    change if "10.0.0.1" = addr then ((0 : Int) = 0 → (addr == "10.0.0.1") = true)
      else (addr == "10.0.0.1") = false
    split
    · rename_i same
      exact fun _ => beq_iff_eq.mpr same.symm
    · rename_i other
      exact beq_eq_false_iff_ne.mpr (fun h => other h.symm)

/-- The rollback contacts nobody. -/
theorem unrecorded_after (addr : Addr) :
    Along (targetModel.step addr) (unrecordedWorld.nodes addr)
      (glusterBlockCleanUp unrecordedLines "block" false true unrecordedEnv.cleanUp).act.evs
        (unrecordedWorld.nodes addr) :=
  .cons rfl (.cons rfl (.cons rfl (.nil _)))

theorem no_orphans_sample :
    (∀ a, addrAcceptable a = true → unrecordedWorld.nodes a = false) ↔
      ∀ a, addrAcceptable a = true → latest unrecordedLines a = some .configInprogress →
        unrecordedWorld.nodes a = false :=
  no_orphans unrecorded_run rfl (by decide) unrecorded_after

/-- The rollback removes the metafile and returns 0, and the host keeps the target. -/
theorem unrecorded_orphan :
    Run targetModel unforcedRuns (World.none fun _ => false) unrecordedWorld ∧
      (glusterBlockCleanUp unrecordedLines "block" false true unrecordedEnv.cleanUp).act.ret = 0 ∧
      metaAfter (some unrecordedLines) (glusterBlockCleanUp unrecordedLines "block" false true
        unrecordedEnv.cleanUp).act.evs = none ∧
      (∀ a, Along (targetModel.step a) (unrecordedWorld.nodes a) (glusterBlockCleanUp
        unrecordedLines "block" false true unrecordedEnv.cleanUp).act.evs
          (unrecordedWorld.nodes a)) ∧
      ¬ ∀ a, addrAcceptable a = true → unrecordedWorld.nodes a = false := by
  refine ⟨unrecorded_run, by decide, by decide, unrecorded_after, fun clean => ?_⟩
  exact absurd (clean "10.0.0.1" (by decide)) (by decide)

end Sample

end GlusterBlock
