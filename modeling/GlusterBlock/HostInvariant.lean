import GlusterBlock.Traces

/-! Invariants of one host. What every worker keeps, from the states in which its
request selects the host, holds wherever a request is cut off and after every run. -/
namespace GlusterBlock

open Trail

variable {N : Type} {M : NodeModel N} {addr : Addr} {I : HostView N → Prop}

/-- The workers keep `I`. A create goes to hosts that are not valid, a modify to
those it selects, a resize and a portal replacement to valid ones. -/
structure Upheld (M : NodeModel N) (addr : Addr) (I : HostView N → Prop) : Prop where
  created : ∀ list cobj jobs sched,
    Keeps (M.hostStep addr) (fun h => I h ∧ h.status.any MetaStatus.isValid = false) I
      (hostEvs addr (createEvs list cobj jobs sched))
  deleted : ∀ dobj exit,
    Keeps (M.hostStep addr) I I ((glusterBlockDeleteRemote addr dobj).full exit)
  modified : ∀ (mobj : BlockModify) exit,
    Keeps (M.hostStep addr) (fun h => I h ∧ modifySelects mobj.authMode h.status = true) I
      ((glusterBlockModifyRemote addr mobj).full exit)
  resized : ∀ mobj exit,
    Keeps (M.hostStep addr) (fun h => I h ∧ h.status.any MetaStatus.isValid = true) I
      ((glusterBlockModifySizeRemote addr mobj).full exit)
  ported : ∀ robj exit,
    Keeps (M.hostStep addr) (fun h => I h ∧ h.status.any MetaStatus.isValid = true) I
      ((glusterBlockReplacePortalRemote addr robj).full exit)
  files : ∀ unlink env, Keeps (M.hostStep addr) I I (hostEvs addr (deleteFiles unlink env).evs)

/-- What is known of a host when a request starts. -/
def KnownAs (I : HostView N → Prop) (js : Journal) (addr : Addr) (h : HostView N) : Prop :=
  I h ∧ h.status = latest js addr

theorem keeps_none {es : List Ev} {js : Journal} (none : hostEvs addr es = []) :
    Keeps (M.hostStep addr) (KnownAs I js addr) I (hostEvs addr es) := by
  rw [none]
  exact keeps_nil (fun _ known => known.1)

/-- The status goes along with the metafile. -/
theorem status_along {js : Journal} {evs : List Ev} {h h' : HostView N}
    (known : h.status = latest js addr)
    (along : Along (M.hostStep addr) h (hostEvs addr evs) h') :
    h'.status = latest (js ++ written evs) addr := by
  rw [latest_foldl, ← known]
  exact (along_host.mp (along_hostEvs.mp along)).1

/-- A worker that keeps `I` from the states in which it is started. -/
theorem worker_keeps {j : RemoteJob} {o : JobOutcome} {P : HostView N → Prop} {js : Journal}
    (full : ∀ exit, Keeps (M.hostStep j.addr) (fun h => I h ∧ P h) I (j.full exit))
    (selected : ∀ h, h.status = latest js j.addr → P h) :
    Keeps (M.hostStep j.addr) (KnownAs I js j.addr) I (hostEvs j.addr (j.run o).evs) := by
  obtain ⟨exit, cut⟩ := j.run_cut o
  refine ((full exit).cut cut).mono (fun h known => ?_) (fun _ kept => kept)
  exact ⟨known.1, selected h known.2⟩

variable (up : Upheld M addr I)
include up

theorem cleanUp_upheld (js : Journal) (blockname : String) (forcedel unlink : Bool)
    (env : CleanUpEnv) :
    Keeps (M.hostStep addr) I I
      (hostEvs addr (glusterBlockCleanUp js blockname forcedel unlink env).act.evs) := by
  have nodes : Keeps (M.hostStep addr) I I (hostEvs addr (deleteEvs js (cleanUpObj js blockname)
      env)) := by
    rw [deleteEvs_host]
    split
    · obtain ⟨exit, cut⟩ := (glusterBlockDeleteRemote addr (cleanUpObj js blockname)).run_cut
        (env.jobs addr)
      exact (up.deleted _ exit).cut cut
    · exact keeps_nil (fun _ hs => hs)
  rw [cleanUp_evs, hostEvs_append]
  apply nodes.append (Q := I)
  · intro h h' kept along
    exact nodes _ (List.prefix_refl _) h h' kept along
  · split
    · exact up.files unlink env
    · exact keeps_nil (fun _ hs => hs)

theorem modifyEvs_upheld (js : Journal) (mobj : BlockModify) (jobs : Addr → JobOutcome)
    (sched : List Nat) :
    Keeps (M.hostStep addr) (KnownAs I js addr) I
      (hostEvs addr (modifyEvs js mobj jobs sched)) := by
  by_cases selected : addr ∈ glusterBlockModifyArgsFill mobj.authMode (replay js)
  · have shown := (modifyEvs_host js mobj jobs sched addr).trans (if_pos selected)
    rw [shown]
    apply worker_keeps (j := glusterBlockModifyRemote addr mobj) (up.modified mobj)
    intro h known
    exact known ▸ (mem_modifyArgsFill.mp selected).2
  · exact keeps_none ((modifyEvs_host js mobj jobs sched addr).trans (if_neg selected))

theorem modify_upheld (blk : BlockModifyCli) (js : Journal) (env : ModifyEnv) :
    Keeps (M.hostStep addr) (KnownAs I js addr) I (hostEvs addr (modifyBody blk js env).evs) := by
  refine Keeps.cut ?_ (modify_host addr blk js env)
  have tried := modifyEvs_upheld up js (modifyObj blk (replay js) env) env.jobs env.sched
  have undo := modifyEvs_upheld up (modifyUndoLines blk js env)
    { modifyObj blk (replay js) env with authMode := !blk.authMode } env.undoJobs env.undoSched
  refine tried.append (fun h h' known along => ?_) undo
  constructor
  · exact tried _ (List.prefix_refl _) h h' known along
  · rw [modifyUndo_latest]
    exact status_along known.2 along

theorem modifySize_upheld (blk : BlockModifySizeCli) (js : Journal) (env : ModifySizeEnv) :
    Keeps (M.hostStep addr) (KnownAs I js addr) I
      (hostEvs addr (modifySizeBody blk js env).evs) := by
  rcases modifySize_host addr blk js env with none | ⟨_, workers⟩
  · exact keeps_none none
  · rw [workers, modifySizeEvs_host]
    split
    · rename_i contacted
      apply worker_keeps (j := glusterBlockModifySizeRemote addr _) (up.resized _)
      intro h known
      exact known ▸ (Bool.and_eq_true_iff.mp (List.mem_filter.mp contacted).2).2
    · exact keeps_nil (fun _ known => known.1)

theorem replace_upheld {blk : BlockReplaceCli} {js : Journal} {checks : ReplaceChecks}
    (env : ReplaceEnv) (other : blk.oldNode ≠ blk.newNode)
    (ok : replaceChecks blk (replay js) = .ok checks) :
    Keeps (M.hostStep addr) (KnownAs I js addr) I
      (hostEvs addr (replacePool blk js checks env)) := by
  by_cases created : checks.cCheck = false ∧ addr = blk.newNode
  · obtain ⟨todo, rfl⟩ := created
    -- the only worker of a pool of its own
    have pool := up.created [blk.newNode] (replaceCobj blk (replay js) env.volServer)
      (fun _ => env.create) []
    rw [createEvs_host (List.nodup_singleton _) (i := 0) rfl] at pool
    rw [replacePool_new other ok todo]
    refine pool.mono (fun h known => ?_) (fun _ kept => kept)
    exact ⟨known.1, known.2 ▸ (replaceChecks_ok blk ok).2.2.2 todo⟩
  · by_cases deleted : checks.dCheck = false ∧ addr = blk.oldNode
    · obtain ⟨todo, rfl⟩ := deleted
      rw [replacePool_old other ok todo]
      obtain ⟨exit, cut⟩ := (glusterBlockDeleteRemote blk.oldNode
        { blockName := blk.blockName, gbid := (replay js).gbid }).run_cut env.delete
      exact ((up.deleted _ exit).cut cut).mono (fun _ known => known.1) (fun _ kept => kept)
    · by_cases slot : checks.rCheck = true ∧
          addr ∈ (replaceOthers (replay js) blk.oldNode).take ((replay js).mpath - 1)
      · rw [replacePool_portal other ok slot.1 slot.2]
        apply worker_keeps (j := glusterBlockReplacePortalRemote addr _) (up.ported _)
        intro h known
        exact known ▸ (mem_replaceOthers.mp (List.mem_of_mem_take slot.2)).1
      · exact keeps_none (replacePool_rest (fun todo h => created ⟨todo, h⟩)
          (fun todo h => deleted ⟨todo, h⟩) (fun todo h => slot ⟨todo, h⟩))

/-- An upheld invariant holds wherever a request is cut off. The line with which a
forced replace ends is no worker's. -/
theorem outcome_upheld (req : Request) (file : Metafile) (accepted : req.accepted)
    (finds : file ≠ none → req.session.accessErr = none)
    (forced : ∀ blk env, req = .replace blk env → blk.force = true →
      Keeps (M.hostStep addr) I I [.write [.host addr .cleanupSuccess none]]) :
    Keeps (M.hostStep addr) (KnownAs I (file.getD []) addr) I
      (hostEvs addr (req.outcome file).evs) := by
  have nothing : ∀ {es : List Ev}, es = [] → Keeps (M.hostStep addr)
      (KnownAs I (file.getD []) addr) I (hostEvs addr es) := by
    rintro es rfl
    exact keeps_none rfl
  cases req with
  | create blk env =>
    rcases create_evs blk env finds with none | ⟨rfl, resultCaps, body⟩
    · exact nothing none
    · change Keeps _ _ _ (hostEvs addr (blockCreateCli blk env none).evs)
      rw [body]
      rcases createBody_evs blk env resultCaps with prep | ⟨_, evs⟩
      · rw [prep]
        exact keeps_none (prepare_host blk env resultCaps addr)
      · rw [evs, hostEvs_append, hostEvs_append, prepare_host, List.nil_append]
        have created := (up.created (createHosts blk) (createObj blk env resultCaps) env.jobs
          env.sched).mono (R := KnownAs I [] addr) (J := I)
            (fun h known => ⟨known.1, known.2 ▸ rfl⟩) (fun _ kept => kept)
        refine created.append (fun h h' known along => ?_) (Q := I) ?_
        · exact created _ (List.prefix_refl _) h h' known along
        · unfold rollbackEvs
          split
          · exact keeps_nil (fun _ hs => hs)
          · exact cleanUp_upheld up _ _ _ _ _
  | delete blk env =>
    rcases delete_evs blk env file with none | ⟨js, rfl, evs⟩
    · exact nothing none
    · change Keeps _ _ _ (hostEvs addr (blockDeleteCli blk env (some js)).evs)
      rw [evs]
      exact (cleanUp_upheld up _ _ _ _ _).mono (fun _ known => known.1) (fun _ kept => kept)
  | modify blk env =>
    rcases modify_evs blk env file with none | ⟨js, rfl, evs⟩
    · exact nothing none
    · change Keeps _ _ _ (hostEvs addr (blockModifyCli blk env (some js)).evs)
      rw [evs]
      exact modify_upheld up blk js env
  | modifySize blk env =>
    rcases modifySize_evs blk env file with none | ⟨js, rfl, _, evs⟩
    · exact nothing none
    · change Keeps _ _ _ (hostEvs addr (blockModifySizeCli blk env (some js)).evs)
      rw [evs]
      exact modifySize_upheld up blk js env
  | replace blk env =>
    rcases replace_evs blk env file with none | ⟨js, checks, rfl, ok, run⟩
    · exact nothing none
    · change Keeps _ _ _ (hostEvs addr (blockReplaceCli blk env (some js)).evs)
      have pool := replace_upheld up env accepted ok
      rcases run with ⟨_, evs⟩ | ⟨resp, force, _, evs⟩
      · rw [evs]
        exact pool
      · rw [evs, hostEvs_append]
        rcases trailer_host addr blk js env resp with
          none | ⟨rfl, forced', _, line⟩
        · rw [none, List.append_nil]
          exact pool
        · rw [line]
          refine pool.append (fun h h' known along => ?_) (forced blk env rfl (force ▸ forced'))
          exact pool _ (List.prefix_refl _) h h' known along

omit up

/-- An upheld invariant of the nodes holds after every run. -/
theorem run_upheld (I : Addr → HostView N → Prop) (isNode : Addr → Prop)
    {cond : Request → List Ev → World N → World N → Prop}
    (fresh : ∀ a n, M.fresh n → I a ⟨none, n⟩) (up : ∀ a, isNode a → Upheld M a (I a))
    (forced : ∀ blk env evs w w', cond (.replace blk env) evs w w' → blk.force = true →
      ∀ a, Keeps (M.hostStep a) (I a) (I a) [.write [.host a .cleanupSuccess none]])
    {w w' : World N} (run : Run M cond w w')
    (start : ∀ js, w.file = some js → ∀ a, isNode a → I a ⟨latest js a, w.nodes a⟩) :
    ∀ js, w'.file = some js → ∀ a, isNode a → I a ⟨latest js a, w'.nodes a⟩ := by
  refine run_keeps (fun w => ∀ js, w.file = some js → ∀ a, isNode a →
    I a ⟨latest js a, w.nodes a⟩) ?_ start run
  intro req evs v v' inv step met js hjs a node
  obtain ⟨n, starts, along⟩ := step_host step hjs a
  have keeps := outcome_upheld (up a node) req v.file step.takes.accepted step.takes.finds
    (fun blk env same force => forced blk env evs v v' (same ▸ met) force a)
  have cut : hostEvs a evs <+: hostEvs a (req.outcome v.file).evs :=
    hostEvs_cut _ step.takes.cut
  refine keeps _ cut _ _ ⟨?_, rfl⟩ (along_hostEvs.mpr along)
  unfold NodeModel.starts at starts
  cases file : v.file with
  | none =>
    rw [file] at starts
    exact fresh a n starts
  | some js' =>
    rw [file] at starts
    rw [starts]
    exact inv js' file a node

end GlusterBlock
