import GlusterBlock.AuthTruth

/-! What a failed change of the authentication leaves behind. The request toggles
the mode and goes back to the hosts whose new status selects them, but the recorded
password is gone by then. -/
namespace GlusterBlock

open Trail

/-- What a login has to give: the password, or nothing without authentication. -/
def AuthNode.asks (n : AuthNode) : Option String := if n.auth then some n.passwd else none

/-- The request gets to its round of workers, some worker fails, and the rollback gets
through to every host that it selects. -/
structure RolledBack (blk : BlockModifyCli) (env : ModifyEnv) (js : Journal) : Prop where
  connected : env.session.connect = none
  found : env.session.access blk.volume blk.blockName (some js) = .ok js
  able : ∃ msg, checkConfigured (.modify blk) blk.blockName js env.caps = some (0, msg)
  recorded : (modifyRecord blk (replay js) env).ret = 0
  failed : modifyTriedRet blk js env ≠ 0
  cleared : (modifyClear blk env).ret = 0
  undone : ∀ a ∈ glusterBlockModifyArgsFill (!blk.authMode) (replay (modifyUndoLines blk js env)),
    (env.undoJobs a).start = .ok ∧ (env.undoJobs a).call = .sent 0

/-- The recorded password and what every exporting node asks for are the same again. -/
def Restored (w w' : World AuthNode) : Prop :=
  ∃ js js', w.file = some js ∧ w'.file = some js' ∧ (replay js').passwd = (replay js).passwd ∧
    ∀ a, isValidAt js a = true → (w'.nodes a).asks = (w.nodes a).asks

section Rounds

variable {blk : BlockModifyCli} {env : ModifyEnv} {js : Journal} {addr : Addr}

theorem rolled_evs (rolled : RolledBack blk env js) :
    (blockModifyCli blk env (some js)).evs = (modifyParts blk js env).all := by
  obtain ⟨msg, able⟩ := rolled.able
  have body : (blockModifyCli blk env (some js)).evs = (modifyBody blk js env).evs := by
    unfold blockModifyCli
    rw [rolled.connected, rolled.found]
    dsimp only
    rw [able]
    rfl
  rw [body, modifyBody_evs, if_neg (not_not.mpr rolled.recorded), if_neg rolled.failed,
    if_neg (not_not.mpr rolled.cleared)]
  rfl

/-- An update that returns 0 has written its lines. -/
theorem update_zero {res : UpdRes} {lines : Journal} (zero : (metaUpdate res lines).ret = 0) :
    (metaUpdate res lines).evs = [.write lines] := by
  cases res with
  | ok => rfl
  | _ => cases zero

/-- Whatever the request was, no password is recorded behind the rollback. -/
theorem rolled_passwd (rolled : RolledBack blk env js) :
    (replay (js ++ written (modifyParts blk js env).all)).passwd = "" := by
  have workers : ∀ {ms mobj jobs sched},
      (written (modifyEvs ms mobj jobs sched)).filterMap passwdOf? = [] := by
    intro ms mobj jobs sched
    apply no_pick
    intro l hl
    have host := runWorkers_lines hl
    cases l <;> first | rfl | cases host
  have tried : (written (modifyParts blk js env).tried).filterMap passwdOf? = [] := workers
  have undo : (written (modifyParts blk js env).undo).filterMap passwdOf? = [] := workers
  unfold ModifyParts.all
  rw [passwd_append]
  simp only [written_append, List.filterMap_append, tried, undo, List.nil_append, List.append_nil]
  have record := rolled.recorded
  have clear := rolled.cleared
  change ((written (modifyRecord blk (replay js) env).evs).filterMap passwdOf? ++
    (written (modifyClear blk env).evs).filterMap passwdOf?).getLast?.getD _ = _
  cases mode : blk.authMode with
  | true =>
    unfold modifyClear at clear ⊢
    rw [if_pos mode] at clear ⊢
    rw [update_zero clear]
    simp [written, passwdOf?]
  | false =>
    unfold modifyRecord modifyPasswd at record ⊢
    unfold modifyClear
    simp only [mode, Bool.false_and, Bool.false_eq_true, if_false] at record ⊢
    rw [update_zero record]
    rfl

/-- A worker whose call was sent and returned 0 has served the request. -/
theorem called_serves {mobj : BlockModify} {o : JobOutcome} (start : o.start = .ok)
    (call : o.call = .sent 0) {h h' : HostView AuthNode}
    (along : Along (authModel.hostStep addr) h
      (hostEvs addr ((glusterBlockModifyRemote addr mobj).run o).evs) h') :
    h'.node = ⟨mobj.authMode, mobj.passwd⟩ := by
  let j := glusterBlockModifyRemote addr mobj
  have lines : (j.run o).evs =
      [j.line j.start, .call addr j.msg 0] ++ ((j.update o.done j.done).next (.done 0)).evs := by
    unfold RemoteJob.run
    rw [start, call]
    rfl
  have own : hostEvs addr [j.line j.start, .call addr j.msg 0] =
      [j.line j.start, .call addr j.msg 0] := by
    apply List.filter_eq_self.mpr
    intro e he
    rcases List.mem_cons.mp he with rfl | he
    · exact (j.line_isAbout j.start addr).trans (beq_self_eq_true addr)
    · rw [List.mem_singleton.mp he]
      exact beq_self_eq_true addr
  have still : ∀ u v, Along (authModel.hostStep addr) u
      (hostEvs addr ((j.update o.done j.done).next (.done 0)).evs) v → v.node = u.node := by
    intro u v rest
    have shown : hostEvs addr ((j.update o.done j.done).next (.done 0)).evs = [j.line j.done] ∨
        hostEvs addr ((j.update o.done j.done).next (.done 0)).evs = [] := by
      have line := j.update_evs o.done j.done
      rcases RemoteJob.next_evs addr (j.update o.done j.done) (.done 0) with all | first
      · rw [all, Act.done_evs, hostEvs_nil, List.append_nil]
        exact line.imp id And.left
      · rw [first]
        exact line.imp id And.left
    rcases shown with line | none
    · rw [line] at rest
      obtain ⟨t, step, rest⟩ := along_cons.mp rest
      cases along_nil.mp rest
      exact (hostStep_line (j := j) step).2
    · rw [none] at rest
      cases along_nil.mp rest
      rfl
  change Along _ h (hostEvs addr (j.run o).evs) h' at along
  rw [lines, hostEvs_append, own] at along
  obtain ⟨u, first, rest⟩ := along_append.mp along
  obtain ⟨t, line, more⟩ := along_cons.mp first
  obtain ⟨u', served, more⟩ := along_cons.mp more
  cases along_nil.mp more
  rw [still _ _ rest]
  exact (hostStep_call served).2

/-- The first round on a host, and what the second one makes of it. -/
theorem rolled_rounds (addr : Addr) (rolled : RolledBack blk env js) {n n' : AuthNode}
    (along : Along (authModel.step addr) n (modifyParts blk js env).all n')
    (valid : isValidAt js addr = true) :
    ∃ h : HostView AuthNode,
      Along (authModel.hostStep addr) ⟨latest js addr, n⟩
        (hostEvs addr (modifyParts blk js env).tried) h ∧
      n' = if modifySelects (!blk.authMode) h.status then
          ⟨!blk.authMode, modifyPasswd blk (replay js) env.passwd⟩ else h.node := by
  let back : BlockModify := { modifyObj blk (replay js) env with authMode := !blk.authMode }
  have view : Along (authModel.hostStep addr) ⟨latest js addr, n⟩
      (hostEvs addr (modifyParts blk js env).tried ++ hostEvs addr (modifyParts blk js env).undo)
      ⟨latest (js ++ written (modifyParts blk js env).all) addr, n'⟩ := by
    have whole : hostEvs addr (modifyParts blk js env).all =
        hostEvs addr (modifyParts blk js env).tried ++
          hostEvs addr (modifyParts blk js env).undo := by
      unfold ModifyParts.all
      rw [hostEvs_append, hostEvs_append, hostEvs_append, record_plain, clear_plain,
        List.nil_append, List.nil_append]
    rw [← whole]
    apply along_hostEvs.mpr
    apply along_host.mpr
    exact ⟨latest_foldl js addr _, along⟩
  obtain ⟨h, tried, undo⟩ := along_append.mp view
  refine ⟨h, tried, ?_⟩
  have status : latest (modifyUndoLines blk js env) addr = h.status := by
    rw [modifyUndo_latest]
    exact (latest_foldl js addr _).trans (along_host.mp (along_hostEvs.mp tried)).1.symm
  have known : addr ∈ hosts (modifyUndoLines blk js env) := by
    unfold modifyUndoLines
    rw [List.append_assoc, List.append_assoc]
    exact mem_hosts_append.mpr (.inl (valid_hosted valid))
  have second : hostEvs addr (modifyParts blk js env).undo =
      if addr ∈ glusterBlockModifyArgsFill (!blk.authMode) (replay (modifyUndoLines blk js env)) then
        hostEvs addr ((glusterBlockModifyRemote addr back).run (env.undoJobs addr)).evs
      else [] :=
    modifyEvs_host (modifyUndoLines blk js env) back env.undoJobs env.undoSched addr
  rw [second] at undo
  by_cases selected : modifySelects (!blk.authMode) h.status = true
  · have chosen : addr ∈ glusterBlockModifyArgsFill (!blk.authMode)
        (replay (modifyUndoLines blk js env)) :=
      mem_modifyArgsFill.mpr ⟨known, status ▸ selected⟩
    obtain ⟨start, call⟩ := rolled.undone addr chosen
    rw [if_pos selected]
    rw [if_pos chosen] at undo
    exact called_serves start call undo
  · have away : addr ∉ glusterBlockModifyArgsFill (!blk.authMode)
        (replay (modifyUndoLines blk js env)) :=
      fun chosen => selected (status ▸ (mem_modifyArgsFill.mp chosen).2)
    rw [if_neg selected]
    rw [if_neg away] at undo
    exact congrArg HostView.node (along_nil.mp undo)

/-- A host that an enable reached shows a status that a disable goes to. -/
theorem enable_reaches (mobj : BlockModify) (enable : mobj.authMode = true) (exit : Int) :
    Keeps (authModel.hostStep addr) (fun h => h.node.auth = false)
      (fun h => h.node.auth = false ∨ modifySelects false h.status = true)
      ((glusterBlockModifyRemote addr mobj).full exit) := by
  let j := glusterBlockModifyRemote addr mobj
  let started : HostView AuthNode → Prop := fun h =>
    h.status = some .authEnforceing ∧ h.node.auth = false
  let called : HostView AuthNode → Prop := fun h =>
    h.status = some .authEnforceing ∧ (exit ≠ 0 → h.node.auth = false)
  have plain : j.size = none := rfl
  have waiting : ∀ h, called h →
      h.node.auth = false ∨ modifySelects false h.status = true := by
    rintro h ⟨status, _⟩
    rw [status]
    exact .inr rfl
  refine keeps_cons (fun _ off => .inl off) (fun h h' off step => ?_) (Q := started) ?_
  · obtain ⟨status, node⟩ := hostStep_plain (j := j) plain _ step
    refine ⟨status.trans ?_, node ▸ off⟩
    simp [glusterBlockModifyRemote, enable]
  · refine keeps_cons (fun _ s => .inl s.2) (fun h h' s step => ?_) (Q := called) ?_
    · obtain ⟨same, served⟩ := hostStep_call step
      refine ⟨same.trans s.1, fun failed => ?_⟩
      have put : h'.node = if exit = 0 then ⟨mobj.authMode, mobj.passwd⟩ else h.node := served
      rw [put, if_neg failed]
      exact s.2
    · by_cases zero : exit = 0
      · have done : (glusterBlockModifyRemote addr mobj).accepts exit = true := by
          subst exit
          rfl
        rw [if_pos done]
        refine keeps_cons waiting (fun h h' _ step => ?_) (keeps_nil fun _ hs => hs)
        right
        rw [(hostStep_plain (j := j) plain _ step).1]
        simp [glusterBlockModifyRemote, enable, modifySelects]
      · have failed : ¬ (glusterBlockModifyRemote addr mobj).accepts exit = true := by
          simpa [glusterBlockModifyRemote, isZero] using zero
        rw [if_neg failed]
        refine keeps_cons waiting (fun h h' c step => ?_) (keeps_nil fun _ hs => hs)
        left
        rw [(hostStep_plain (j := j) plain _ step).2]
        exact c.2 zero

/-- An enable goes to all hosts that a disable goes to but the enforced ones. -/
theorem other_mode {status : Option MetaStatus} (selects : modifySelects false status = true)
    (other : status ≠ some .authEnforced) : modifySelects true status = true := by
  cases status with
  | none => cases selects
  | some s => cases s <;> simp_all [modifySelects]

/-- Whatever a disable shows, an enable goes to it. -/
theorem disable_selected (mobj : BlockModify) (disable : mobj.authMode = false) (exit : Int) :
    Keeps (authModel.hostStep addr) (fun h => modifySelects true h.status = true)
      (fun h => modifySelects true h.status = true)
      ((glusterBlockModifyRemote addr mobj).full exit) := by
  apply keeps_of_step
  intro e he h h' selected step
  rcases mem_full he with ⟨status, word, rfl⟩ | rfl
  · rw [(hostStep_plain (j := glusterBlockModifyRemote addr mobj) rfl _ step).1]
    simp [RemoteJob.words, glusterBlockModifyRemote, disable] at word
    rcases word with rfl | rfl | rfl <;> rfl
  · rw [(hostStep_call step).1]
    exact selected

end Rounds

section Rollback

variable {blk : BlockModifyCli} {env : ModifyEnv}

/-- Some host of the failed round is asked again. -/
theorem failed_host {js : Journal} (failed : modifyTriedRet blk js env ≠ 0) :
    ∃ a, a ∈ glusterBlockModifyArgsFill blk.authMode (replay js) := by
  by_contra none
  have empty : glusterBlockModifyArgsFill blk.authMode (replay js) = [] :=
    List.eq_nil_iff_forall_not_mem.mpr (fun a ha => none ⟨a, ha⟩)
  refine failed ?_
  unfold modifyTriedRet glusterBlockModifyRemoteAsync
  dsimp only
  rw [show (modifyObj blk (replay js) env).authMode = blk.authMode from rfl, empty]
  rfl

/-- A rolled back change restores the block exactly when it was an enable on a block
without a recorded password. -/
theorem auth_rollback {nodes : Addr → AuthNode} {w w' : World AuthNode} {js : Journal}
    (run : Run authModel anyRequest (World.none nodes) w) (there : w.file = some js)
    (recorded : AuthTrue ((replay js).passwd != "") w) (rolled : RolledBack blk env js)
    {evs : List Ev} (step : Step authModel (.modify blk env) evs w w')
    (whole : evs = (blockModifyCli blk env w.file).evs) :
    Restored w w' ↔ blk.authMode = true ∧ (replay js).passwd = "" := by
  have all : evs = (modifyParts blk js env).all := by
    rw [whole, there]
    exact rolled_evs rolled
  have left : w'.file = some (js ++ written (modifyParts blk js env).all) := by
    have keep : Ev.unlinkMeta ∉ (modifyParts blk js env).all := by
      rw [← rolled_evs rolled]
      rcases modify_evs blk env (some js) with none | ⟨js', same, body⟩
      · rw [none]
        exact List.not_mem_nil
      · rw [body]
        exact modify_keep blk js' env
    rw [step.file, all, there]
    exact metaAfter_some js keep
  have rounds := fun a => rolled_rounds a rolled (all ▸ step_existing step there a)
  have shown := run_shown run js there
  have off : (replay js).passwd = "" → ∀ a, isValidAt js a = true → (w.nodes a).auth = false := by
    intro empty a valid
    have mode := (recorded js there a valid).1
    rwa [empty] at mode
  have tried : ∀ a, hostEvs a (modifyParts blk js env).tried =
      if a ∈ glusterBlockModifyArgsFill blk.authMode (replay js) then
        hostEvs a ((glusterBlockModifyRemote a (modifyObj blk (replay js) env)).run
          (env.jobs a)).evs
      else [] :=
    modifyEvs_host js (modifyObj blk (replay js) env) env.jobs env.sched
  constructor
  · rintro ⟨js₁, js', same, after, passwd, nodes'⟩
    cases there.symm.trans same
    cases left.symm.trans after
    have empty : (replay js).passwd = "" := passwd.symm.trans (rolled_passwd rolled)
    refine ⟨?_, empty⟩
    by_contra mode
    have disable : blk.authMode = false := Bool.eq_false_iff.mpr mode
    obtain ⟨a, chosen⟩ := failed_host rolled.failed
    obtain ⟨_, selects⟩ := mem_modifyArgsFill.mp chosen
    have valid : isValidAt js a = true := modifySelects_valid selects
    have notEnforced : latest js a ≠ some .authEnforced := by
      intro enforced
      exact Bool.false_ne_true ((off empty a valid).symm.trans ((shown a).1 enforced))
    have before : modifySelects true (latest js a) = true :=
      other_mode (disable ▸ selects) notEnforced
    obtain ⟨h, first, second⟩ := rounds a valid
    rw [tried a, if_pos chosen] at first
    obtain ⟨exit, cut⟩ := RemoteJob.run_cut (glusterBlockModifyRemote a
      (modifyObj blk (replay js) env)) (env.jobs a)
    have still : modifySelects true h.status = true :=
      disable_selected (modifyObj blk (replay js) env) disable exit _ cut _ h before first
    rw [disable] at second
    rw [Bool.not_false, if_pos still] at second
    have asks := nodes' a valid
    unfold AuthNode.asks at asks
    rw [second, off empty a valid] at asks
    cases asks
  · rintro ⟨enable, empty⟩
    refine ⟨js, _, there, left, (rolled_passwd rolled).trans empty.symm, fun a valid => ?_⟩
    obtain ⟨h, first, second⟩ := rounds a valid
    have quiet : h.node.auth = false ∨ modifySelects false h.status = true := by
      rw [tried a] at first
      split at first
      · obtain ⟨exit, cut⟩ := RemoteJob.run_cut (glusterBlockModifyRemote a
          (modifyObj blk (replay js) env)) (env.jobs a)
        exact enable_reaches (modifyObj blk (replay js) env) enable exit _ cut _ h
          (off empty a valid) first
      · rw [along_nil.mp first]
        exact .inl (off empty a valid)
    have auth : (w'.nodes a).auth = false := by
      rw [second, enable, Bool.not_true]
      split
      · rfl
      · rename_i unselected
        exact quiet.resolve_right unselected
    simp [AuthNode.asks, auth, off empty a valid]

end Rollback

section Sample

/-- The host serves the request, and its status line is lost. -/
def lostLineEnv : ModifyEnv :=
  { modifySampleEnv with jobs := fun _ => { JobOutcome.good with done := .notWritten } }

/-- The host refuses the request. -/
def refusedEnv : ModifyEnv :=
  { modifySampleEnv with jobs := fun _ => { JobOutcome.good with call := .sent 1 } }

def authOn : World AuthNode := authNext authOff (.modify (modifySample true) modifySampleEnv)

theorem authOn_run : Run authModel anyRequest (.none fun _ => ⟨false, ""⟩) authOn :=
  run_next (fun _ _ _ => rfl) authOff_run _ trivial (fun _ => rfl) (fun _ _ => trivial) trivial

theorem authOff_there : authOff.file = some (authOff.file.get (by decide)) :=
  (Option.some_get _).symm

theorem authOn_there : authOn.file = some (authOn.file.get (by decide)) :=
  (Option.some_get _).symm

/-- What holds of the hosts that the metafile counts as valid can be checked. -/
theorem auth_recorded {w : World AuthNode} {js : Journal} (there : w.file = some js)
    {authMode : Bool} (each : ∀ a ∈ validHosts js,
      (w.nodes a).auth = authMode ∧ (authMode = true → (w.nodes a).passwd = (replay js).passwd)) :
    AuthTrue authMode w := by
  intro js' same a valid
  cases there.symm.trans same
  exact each a (mem_validHosts.mpr valid)

/-- The host has authentication on and is asked to turn it off again. -/
theorem auth_rollback_sample :
    Restored authOff (authNext authOff (.modify (modifySample true) lostLineEnv)) ↔
      (modifySample true).authMode = true ∧ (replay (authOff.file.get (by decide))).passwd = "" :=
  auth_rollback authOff_run authOff_there (auth_recorded authOff_there (by decide))
    ⟨rfl, by decide, ⟨_, rfl⟩, by decide, by decide, by decide, by decide⟩
    (advance_step (fun _ _ _ => rfl) ⟨trivial, fun _ => rfl, List.prefix_refl _⟩
      (fun _ _ => trivial)) rfl

/-- A host refuses the disable. The rollback turns its authentication on with an empty
password, and the recorded password is gone. -/
theorem disable_not_restored : ∃ js,
    Run authModel anyRequest (.none fun _ => ⟨false, ""⟩) authOn ∧ authOn.file = some js ∧
      AuthTrue ((replay js).passwd != "") authOn ∧
      RolledBack (modifySample false) refusedEnv js ∧
      Step authModel (.modify (modifySample false) refusedEnv)
        (blockModifyCli (modifySample false) refusedEnv authOn.file).evs authOn
        (authNext authOn (.modify (modifySample false) refusedEnv)) ∧
      ¬ Restored authOn (authNext authOn (.modify (modifySample false) refusedEnv)) := by
  refine ⟨_, authOn_run, authOn_there, ?_, ?_, ?_, ?_⟩
  · exact auth_recorded authOn_there (by decide)
  · exact ⟨rfl, by decide, ⟨_, rfl⟩, by decide, by decide, by decide, by decide⟩
  · exact advance_step (fun _ _ _ => rfl) ⟨trivial, fun _ => rfl, List.prefix_refl _⟩
      (fun _ _ => trivial)
  · rintro ⟨js, js', there, left, passwd, _⟩
    cases authOn_there.symm.trans there
    cases (Option.some_get (by decide)).trans left
    exact absurd passwd (by decide)

end Sample

end GlusterBlock
