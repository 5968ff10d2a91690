import GlusterBlock.HostInvariant
import GlusterBlock.Recorded

/-! What the success of a modify says about the authentication of the nodes. The
request goes by the last status of a host, and a status that another operation left
there may stand for a node in either mode. -/
namespace GlusterBlock

open Trail

structure AuthNode where
  auth : Bool
  passwd : String
  deriving DecidableEq, Repr

/-- A create and a modify that return 0 set the mode and the password that they
carry. Nothing else changes them. -/
def AuthNode.serve (n : AuthNode) (msg : Msg) (exit : Int) : AuthNode :=
  match msg with
  | .create obj => if exit = 0 then ⟨obj.authMode, obj.passwd⟩ else n
  | .modify obj => if exit = 0 then ⟨obj.authMode, obj.passwd⟩ else n
  | _ => n

def authModel : NodeModel AuthNode where
  fresh := fun _ => True
  serve := fun msg exit n n' => n' = n.serve msg exit

/-- The two statuses that a modify takes for done tell the mode of the node. -/
def AuthShown (h : HostView AuthNode) : Prop :=
  (h.status = some .authEnforced → h.node.auth = true) ∧
    (h.status = some .authClearEnforced → h.node.auth = false)

/-- The status tells nothing about the mode. -/
def AuthOpen (h : HostView AuthNode) : Prop :=
  h.status ≠ some .authEnforced ∧ h.status ≠ some .authClearEnforced

theorem open_shown (h : HostView AuthNode) (opened : AuthOpen h) : AuthShown h :=
  ⟨fun same => absurd same opened.1, fun same => absurd same opened.2⟩

section Workers

variable {addr : Addr}

/-- The worker has nothing to do with the authentication. -/
structure RemoteJob.aside (j : RemoteJob) : Prop where
  still : ∀ exit n n', authModel.serve j.msg exit n n' → n' = n
  enforced : .authEnforced ∉ j.words
  cleared : .authClearEnforced ∉ j.words

theorem aside_keeps {j : RemoteJob} (aside : j.aside) (exit : Int) :
    Keeps (authModel.hostStep j.addr) AuthShown AuthShown (j.full exit) := by
  apply keeps_of_step
  intro e he h h' shown step
  rcases mem_full he with ⟨status, word, rfl⟩ | rfl
  · obtain ⟨new | ⟨_, same⟩, node⟩ := hostStep_line step
    · apply open_shown
      unfold AuthOpen
      rw [new]
      constructor
      · rintro ⟨⟩
        exact aside.enforced word
      · rintro ⟨⟩
        exact aside.cleared word
    · unfold AuthShown
      rw [same, node]
      exact shown
  · obtain ⟨status, served⟩ := hostStep_call step
    unfold AuthShown
    rw [status, aside.still exit _ _ served]
    exact shown

theorem delete_aside (dobj : BlockDelete) : (glusterBlockDeleteRemote addr dobj).aside where
  still _ _ _ served := served
  enforced := by simp [RemoteJob.words, glusterBlockDeleteRemote]
  cleared := by simp [RemoteJob.words, glusterBlockDeleteRemote]

theorem modifySize_aside (mobj : BlockModifySize) :
    (glusterBlockModifySizeRemote addr mobj).aside where
  still _ _ _ served := served
  enforced := by simp [RemoteJob.words, glusterBlockModifySizeRemote]
  cleared := by simp [RemoteJob.words, glusterBlockModifySizeRemote]

theorem portal_aside (robj : BlockReplace) :
    (glusterBlockReplacePortalRemote addr robj).aside where
  still _ _ _ served := served
  enforced := by simp [RemoteJob.words, glusterBlockReplacePortalRemote]
  cleared := by simp [RemoteJob.words, glusterBlockReplacePortalRemote]

/-- A modify worker shows the new mode only behind a call that returned 0. -/
theorem modify_shown (mobj : BlockModify) (exit : Int) :
    Keeps (authModel.hostStep addr) AuthShown AuthShown
      ((glusterBlockModifyRemote addr mobj).full exit) := by
  let j := glusterBlockModifyRemote addr mobj
  let started : HostView AuthNode → Prop := fun h => h.status = some j.start
  let called : HostView AuthNode → Prop := fun h =>
    h.status = some j.start ∧ (exit = 0 → h.node.auth = mobj.authMode)
  have plain : j.size = none := rfl
  have away : ∀ h, started h → AuthShown h := by
    intro h status
    apply open_shown
    unfold AuthOpen
    rw [show h.status = some j.start from status]
    cases mode : mobj.authMode <;> simp [j, glusterBlockModifyRemote, mode]
  refine keeps_cons (fun _ hs => hs) (fun h h' _ step => ?_) (Q := started) ?_
  · exact (hostStep_plain (j := j) plain _ step).1
  · refine keeps_cons away (fun h h' status step => ?_) (Q := called) ?_
    · obtain ⟨same, served⟩ := hostStep_call step
      refine ⟨same.trans status, fun zero => ?_⟩
      have set : h'.node = if exit = 0 then ⟨mobj.authMode, mobj.passwd⟩ else h.node := served
      rw [set, if_pos zero]
    · have waiting : ∀ h, called h → AuthShown h := fun h c => away h c.1
      by_cases zero : exit = 0
      · have done : (glusterBlockModifyRemote addr mobj).accepts exit = true := by
          subst exit
          rfl
        rw [if_pos done]
        refine keeps_cons waiting (fun h h' c step => ?_) (keeps_nil fun _ hs => hs)
        obtain ⟨new, node⟩ := hostStep_plain (j := j) plain _ step
        have auth := c.2 zero
        unfold AuthShown
        rw [new, node, auth]
        cases mode : mobj.authMode <;> simp [glusterBlockModifyRemote, mode]
      · have failed : ¬ (glusterBlockModifyRemote addr mobj).accepts exit = true := by
          simpa [glusterBlockModifyRemote, isZero] using zero
        rw [if_neg failed]
        refine keeps_cons waiting (fun h h' c step => ?_) (keeps_nil fun _ hs => hs)
        obtain ⟨new, _⟩ := hostStep_plain (j := j) plain _ step
        apply open_shown
        unfold AuthOpen
        rw [new]
        cases mode : mobj.authMode <;> simp [glusterBlockModifyRemote, mode]

/-- Create workers on one host carry the same mode, and a line that shows it comes
behind a call that returned 0. -/
theorem create_shown (list : List Addr) (cobj : BlockCreate2) (jobs : Nat → JobOutcome)
    (sched : List Nat) :
    Keeps (authModel.hostStep addr)
      (fun h => AuthShown h ∧ h.status.any MetaStatus.isValid = false) AuthShown
      (hostEvs addr (createEvs list cobj jobs sched)) := by
  let j := glusterBlockCreateRemote addr cobj
  let set : Ev → Prop := fun e => e = .call addr j.msg 0
  let shows : Ev → Prop := fun e => ∃ s ∈ j.done :: j.extra.toList, e = j.line s
  let told : HostView AuthNode → Prop := fun h =>
    (h.status = some .authEnforced → cobj.authMode = true) ∧
      h.status ≠ some .authClearEnforced ∧ h.node.auth = cobj.authMode
  have plain : j.size = none := rfl
  have words : ∀ s ∈ j.words, s ≠ .authClearEnforced ∧
      (s = .authEnforced → cobj.authMode = true) := by
    intro s hs
    cases mode : cobj.authMode <;>
      simp [j, RemoteJob.words, glusterBlockCreateRemote, mode] at hs <;>
      rcases hs with rfl | rfl | rfl | rfl <;> simp
  have each : ∀ e ∈ hostEvs addr (createEvs list cobj jobs sched), ∃ exit, e ∈ j.full exit :=
    fun e he => createEvs_seen he
  intro p cut h h' start along
  obtain ⟨rest, whole⟩ := cut
  have before : Weaving.Before set shows p :=
    Weaving.before_cut (whole ▸ createEvs_before (full_order rfl (create_apart addr cobj)))
  have seen : ∀ e ∈ p, ∃ exit, e ∈ j.full exit :=
    fun e he => each e (whole ▸ List.mem_append_left rest he)
  have called : ∀ {exit : Int} {u v : HostView AuthNode},
      authModel.hostStep addr (.call j.addr j.msg exit) u v →
        v.status = u.status ∧ (v.node = u.node ∨ v.node.auth = cobj.authMode) ∧
          (exit = 0 → v.node.auth = cobj.authMode) := by
    intro exit u v step
    obtain ⟨same, served⟩ := hostStep_call step
    have put : v.node = if exit = 0 then ⟨cobj.authMode, cobj.passwd⟩ else u.node := served
    refine ⟨same, ?_, fun zero => by rw [put, if_pos zero]⟩
    split at put
    · exact .inr (by rw [put])
    · exact .inl put
  have unused : AuthOpen h := by
    constructor
    · intro same
      have valid := start.2
      rw [same] at valid
      cases valid
    · intro same
      have valid := start.2
      rw [same] at valid
      cases valid
  have ends := along_before (J := AuthOpen) (K := told) before ?_ ?_ ?_ unused along
  · rcases ends with opened | ⟨enforced, notCleared, auth⟩
    · exact open_shown h' opened
    · exact ⟨fun same => auth.trans (enforced same), fun same => absurd same notCleared⟩
  · -- until a call returns 0 no line shows the mode
    intro e he u v notShown opened step
    obtain ⟨exit, full⟩ := seen e he
    rcases mem_full full with ⟨status, word, rfl⟩ | rfl
    · obtain ⟨new, _⟩ := hostStep_plain (j := j) plain _ step
      unfold AuthOpen
      rw [new]
      constructor
      · rintro ⟨⟩
        refine notShown ⟨_, ?_, rfl⟩
        simpa [j, RemoteJob.words, glusterBlockCreateRemote] using word
      · rintro ⟨⟩
        exact (words _ word).1 rfl
    · obtain ⟨same, _, _⟩ := called step
      unfold AuthOpen
      rw [same]
      exact opened
  · rintro e he u v rfl opened step
    obtain ⟨same, _, zero⟩ := called step
    refine ⟨fun enforced => absurd (same ▸ enforced) opened.1, ?_, zero rfl⟩
    rw [same]
    exact opened.2
  · intro e he u v known step
    obtain ⟨exit, full⟩ := seen e he
    rcases mem_full full with ⟨status, word, rfl⟩ | rfl
    · obtain ⟨new, node⟩ := hostStep_plain (j := j) plain _ step
      obtain ⟨notCleared, enforced⟩ := words status word
      refine ⟨?_, ?_, ?_⟩
      · rw [new]
        rintro ⟨⟩
        exact enforced rfl
      · rw [new]
        rintro ⟨⟩
        exact notCleared rfl
      · rw [node]
        exact known.2.2
    · obtain ⟨same, kept, _⟩ := called step
      refine ⟨?_, ?_, ?_⟩
      · rw [same]
        exact known.1
      · rw [same]
        exact known.2.1
      · rcases kept with kept | new
        · rw [kept]
          exact known.2.2
        · exact new

theorem files_shown (unlink : Bool) (env : CleanUpEnv) :
    Keeps (authModel.hostStep addr) AuthShown AuthShown
      (hostEvs addr (deleteFiles unlink env).evs) := by
  apply keeps_of_step
  intro e he h h' shown step
  have here : e ∈ (deleteFiles unlink env).evs := List.mem_of_mem_filter he
  obtain ⟨status, node⟩ := step
  cases e with
  | write lines =>
    have marker : ∀ s ∈ lines.filterMap (effect addr), s = none := by
      intro s hs
      obtain ⟨l, hl, put⟩ := List.mem_filterMap.mp hs
      obtain ⟨state, rfl⟩ := deleteFiles_lines (mem_written.mpr ⟨lines, here, hl⟩)
      have reset : (if addr = "ENTRYDELETE" then some none else none) = some s := put
      split at reset
      · exact (Option.some.inj reset).symm
      · cases reset
    have node' : h'.node = h.node := node
    have status' : h'.status = (lines.filterMap (effect addr)).getLast?.getD h.status := status
    cases last : (lines.filterMap (effect addr)).getLast? with
    | none =>
      rw [last] at status'
      unfold AuthShown
      rw [status', node']
      exact shown
    | some s =>
      rw [last, marker s (List.mem_of_getLast? last)] at status'
      unfold AuthShown
      rw [status']
      exact ⟨fun absurd => (nomatch absurd), fun absurd => (nomatch absurd)⟩
  | call a msg exit => exact absurd here deleteFiles_calls
  | touch =>
    have node' : h'.node = h.node := node
    unfold AuthShown
    rw [status, node']
    exact shown
  | unlinkMeta =>
    have node' : h'.node = h.node := node
    unfold AuthShown
    rw [status, node']
    exact shown

theorem auth_upheld (addr : Addr) : Upheld authModel addr AuthShown where
  created := create_shown
  deleted dobj exit := aside_keeps (j := glusterBlockDeleteRemote addr dobj) (delete_aside dobj) exit
  modified mobj exit :=
    (modify_shown mobj exit).mono (fun _ known => known.1) (fun _ shown => shown)
  resized mobj exit :=
    (aside_keeps (j := glusterBlockModifySizeRemote addr mobj) (modifySize_aside mobj) exit).mono
      (fun _ known => known.1) (fun _ shown => shown)
  ported robj exit :=
    (aside_keeps (j := glusterBlockReplacePortalRemote addr robj) (portal_aside robj) exit).mono
      (fun _ known => known.1) (fun _ shown => shown)
  files := files_shown

end Workers

section Runs

/-- Any requests in any order, each up to a crash. -/
def anyRequest {N : Type} (_ : Request) (_ : List Ev) (_ _ : World N) : Prop := True

theorem run_shown {nodes : Addr → AuthNode} {w : World AuthNode}
    (run : Run authModel anyRequest (World.none nodes) w) :
    ∀ js, w.file = some js → ∀ a, AuthShown ⟨latest js a, w.nodes a⟩ := by
  intro js there a
  apply run_upheld (fun _ => AuthShown) (fun _ => True) _ _ _ run _ js there a trivial
  · intro a n _
    exact ⟨fun absurd => (nomatch absurd), fun absurd => (nomatch absurd)⟩
  · intro a _
    exact auth_upheld a
  · intro blk env evs w w' _ _ a
    apply keeps_of_step
    rintro e he h h' _ step
    rw [List.mem_singleton.mp he] at step
    have line := hostStep_plain (j := glusterBlockDeleteRemote a ⟨"", ""⟩) rfl .cleanupSuccess step
    apply open_shown
    unfold AuthOpen
    rw [line.1]
    simp
  · intro js' absurd
    cases absurd

end Runs

section Success

theorem format_success {asyncret errCode : Int} {errMsg : Option String}
    {lists : List (String × List Addr)}
    (success : (formatModify asyncret errCode errMsg lists).result = .success) :
    asyncret = 0 ∧ errCode = 0 ∧ errMsg = none := by
  cases errMsg with
  | some msg => cases success
  | none =>
    unfold formatModify resultOf at success
    by_cases failed : asyncret ≠ 0
    · simp [failed] at success
    · have zero : asyncret = 0 := not_not.mp failed
      refine ⟨zero, ?_, rfl⟩
      by_contra code
      simp [zero, code] at success

theorem unlock_zero {s : Session} {volume : String} {errCode : Int} {errMsg : Option String}
    (code : (s.unlock volume errCode errMsg).1 = 0)
    (msg : (s.unlock volume errCode errMsg).2 = none) :
    errCode = 0 ∧ errMsg = none := by
  unfold Session.unlock at code msg
  split at code
  · rename_i unlocked
    rw [if_pos unlocked] at msg
    exact ⟨code, msg⟩
  · cases code

theorem refused_fails {s : Session} {volume : String} {errCode : Int} {errMsg : Option String}
    {r : BlockResponse}
    (success : r.result = .success) (failed : ¬ (errCode = 0 ∧ errMsg = none)) :
    some (formatModify 0 (s.unlock volume errCode errMsg).1
      (s.unlock volume errCode errMsg).2 []) ≠ some r := by
  rintro ⟨⟩
  obtain ⟨_, code, msg⟩ := format_success success
  exact failed (unlock_zero code msg)

theorem access_refused {s : Session} {volume blockName : String} {file : Metafile}
    {e : Int × Option String} (failed : s.access volume blockName file = .error e) :
    ¬ (e.1 = 0 ∧ e.2 = none) := by
  rintro ⟨code, msg⟩
  unfold Session.access at failed
  split at failed
  · cases failed
    cases msg
  · cases failed
    cases msg
  · split at failed
    · cases failed
    · cases failed
      cases code

variable {blk : BlockModifyCli} {env : ModifyEnv}

theorem modifyUndo_asyncret (mobj : BlockModify) (js : Journal) (tried : AsyncResult) :
    (modifyUndo blk mobj js env tried).asyncret = tried.act.ret := by
  have clear : (if blk.authMode then metaUpdate env.clearPassword [.passwd ""] else .done 0) =
      modifyClear blk env := rfl
  unfold modifyUndo
  dsimp only
  rw [clear]
  split <;> rfl

theorem modifyBody_success {js : Journal} (asyncret : (modifyBody blk js env).asyncret = 0)
    (errMsg : (modifyBody blk js env).errMsg = none) :
    (modifyRecord blk (replay js) env).ret = 0 ∧ modifyTriedRet blk js env = 0 := by
  unfold modifyBody at asyncret errMsg
  dsimp only at asyncret errMsg
  by_cases failed : (modifyRecord blk (replay js) env).ret ≠ 0
  · rw [if_pos failed] at errMsg
    cases errMsg
  · refine ⟨not_not.mp failed, ?_⟩
    rw [if_neg failed] at asyncret
    by_contra round
    change ¬ (glusterBlockModifyRemoteAsync (replay js) (modifyObj blk (replay js) env) env.jobs
      env.sched).act.ret = 0 at round
    rw [if_neg round] at asyncret
    exact round ((modifyUndo_asyncret _ _ _).symm.trans asyncret)

/-- A modify that replies with success recorded the password and got through to all
hosts of its round. -/
theorem modify_success {file : Metafile} {r : BlockResponse}
    (reply : (blockModifyCli blk env file).reply = some r) (success : r.result = .success) :
    ∃ js, file = some js ∧ (modifyRecord blk (replay js) env).ret = 0 ∧
      modifyTriedRet blk js env = 0 ∧
      (blockModifyCli blk env file).evs =
        (modifyParts blk js env).record ++ (modifyParts blk js env).tried := by
  unfold blockModifyCli at reply ⊢
  cases connect : env.session.connect with
  | some e =>
    rw [connect] at reply
    cases reply
    obtain ⟨_, _, msg⟩ := format_success success
    cases msg
  | none =>
    rw [connect] at reply
    dsimp only at reply ⊢
    rcases access_cases env.session blk.volume blk.blockName file with ⟨e, failed⟩ | ⟨js, rfl, ok⟩
    · rw [failed] at reply
      exact (refused_fails success (access_refused failed) reply).elim
    · rw [ok] at reply ⊢
      dsimp only at reply ⊢
      cases check : checkConfigured (.modify blk) blk.blockName js env.caps with
      | none =>
        rw [check] at reply
        cases reply
      | some e =>
        rw [check] at reply
        dsimp only at reply ⊢
        by_cases code : e.1 ≠ 0
        · rw [if_pos code] at reply
          exact (refused_fails success (fun zero => code zero.1) reply).elim
        · rw [if_neg code] at reply ⊢
          cases reply
          obtain ⟨asyncret, code', msg'⟩ := format_success success
          obtain ⟨_, errMsg⟩ := unlock_zero code' msg'
          obtain ⟨record, tried⟩ := modifyBody_success asyncret errMsg
          refine ⟨js, rfl, record, tried, ?_⟩
          refine (modifyBody_evs blk env js).trans ?_
          rw [if_neg (not_not.mpr record), if_pos tried, List.append_nil]

theorem modify_reached {js : Journal} (tried : modifyTriedRet blk js env = 0) {addr : Addr}
    (selected : addr ∈ glusterBlockModifyArgsFill blk.authMode (replay js)) :
    hostEvs addr (modifyParts blk js env).tried =
      (glusterBlockModifyRemote addr (modifyObj blk (replay js) env)).full 0 := by
  have zero : ((glusterBlockModifyRemote addr (modifyObj blk (replay js) env)).run
      (env.jobs addr)).ret = 0 := by
    unfold modifyTriedRet glusterBlockModifyRemoteAsync collectExits at tried
    dsimp only at tried
    split at tried
    · rename_i all
      have worker := List.all_eq_true.mp all _ ((mem_hostWorkers _ _ _).mpr ⟨addr, selected, rfl⟩)
      exact beq_iff_eq.mp worker
    · cases tried
  refine (modifyEvs_host js (modifyObj blk (replay js) env) env.jobs env.sched addr).trans ?_
  refine (if_pos selected).trans ?_
  rw [run_zero rfl rfl zero]
  exact hostEvs_full (glusterBlockModifyRemote addr _) 0

/-- The password that is recorded behind the request is the one it carries. -/
theorem modify_recorded {js : Journal} (record : (modifyRecord blk (replay js) env).ret = 0) :
    (replay (js ++ written ((modifyParts blk js env).record ++
      (modifyParts blk js env).tried))).passwd = modifyPasswd blk (replay js) env.passwd := by
  have workers : (written (modifyParts blk js env).tried).filterMap passwdOf? = [] := by
    apply no_pick
    intro l hl
    have host := runWorkers_lines hl
    cases l <;> first | rfl | cases host
  rw [passwd_append, written_append, List.filterMap_append, workers, List.append_nil]
  change ((written (modifyRecord blk (replay js) env).evs).filterMap passwdOf?).getLast?.getD _ = _
  unfold modifyRecord at record ⊢
  split
  · rename_i reused
    obtain ⟨mode, kept⟩ := Bool.and_eq_true_iff.mp reused
    have there : ¬ (replay js).passwd = "" := by simpa using kept
    unfold modifyPasswd
    rw [if_pos mode, if_neg there]
    rfl
  · rename_i fresh
    rw [if_neg fresh] at record
    cases update : env.password with
    | ok => rfl
    | _ =>
      rw [update] at record
      cases record

end Success

/-- Every node that counts as valid is in the mode, with the recorded password when
the mode is on. -/
def AuthTrue (authMode : Bool) (w : World AuthNode) : Prop :=
  ∀ js, w.file = some js → ∀ a, isValidAt js a = true →
    (w.nodes a).auth = authMode ∧ (authMode = true → (w.nodes a).passwd = (replay js).passwd)

/-- The valid statuses that a disable passes over and that tell nothing about the
mode: what a create without authentication, a failed enable, a portal replacement, a
resize or an unanswered delete left. -/
def passedOver : Option MetaStatus → Bool
  | some .configSuccess | some .cleanupInprogress | some .authEnforceFail
  | some .rpSuccess | some .rpFail | some .rpInprogress
  | some .rsSuccess | some .rsFail | some .rsInprogress => true
  | _ => false

/-- The hosts that the request passes over need nothing done: for an enable, those that
show AUTHENFORCED hold its password, and for a disable, those whose mode the status does
not tell have it off. -/
def AuthSettled (blk : BlockModifyCli) (env : ModifyEnv) (w : World AuthNode) : Prop :=
  ∀ js, w.file = some js → ∀ a,
    if blk.authMode then latest js a = some .authEnforced →
      (w.nodes a).passwd = modifyPasswd blk (replay js) env.passwd
    else passedOver (latest js a) = true → (w.nodes a).auth = false

theorem enable_skips {status : Option MetaStatus} :
    (status.any MetaStatus.isValid = true ∧ modifySelects true status = false) ↔
      status = some .authEnforced := by
  cases status with
  | none => simp
  | some s => cases s <;> simp [MetaStatus.isValid, modifySelects]

theorem disable_skips {status : Option MetaStatus} :
    (status.any MetaStatus.isValid = true ∧ modifySelects false status = false) ↔
      passedOver status = true ∨ status = some .authClearEnforced := by
  cases status with
  | none => simp [passedOver]
  | some s => cases s <;> simp [MetaStatus.isValid, modifySelects, passedOver]

section Truth

variable {blk : BlockModifyCli} {env : ModifyEnv}

/-- A host that the request selects is in its mode behind it, and every other host
is as it was. -/
theorem modify_hosts {js : Journal} (tried : modifyTriedRet blk js env = 0) {addr : Addr}
    {n n' : AuthNode} (along : Along (authModel.step addr) n
      ((modifyParts blk js env).record ++ (modifyParts blk js env).tried) n') :
    let status := latest (js ++ written ((modifyParts blk js env).record ++
      (modifyParts blk js env).tried)) addr
    addr ∈ glusterBlockModifyArgsFill blk.authMode (replay js) ∧
        n' = ⟨blk.authMode, modifyPasswd blk (replay js) env.passwd⟩ ∧
        status.any MetaStatus.isValid = true ∨
      addr ∉ glusterBlockModifyArgsFill blk.authMode (replay js) ∧ n' = n ∧
        status = latest js addr := by
  have record := record_plain blk js env addr
  have view : Along (authModel.hostStep addr) ⟨latest js addr, n⟩
      (hostEvs addr (modifyParts blk js env).tried)
        ⟨latest (js ++ written ((modifyParts blk js env).record ++
          (modifyParts blk js env).tried)) addr, n'⟩ := by
    rw [← List.nil_append (hostEvs addr (modifyParts blk js env).tried), ← record,
      ← hostEvs_append]
    apply along_hostEvs.mpr
    apply along_host.mpr
    exact ⟨latest_foldl js addr _, along⟩
  by_cases selected : addr ∈ glusterBlockModifyArgsFill blk.authMode (replay js)
  · left
    let j := glusterBlockModifyRemote addr (modifyObj blk (replay js) env)
    have shown : j.full 0 = [j.line j.start, .call j.addr j.msg 0, j.line j.done] := rfl
    rw [modify_reached tried selected] at view
    change Along (authModel.hostStep addr) _ (j.full 0) _ at view
    rw [shown] at view
    obtain ⟨h₁, _, rest⟩ := along_cons.mp view
    obtain ⟨h₂, call, rest⟩ := along_cons.mp rest
    obtain ⟨h₃, line, rest⟩ := along_cons.mp rest
    have ends := along_nil.mp rest
    have served := (hostStep_call call).2
    have put : h₂.node = ⟨blk.authMode, modifyPasswd blk (replay js) env.passwd⟩ := served
    obtain ⟨status, node⟩ := hostStep_plain (j := j) rfl _ line
    refine ⟨selected, ?_, ?_⟩
    · rw [← put, ← node]
      exact congrArg HostView.node ends
    · have shown := congrArg HostView.status ends
      dsimp only at shown
      rw [shown, status]
      have word : j.done ∈ j.words := List.mem_cons_of_mem _ (List.mem_cons_of_mem _
        List.mem_cons_self)
      exact modify_words addr (modifyObj blk (replay js) env) j.done word
  · right
    have none : hostEvs addr (modifyParts blk js env).tried = [] :=
      (modifyEvs_host js (modifyObj blk (replay js) env) _ _ addr).trans (if_neg selected)
    rw [none] at view
    have same := along_nil.mp view
    exact ⟨selected, congrArg HostView.node same, congrArg HostView.status same⟩

/-- After a modify that replies with success the nodes are as it says exactly when
the hosts it passed over were so before. -/
theorem auth_truth {nodes : Addr → AuthNode} {w w' : World AuthNode} {evs : List Ev}
    (run : Run authModel anyRequest (World.none nodes) w)
    (step : Step authModel (.modify blk env) evs w w')
    (whole : evs = (blockModifyCli blk env w.file).evs) {r : BlockResponse}
    (reply : (blockModifyCli blk env w.file).reply = some r) (success : r.result = .success) :
    AuthTrue blk.authMode w' ↔ AuthSettled blk env w := by
  obtain ⟨js, there, record, tried, effects⟩ := modify_success reply success
  rw [effects] at whole
  have left : w'.file = some (js ++ written ((modifyParts blk js env).record ++
      (modifyParts blk js env).tried)) := by
    have keep : Ev.unlinkMeta ∉ (modifyParts blk js env).record ++ (modifyParts blk js env).tried := by
      rw [← effects, there]
      have kept := modify_keep blk js env
      rcases modify_evs blk env (some js) with none | ⟨js', same, body⟩
      · rw [none]
        exact List.not_mem_nil
      · cases same
        rw [body]
        exact kept
    rw [step.file, whole, there]
    exact metaAfter_some js keep
  have hosts := fun a => modify_hosts tried (whole ▸ step_existing step there a)
  have shown := run_shown run js there
  have recorded := modify_recorded record
  have unselected : ∀ a, a ∉ glusterBlockModifyArgsFill blk.authMode (replay js) →
      isValidAt js a = true → modifySelects blk.authMode (latest js a) = false := by
    intro a away valid
    by_contra selected
    refine away (mem_modifyArgsFill.mpr ⟨valid_hosted valid, ?_⟩)
    exact Bool.not_eq_false _ ▸ selected
  -- a host that was passed over is as it was, so the truth about it is what it was
  have passed : AuthTrue blk.authMode w' → ∀ a, isValidAt js a = true →
      modifySelects blk.authMode (latest js a) = false →
        (w.nodes a).auth = blk.authMode ∧ (blk.authMode = true →
          (w.nodes a).passwd = modifyPasswd blk (replay js) env.passwd) := by
    intro truth a valid skipped
    rcases hosts a with ⟨selected, _⟩ | ⟨_, node, status⟩
    · have chosen := (mem_modifyArgsFill.mp selected).2
      exact absurd (skipped.symm.trans chosen) Bool.false_ne_true
    · have still := truth _ left a (by unfold isValidAt; rw [status]; exact valid)
      rwa [recorded, node] at still
  constructor
  · intro truth js' hjs a
    cases there.symm.trans hjs
    split
    · rename_i mode
      intro enforced
      obtain ⟨valid, skipped⟩ := enable_skips.mpr enforced
      exact (passed truth a valid (mode ▸ skipped)).2 mode
    · rename_i mode
      have disable : blk.authMode = false := Bool.eq_false_iff.mpr mode
      intro failed
      obtain ⟨valid, skipped⟩ := disable_skips.mpr (.inl failed)
      exact (passed truth a valid (disable ▸ skipped)).1.trans disable
  · intro settled js' hjs a valid
    cases left.symm.trans hjs
    rw [recorded]
    rcases hosts a with ⟨_, node, _⟩ | ⟨away, node, status⟩
    · rw [node]
      exact ⟨rfl, fun _ => rfl⟩
    · have before : isValidAt js a = true := by
        unfold isValidAt at valid ⊢
        rwa [status] at valid
      have skipped := unselected a away before
      have settled := settled js there a
      rw [node]
      cases mode : blk.authMode with
      | true =>
        rw [mode] at skipped
        rw [if_pos mode] at settled
        have enforced := enable_skips.mp ⟨before, skipped⟩
        exact ⟨(shown a).1 enforced, fun _ => settled enforced⟩
      | false =>
        rw [mode] at skipped
        rw [if_neg (by simp [mode])] at settled
        refine ⟨?_, fun absurd => (nomatch absurd)⟩
        rcases disable_skips.mp ⟨before, skipped⟩ with failed | cleared
        · exact settled failed
        · exact (shown a).2 cleared

end Truth

section Sample

def modifySample (authMode : Bool) : BlockModifyCli where
  volume := "vol"
  blockName := "block"
  authMode := authMode
  jsonResp := .none

def modifySampleEnv : ModifyEnv where
  session := .good
  caps := allCapable
  passwd := "c0ffee"
  password := .ok
  jobs := fun _ => .good
  sched := []
  clearPassword := .ok
  undoJobs := fun _ => .good
  undoSched := []

def resizeSample (size : Nat) : BlockModifySizeCli where
  volume := "vol"
  blockName := "block"
  size := size
  force := false
  jsonResp := .none

/-- The resize call on every host ends like this. -/
def resizeSampleEnv (call : CallRes) : ModifySizeEnv where
  session := .good
  caps := allCapable
  resizeEntry := none
  sizeUpdate := .ok
  jobs := fun _ => { JobOutcome.good with call := call }
  sched := []

def authNext (w : World AuthNode) (req : Request) : World AuthNode :=
  w.advance AuthNode.serve (req.outcome w.file).evs

/-- A block on one host without authentication. -/
def authOff : World AuthNode :=
  authNext (.none fun _ => ⟨false, ""⟩) (.create oneHost (createSampleEnv []))

/-- The authentication is turned on, and the block is resized. -/
def authResized : World AuthNode :=
  authNext (authNext authOff (.modify (modifySample true) modifySampleEnv))
    (.modifySize (resizeSample 2097152) (resizeSampleEnv (.sent 0)))

theorem authOff_run : Run authModel anyRequest (.none fun _ => ⟨false, ""⟩) authOff := by
  apply run_next (fun _ _ _ => rfl) .refl _ _ _ _ trivial
  · exact Nat.one_pos
  · exact fun there => (there rfl).elim
  · exact fun _ _ => trivial

theorem authResized_run : Run authModel anyRequest (.none fun _ => ⟨false, ""⟩) authResized := by
  have enabled := run_next (fun _ _ _ => rfl) authOff_run
    (.modify (modifySample true) modifySampleEnv) trivial (fun _ => rfl) (fun _ _ => trivial) trivial
  exact run_next (fun _ _ _ => rfl) enabled _ trivial (fun _ => rfl) (fun _ _ => trivial) trivial

/-- The host is asked to turn the authentication on and does. -/
theorem auth_truth_sample :
    AuthTrue true (authNext authOff (.modify (modifySample true) modifySampleEnv)) ↔
      AuthSettled (modifySample true) modifySampleEnv authOff :=
  auth_truth authOff_run
    (advance_step (fun _ _ _ => rfl) ⟨trivial, fun _ => rfl, List.prefix_refl _⟩
      (fun _ _ => trivial)) rfl
    (r := { exit := 0, result := .success, errMsg := none,
            lists := [("FAILED ON", []), ("SUCCESSFUL ON", ["10.0.0.1"])] }) (by decide) rfl

/-- Behind the resize nobody is asked to turn it off again, and that is a success. -/
theorem resized_keeps_auth :
    Run authModel anyRequest (.none fun _ => ⟨false, ""⟩) authResized ∧
      Step authModel (.modify (modifySample false) modifySampleEnv)
        (blockModifyCli (modifySample false) modifySampleEnv authResized.file).evs authResized
        (authNext authResized (.modify (modifySample false) modifySampleEnv)) ∧
      ((blockModifyCli (modifySample false) modifySampleEnv authResized.file).reply.map
        BlockResponse.result) = some .success ∧
      ¬ AuthTrue false (authNext authResized (.modify (modifySample false) modifySampleEnv)) := by
  refine ⟨authResized_run, ?_, by decide, fun truth => ?_⟩
  · exact advance_step (fun _ _ _ => rfl) ⟨trivial, fun _ => rfl, List.prefix_refl _⟩
      (fun _ _ => trivial)
  · have shown := truth _ (Option.some_get (by decide)).symm "10.0.0.1" (by decide)
    exact absurd shown.1 (by decide)

end Sample

end GlusterBlock
