import GlusterBlock.MetaReader
import GlusterBlock.Traces

/-! Deleting again after a delete that stopped. The marker of the backing file is
replayed as a host, and no delete gets past a host that was never given. -/
namespace GlusterBlock

open Trail

/-- The addresses a request is given for hosts. -/
def Request.given : Request → List Addr
  | create blk _ => blockServerParse blk.blockHosts
  | replace blk _ => [blk.newNode]
  | _ => []

/-- Nodes that nothing is said about. -/
def anyNode : NodeModel Unit where
  fresh := fun _ => True
  serve := fun _ _ _ _ => True

/-- The runs in which all hosts are given ones. -/
def givenHosts (given : Addr → Prop) (req : Request) (_ : List Ev) (_ _ : World Unit) : Prop :=
  ∀ a ∈ req.given, given a

section Hosts

variable {addr : Addr}

theorem audited_hosts {blk : BlockCreateCli} {env : CreateEnv} {resultCaps : Caps}
    (h : addr ∈ hosts (auditedLines blk env resultCaps)) : addr ∈ createHosts blk := by
  unfold auditedLines at h
  rcases mem_hosts_append.mp h with lines | workers
  · rw [preparedLines_hosts] at lines
    cases lines
  · exact createEvs_hosts workers

theorem cleanUp_hosts {js : Journal} {blockname : String} {forcedel unlink : Bool}
    {env : CleanUpEnv}
    (seen : hostEvs addr (glusterBlockCleanUp js blockname forcedel unlink env).act.evs ≠ []) :
    addr = "ENTRYDELETE" ∨ addr ∈ hosts js := by
  by_cases node : addr = "ENTRYDELETE"
  · exact .inl node
  · rw [cleanUp_host js blockname forcedel unlink env node] at seen
    split at seen
    · rename_i contacted
      exact .inr (mem_deleteFillArgs.mp contacted).1
    · exact absurd rfl seen

theorem known_of_latest {js : Journal} (h : latest js addr ≠ none) : addr ∈ hosts js := by
  by_contra unknown
  exact h (latest_unmentioned unknown)

theorem replace_hosts {blk : BlockReplaceCli} {env : ReplaceEnv} {js : Journal}
    {checks : ReplaceChecks} (ok : replaceChecks blk (replay js) = .ok checks)
    (seen : hostEvs addr (replacePool blk js checks env) ≠ []) :
    addr = blk.newNode ∨ addr ∈ hosts js := by
  by_contra away
  rw [not_or] at away
  obtain ⟨old, _, _, _⟩ := replaceChecks_ok blk ok
  refine seen (replacePool_rest (fun _ => away.1) (fun _ same => ?_) (fun _ slot => ?_))
  · exact away.2 (same ▸ known_of_latest old)
  · have valid := (mem_replaceOthers.mp (List.mem_of_mem_take slot)).1
    have shown : latest js addr ≠ none := by
      intro none
      rw [isValidAt, none] at valid
      exact Bool.false_ne_true valid
    exact away.2 (known_of_latest shown)

/-- Whatever a request is about was given to it or is in the metafile already, apart
from the marker of the backing file. -/
theorem outcome_hosts (req : Request) (file : Metafile)
    (finds : file ≠ none → req.session.accessErr = none)
    (seen : hostEvs addr (req.outcome file).evs ≠ []) :
    addr = "ENTRYDELETE" ∨ addr ∈ req.given ∨ addr ∈ hosts (file.getD []) := by
  have nothing : ∀ {es : List Ev}, es = [] → hostEvs addr es ≠ [] → False := by
    rintro es rfl h
    exact h rfl
  cases req with
  | create blk env =>
    rcases create_evs blk env finds with none | ⟨rfl, resultCaps, body⟩
    · exact (nothing none seen).elim
    · change hostEvs addr (blockCreateCli blk env none).evs ≠ [] at seen
      rw [body] at seen
      rcases createBody_evs blk env resultCaps with prep | ⟨_, evs⟩
      · rw [prep, prepare_host] at seen
        exact absurd rfl seen
      · rw [evs, hostEvs_append, hostEvs_append, prepare_host, List.nil_append] at seen
        have given : addr ∈ createHosts blk → addr ∈ Request.given (.create blk env) :=
          fun h => List.mem_of_mem_take h
        by_cases here : addr ∈ createHosts blk
        · exact .inr (.inl (given here))
        · rw [createEvs_absent here, List.nil_append] at seen
          unfold rollbackEvs at seen
          split at seen
          · exact absurd rfl seen
          · rcases cleanUp_hosts seen with marker | known
            · exact .inl marker
            · exact absurd (audited_hosts known) here
  | delete blk env =>
    rcases delete_evs blk env file with none | ⟨js, rfl, evs⟩
    · exact (nothing none seen).elim
    · change hostEvs addr (blockDeleteCli blk env (some js)).evs ≠ [] at seen
      rw [evs] at seen
      exact (cleanUp_hosts seen).imp id .inr
  | modify blk env =>
    rcases modify_evs blk env file with none | ⟨js, rfl, evs⟩
    · exact (nothing none seen).elim
    · change hostEvs addr (blockModifyCli blk env (some js)).evs ≠ [] at seen
      rw [evs] at seen
      refine .inr (.inr ?_)
      by_contra unknown
      have tried : hostEvs addr (modifyParts blk js env).tried = [] := by
        refine (modifyEvs_host js _ _ _ addr).trans (if_neg (fun h => ?_))
        exact unknown (mem_modifyArgsFill.mp h).1
      have undo : hostEvs addr (modifyParts blk js env).undo = [] := by
        refine (modifyEvs_host (modifyUndoLines blk js env) _ _ _ addr).trans
          (if_neg (fun h => ?_))
        exact unknown (modifyUndo_hosts blk js env (mem_modifyArgsFill.mp h).1)
      have cut := modify_host addr blk js env
      rw [tried, undo] at cut
      exact seen (List.prefix_nil.mp cut)
  | modifySize blk env =>
    rcases modifySize_evs blk env file with none | ⟨js, rfl, _, evs⟩
    · exact (nothing none seen).elim
    · change hostEvs addr (blockModifySizeCli blk env (some js)).evs ≠ [] at seen
      rw [evs] at seen
      rcases modifySize_host addr blk js env with none | ⟨_, workers⟩
      · exact absurd none seen
      · rw [workers, modifySizeEvs_host] at seen
        split at seen
        · rename_i contacted
          exact .inr (.inr (List.mem_filter.mp contacted).1)
        · exact absurd rfl seen
  | replace blk env =>
    rcases replace_evs blk env file with none | ⟨js, checks, rfl, ok, run⟩
    · exact (nothing none seen).elim
    · change hostEvs addr (blockReplaceCli blk env (some js)).evs ≠ [] at seen
      have given : addr = blk.newNode → addr ∈ Request.given (.replace blk env) :=
        fun h => List.mem_singleton.mpr h
      have pool : hostEvs addr (replacePool blk js checks env) ≠ [] →
          addr ∈ Request.given (.replace blk env) ∨ addr ∈ hosts js :=
        fun h => (replace_hosts ok h).imp given id
      rcases run with ⟨_, evs⟩ | ⟨resp, _, _, evs⟩
      · rw [evs] at seen
        exact .inr (pool seen)
      · rw [evs, hostEvs_append] at seen
        rcases trailer_host addr blk js env resp with
          none | ⟨old, _, _, _⟩
        · rw [none, List.append_nil] at seen
          exact .inr (pool seen)
        · obtain ⟨shown, _, _, _⟩ := replaceChecks_ok blk ok
          exact .inr (.inr (old ▸ known_of_latest shown))

end Hosts

section Retry

/-- The second delete meets able hosts that delete the block or do not know it, and
a storage on which every call succeeds. -/
structure RetryAnswers (given : Addr → Prop) (blk : BlockDeleteCli) (env : DeleteEnv)
    (js : Journal) : Prop where
  session : env.session = .good
  able : ∀ i a, (validHosts js)[i]? = some a → given a →
    (glusterBlockCapabilitiesRemote a (env.caps i)).able (.delete blk)
  updates : ∀ a, (env.cleanUp.jobs a).updatesOk
  answers : ∀ a, given a →
    (env.cleanUp.jobs a).call = .sent 0 ∨ (env.cleanUp.jobs a).call = .sent gbBlockNotFound
  files : env.cleanUp.filesOk blk.unlink

/-- The second delete returns 0, removes the metafile and contacts given hosts only. -/
def RetryDone (given : Addr → Prop) (blk : BlockDeleteCli) (env : DeleteEnv) (js : Journal) :
    Prop :=
  let out := blockDeleteCli blk env (some js)
  (∃ r, out.reply = some r ∧ r.exit = 0) ∧ metaAfter (some js) out.evs = none ∧
    ∀ a msg exit, Ev.call a msg exit ∈ out.evs → given a

theorem deleteFormat_exit (errCode : Int) (errMsg : Option String)
    (saved : List Addr × List Addr) :
    (blockDeleteCliFormatResponse errCode errMsg saved).exit = 0 ↔ errCode = 0 := by
  cases errMsg <;> exact exitCode_zero

theorem cleared_answers {o : JobOutcome} (updates : o.updatesOk)
    (answers : o.call = .sent 0 ∨ o.call = .sent gbBlockNotFound) : o.cleared := by
  obtain ⟨start, done, _⟩ := updates
  refine ⟨start, answers.imp (fun zero => ⟨zero, ?_⟩) (fun gone => ⟨gone, done⟩)⟩
  rw [done]
  rfl

theorem mem_capArgs {hosts : List Addr} {calls : Nat → VersionCall} {a : CapArg}
    (ha : a ∈ capArgs hosts calls) :
    ∃ i addr, hosts[i]? = some addr ∧ a = glusterBlockCapabilitiesRemote addr (calls i) := by
  obtain ⟨⟨addr, i⟩, hi, rfl⟩ := List.mem_map.mp ha
  exact ⟨i, addr, List.mem_zipIdx_iff_getElem?.mp hi, rfl⟩

theorem valid_contacted {js : Journal} {addr : Addr} (valid : addr ∈ validHosts js) :
    addr ∈ glusterBlockDeleteFillArgs (replay js) := by
  have shown := mem_validHosts.mp valid
  rw [validHosts_eq] at valid
  refine mem_deleteFillArgs.mpr ⟨(List.mem_filter.mp valid).1, ?_⟩
  unfold isValidAt at shown
  cases status : latest js addr with
  | none => rfl
  | some s =>
    rw [status] at shown
    revert shown
    cases s <;> decide

variable {given : Addr → Prop} {blk : BlockDeleteCli} {env : DeleteEnv} {js : Journal}

theorem cleanUp_call {a : Addr} {msg : Msg} {exit : Int}
    (h : Ev.call a msg exit ∈
      (glusterBlockCleanUp js blk.blockName blk.force blk.unlink env.cleanUp).act.evs) :
    a ∈ glusterBlockDeleteFillArgs (replay js) := by
  rw [cleanUp_evs] at h
  rcases List.mem_append.mp h with workers | files
  · by_contra away
    have none : hostEvs a (deleteEvs js (cleanUpObj js blk.blockName) env.cleanUp) = [] :=
      (deleteEvs_host a).trans (if_neg away)
    have here : Ev.call a msg exit ∈
        hostEvs a (deleteEvs js (cleanUpObj js blk.blockName) env.cleanUp) :=
      List.mem_filter.mpr ⟨workers, by simp [Ev.isAbout]⟩
    rw [none] at here
    cases here
  · split at files
    · exact absurd files deleteFiles_calls
    · cases files

theorem deleteCli_good (js : Journal) (good : env.session = .good) (unforced : blk.force = false) :
    let res := glusterBlockCleanUp js blk.blockName blk.force blk.unlink env.cleanUp
    let caps := checkHosts (.delete blk) (validHosts js) env.caps
    blockDeleteCli blk env (some js) =
      if (validHosts js).length ≤ (replay js).mpath then
        if caps.1 ≠ 0 then ⟨[], some (blockDeleteCliFormatResponse caps.1 caps.2 ([], []))⟩
        else ⟨res.act.evs, some (blockDeleteCliFormatResponse res.act.ret none
          (res.attempt, res.success))⟩
      else ⟨[], none⟩ := by
  have connect : env.session.connect = none := by rw [good]; rfl
  have access : env.session.access blk.volume blk.blockName (some js) = .ok js := by rw [good]; rfl
  have unlock : ∀ volume errCode errMsg,
      env.session.unlock volume errCode errMsg = (errCode, errMsg) := by
    intro volume errCode errMsg
    rw [good]
    rfl
  dsimp only
  unfold blockDeleteCli
  rw [connect]
  dsimp only
  rw [access]
  dsimp only
  rw [if_neg (by simp [unforced]), getListFromInfo_replay]
  by_cases fits : (validHosts js).length ≤ (replay js).mpath
  · rw [if_pos fits, if_pos fits]
    dsimp only
    by_cases failed : (checkHosts (.delete blk) (validHosts js) env.caps).1 ≠ 0
    · rw [if_pos failed, if_pos failed, unlock]
    · rw [if_neg failed, if_neg failed, unlock]
  · rw [if_neg fits, if_neg fits]

theorem retry_iff (unforced : blk.force = false) (answers : RetryAnswers given blk env js)
    (named : ∀ a ∈ hosts js, a = "ENTRYDELETE" ∨ given a) (marker : ¬ given "ENTRYDELETE") :
    RetryDone given blk env js ↔
      "ENTRYDELETE" ∉ glusterBlockDeleteFillArgs (replay js) ∧
        (validHosts js).length ≤ (replay js).mpath := by
  have cli := deleteCli_good js answers.session unforced
  dsimp only at cli
  unfold RetryDone
  rw [cli]
  dsimp only
  by_cases fits : (validHosts js).length ≤ (replay js).mpath
  · rw [if_pos fits]
    by_cases contacted : "ENTRYDELETE" ∈ glusterBlockDeleteFillArgs (replay js)
    · -- the marker is contacted or its worker fails, so the delete does not get through
      refine iff_of_false ?_ (fun h => h.1 contacted)
      rintro ⟨⟨r, hr, code⟩, removed, calls⟩
      split at hr
      · rename_i failed
        cases hr
        exact failed ((deleteFormat_exit _ _ _).mp code)
      · rename_i passed
        rw [if_neg passed] at removed calls
        obtain ⟨cleared, _⟩ := (cleanUp_removes js blk.blockName blk.force blk.unlink
          env.cleanUp).mp removed
        have forced : ¬ blk.force = true := by simp [unforced]
        obtain ⟨start, answer⟩ := (cleared.resolve_left forced) _ contacted
        have sent : ∃ exit, (env.cleanUp.jobs "ENTRYDELETE").call = .sent exit :=
          answer.elim (fun h => ⟨_, h.1⟩) (fun h => ⟨_, h.1⟩)
        obtain ⟨exit, call⟩ := sent
        have run := RemoteJob.run_ok (glusterBlockDeleteRemote "ENTRYDELETE"
          (cleanUpObj js blk.blockName)) (answers.updates "ENTRYDELETE")
        rw [call] at run
        have inRun : Ev.call "ENTRYDELETE" (.delete (cleanUpObj js blk.blockName)) exit ∈
            ((glusterBlockDeleteRemote "ENTRYDELETE" (cleanUpObj js blk.blockName)).run
              (env.cleanUp.jobs "ENTRYDELETE")).evs := by
          rw [run]
          simp [RemoteJob.full, glusterBlockDeleteRemote]
        refine marker (calls "ENTRYDELETE" (.delete (cleanUpObj js blk.blockName)) exit ?_)
        rw [cleanUp_evs]
        refine List.mem_append_left _ (pool_mem.mpr ⟨_, ?_, inRun⟩)
        exact (mem_hostWorkers _ _ _).mpr ⟨_, contacted, rfl⟩
    · refine iff_of_true ?_ ⟨contacted, fits⟩
      have all : ∀ a ∈ glusterBlockDeleteFillArgs (replay js), given a := by
        intro a ha
        rcases named a (mem_deleteFillArgs.mp ha).1 with rfl | ok
        · exact absurd ha contacted
        · exact ok
      have caps : (checkHosts (.delete blk) (validHosts js) env.caps).1 = 0 := by
        refine check_able (fun a ha => ?_)
        obtain ⟨i, addr, hi, rfl⟩ := mem_capArgs ha
        exact answers.able i addr hi (all addr (valid_contacted (List.mem_of_getElem? hi)))
      have cleared : env.cleanUp.nodesCleared js := fun a ha =>
        cleared_answers (answers.updates a) (answers.answers a (all a ha))
      have done := And.intro (Or.inr (a := blk.force = true) cleared) answers.files
      rw [if_neg (not_not.mpr caps)]
      refine ⟨⟨_, rfl, ?_⟩, ?_, fun a msg exit h => all a (cleanUp_call h)⟩
      · exact (deleteFormat_exit _ _ _).mpr ((cleanUp_ret _ _ _ _ _).mpr done)
      · exact (cleanUp_removes _ _ _ _ _).mpr done
  · rw [if_neg fits]
    refine iff_of_false ?_ (fun h => fits h.2)
    rintro ⟨⟨r, hr, _⟩, _⟩
    cases hr

end Retry

section Runs

variable {given : Addr → Prop}

/-- The metafile mentions given hosts and the marker of the backing file. -/
def Named (given : Addr → Prop) (w : World Unit) : Prop :=
  ∀ js, w.file = some js → ∀ a ∈ hosts js, a = "ENTRYDELETE" ∨ given a

theorem hosts_grow {req : Request} {file : Metafile} {evs : List Ev}
    (finds : file ≠ none → req.session.accessErr = none) (cut : evs <+: (req.outcome file).evs)
    {js : Journal} (left : metaAfter file evs = some js) {addr : Addr} (h : addr ∈ hosts js) :
    addr = "ENTRYDELETE" ∨ addr ∈ req.given ∨ addr ∈ hosts (file.getD []) := by
  obtain ⟨_, rfl⟩ := metaAfter_grows (outcome_last req file finds) cut left
  rcases mem_hosts_append.mp h with old | new
  · exact .inr (.inr old)
  · have seen := hosts_written new
    have whole := hostEvs_cut addr cut
    refine outcome_hosts req file finds (fun none => seen ?_)
    rw [none] at whole
    exact List.prefix_nil.mp whole

theorem run_named {w w' : World Unit} (start : Named given w)
    (run : Run anyNode (givenHosts given) w w') : Named given w' := by
  refine run_keeps _ ?_ start run
  intro req evs v v' inv step allowed js hjs a ha
  have left : metaAfter v.file evs = some js := step.file ▸ hjs
  rcases hosts_grow step.takes.finds step.takes.cut left ha with marker | new | old
  · exact .inl marker
  · exact .inr (allowed a new)
  · cases hv : v.file with
    | none =>
      rw [hv] at old
      cases old
    | some js' =>
      rw [hv] at old
      exact inv js' hv a old

/-- Deleting again succeeds exactly when the first delete has not come to the backing
file, so that its marker is not in the metafile yet, and the valid hosts fit. -/
theorem delete_retry (accepted : ∀ a, given a → addrAcceptable a = true) {w : World Unit}
    (run : Run anyNode (givenHosts given) (World.none fun _ => ()) w) {js : Journal}
    (there : w.file = some js) {first : BlockDeleteCli} {firstEnv : DeleteEnv} {evs : List Ev}
    (stops : Takes (.delete first firstEnv) w.file evs) {left : Journal}
    (leaves : metaAfter w.file evs = some left) {blk : BlockDeleteCli} {env : DeleteEnv}
    (unforced : blk.force = false) (answers : RetryAnswers given blk env left) :
    RetryDone given blk env left ↔
      "ENTRYDELETE" ∉ glusterBlockDeleteFillArgs (replay left) ∧
        (validHosts left).length ≤ (replay left).mpath := by
  have none : Named given (World.none fun _ => ()) := fun js hjs => nomatch hjs
  have before := run_named none run
  refine retry_iff unforced answers (fun a ha => ?_) (fun h => ?_)
  · rcases hosts_grow stops.finds stops.cut leaves ha with marker | new | old
    · exact .inl marker
    · cases new
    · rw [there] at old
      exact before js there a old
  · exact absurd (accepted _ h) (by decide)

end Runs

section Sample

def oneHostLines : Journal := configuredLines 1 ["10.0.0.1"]

theorem along_any (addr : Addr) (evs : List Ev) : Along (anyNode.step addr) () evs () := by
  induction evs with
  | nil => exact .nil ()
  | cons e evs ih =>
    refine .cons ?_ ih
    unfold NodeModel.step
    split
    · split
      · trivial
      · rfl
    · rfl

/-- A block that is created on one host. -/
theorem oneHost_run : Run anyNode (givenHosts (· = "10.0.0.1")) (World.none fun _ => ())
    { file := some oneHostLines, nodes := fun _ => () } := by
  refine .single ⟨.create oneHost (createSampleEnv []), _, ⟨⟨Nat.one_pos, fun h => absurd rfl h,
    List.prefix_refl _⟩, ?_, fun addr => ⟨(), trivial, along_any addr _⟩⟩, ?_⟩
  · change some oneHostLines = metaAfter none (blockCreateCli oneHost (createSampleEnv []) none).evs
    decide
  · intro a ha
    have only : a ∈ blockServerParse "10.0.0.1" := ha
    have list : blockServerParse "10.0.0.1" = ["10.0.0.1"] := by decide
    rw [list] at only
    exact List.mem_singleton.mp only

def retryDelete : BlockDeleteCli where
  volume := "vol"
  blockName := "block"
  unlink := true
  force := false
  jsonResp := .none

/-- The node is reached, nobody answers for other addresses. -/
def retryEnv (deleteEntry : StoreRes) : DeleteEnv where
  session := .good
  caps := allCapable
  cleanUp :=
    { jobs := fun a => if a = "10.0.0.1" then .good else { JobOutcome.good with call := .notSent },
      sched := [], entryStart := .ok, deleteEntry := deleteEntry, entryEnd := .ok,
      unlinkMeta := true }

/-- What a delete leaves that could not unlink the backing file. -/
def stoppedLines : Journal :=
  oneHostLines ++ [.host "10.0.0.1" .cleanupInprogress none,
    .host "10.0.0.1" .cleanupSuccess none, .entryDelete .inprogress, .entryDelete .fail]

theorem stopped_delete : Takes (.delete retryDelete (retryEnv .failed)) (some oneHostLines)
      (blockDeleteCli retryDelete (retryEnv .failed) (some oneHostLines)).evs ∧
    metaAfter (some oneHostLines)
      (blockDeleteCli retryDelete (retryEnv .failed) (some oneHostLines)).evs =
        some stoppedLines := by
  refine ⟨⟨trivial, fun _ => rfl, List.prefix_refl _⟩, ?_⟩
  decide

theorem retry_answers :
    RetryAnswers (· = "10.0.0.1") retryDelete (retryEnv .ok) stoppedLines where
  session := rfl
  able := by
    intro i a hi
    have none : validHosts stoppedLines = [] := by decide
    rw [none] at hi
    cases hi
  updates := by
    intro a
    change JobOutcome.updatesOk (if a = "10.0.0.1" then _ else _)
    split <;> decide
  answers := by
    rintro a rfl
    exact .inl rfl
  files := by decide

theorem delete_retry_sample :
    RetryDone (· = "10.0.0.1") retryDelete (retryEnv .ok) stoppedLines ↔
      "ENTRYDELETE" ∉ glusterBlockDeleteFillArgs (replay stoppedLines) ∧
        (validHosts stoppedLines).length ≤ (replay stoppedLines).mpath :=
  delete_retry (by rintro a rfl; decide) oneHost_run rfl stopped_delete.1 stopped_delete.2 rfl
    retry_answers

/-- The unlink of the backing file fails once, and the next delete asks a host of the
name of the marker. -/
theorem marker_stops_retry :
    Run anyNode (givenHosts (· = "10.0.0.1")) (World.none fun _ => ())
        { file := some oneHostLines, nodes := fun _ => () } ∧
      metaAfter (some oneHostLines)
        (blockDeleteCli retryDelete (retryEnv .failed) (some oneHostLines)).evs =
          some stoppedLines ∧
      RetryAnswers (· = "10.0.0.1") retryDelete (retryEnv .ok) stoppedLines ∧
      ¬ RetryDone (· = "10.0.0.1") retryDelete (retryEnv .ok) stoppedLines := by
  refine ⟨oneHost_run, stopped_delete.2, retry_answers, ?_⟩
  rintro ⟨⟨r, hr, code⟩, _⟩
  have failed : (blockDeleteCli retryDelete (retryEnv .ok) (some stoppedLines)).reply.map
      BlockResponse.exit = some 255 := by decide
  rw [hr] at failed
  exact absurd (code.symm.trans (Option.some.inj failed)) (by decide)

end Sample

end GlusterBlock
