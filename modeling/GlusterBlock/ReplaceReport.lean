import GlusterBlock.BlockReplace
import GlusterBlock.Traces

/-! What a replace reports. The reply says what happened to the sub-operations as
long as they and the steps behind them fail together or not at all. -/
namespace GlusterBlock

/-- The request gets past its checks and all its threads have a host. -/
structure ReplaceStarts (blk : BlockReplaceCli) (env : ReplaceEnv) (js : Journal)
    (checks : ReplaceChecks) : Prop where
  connect : env.session.connect = none
  access : env.session.access blk.volume blk.blockName (some js) = .ok js
  caps : (replaceCaps blk js env.caps).1 = 0
  room : (replaceOthers (replay js) blk.oldNode).length ≤ (replay js).mpath
  checked : replaceChecks blk (replay js) = .ok checks
  work : (!checks.rCheck && checks.dCheck && checks.cCheck) = false
  filled : (checks.rCheck && (replaceSlots (replay js) blk.oldNode).any Option.isNone) = false

/-- The sub-operations that were started succeeded, the delete unless it may fail. -/
def ReplaceJobs.succeeded (jobs : ReplaceJobs) (force : Bool) : Prop :=
  (∀ w, jobs.create = some w → w.ret = 0) ∧ (∀ p ∈ jobs.portals, p.2.ret = 0) ∧
    ((∀ w, jobs.delete = some w → w.ret = 0) ∨ force = true)

/-- The valid hosts that are neither replaced nor put in. -/
def otherNodes (blk : BlockReplaceCli) (info : MetaInfo) : List Addr :=
  (replaceOthers info blk.oldNode).filter (· != blk.newNode)

/-- The host is in one of the slots, and its portal was replaced or all of them were skipped. -/
def portalDone (blk : BlockReplaceCli) (info : MetaInfo) (checks : ReplaceChecks)
    (jobs : ReplaceJobs) (addr : Addr) : Prop :=
  if checks.rCheck then ∃ p ∈ jobs.portals, p.1 = addr ∧ p.2.ret = 0
  else some addr ∈ replaceSlots info blk.oldNode

/-- Create and the portals of all other nodes succeeded or were skipped, and so was the delete
unless it may fail. -/
def ReplaceSucceeds (blk : BlockReplaceCli) (info : MetaInfo) (checks : ReplaceChecks)
    (jobs : ReplaceJobs) : Prop :=
  (∀ w, jobs.create = some w → w.ret = 0) ∧
    (∀ addr ∈ otherNodes blk info, portalDone blk info checks jobs addr) ∧
    ((∀ w, jobs.delete = some w → w.ret = 0) ∨ blk.force = true)

/-- All other nodes have a slot. Where they are as many as the slots and the one of the old node
together, the last of them has lost its own to the old node. -/
def AllSlotted (blk : BlockReplaceCli) (info : MetaInfo) : Prop :=
  ∀ addr ∈ otherNodes blk info, some addr ∈ replaceSlots info blk.oldNode

/-- The steps behind the sub-operations that are taken all succeed. -/
def trailerOk (blk : BlockReplaceCli) (env : ReplaceEnv) (info : MetaInfo) (resp : ReplaceResp) :
    Prop :=
  (resp.force = true ∧ resp.dop.status ≠ 0 → env.cleanupSuccess = .ok) ∧
    (info.prioPath ≠ "" ∧ info.prioPath = blk.oldNode → env.prioPath = .ok) ∧
      env.session.unlocked = true

/-- The error code and message at the end of the request. -/
def replaceEnd (blk : BlockReplaceCli) (env : ReplaceEnv) (info : MetaInfo) (resp : ReplaceResp) :
    Int × Option String :=
  let trailer := replaceTrailer blk info resp env
  env.session.unlock blk.volume trailer.ret
    (if trailer.ret ≠ 0
      then some (updateFailed blk.volume blk.blockName env.session.strerror) else none)

/-- The reply says success exactly when the sub-operations succeeded, the same in
every format, and its exit code agrees with it. -/
def ReplaceTruthful (blk : BlockReplaceCli) (env : ReplaceEnv) (js : Journal)
    (checks : ReplaceChecks) : Prop :=
  let jobs := replaceJobs blk (replay js) checks env
  let resp := collectReplace blk (replay js) checks jobs
  let final := replaceEnd blk env (replay js) resp
  ∃ r, (blockReplaceCli blk env (some js)).reply = some r ∧
    (r.result = .success ↔ ReplaceSucceeds blk (replay js) checks jobs) ∧
    (∀ mode, (blockReplaceNodeCliFormatResponse { blk with jsonResp := mode } final.1 final.2
      (some resp)).result = r.result) ∧
    (r.exit = 0 ↔ r.result = .success ∨ r.result = .skipped)

section Report

variable (blk : BlockReplaceCli) (env : ReplaceEnv) (js : Journal) (checks : ReplaceChecks)

theorem replace_reply (starts : ReplaceStarts blk env js checks) :
    let resp := collectReplace blk (replay js) checks (replaceJobs blk (replay js) checks env)
    (blockReplaceCli blk env (some js)).reply =
      some (blockReplaceNodeCliFormatResponse blk (replaceEnd blk env (replay js) resp).1
        (replaceEnd blk env (replay js) resp).2 (some resp)) := by
  have run : glusterBlockReplaceNodeRemoteAsync blk (replay js) env =
      .ran (runPool (replaceJobs blk (replay js) checks env).workers env.sched)
        (collectReplace blk (replay js) checks (replaceJobs blk (replay js) checks env)) := by
    unfold glusterBlockReplaceNodeRemoteAsync
    rw [if_neg (Nat.not_lt.mpr starts.room), starts.checked]
    simp [starts.work, starts.filled]
  have caps : ¬ (replaceCaps blk js env.caps).1 ≠ 0 := not_not.mpr starts.caps
  simp only [blockReplaceCli, starts.connect, starts.access, if_neg caps, run]
  rfl

theorem metaUpdate_ret (res : UpdRes) (lines : Journal) :
    (metaUpdate res lines).ret = 0 ↔ res = .ok := by
  cases res <;> simp [metaUpdate]

theorem next_ret (a b : Act) : (a.next b).ret = 0 ↔ a.ret = 0 ∧ b.ret = 0 := by
  by_cases h : a.ret = 0
  · simp [Act.next_zero h, h]
  · simp [Act.next_fail h, h]

theorem trailer_ret (info : MetaInfo) (resp : ReplaceResp) :
    (replaceTrailer blk info resp env).ret = 0 ↔
      (resp.force = true ∧ resp.dop.status ≠ 0 → env.cleanupSuccess = .ok) ∧
        (info.prioPath ≠ "" ∧ info.prioPath = blk.oldNode → env.prioPath = .ok) := by
  rw [replaceTrailer, next_ret]
  refine and_congr ?_ ?_
  · by_cases h : resp.force = true ∧ resp.dop.status ≠ 0
    · simp [metaUpdate_ret, h]
    · have hb : ¬ (resp.force && resp.dop.status != 0) = true := by simpa using h
      simp [hb, h]
  · by_cases h : info.prioPath ≠ "" ∧ info.prioPath = blk.oldNode
    · rw [if_pos h, metaUpdate_ret]
      exact ⟨fun ok _ => ok, fun ok => ok h⟩
    · rw [if_neg h]
      exact ⟨fun _ hp => absurd hp h, fun _ => rfl⟩

theorem metaUpdate_code (res : UpdRes) (lines : Journal) :
    (metaUpdate res lines).ret = 0 ∨ (metaUpdate res lines).ret = -1 := by
  cases res <;> simp [metaUpdate]

theorem trailer_code (info : MetaInfo) (resp : ReplaceResp) :
    (replaceTrailer blk info resp env).ret = 0 ∨ (replaceTrailer blk info resp env).ret = -1 := by
  have step : ∀ {a b : Act}, a.ret = 0 ∨ a.ret = -1 → b.ret = 0 ∨ b.ret = -1 →
      (a.next b).ret = 0 ∨ (a.next b).ret = -1 := by
    intro a b ha hb
    by_cases h : a.ret = 0
    · simpa [Act.next_zero h] using hb
    · rw [Act.next_fail h]
      exact ha
  unfold replaceTrailer
  refine step ?_ ?_
  · split
    · exact metaUpdate_code _ _
    · exact .inl rfl
  · split
    · exact metaUpdate_code _ _
    · exact .inl rfl

/-- The request ends without an error code exactly when the trailing steps succeed. -/
theorem replaceEnd_cases (info : MetaInfo) (resp : ReplaceResp) :
    trailerOk blk env info resp ∧ replaceEnd blk env info resp = (0, none) ∨
      ¬ trailerOk blk env info resp ∧
        ∃ msg, replaceEnd blk env info resp = (-1, some msg) := by
  have updates := trailer_ret blk env info resp
  have parts : trailerOk blk env info resp ↔
      (replaceTrailer blk info resp env).ret = 0 ∧ env.session.unlocked = true := by
    rw [updates, and_assoc]
    exact Iff.rfl
  rw [parts]
  cases hu : env.session.unlocked with
  | false =>
    refine .inr ⟨by simp, ?_⟩
    simp [replaceEnd, Session.unlock, hu]
  | true =>
    rcases trailer_code blk env info resp with zero | failed
    · exact .inl ⟨⟨zero, rfl⟩, by simp [replaceEnd, Session.unlock, hu, zero]⟩
    · exact .inr ⟨by simp [failed], by simp [replaceEnd, Session.unlock, hu, failed]⟩

theorem portalOps_status {exits : List (Addr × Int)} (some_portal : exits ≠ [])
    (zero : ∀ a ∈ exits, a.2 = 0) : (portalOps exits).status = 0 := by
  induction exits using List.reverseRecOn with
  | nil => exact absurd rfl some_portal
  | append_singleton exits a _ =>
    rw [portalOps, List.foldl_append]
    exact zero a (List.mem_append_right _ List.mem_cons_self)

variable {blk env js checks}

theorem portals_started (starts : ReplaceStarts blk env js checks) (todo : checks.rCheck = true) :
    (replaceJobs blk (replay js) checks env).portals ≠ [] := by
  have open_slot : ∃ a ∈ replaceSlots (replay js) blk.oldNode,
      blockGetHostStatus (replay js) a ≠ some .rpSuccess := by
    have checked := starts.checked
    unfold replaceChecks at checked
    dsimp only at checked
    split at checked
    · cases checked
    · split at checked
      · cases checked
      · split at checked
        · cases checked
        · cases checked
          obtain ⟨a, ha, hs⟩ := List.any_eq_true.mp todo
          exact ⟨a, ha, by simpa using hs⟩
  obtain ⟨a, ha, _⟩ := open_slot
  have filled := starts.filled
  rw [todo, Bool.true_and] at filled
  cases a with
  | none => exact absurd (List.any_eq_false.mp filled none ha) (by simp)
  | some addr =>
    have slot : addr ∈ (replaceSlots (replay js) blk.oldNode).filterMap id :=
      List.mem_filterMap.mpr ⟨some addr, ha, rfl⟩
    simp only [replaceJobs, todo, if_true, ne_eq, List.map_eq_nil_iff]
    exact List.ne_nil_of_mem slot

theorem succeeded_result (starts : ReplaceStarts blk env js checks)
    (ok : (replaceJobs blk (replay js) checks env).succeeded blk.force) (mode : JsonResponseFormat) :
    let resp := collectReplace blk (replay js) checks (replaceJobs blk (replay js) checks env)
    replaceResult resp.cop.status (mimicSuccess { blk with jsonResp := mode } resp)
      resp.rop.status = .success := by
  obtain ⟨create, portals, delete⟩ := ok
  generalize hjobs : replaceJobs blk (replay js) checks env = jobs at create portals delete
  have cop : opDone (collectReplace blk (replay js) checks jobs).cop.status = true := by
    cases hc : jobs.create with
    | none => simp [collectReplace, hc, skippedOp, opDone]
    | some w => simp [collectReplace, hc, oneOp, opDone, create w hc]
  have dop : opDone (mimicSuccess { blk with jsonResp := mode }
      (collectReplace blk (replay js) checks jobs)) = true := by
    cases hd : jobs.delete with
    | none => simp [mimicSuccess, collectReplace, hd, skippedOp, opDone]
    | some w =>
      rcases delete with zero | force
      · simp [mimicSuccess, collectReplace, hd, oneOp, opDone, zero w hd]
      · by_cases zero : w.ret = 0
        · simp [mimicSuccess, collectReplace, hd, oneOp, opDone, zero]
        · by_cases skip : w.ret = gbOpSkipped
          · simp [mimicSuccess, collectReplace, hd, oneOp, opDone, skip]
          · simp [mimicSuccess, collectReplace, hd, oneOp, opDone, zero, skip, force]
  have rop : opDone (collectReplace blk (replay js) checks jobs).rop.status = true := by
    cases todo : checks.rCheck with
    | false =>
      by_cases one : (replay js).mpath = 1
      · simp [collectReplace, todo, one, opDone]
      · simp [collectReplace, todo, one, skippedOp, opDone]
    | true =>
      have started := portals_started starts todo
      rw [hjobs] at started
      have zero : (portalOps (jobs.portals.map (fun p => (p.1, p.2.ret)))).status = 0 := by
        refine portalOps_status (by simpa using started) (fun a ha => ?_)
        obtain ⟨p, hp, rfl⟩ := List.mem_map.mp ha
        exact portals p hp
      simp [collectReplace, todo, zero, opDone]
  dsimp only
  rw [replaceResult, cop, dop, rop]
  rfl

/-- Past the checks a new node that is a valid host is a configured one, and every slot was tried
before. -/
theorem new_configured (starts : ReplaceStarts blk env js checks)
    (valid : isValidAt js blk.newNode = true) :
    isConfigured (latest js blk.newNode) = true ∧
      ∀ slot ∈ replaceSlots (replay js) blk.oldNode,
        portalTried (blockGetHostStatus (replay js) slot) = true := by
  have checked := starts.checked
  unfold replaceChecks at checked
  dsimp only at checked
  split at checked
  · cases checked
  · split at checked
    · cases checked
    · rename_i used
      split at checked
      · cases checked
      · rename_i tried
        have inUse : (blockGetHostStatus (replay js) (some blk.newNode)).any MetaStatus.isValid =
            true := valid
        have configured : isConfigured (blockGetHostStatus (replay js) (some blk.newNode)) = true := by
          simpa [inUse] using used
        refine ⟨configured, fun slot mem => ?_⟩
        simp only [configured, Bool.true_and, List.any_eq_true, not_exists, not_and] at tried
        simpa using tried slot mem

/-- The new node has no slot: one that is configured was not tried. -/
theorem slot_other (starts : ReplaceStarts blk env js checks) {addr : Addr}
    (slot : some addr ∈ replaceSlots (replay js) blk.oldNode) :
    addr ∈ otherNodes blk (replay js) := by
  obtain ⟨i, _, found⟩ := List.mem_map.mp slot
  have other : addr ∈ replaceOthers (replay js) blk.oldNode := List.mem_of_getElem? found
  refine List.mem_filter.mpr ⟨other, bne_iff_ne.mpr ?_⟩
  rintro rfl
  obtain ⟨configured, tried⟩ := new_configured starts (mem_replaceOthers.mp other).1
  have both := tried _ slot
  change portalTried (latest js blk.newNode) = true at both
  unfold isConfigured portalTried at *
  cases status : latest js blk.newNode with
  | none => simp [status] at both
  | some s => cases s <;> simp_all

theorem succeeds_started (starts : ReplaceStarts blk env js checks) :
    ReplaceSucceeds blk (replay js) checks (replaceJobs blk (replay js) checks env) ↔
      (replaceJobs blk (replay js) checks env).succeeded blk.force ∧ AllSlotted blk (replay js) := by
  unfold ReplaceSucceeds ReplaceJobs.succeeded AllSlotted portalDone
  cases todo : checks.rCheck with
  | false =>
    have none : (replaceJobs blk (replay js) checks env).portals = [] := by
      simp [replaceJobs, todo]
    rw [none]
    simp
    tauto
  | true =>
    have portals : (replaceJobs blk (replay js) checks env).portals =
        ((replaceSlots (replay js) blk.oldNode).filterMap id).map (fun a =>
          (a, (glusterBlockReplacePortalRemote a (replaceRobj blk (replay js))).run
            (env.portals a))) := by
      simp [replaceJobs, todo]
    have each : (∀ addr ∈ otherNodes blk (replay js),
          ∃ p ∈ (replaceJobs blk (replay js) checks env).portals, p.1 = addr ∧ p.2.ret = 0) ↔
        (∀ p ∈ (replaceJobs blk (replay js) checks env).portals, p.2.ret = 0) ∧
          ∀ addr ∈ otherNodes blk (replay js), some addr ∈ replaceSlots (replay js) blk.oldNode := by
      rw [portals]
      constructor
      · intro done
        constructor
        · intro p mem
          obtain ⟨addr, slot, rfl⟩ := List.mem_map.mp mem
          have slot : some addr ∈ replaceSlots (replay js) blk.oldNode := by simpa using slot
          obtain ⟨q, started, same, zero⟩ := done addr (slot_other starts slot)
          obtain ⟨other, _, rfl⟩ := List.mem_map.mp started
          cases same
          exact zero
        · intro addr other
          obtain ⟨q, started, same, _⟩ := done addr other
          obtain ⟨host, slot, rfl⟩ := List.mem_map.mp started
          cases same
          simpa using slot
      · rintro ⟨zero, slotted⟩ addr other
        have started : (addr, (glusterBlockReplacePortalRemote addr
            (replaceRobj blk (replay js))).run (env.portals addr)) ∈
            ((replaceSlots (replay js) blk.oldNode).filterMap id).map (fun a =>
              (a, (glusterBlockReplacePortalRemote a (replaceRobj blk (replay js))).run
                (env.portals a))) :=
          List.mem_map.mpr ⟨addr, by simpa using slotted addr other, rfl⟩
        exact ⟨_, started, rfl, zero _ started⟩
    simp only [if_true]
    rw [each]
    tauto

/-- A replace tells the truth exactly when the sub-operations and the steps behind
them all succeed or fail together, where a node without a slot counts as a failure. -/
theorem replace_report (starts : ReplaceStarts blk env js checks) :
    ReplaceTruthful blk env js checks ↔
      ((replaceJobs blk (replay js) checks env).succeeded blk.force ∧ AllSlotted blk (replay js) ↔
        trailerOk blk env (replay js)
          (collectReplace blk (replay js) checks (replaceJobs blk (replay js) checks env))) := by
  rw [← succeeds_started starts]
  unfold ReplaceTruthful
  have shown := fun succeeds => succeeded_result starts ((succeeds_started starts).mp succeeds).1
  have reply := replace_reply blk env js checks starts
  dsimp only at reply shown ⊢
  rw [reply]
  simp only [Option.some.injEq, exists_eq_left']
  generalize hresp :
    collectReplace blk (replay js) checks (replaceJobs blk (replay js) checks env) = resp at *
  have ran : resp.status ≠ gbOpSkipped ∧ resp.status ≠ -1 := by
    have zero : resp.status = 0 := by
      rw [← hresp]
      rfl
    rw [zero]
    decide
  rcases replaceEnd_cases blk env (replay js) resp with ⟨ok, hend⟩ | ⟨failed, msg, hend⟩
  · rw [hend]
    have formatted : ∀ mode, (blockReplaceNodeCliFormatResponse { blk with jsonResp := mode } 0 none
        (some resp)).result =
          replaceResult resp.cop.status (mimicSuccess { blk with jsonResp := mode } resp)
            resp.rop.status := by
      intro mode
      simp [blockReplaceNodeCliFormatResponse, ran.1, ran.2]
    have exit : (blockReplaceNodeCliFormatResponse blk 0 none (some resp)).exit = 0 := by
      simp [blockReplaceNodeCliFormatResponse, ran.1, ran.2, exitCode]
    have notSkipped : (blockReplaceNodeCliFormatResponse blk 0 none (some resp)).result ≠
        .skipped := by
      rw [formatted blk.jsonResp, replaceResult]
      split <;> decide
    constructor
    · rintro ⟨truth, _, code⟩
      exact ⟨fun _ => ok, fun _ => truth.mp ((code.mp exit).resolve_right notSkipped)⟩
    · intro both
      have succeeded := both.mpr ok
      have success := fun mode => (formatted mode).trans (shown succeeded mode)
      refine ⟨⟨fun _ => succeeded, fun _ => success blk.jsonResp⟩, fun mode => ?_, ?_⟩
      · exact (success mode).trans (success blk.jsonResp).symm
      · exact ⟨fun _ => .inl (success blk.jsonResp), fun _ => exit⟩
  · rw [hend]
    have result : ∀ mode, (blockReplaceNodeCliFormatResponse { blk with jsonResp := mode } (-1)
        (some msg) (some resp)).result = .fail := fun _ => rfl
    have exit : (blockReplaceNodeCliFormatResponse blk (-1) (some msg) (some resp)).exit = 255 := rfl
    constructor
    · rintro ⟨truth, _, _⟩
      refine ⟨fun ok => ?_, fun ok => absurd ok failed⟩
      exact absurd ((truth.mpr ok).symm.trans (result blk.jsonResp)) (by decide)
    · intro both
      refine ⟨⟨fun success => ?_, fun ok => absurd (both.mp ok) failed⟩, fun mode => rfl, ?_⟩
      · exact absurd (success.symm.trans (result blk.jsonResp)) (by decide)
      · rw [exit, result blk.jsonResp]
        simp

def replaceSample : BlockReplaceCli where
  volume := "vol"
  blockName := "block"
  oldNode := "10.0.0.1"
  newNode := "10.0.0.4"
  force := false
  jsonResp := .none

/-- Everything succeeds but the portal on one node. -/
def replaceSampleEnv (failing : Addr) : ReplaceEnv where
  session := .good
  caps := allCapable
  volServer := "localhost"
  create := .good
  portals := fun a => if a = failing then { JobOutcome.good with call := .sent 1 } else .good
  delete := .good
  sched := []
  cleanupSuccess := .ok
  prioPath := .ok

def replaceSampleJournal : Journal := configuredLines 3 ["10.0.0.1", "10.0.0.2", "10.0.0.3"]

def replaceSampleChecks : ReplaceChecks := { cCheck := false, dCheck := false, rCheck := true }

theorem replaceSample_starts (failing : Addr) : ReplaceStarts replaceSample
    (replaceSampleEnv failing) replaceSampleJournal replaceSampleChecks where
  connect := rfl
  access := rfl
  caps := by
    change (replaceCaps replaceSample replaceSampleJournal allCapable).1 = 0
    decide
  room := by decide
  checked := by decide
  work := by decide
  filled := by decide

theorem replace_report_sample :
    ReplaceTruthful replaceSample (replaceSampleEnv "10.0.0.3") replaceSampleJournal
        replaceSampleChecks ↔
      ((replaceJobs replaceSample (replay replaceSampleJournal) replaceSampleChecks
            (replaceSampleEnv "10.0.0.3")).succeeded false ∧
          AllSlotted replaceSample (replay replaceSampleJournal) ↔
        trailerOk replaceSample (replaceSampleEnv "10.0.0.3") (replay replaceSampleJournal)
          (collectReplace replaceSample (replay replaceSampleJournal) replaceSampleChecks
            (replaceJobs replaceSample (replay replaceSampleJournal) replaceSampleChecks
              (replaceSampleEnv "10.0.0.3")))) :=
  replace_report (replaceSample_starts "10.0.0.3")

/-- The portal of the first of two nodes fails and the last one hides it. -/
theorem portal_failure_hidden :
    ReplaceStarts replaceSample (replaceSampleEnv "10.0.0.2") replaceSampleJournal
        replaceSampleChecks ∧
      ¬ ReplaceTruthful replaceSample (replaceSampleEnv "10.0.0.2") replaceSampleJournal
        replaceSampleChecks := by
  refine ⟨replaceSample_starts "10.0.0.2", ?_⟩
  rintro ⟨r, hr, truth, _, _⟩
  have success : (blockReplaceCli replaceSample (replaceSampleEnv "10.0.0.2")
      (some replaceSampleJournal)).reply.map BlockResponse.result = some .success := by decide
  rw [hr] at success
  have succeeds := truth.mp (Option.some.inj success)
  have portals := ((succeeds_started (replaceSample_starts "10.0.0.2")).mp succeeds).1.2.1
  exact absurd portals (by decide)

end Report

end GlusterBlock
