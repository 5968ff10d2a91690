import GlusterBlock.Recorded
import GlusterBlock.VolumeFiles

/-! What a cleanup decides from the statuses of the hosts, the answers of the nodes and
its two flags: whom it calls, and whether it takes the files away. -/
namespace GlusterBlock

/-- The worker gets to its call and the call gets out. -/
def JobOutcome.reaches (o : JobOutcome) : Prop :=
  o.start = .ok ∧ o.call ≠ .notSent

instance (o : JobOutcome) : Decidable o.reaches := inferInstanceAs (Decidable (_ ∧ _))

namespace RemoteJob

theorem update_call {j : RemoteJob} {res : UpdRes} {status : MetaStatus} {addr : Addr} {msg : Msg}
    {exit : Int} : Ev.call addr msg exit ∉ (j.update res status).evs := by
  cases res <;> simp [update, metaUpdate]

/-- The only call of a worker is its own, behind a start line that was written. -/
theorem run_call (j : RemoteJob) (o : JobOutcome) {addr : Addr} {msg : Msg} {exit : Int} :
    Ev.call addr msg exit ∈ (j.run o).evs ↔
      o.start = .ok ∧ o.call = .sent exit ∧ addr = j.addr ∧ msg = j.msg := by
  have quiet : ∀ {rest : Act}, Ev.call addr msg exit ∉ rest.evs →
      ∀ res status, Ev.call addr msg exit ∉ ((j.update res status).next rest).evs := by
    intro rest none res status h
    rcases mem_next h with line | later
    · exact update_call line
    · exact none later
  cases start : o.start with
  | ok =>
    have first : (j.update .ok j.start).ret = 0 := rfl
    rw [run, start, Act.next_zero first, List.mem_append, or_iff_right update_call]
    cases call : o.call with
    | notSent => simp
    | sent code =>
      have sent : (Act.emit (.call j.addr j.msg code)).ret = 0 := rfl
      dsimp only
      rw [Act.next_zero sent, List.mem_append]
      constructor
      · rintro (here | behind)
        · cases List.mem_singleton.mp here
          exact ⟨rfl, rfl, rfl, rfl⟩
        · refine absurd behind ?_
          split
          · refine quiet ?_ _ _
            split
            · exact update_call
            · exact List.not_mem_nil
          · exact quiet List.not_mem_nil _ _
      · rintro ⟨_, same, rfl, rfl⟩
        cases same
        exact .inl (List.mem_singleton.mpr rfl)
  | notOpened => simp [run, start, update, metaUpdate, Act.next]
  | notWritten => simp [run, start, update, metaUpdate, Act.next]
  | notClosed => simp [run, start, update, metaUpdate, Act.next]

end RemoteJob

section Nodes

variable {js : Journal} {dobj : BlockDelete} {env : CleanUpEnv}

theorem deleteEvs_call {addr : Addr} {msg : Msg} {exit : Int} :
    Ev.call addr msg exit ∈ deleteEvs js dobj env ↔
      addr ∈ glusterBlockDeleteFillArgs (replay js) ∧ (env.jobs addr).start = .ok ∧
        (env.jobs addr).call = .sent exit ∧ msg = .delete dobj := by
  unfold deleteEvs
  rw [pool_mem]
  constructor
  · rintro ⟨w, mem, call⟩
    obtain ⟨a, args, rfl⟩ := (mem_hostWorkers _ _ _).mp mem
    obtain ⟨start, sent, same, delete⟩ := (RemoteJob.run_call _ _).mp call
    cases same
    exact ⟨args, start, sent, delete⟩
  · rintro ⟨args, start, sent, rfl⟩
    refine ⟨_, (mem_hostWorkers _ _ _).mpr ⟨addr, args, rfl⟩, ?_⟩
    exact (RemoteJob.run_call _ _).mpr ⟨start, sent, rfl, rfl⟩

/-- The success line of a cleared host is the last one about it. -/
theorem after_deleted {addr : Addr} {o : JobOutcome} {old : Option MetaStatus}
    (deleted : o.start = .ok ∧ o.call = .sent 0 ∧ o.done.wrote = true) :
    (glusterBlockDeleteRemote addr dobj).after o old = some .cleanupSuccess := by
  obtain ⟨start, sent, wrote⟩ := deleted
  rw [RemoteJob.after_plain _ rfl]
  have lines : (glusterBlockDeleteRemote addr dobj).statuses o =
      [.cleanupInprogress, .cleanupSuccess] := by
    have begun : UpdRes.ok.wrote = true := rfl
    simp [RemoteJob.statuses, start, sent, wrote, begun, glusterBlockDeleteRemote, isZero]
  rw [lines]
  rfl

/-- A cleared host has its success recorded behind the workers or answered that it does
not know the block. -/
theorem cleared_recorded {addr : Addr} (mem : addr ∈ glusterBlockDeleteFillArgs (replay js))
    (cleared : (env.jobs addr).cleared) :
    latest (js ++ written (deleteEvs js dobj env)) addr = some .cleanupSuccess ∨
      Ev.call addr (.delete dobj) gbBlockNotFound ∈ deleteEvs js dobj env := by
  obtain ⟨start, ⟨sent, wrote⟩ | ⟨sent, _⟩⟩ := cleared
  · left
    rw [deleteEvs_latest, if_pos mem]
    exact after_deleted ⟨start, sent, wrote⟩
  · right
    exact deleteEvs_call.mpr ⟨mem, start, sent, rfl⟩

theorem latest_deleteFiles {addr : Addr} (unlink : Bool) (other : addr ≠ "ENTRYDELETE") :
    latest (js ++ written (deleteFiles unlink env).evs) addr = latest js addr := by
  rw [latest_after, deleteFiles_host unlink env other]
  rfl

end Nodes

namespace Volume

section Files

variable (js : Journal) (blockname : String) (forcedel unlink : Bool) (env : CleanUpEnv)
  (reads : MetaReads) (s : Store)

theorem deleteFiles_store (kept : unlink = false ∨ env.deleteEntry = .failed) (gbid : String) :
    (deleteFiles unlink gbid env s).2 = s := by
  refine if_neg (fun removed => ?_)
  rcases kept with asked | failed
  · exact absurd (asked.symm.trans removed.2.1) Bool.false_ne_true
  · exact removed.2.2 failed

/-- The return code is that of the files, where the cleanup gets to them. -/
theorem cleanUp_zero
    (zero : (glusterBlockCleanUp js blockname forcedel unlink env reads s).1.act.ret = 0) :
    Ev.unlinkMeta ∈ (glusterBlockCleanUp js blockname forcedel unlink env reads s).1.act.evs := by
  have removed : (GlusterBlock.deleteFiles unlink env).ret = 0 →
      Ev.unlinkMeta ∈ (GlusterBlock.deleteFiles unlink env).evs := by
    intro done
    rcases deleteFiles_cases unlink env with ⟨_, _, evs⟩ | ⟨_, failed, _⟩
    · rw [evs]
      simp
    · exact absurd done failed
  cases read : reads.cleanUp with
  | false =>
    unfold glusterBlockCleanUp at zero
    rw [if_pos read] at zero
    cases zero
  | true =>
    have run : ∃ nodes : CleanUpResult,
        glusterBlockCleanUp js blockname forcedel unlink env reads s =
          (let files := if forcedel || nodes.act.ret == 0 then
              deleteFiles unlink (replay js).gbid env s else (.done 0, s)
           ({ nodes with
              act := { evs := nodes.act.evs ++ files.1.evs,
                       ret := if !forcedel && nodes.act.ret != 0 then nodes.act.ret
                         else files.1.ret } }, files.2)) := by
      unfold glusterBlockCleanUp
      rw [if_neg (by simp [read])]
      exact ⟨_, rfl⟩
    obtain ⟨nodes, run⟩ := run
    rw [run] at zero ⊢
    dsimp only at zero ⊢
    by_cases goes : forcedel = true ∨ nodes.act.ret = 0
    · have through : (!forcedel && nodes.act.ret != 0) = false := by
        rcases goes with rfl | done
        · rfl
        · simp [done]
      rw [through, if_neg Bool.false_ne_true, if_pos (by simpa using goes)] at zero
      rw [if_pos (by simpa using goes)]
      exact List.mem_append_right _ (removed zero)
    · rw [if_pos (by simpa using goes)] at zero
      exact absurd (.inr zero) goes

end Files

end Volume

section Decision

variable (js : Journal) (blockname : String) (forcedel unlink : Bool) (env : CleanUpEnv)
  (reads : MetaReads) (s : Store)

theorem cleanUp_calls {addr : Addr} {msg : Msg} {exit : Int} :
    Ev.call addr msg exit ∈
        (Volume.glusterBlockCleanUp js blockname forcedel unlink env reads s).1.act.evs ↔
      reads.cleanUp = true ∧ addr ∈ glusterBlockDeleteFillArgs (replay js) ∧
        (env.jobs addr).start = .ok ∧ (env.jobs addr).call = .sent exit ∧
          msg = .delete (cleanUpObj js blockname) := by
  rw [← deleteEvs_call]
  cases read : reads.cleanUp with
  | false =>
    have silent : (Volume.glusterBlockCleanUp js blockname forcedel unlink env reads
        s).1.act.evs = [] := by
      unfold Volume.glusterBlockCleanUp
      rw [if_pos read]
      rfl
    simp [silent]
  | true =>
    rcases Volume.cleanUp_cases js blockname forcedel unlink env reads s with
      ⟨_, evs, _⟩ | ⟨_, _, ⟨unread, _⟩ | evs⟩
    · rw [evs, List.mem_append, or_iff_left deleteFiles_calls]
      simp
    · exact absurd (unread.symm.trans read) Bool.false_ne_true
    · simp [evs]

/-- Who is called, what has to be so before the files go, and what the return code says. -/
theorem cleanup_decision (marker : "ENTRYDELETE" ∉ hosts js) :
    let run := Volume.glusterBlockCleanUp js blockname forcedel unlink env reads s
    let dobj : BlockDelete := { blockName := blockname, gbid := (replay js).gbid }
    (∀ addr msg, (∃ exit, Ev.call addr msg exit ∈ run.1.act.evs) ↔
      reads.cleanUp = true ∧ msg = .delete dobj ∧ addr ∈ hosts js ∧
        latest js addr ≠ some .configInprogress ∧ latest js addr ≠ some .cleanupSuccess ∧
        (env.jobs addr).reaches) ∧
    (forcedel = false → Ev.unlinkMeta ∈ run.1.act.evs ∨ run.2 ≠ s → ∀ addr ∈ hosts js,
      latest js addr ≠ some .configInprogress → latest js addr ≠ some .cleanupSuccess →
        latest (js ++ written run.1.act.evs) addr = some .cleanupSuccess ∨
          Ev.call addr (.delete dobj) gbBlockNotFound ∈ run.1.act.evs) ∧
    (unlink = false → run.2 = s) ∧
    (unlink = true → env.deleteEntry = .failed →
      Ev.unlinkMeta ∉ run.1.act.evs ∧ run.2 = s) ∧
    (run.1.act.ret = 0 → Ev.unlinkMeta ∈ run.1.act.evs) := by
  dsimp only
  have touched : ∀ addr, untouched (latest js addr) = false ↔
      latest js addr ≠ some .configInprogress ∧ latest js addr ≠ some .cleanupSuccess := by
    intro addr
    simp [untouched]
  have kept : unlink = false ∨ env.deleteEntry = .failed →
      (Volume.glusterBlockCleanUp js blockname forcedel unlink env reads s).2 = s := by
    intro kept
    rcases Volume.cleanUp_cases js blockname forcedel unlink env reads s with
      ⟨_, _, store⟩ | ⟨_, store, _⟩
    · rw [store, Volume.deleteFiles_store unlink env s kept]
    · exact store
  refine ⟨fun addr msg => ?_, fun plain removed addr hosted early late => ?_,
    fun asked => kept (.inl asked), fun asked failed => ⟨fun removed => ?_, kept (.inr failed)⟩,
    Volume.cleanUp_zero js blockname forcedel unlink env reads s⟩
  · simp only [cleanUp_calls js blockname forcedel unlink env reads s, mem_deleteFillArgs,
      touched, JobOutcome.reaches]
    constructor
    · rintro ⟨exit, read, ⟨hosted, early, late⟩, start, sent, rfl⟩
      exact ⟨read, rfl, hosted, early, late, start, by simp [sent]⟩
    · rintro ⟨read, rfl, hosted, early, late, start, sent⟩
      cases call : (env.jobs addr).call with
      | notSent => exact absurd call sent
      | sent exit => exact ⟨exit, read, ⟨hosted, early, late⟩, start, rfl, rfl⟩
  · have mem : addr ∈ glusterBlockDeleteFillArgs (replay js) :=
      mem_deleteFillArgs.mpr ⟨hosted, (touched addr).mpr ⟨early, late⟩⟩
    have other : addr ≠ "ENTRYDELETE" := fun same => marker (same ▸ hosted)
    rcases Volume.cleanUp_cases js blockname forcedel unlink env reads s with
      ⟨goes, evs, _⟩ | ⟨_, store, unread | evs⟩
    · have cleared : env.nodesCleared js := by
        rcases goes.2 with forced | settled
        · exact absurd (plain.symm.trans forced) Bool.false_ne_true
        · exact settled.2
      rw [evs, written_append, ← List.append_assoc, latest_deleteFiles unlink other]
      exact (cleared_recorded mem (cleared addr mem)).imp id (List.mem_append_left _)
    · rw [unread.2] at removed
      rcases removed with gone | changed
      · cases gone
      · exact absurd store changed
    · rw [evs] at removed
      rcases removed with gone | changed
      · exact absurd gone hostWorkers_keep
      · exact absurd store changed
  · rcases Volume.cleanUp_cases js blockname forcedel unlink env reads s with
      ⟨_, evs, _⟩ | ⟨_, _, unread | evs⟩
    · rw [evs] at removed
      rcases List.mem_append.mp removed with nodes | files
      · exact hostWorkers_keep nodes
      · rcases deleteFiles_cases unlink env with ⟨ok, _⟩ | ⟨_, _, none⟩
        · exact ok.2.1 asked failed
        · exact none files
    · rw [unread.2] at removed
      cases removed
    · rw [evs] at removed
      exact hostWorkers_keep removed

end Decision

/-- A cleanup whose updates succeed and whose nodes answer with this exit code. -/
def answeredCleanUp (start : UpdRes) (exit : Int) : CleanUpEnv where
  jobs := fun _ => { JobOutcome.good with start := start, call := .sent exit }
  sched := []
  entryStart := .ok
  deleteEntry := .ok
  entryEnd := .ok
  unlinkMeta := true

/-- Two hosts that do not know the block. -/
theorem cleanup_decision_sample :
    let js := configuredLines 2 ["10.0.0.1", "10.0.0.2"]
    let s : Store := { dir := ∅, size := fun _ => 0 }
    let run := Volume.glusterBlockCleanUp js "block" false true
      (answeredCleanUp .ok gbBlockNotFound) .good s
    "ENTRYDELETE" ∉ hosts js ∧ ∃ exit, Ev.call "10.0.0.2" (.delete (cleanUpObj js "block")) exit ∈
      run.1.act.evs := by
  have marker : "ENTRYDELETE" ∉ hosts (configuredLines 2 ["10.0.0.1", "10.0.0.2"]) := by decide
  refine ⟨marker, ?_⟩
  have decision := cleanup_decision (configuredLines 2 ["10.0.0.1", "10.0.0.2"]) "block" false true
    (answeredCleanUp .ok gbBlockNotFound) .good { dir := ∅, size := fun _ => 0 } marker
  exact (decision.1 "10.0.0.2" _).mpr
    ⟨rfl, rfl, by decide, by decide, by decide, rfl, by simp [answeredCleanUp]⟩

/-- A configured host is not called when the line in front of the call cannot be written. -/
theorem unwritten_start_uncalled :
    let js := configuredLines 1 ["10.0.0.1"]
    let s : Store := { dir := ∅, size := fun _ => 0 }
    let run := Volume.glusterBlockCleanUp js "block" false true (answeredCleanUp .notOpened 0)
      .good s
    "ENTRYDELETE" ∉ hosts js ∧ "10.0.0.1" ∈ hosts js ∧
      latest js "10.0.0.1" = some .configSuccess ∧
      ∀ msg exit, Ev.call "10.0.0.1" msg exit ∉ run.1.act.evs := by
  refine ⟨by decide, by decide, by decide, fun msg exit call => ?_⟩
  have silent : (glusterBlockCleanUp (configuredLines 1 ["10.0.0.1"]) "block" false true
      (answeredCleanUp .notOpened 0)).act.evs = [] := by decide
  rw [Volume.cleanUp_good, silent] at call
  cases call

end GlusterBlock
