import GlusterBlock.BlockDelete
import GlusterBlock.HostStatus

/-! What a cleanup comes to. It succeeds on the nodes exactly when every host it
has to contact is cleared, whatever the order of the workers. -/
namespace GlusterBlock

/-- The worker got the host to delete and recorded it, or found nothing there. -/
def JobOutcome.cleared (o : JobOutcome) : Prop :=
  o.start = .ok ∧
    (o.call = .sent 0 ∧ o.done.wrote = true ∨ o.call = .sent gbBlockNotFound ∧ o.done = .ok)

instance (o : JobOutcome) : Decidable o.cleared := inferInstanceAs (Decidable (_ ∧ _))

section Worker

theorem delete_notFound (addr : Addr) (dobj : BlockDelete) (o : JobOutcome) :
    ((glusterBlockDeleteRemote addr dobj).run o).ret = gbBlockNotFound ↔
      o.start = .ok ∧ o.call = .sent gbBlockNotFound ∧ o.done = .ok := by
  obtain ⟨start, call, done, extra⟩ := o
  have failed : ¬ (-1 : Int) = gbBlockNotFound := by decide
  cases start with
  | notOpened => simpa [RemoteJob.run, RemoteJob.update, metaUpdate, Act.next] using failed
  | notWritten => simpa [RemoteJob.run, RemoteJob.update, metaUpdate, Act.next] using failed
  | notClosed => simpa [RemoteJob.run, RemoteJob.update, metaUpdate, Act.next] using failed
  | ok =>
    cases call with
    | notSent => simpa [RemoteJob.run, RemoteJob.update, Act.next] using failed
    | sent exit =>
      have shape : ((glusterBlockDeleteRemote addr dobj).run ⟨.ok, .sent exit, done, extra⟩).ret =
          if exit = 0 then (if done = .ok then 0 else -1)
          else if done = .ok then exit else -1 := by
        by_cases zero : exit = 0
        · cases done <;>
            simp [RemoteJob.run, RemoteJob.update, metaUpdate, Act.next, Act.emit,
              glusterBlockDeleteRemote, isZero, zero]
        · cases done <;>
            simp [RemoteJob.run, RemoteJob.update, metaUpdate, Act.next, Act.emit,
              glusterBlockDeleteRemote, isZero, zero]
      rw [shape]
      have positive : gbBlockNotFound ≠ 0 := by decide
      by_cases zero : exit = 0
      · by_cases written : done = .ok <;>
          simp [zero, written, failed, positive.symm]
      · by_cases written : done = .ok <;> simp [zero, written, failed]

/-- A host to be contacted counts as done behind its worker when it was deleted. -/
theorem delete_untouched (addr : Addr) (dobj : BlockDelete) (o : JobOutcome)
    {old : Option MetaStatus} (touched : untouched old = false) :
    untouched ((glusterBlockDeleteRemote addr dobj).after o old) = true ↔
      o.start = .ok ∧ o.call = .sent 0 ∧ o.done.wrote = true := by
  obtain ⟨start, call, done, extra⟩ := o
  rw [RemoteJob.after_plain _ rfl]
  cases start with
  | notOpened => simp [RemoteJob.statuses, UpdRes.wrote, touched]
  | notWritten => simp [RemoteJob.statuses, UpdRes.wrote, touched]
  | notClosed =>
    simp [RemoteJob.statuses, UpdRes.wrote, glusterBlockDeleteRemote, untouched]
  | ok =>
    cases call with
    | notSent => simp [RemoteJob.statuses, UpdRes.wrote, glusterBlockDeleteRemote, untouched]
    | sent exit =>
      by_cases zero : exit = 0
      · cases done <;>
          simp [RemoteJob.statuses, UpdRes.wrote, glusterBlockDeleteRemote, untouched, isZero, zero]
      · cases done <;>
          simp [RemoteJob.statuses, UpdRes.wrote, glusterBlockDeleteRemote, untouched, isZero, zero]

end Worker

section Nodes

theorem deleteFillArgs_eq (js : Journal) :
    glusterBlockDeleteFillArgs (replay js) =
      (hosts js).filter (fun a => !untouched (latest js a)) :=
  filter_replay js (fun status => !untouched status)

theorem mem_deleteFillArgs {js : Journal} {addr : Addr} :
    addr ∈ glusterBlockDeleteFillArgs (replay js) ↔
      addr ∈ hosts js ∧ untouched (latest js addr) = false := by
  rw [deleteFillArgs_eq, List.mem_filter, Bool.not_eq_true']

theorem deleteFillArgs_nodup (js : Journal) : (glusterBlockDeleteFillArgs (replay js)).Nodup :=
  deleteFillArgs_eq js ▸ (hosts_nodup js).filter _

variable {js : Journal} {dobj : BlockDelete} {env : CleanUpEnv}

/-- The effects of the delete workers. -/
def deleteEvs (js : Journal) (dobj : BlockDelete) (env : CleanUpEnv) : List Ev :=
  runPool (hostWorkers (glusterBlockDeleteFillArgs (replay js))
    (fun a => glusterBlockDeleteRemote a dobj) env.jobs) env.sched

theorem deleteEvs_host (addr : Addr) :
    hostEvs addr (deleteEvs js dobj env) =
      if addr ∈ glusterBlockDeleteFillArgs (replay js) then
        hostEvs addr ((glusterBlockDeleteRemote addr dobj).run (env.jobs addr)).evs
      else [] :=
  hostWorkers_host (deleteFillArgs_nodup js) (fun _ => rfl) addr

theorem deleteEvs_latest (addr : Addr) :
    latest (js ++ written (deleteEvs js dobj env)) addr =
      if addr ∈ glusterBlockDeleteFillArgs (replay js) then
        (glusterBlockDeleteRemote addr dobj).after (env.jobs addr) (latest js addr)
      else latest js addr :=
  hostWorkers_latest (deleteFillArgs_nodup js) (fun _ => rfl) js addr

/-- The workers write about hosts of the metafile only. -/
theorem deleteEvs_hosts : hosts (js ++ written (deleteEvs js dobj env)) = hosts js := by
  apply hosts_append_known
  intro a ha
  by_contra unknown
  have away : a ∉ glusterBlockDeleteFillArgs (replay js) :=
    fun h => unknown (mem_deleteFillArgs.mp h).1
  exact hosts_written ha ((deleteEvs_host a).trans (if_neg away))

/-- The count of hosts that are done reaches the number of hosts exactly when every
contacted host is cleared: nobody is counted twice. -/
theorem deleteAsync_ret :
    (glusterBlockDeleteRemoteAsync js dobj env).act.ret = 0 ↔
      ∀ a ∈ glusterBlockDeleteFillArgs (replay js), (env.jobs a).cleared := by
  let args := glusterBlockDeleteFillArgs (replay js)
  let gone : Addr → Bool := fun a =>
    ((glusterBlockDeleteRemote a dobj).run (env.jobs a)).ret == gbBlockNotFound
  let notFound : Addr → Bool := fun a => !untouched (latest js a) && gone a
  let settled : Addr → Bool := fun a =>
    untouched (latest (js ++ written (deleteEvs js dobj env)) a)
  have exits : ((deleteWorkers args dobj env).map Act.ret).count gbBlockNotFound =
      (hosts js).countP notFound := by
    have rets : (deleteWorkers args dobj env).map Act.ret =
        args.map (fun a => ((glusterBlockDeleteRemote a dobj).run (env.jobs a)).ret) :=
      hostWorkers_ret args _ _
    rw [rets, List.count, List.countP_map]
    have filtered : args = (hosts js).filter (fun a => !untouched (latest js a)) :=
      deleteFillArgs_eq js
    rw [filtered, List.countP_filter]
    exact List.countP_congr (fun a _ => by simp [notFound, gone, and_comm])
  have behind : (replay (js ++ written (deleteEvs js dobj env))).list.countP (fun node =>
      untouched (blockMetaStatusEnumParse node.status)) = (hosts js).countP settled := by
    rw [countP_replay, deleteEvs_hosts]
  have ret : (glusterBlockDeleteRemoteAsync js dobj env).act.ret =
      if (hosts js).countP notFound + (hosts js).countP settled = (hosts js).length then 0
      else -1 := by
    rw [← exits, ← behind, ← replay_nhosts]
    rfl
  have contacted : ∀ a ∈ hosts js, untouched (latest js a) = false → a ∈ args :=
    fun a ha touched => mem_deleteFillArgs.mpr ⟨ha, touched⟩
  have settledAt : ∀ a ∈ hosts js, untouched (latest js a) = false →
      (settled a = true ↔
        (env.jobs a).start = .ok ∧ (env.jobs a).call = .sent 0 ∧
          (env.jobs a).done.wrote = true) := by
    intro a ha touched
    have after : settled a =
        untouched ((glusterBlockDeleteRemote a dobj).after (env.jobs a) (latest js a)) :=
      congrArg untouched ((deleteEvs_latest a).trans (if_pos (contacted a ha touched)))
    rw [after]
    exact delete_untouched a dobj (env.jobs a) touched
  have goneAt : ∀ a, gone a = true ↔
      (env.jobs a).start = .ok ∧ (env.jobs a).call = .sent gbBlockNotFound ∧
        (env.jobs a).done = .ok := by
    intro a
    exact beq_iff_eq.trans (delete_notFound a dobj (env.jobs a))
  have once : ∀ a ∈ hosts js, notFound a = true → settled a = false := by
    intro a ha hn
    obtain ⟨touched, hg⟩ := Bool.and_eq_true_iff.mp hn
    obtain ⟨_, call, _⟩ := (goneAt a).mp hg
    refine Bool.eq_false_iff.mpr (fun hs => ?_)
    obtain ⟨_, zero, _⟩ := (settledAt a ha (by simpa using touched)).mp hs
    rw [call] at zero
    exact absurd zero (by decide)
  have zero : ∀ {p : Prop} [Decidable p], (if p then (0 : Int) else -1) = 0 ↔ p := by
    intro p _
    split <;> simp_all
  rw [ret, zero, countP_add_eq_length once]
  constructor
  · intro all a ha
    obtain ⟨hosted, touched⟩ := mem_deleteFillArgs.mp ha
    rcases all a hosted with hn | hs
    · obtain ⟨start, call, done⟩ := (goneAt a).mp (Bool.and_eq_true_iff.mp hn).2
      exact ⟨start, .inr ⟨call, done⟩⟩
    · obtain ⟨start, call, done⟩ := (settledAt a hosted touched).mp hs
      exact ⟨start, .inl ⟨call, done⟩⟩
  · intro cleared a ha
    cases touched : untouched (latest js a) with
    | false =>
      obtain ⟨start, ⟨call, done⟩ | ⟨call, done⟩⟩ := cleared a (contacted a ha touched)
      · exact .inr ((settledAt a ha touched).mpr ⟨start, call, done⟩)
      · refine .inl (Bool.and_eq_true_iff.mpr ⟨by simp [touched], ?_⟩)
        exact (goneAt a).mpr ⟨start, call, done⟩
    | true =>
      have away : a ∉ args := by
        intro h
        rw [(mem_deleteFillArgs.mp h).2] at touched
        exact Bool.false_ne_true touched
      refine .inr ?_
      have same : settled a = untouched (latest js a) :=
        congrArg untouched ((deleteEvs_latest a).trans (if_neg away))
      rw [same, touched]

end Nodes

section Files

/-- The backing file and the metafile can be removed and the steps recorded. -/
def CleanUpEnv.filesOk (env : CleanUpEnv) (unlink : Bool) : Prop :=
  env.entryStart = .ok ∧ (unlink = true → env.deleteEntry ≠ .failed) ∧ env.entryEnd = .ok ∧
    env.unlinkMeta = true

instance (env : CleanUpEnv) (unlink : Bool) : Decidable (env.filesOk unlink) :=
  inferInstanceAs (Decidable (_ ∧ _ ∧ _ ∧ _))

/-- The files are removed at the very end or not at all. -/
theorem deleteFiles_cases (unlink : Bool) (env : CleanUpEnv) :
    env.filesOk unlink ∧ (deleteFiles unlink env).ret = 0 ∧
        (deleteFiles unlink env).evs =
          [.write [.entryDelete .inprogress], .write [.entryDelete .success], .unlinkMeta] ∨
      ¬ env.filesOk unlink ∧ (deleteFiles unlink env).ret ≠ 0 ∧
        Ev.unlinkMeta ∉ (deleteFiles unlink env).evs := by
  unfold CleanUpEnv.filesOk deleteFiles
  cases env.entryStart with
  | notOpened => simp [metaUpdate, Act.next]
  | notWritten => simp [metaUpdate, Act.next]
  | notClosed => simp [metaUpdate, Act.next]
  | ok =>
    rw [metaUpdate_ok, Act.next_zero rfl]
    by_cases kept : (unlink && glusterBlockDeleteEntry env.deleteEntry != 0) = true
    · rw [if_pos kept]
      obtain ⟨asked, failed⟩ := Bool.and_eq_true_iff.mp kept
      have stays : env.deleteEntry = .failed := by
        revert failed
        cases env.deleteEntry <;> decide
      cases env.entryEnd <;> simp [metaUpdate, Act.next, asked, stays]
    · rw [if_neg kept]
      have gone : unlink = true → ¬ env.deleteEntry = .failed := by
        rintro rfl failed
        rw [failed] at kept
        exact kept rfl
      cases env.entryEnd with
      | ok =>
        cases env.unlinkMeta with
        | false => simp [metaUpdate, Act.next, glusterBlockDeleteMetaFile]
        | true => simpa [metaUpdate, Act.next, glusterBlockDeleteMetaFile, Act.emit] using gone
      | _ => simp [metaUpdate, Act.next]

theorem mem_deleteFiles {unlink : Bool} {env : CleanUpEnv} {e : Ev}
    (h : e ∈ (deleteFiles unlink env).evs) :
    e = .touch ∨ (∃ state, e = .write [.entryDelete state]) ∨ e = .unlinkMeta := by
  have update : ∀ {res state}, e ∈ (metaUpdate res [.entryDelete state]).evs →
      e = .touch ∨ (∃ state, e = .write [.entryDelete state]) ∨ e = .unlinkMeta :=
    fun he => (mem_metaUpdate he).imp_right (fun line => .inl ⟨_, line⟩)
  unfold deleteFiles at h
  rcases mem_next h with start | rest
  · exact update start
  · split at rest
    · rcases mem_next rest with failed | done
      · exact update failed
      · cases done
    · rcases mem_next rest with success | removed
      · exact update success
      · unfold glusterBlockDeleteMetaFile at removed
        split at removed
        · exact .inr (.inr (List.mem_singleton.mp removed))
        · cases removed

theorem deleteFiles_lines {unlink : Bool} {env : CleanUpEnv} {l : MetaLine}
    (h : l ∈ written (deleteFiles unlink env).evs) : ∃ state, l = .entryDelete state := by
  obtain ⟨lines, he, hl⟩ := mem_written.mp h
  rcases mem_deleteFiles he with touch | ⟨state, line⟩ | gone
  · cases touch
  · cases line
    exact ⟨state, List.mem_singleton.mp hl⟩
  · cases gone

/-- The backing file is no node's. -/
theorem deleteFiles_calls {unlink : Bool} {env : CleanUpEnv} {addr : Addr} {msg : Msg} {exit : Int} :
    Ev.call addr msg exit ∉ (deleteFiles unlink env).evs := by
  intro h
  rcases mem_deleteFiles h with touch | ⟨_, line⟩ | gone
  · cases touch
  · cases line
  · cases gone

/-- What happens to the files is about no host. -/
theorem deleteFiles_host (unlink : Bool) (env : CleanUpEnv) {addr : Addr}
    (other : addr ≠ "ENTRYDELETE") : hostEvs addr (deleteFiles unlink env).evs = [] := by
  refine List.filter_eq_nil_iff.mpr (fun e he => ?_)
  rcases mem_deleteFiles he with rfl | ⟨_, rfl⟩ | rfl
  · exact Bool.false_ne_true
  · simp [Ev.isAbout, hostRecord, other.symm]
  · exact Bool.false_ne_true

end Files

section CleanUp

variable (js : Journal) (blockname : String) (forcedel unlink : Bool) (env : CleanUpEnv)

def cleanUpObj (js : Journal) (blockname : String) : BlockDelete where
  blockName := blockname
  gbid := (replay js).gbid

/-- Every host that has to be contacted is cleared. -/
def CleanUpEnv.nodesCleared (env : CleanUpEnv) (js : Journal) : Prop :=
  ∀ a ∈ glusterBlockDeleteFillArgs (replay js), (env.jobs a).cleared

instance (env : CleanUpEnv) (js : Journal) : Decidable (env.nodesCleared js) :=
  inferInstanceAs (Decidable (∀ _ ∈ _, _))

theorem weave_nil {α : Type} (sched : List Nat) :
    Weaving.weave sched ([] : List (List α)) = [] := by
  induction sched with
  | nil => rfl
  | cons i sched ih => exact ih

/-- A cleanup without a host to contact is no exception. -/
theorem cleanUp_nodes :
    let nodes : CleanUpResult :=
      if (glusterBlockDeleteFillArgs (replay js)).length > 0 then
        glusterBlockDeleteRemoteAsync js (cleanUpObj js blockname) env
      else { act := .done 0, attempt := [], success := [] }
    nodes.act.evs = deleteEvs js (cleanUpObj js blockname) env ∧
      (nodes.act.ret = 0 ↔ env.nodesCleared js) := by
  dsimp only
  by_cases some_host : (glusterBlockDeleteFillArgs (replay js)).length > 0
  · rw [if_pos some_host]
    exact ⟨rfl, deleteAsync_ret⟩
  · rw [if_neg some_host]
    have none : glusterBlockDeleteFillArgs (replay js) = [] :=
      List.eq_nil_of_length_eq_zero (Nat.eq_zero_of_not_pos some_host)
    refine ⟨?_, ?_⟩
    · rw [deleteEvs, none]
      exact (weave_nil env.sched).symm
    · simp [CleanUpEnv.nodesCleared, none]

theorem cleanUp_evs :
    (glusterBlockCleanUp js blockname forcedel unlink env).act.evs =
      deleteEvs js (cleanUpObj js blockname) env ++
        if forcedel = true ∨ env.nodesCleared js then (deleteFiles unlink env).evs else [] := by
  obtain ⟨evs, ret⟩ := cleanUp_nodes js blockname env
  unfold glusterBlockCleanUp
  dsimp only [cleanUpObj] at evs ret ⊢
  rw [evs]
  refine congrArg (_ ++ ·) ?_
  by_cases goes : forcedel = true ∨ env.nodesCleared js
  · rw [if_pos goes, if_pos (by simpa [ret] using goes)]
  · rw [if_neg goes, if_neg (by simpa [ret] using goes)]
    rfl

theorem cleanUp_ret :
    (glusterBlockCleanUp js blockname forcedel unlink env).act.ret = 0 ↔
      (forcedel = true ∨ env.nodesCleared js) ∧ env.filesOk unlink := by
  obtain ⟨_, ret⟩ := cleanUp_nodes js blockname env
  have files : (deleteFiles unlink env).ret = 0 ↔ env.filesOk unlink := by
    rcases deleteFiles_cases unlink env with ⟨ok, zero, _⟩ | ⟨failed, code, _⟩
    · exact ⟨fun _ => ok, fun _ => zero⟩
    · exact ⟨fun zero => absurd zero code, fun ok => absurd ok failed⟩
  unfold glusterBlockCleanUp
  dsimp only [cleanUpObj] at ret ⊢
  rw [← ret, ← files]
  cases forcedel with
  | true => simp
  | false =>
    generalize (if (glusterBlockDeleteFillArgs (replay js)).length > 0 then
        glusterBlockDeleteRemoteAsync js { blockName := blockname, gbid := (replay js).gbid } env
      else { act := .done 0, attempt := [], success := [] } : CleanUpResult).act.ret = asyncret
    by_cases zero : asyncret = 0 <;> simp [zero]

/-- A cleanup removes the metafile exactly when it gets to the end. -/
theorem cleanUp_removes :
    metaAfter (some js) (glusterBlockCleanUp js blockname forcedel unlink env).act.evs = none ↔
      (forcedel = true ∨ env.nodesCleared js) ∧ env.filesOk unlink := by
  rw [cleanUp_evs, metaAfter_append, deleteEvs, metaAfter_some js hostWorkers_keep]
  by_cases goes : forcedel = true ∨ env.nodesCleared js
  · rw [if_pos goes]
    rcases deleteFiles_cases unlink env with ⟨ok, _, evs⟩ | ⟨failed, _, kept⟩
    · rw [evs]
      exact ⟨fun _ => ⟨goes, ok⟩, fun _ => rfl⟩
    · rw [metaAfter_some _ kept]
      exact ⟨fun h => absurd h (by simp), fun h => absurd h.2 failed⟩
  · rw [if_neg goes]
    exact ⟨fun h => absurd h (by simp [metaAfter]), fun h => absurd h.1 goes⟩

variable {js forcedel unlink env}

/-- One that does not get there keeps the metafile and what it wrote. -/
theorem cleanUp_keeps
    (stuck : ¬ ((forcedel = true ∨ env.nodesCleared js) ∧ env.filesOk unlink)) :
    Ev.unlinkMeta ∉ (glusterBlockCleanUp js blockname forcedel unlink env).act.evs := by
  rw [cleanUp_evs]
  intro h
  rcases List.mem_append.mp h with nodes | files
  · exact hostWorkers_keep nodes
  · split at files
    · rename_i goes
      rcases deleteFiles_cases unlink env with ⟨ok, _⟩ | ⟨_, _, kept⟩
      · exact stuck ⟨goes, ok⟩
      · exact kept files
    · cases files

end CleanUp

end GlusterBlock
