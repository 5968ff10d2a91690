import GlusterBlock.HaBound
import GlusterBlock.Regenerate
import GlusterBlock.ReplaceReport

/-! A replace that is asked for again. The checks of the second request read what the workers
of the first one left in the metafile, where the new node is one valid host among others. -/
namespace GlusterBlock

/-- A worker that returns 0 leaves the status of its success. -/
theorem RemoteJob.after_done (j : RemoteJob) (plain : j.size = none)
    (codes : ∀ exit, j.accepts exit = false → exit ≠ 0) {o : JobOutcome}
    (old : Option MetaStatus) (zero : (j.run o).ret = 0) :
    j.after o old = some (j.extra.getD j.done) := by
  obtain ⟨start, call, done, extra⟩ := o
  have failed : (-1 : Int) ≠ 0 := by decide
  rw [j.after_plain plain]
  cases start with
  | notOpened => exact absurd zero failed
  | notWritten => exact absurd zero failed
  | notClosed => exact absurd zero failed
  | ok =>
    cases call with
    | notSent => exact absurd zero failed
    | sent exit =>
      cases accepted : j.accepts exit with
      | false =>
        have code := codes exit accepted
        cases done <;>
          simp [RemoteJob.run, RemoteJob.update, metaUpdate, Act.next, Act.emit, Act.done,
            accepted, code] at zero
      | true =>
        cases more : j.extra with
        | none =>
          cases done <;>
            simp [RemoteJob.run, RemoteJob.update, metaUpdate, Act.next, Act.emit, Act.done,
              accepted, more] at zero
          simp [RemoteJob.statuses, UpdRes.wrote, accepted, more]
        | some status =>
          cases done <;> cases extra <;>
            simp [RemoteJob.run, RemoteJob.update, metaUpdate, Act.next, Act.emit,
              accepted, more] at zero
          simp [RemoteJob.statuses, UpdRes.wrote, accepted, more]

/-- The valid hosts that a replace keeps. -/
def keptHosts (blk : BlockReplaceCli) (js : Journal) : List Addr :=
  (validHosts js).filter (fun a => a != blk.oldNode && a != blk.newNode)

/-- A metafile that shows a replace as done. -/
structure Replaced (blk : BlockReplaceCli) (js : Journal) : Prop where
  old : latest js blk.oldNode = some .cleanupSuccess
  new : isConfigured (latest js blk.newNode) = true
  kept : ∀ a ∈ keptHosts blk js, latest js a = some .rpSuccess
  full : (keptHosts blk js).length + 1 = (replay js).mpath
  prio : (replay js).prioPath ≠ blk.oldNode ∨ (replay js).prioPath = ""

/-- The new node was named in front of a host that is kept. -/
def NamedEarly (blk : BlockReplaceCli) (js : Journal) : Prop :=
  ∃ front behind, hosts js = front ++ blk.newNode :: behind ∧ ∃ a ∈ behind, a ∈ keptHosts blk js

section Checks

variable {blk : BlockReplaceCli} {js : Journal}

theorem mem_keptHosts {a : Addr} :
    a ∈ keptHosts blk js ↔ isValidAt js a = true ∧ a ≠ blk.oldNode ∧ a ≠ blk.newNode := by
  rw [keptHosts, List.mem_filter, mem_validHosts]
  simp

theorem keptHosts_nodup : (keptHosts blk js).Nodup := (validHosts_nodup js).filter _

/-- The hosts of the second request: those that are kept, with the new node in their middle. -/
theorem again_others (valid : isValidAt js blk.newNode = true) (other : blk.oldNode ≠ blk.newNode)
    {front behind : List Addr} (split : hosts js = front ++ blk.newNode :: behind) :
    replaceOthers (replay js) blk.oldNode = front.filter (· ∈ keptHosts blk js) ++
        blk.newNode :: behind.filter (· ∈ keptHosts blk js) ∧
      (front.filter (· ∈ keptHosts blk js)).length +
        (behind.filter (· ∈ keptHosts blk js)).length = (keptHosts blk js).length := by
  have nodup := hosts_nodup js
  rw [split] at nodup
  obtain ⟨_, once, apart⟩ := List.nodup_append.mp nodup
  have pick : ∀ list : List Addr, blk.newNode ∉ list →
      (list.filter (isValidAt js)).filter (· != blk.oldNode) =
        list.filter (· ∈ keptHosts blk js) := by
    intro list without
    rw [List.filter_filter]
    refine List.filter_congr (fun a mem => ?_)
    have differs : a ≠ blk.newNode := fun same => without (same ▸ mem)
    rw [Bool.eq_iff_iff]
    simp [mem_keptHosts, differs, and_comm]
  constructor
  · rw [replaceOthers_eq, validHosts_eq, split, List.filter_append, List.filter_append,
      List.filter_cons_of_pos valid, List.filter_cons_of_pos (by simpa using other.symm),
      pick front (fun mem => apart _ mem _ List.mem_cons_self rfl),
      pick behind (List.nodup_cons.mp once).1]
  · have apart' : (front ++ behind).Nodup :=
      nodup.sublist ((List.Sublist.refl front).append (List.sublist_cons_self _ behind))
    have same : (front.filter (· ∈ keptHosts blk js) ++
        behind.filter (· ∈ keptHosts blk js)).Perm (keptHosts blk js) := by
      rw [← List.filter_append]
      refine (List.perm_ext_iff_of_nodup (apart'.filter _) keptHosts_nodup).mpr (fun a => ?_)
      refine ⟨fun mem => of_decide_eq_true (List.mem_filter.mp mem).2, fun kept => ?_⟩
      have named := valid_hosted (mem_keptHosts.mp kept).1
      rw [split] at named
      have differs := (mem_keptHosts.mp kept).2.2
      refine List.mem_filter.mpr ⟨?_, decide_eq_true kept⟩
      rcases List.mem_append.mp named with early | late
      · exact List.mem_append_left _ early
      · exact List.mem_append_right _ ((List.mem_cons.mp late).resolve_left differs)
    simpa using same.length_eq

/-- The slots are the first of the other hosts, and none of them is empty. -/
theorem slots_filled {info : MetaInfo} {oldNode : Addr}
    (enough : info.mpath - 1 ≤ (replaceOthers info oldNode).length) {slot : Option Addr} :
    slot ∈ replaceSlots info oldNode ↔
      ∃ a ∈ (replaceOthers info oldNode).take (info.mpath - 1), slot = some a := by
  unfold replaceSlots
  simp only [List.mem_map, List.mem_range, List.mem_take_iff_getElem]
  constructor
  · rintro ⟨i, below, rfl⟩
    exact ⟨_, ⟨i, by omega, rfl⟩, List.getElem?_eq_getElem (by omega)⟩
  · rintro ⟨_, ⟨i, below, rfl⟩, rfl⟩
    exact ⟨i, by omega, List.getElem?_eq_getElem (by omega)⟩

/-- The same request has nothing to do, or takes its own new node for one in use. -/
theorem again_run (done : Replaced blk js) (other : blk.oldNode ≠ blk.newNode) (env : ReplaceEnv)
    {front behind : List Addr} (split : hosts js = front ++ blk.newNode :: behind) :
    glusterBlockReplaceNodeRemoteAsync blk (replay js) env =
      if some blk.newNode ∈ replaceSlots (replay js) blk.oldNode then .refused gbNodeInUse
      else .skipped := by
  obtain ⟨others, count⟩ := again_others (configured_valid done.new) other split
  have wide : (replaceOthers (replay js) blk.oldNode).length = (replay js).mpath := by
    rw [others, List.length_append, List.length_cons, ← done.full]
    omega
  have slots : ∀ slot ∈ replaceSlots (replay js) blk.oldNode,
      slot = some blk.newNode ∨ blockGetHostStatus (replay js) slot = some .rpSuccess := by
    intro slot mem
    obtain ⟨a, taken, rfl⟩ := (slots_filled (by rw [wide]; exact Nat.sub_le _ _)).mp mem
    obtain ⟨valid, away⟩ := mem_replaceOthers.mp (List.mem_of_mem_take taken)
    by_cases own : a = blk.newNode
    · exact .inl (congrArg some own)
    · exact .inr (done.kept a (mem_keptHosts.mpr ⟨valid, away, own⟩))
  have new : isConfigured (blockGetHostStatus (replay js) (some blk.newNode)) = true := done.new
  have old : blockGetHostStatus (replay js) (some blk.oldNode) = some .cleanupSuccess := done.old
  have untried : portalTried (blockGetHostStatus (replay js) (some blk.newNode)) = false := by
    rcases Bool.or_eq_true_iff.mp new with plain | auth
    · rw [beq_iff_eq.mp plain]
      rfl
    · rw [beq_iff_eq.mp auth]
      rfl
  unfold glusterBlockReplaceNodeRemoteAsync replaceChecks
  rw [if_neg (by rw [wide]; exact Nat.lt_irrefl _)]
  dsimp only
  rw [old, new]
  by_cases among : some blk.newNode ∈ replaceSlots (replay js) blk.oldNode
  · have flag : (replaceSlots (replay js) blk.oldNode).any
        (fun a => !portalTried (blockGetHostStatus (replay js) a)) = true :=
      List.any_eq_true.mpr ⟨_, among, by rw [untried]; rfl⟩
    simp [among, flag]
  · have moved : ∀ slot ∈ replaceSlots (replay js) blk.oldNode,
        blockGetHostStatus (replay js) slot = some .rpSuccess := by
      intro slot mem
      rcases slots slot mem with own | moved
      · exact absurd (own ▸ mem) among
      · exact moved
    have flag : (replaceSlots (replay js) blk.oldNode).any
        (fun a => !portalTried (blockGetHostStatus (replay js) a)) = false :=
      List.any_eq_false.mpr (fun slot mem => by rw [moved slot mem]; decide)
    have portals : (replaceSlots (replay js) blk.oldNode).any
        (fun a => blockGetHostStatus (replay js) a != some .rpSuccess) = false :=
      List.any_eq_false.mpr (fun slot mem => by rw [moved slot mem]; decide)
    simp [among, flag, portals]

/-- The new node has a slot unless it is the last of the hosts. -/
theorem new_slot (done : Replaced blk js) (other : blk.oldNode ≠ blk.newNode)
    {front behind : List Addr} (split : hosts js = front ++ blk.newNode :: behind) :
    some blk.newNode ∈ replaceSlots (replay js) blk.oldNode ↔
      ∃ a ∈ behind, a ∈ keptHosts blk js := by
  obtain ⟨others, count⟩ := again_others (configured_valid done.new) other split
  have full := done.full
  have enough : (replay js).mpath - 1 ≤ (replaceOthers (replay js) blk.oldNode).length := by
    rw [others, List.length_append, List.length_cons]
    omega
  have some_late : (∃ a ∈ behind, a ∈ keptHosts blk js) ↔
      0 < (behind.filter (· ∈ keptHosts blk js)).length := by
    rw [List.length_pos_iff_exists_mem]
    simp
  rw [slots_filled enough, some_late, others]
  constructor
  · rintro ⟨_, taken, same⟩
    cases same
    by_contra none
    have exact : (replay js).mpath - 1 = (front.filter (· ∈ keptHosts blk js)).length := by omega
    rw [exact, List.take_left] at taken
    exact (mem_keptHosts.mp (of_decide_eq_true (List.mem_filter.mp taken).2)).2.2 rfl
  · intro late
    refine ⟨_, ?_, rfl⟩
    refine List.mem_take_iff_getElem.mpr
      ⟨(front.filter (· ∈ keptHosts blk js)).length, ?_, ?_⟩
    · rw [List.length_append, List.length_cons]
      omega
    · simp

end Checks

section Left

variable {blk : BlockReplaceCli} {js : Journal} {checks : ReplaceChecks} {env : ReplaceEnv}

/-- The metafile behind a replace. -/
def replaceLeft (blk : BlockReplaceCli) (env : ReplaceEnv) (js : Journal) : Journal :=
  js ++ written (blockReplaceCli blk env (some js)).evs

theorem starts_evs (starts : ReplaceStarts blk env js checks) :
    (blockReplaceCli blk env (some js)).evs = replacePool blk js checks env ++
      (replaceTrailer blk (replay js) (collectReplace blk (replay js) checks
        (replaceJobs blk (replay js) checks env)) env).evs := by
  have run : glusterBlockReplaceNodeRemoteAsync blk (replay js) env =
      .ran (runPool (replaceJobs blk (replay js) checks env).workers env.sched)
        (collectReplace blk (replay js) checks (replaceJobs blk (replay js) checks env)) := by
    unfold glusterBlockReplaceNodeRemoteAsync
    rw [if_neg (Nat.not_lt.mpr starts.room), starts.checked]
    simp [starts.work, starts.filled]
  have caps : ¬ (replaceCaps blk js env.caps).1 ≠ 0 := not_not.mpr starts.caps
  simp only [blockReplaceCli, starts.connect, starts.access, if_neg caps, run]
  rw [replaceJobs_workers]
  rfl

/-- The lines of a replace are about hosts and, when it moves, about the path. -/
theorem left_lines (starts : ReplaceStarts blk env js checks) {l : MetaLine}
    (mem : l ∈ written (blockReplaceCli blk env (some js)).evs) :
    l.isHost = true ∨ l = .prioPath blk.newNode := by
  rw [starts_evs starts, written_append] at mem
  rcases List.mem_append.mp mem with pool | trailer
  · exact .inl (runWorkers_lines pool)
  · unfold replaceTrailer at trailer
    rcases next_lines trailer with forced | prio
    · split at forced
      · rw [List.mem_singleton.mp (metaUpdate_lines forced)]
        exact .inl rfl
      · cases forced
    · split at prio
      · exact .inr (List.mem_singleton.mp (metaUpdate_lines prio))
      · cases prio

theorem left_mpath (starts : ReplaceStarts blk env js checks) :
    (replay (replaceLeft blk env js)).mpath = (replay js).mpath := by
  unfold replaceLeft
  rw [mpath_append, no_pick]
  · rfl
  · intro l mem
    rcases left_lines starts mem with host | rfl
    · cases l <;> first | rfl | cases host
    · rfl

/-- The path is off the old node once the steps behind the workers are through. -/
theorem left_prio (starts : ReplaceStarts blk env js checks) (other : blk.oldNode ≠ blk.newNode)
    (ended : (replaceTrailer blk (replay js) (collectReplace blk (replay js) checks
      (replaceJobs blk (replay js) checks env)) env).ret = 0) :
    prioOf (replaceLeft blk env js) ≠ blk.oldNode ∨ prioOf (replaceLeft blk env js) = "" := by
  have picks : ∀ l ∈ written (blockReplaceCli blk env (some js)).evs, ∀ a,
      prioPathOf? l = some a → a = blk.newNode := by
    intro l mem a pick
    rcases left_lines starts mem with host | rfl
    · rw [host_prio host] at pick
      cases pick
    · exact (Option.some.inj pick).symm
  have recorded : prioOf (replaceLeft blk env js) = _ := prioOf_append js _
  rw [recorded]
  cases last : ((written (blockReplaceCli blk env (some js)).evs).filterMap prioPathOf?).getLast? with
  | some a =>
    obtain ⟨l, mem, pick⟩ := List.mem_filterMap.mp (List.mem_of_getLast? last)
    rw [Option.getD_some, picks l mem a pick]
    exact .inl other.symm
  | none =>
    rw [Option.getD_none]
    by_contra moves
    have moves' : (replay js).prioPath ≠ "" ∧ (replay js).prioPath = blk.oldNode := by
      rw [not_or, not_not] at moves
      exact ⟨moves.2, moves.1⟩
    have ok := ((trailer_ret blk env _ _).mp ended).2 moves'
    have none := List.getLast?_eq_none_iff.mp last
    have written' : MetaLine.prioPath blk.newNode ∈
        written (blockReplaceCli blk env (some js)).evs := by
      rw [starts_evs starts, written_append]
      refine List.mem_append_right _ ?_
      have first := ((next_ret _ _).mp ended).1
      unfold replaceTrailer
      rw [Act.next_zero first, written_append, if_pos moves', ok]
      exact List.mem_append_right _ (by simp [metaUpdate, written])
    have picked := List.filterMap_eq_nil_iff.mp none _ written'
    cases picked

theorem replaceChecks_slots {info : MetaInfo} (ok : replaceChecks blk info = .ok checks) :
    (checks.cCheck = true → ∀ slot ∈ replaceSlots info blk.oldNode,
        portalTried (blockGetHostStatus info slot) = true) ∧
      checks.rCheck = (replaceSlots info blk.oldNode).any
        (fun slot => blockGetHostStatus info slot != some .rpSuccess) := by
  unfold replaceChecks at ok
  dsimp only at ok
  split at ok
  · cases ok
  · split at ok
    · cases ok
    · split at ok
      · cases ok
      · rename_i free
        cases ok
        refine ⟨fun configured slot mem => ?_, rfl⟩
        dsimp only at configured
        rw [configured, Bool.true_and, Bool.not_eq_true] at free
        simpa using List.any_eq_false.mp free slot mem

section Worked

variable (starts : ReplaceStarts blk env js checks)
  (full : (keptHosts blk js).length + 1 = (replay js).mpath)
include starts full

/-- The slots hold the hosts that are kept. -/
theorem slots_kept {a : Addr} :
    a ∈ (replaceOthers (replay js) blk.oldNode).take ((replay js).mpath - 1) ↔
      a ∈ keptHosts blk js := by
  obtain ⟨_, configured, _, free⟩ := replaceChecks_ok blk starts.checked
  have others : ∀ b, b ∈ replaceOthers (replay js) blk.oldNode ↔
      isValidAt js b = true ∧ b ≠ blk.oldNode := fun _ => mem_replaceOthers
  have within : keptHosts blk js ⊆ replaceOthers (replay js) blk.oldNode := fun b kept =>
    (others b).mpr ⟨(mem_keptHosts.mp kept).1, (mem_keptHosts.mp kept).2.1⟩
  have enough := (List.subperm_of_subset keptHosts_nodup within).length_le
  have away : blk.newNode ∉
      (replaceOthers (replay js) blk.oldNode).take ((replay js).mpath - 1) := by
    intro taken
    cases new : checks.cCheck with
    | false =>
      have valid := ((others _).mp (List.mem_of_mem_take taken)).1
      exact Bool.false_ne_true ((free new).symm.trans valid)
    | true =>
      have slot := (slots_filled (by omega)).mpr ⟨_, taken, rfl⟩
      have tried := (replaceChecks_slots starts.checked).1 new _ slot
      rw [new] at configured
      rcases Bool.or_eq_true_iff.mp configured.symm with plain | auth
      · rw [beq_iff_eq.mp plain] at tried
        cases tried
      · rw [beq_iff_eq.mp auth] at tried
        cases tried
  have sub : (replaceOthers (replay js) blk.oldNode).take ((replay js).mpath - 1) ⊆
      keptHosts blk js := by
    intro b taken
    obtain ⟨valid, old⟩ := (others b).mp (List.mem_of_mem_take taken)
    exact mem_keptHosts.mpr ⟨valid, old, fun new => away (new ▸ taken)⟩
  have nodup := (replaceOthers_nodup js blk.oldNode).sublist
    (List.take_sublist ((replay js).mpath - 1) _)
  have all := (List.subperm_of_subset nodup sub).perm_of_length_le
    (by rw [List.length_take]; omega)
  exact all.mem_iff

variable (other : blk.oldNode ≠ blk.newNode)
  (worked : (replaceJobs blk (replay js) checks env).succeeded false)
include other worked

theorem worked_old :
    latest (js ++ written (replacePool blk js checks env)) blk.oldNode = some .cleanupSuccess := by
  obtain ⟨_, _, deleted, _⟩ := replaceChecks_ok blk starts.checked
  have slots := fun a => slots_kept starts full (a := a)
  cases gone : checks.dCheck with
  | false =>
    have ret : (replaceDelete blk js env).ret = 0 :=
      (worked.2.2.resolve_right Bool.false_ne_true) _ (by simp [replaceJobs, gone, replaceDelete])
    exact (latest_run (o := env.delete) js
      (j := glusterBlockDeleteRemote blk.oldNode ⟨blk.blockName, (replay js).gbid⟩)
      (replacePool_old other starts.checked gone)).trans
        (RemoteJob.after_done _ rfl (by simp [glusterBlockDeleteRemote, isZero]) _ ret)
  | true =>
    rw [gone] at deleted
    rw [latest_plain]
    · exact beq_iff_eq.mp deleted.symm
    · refine replacePool_rest (fun _ => other) (fun todo => absurd (todo.symm.trans gone) (by simp))
        (fun _ taken => ?_)
      exact (mem_keptHosts.mp ((slots _).mp taken)).2.1 rfl

theorem worked_new :
    isConfigured (latest (js ++ written (replacePool blk js checks env)) blk.newNode) = true := by
  obtain ⟨_, configured, _, _⟩ := replaceChecks_ok blk starts.checked
  have slots := fun a => slots_kept starts full (a := a)
  cases new : checks.cCheck with
  | false =>
    have ret : ((glusterBlockCreateRemote blk.newNode
        (replaceCobj blk (replay js) env.volServer)).run env.create).ret = 0 :=
      worked.1 _ (by simp [replaceJobs, new])
    have shown : latest (js ++ written (replacePool blk js checks env)) blk.newNode = _ :=
      (latest_run (o := env.create) js
        (j := glusterBlockCreateRemote blk.newNode (replaceCobj blk (replay js) env.volServer))
        (replacePool_new other starts.checked new)).trans
          (RemoteJob.after_done _ rfl (by simp [glusterBlockCreateRemote, isZero]) _ ret)
    rw [shown]
    unfold glusterBlockCreateRemote
    dsimp only
    split <;> rfl
  | true =>
    rw [new] at configured
    rw [latest_plain]
    · exact configured.symm
    · refine replacePool_rest (fun todo => absurd (todo.symm.trans new) (by simp))
        (fun _ => other.symm) (fun _ taken => ?_)
      exact (mem_keptHosts.mp ((slots _).mp taken)).2.2 rfl

theorem worked_kept {a : Addr} (kept : a ∈ keptHosts blk js) :
    latest (js ++ written (replacePool blk js checks env)) a = some .rpSuccess := by
  obtain ⟨_, notOld, notNew⟩ := mem_keptHosts.mp kept
  have slot := (slots_kept starts full).mpr kept
  cases portals : checks.rCheck with
  | true =>
    have job : (a, (glusterBlockReplacePortalRemote a (replaceRobj blk (replay js))).run
        (env.portals a)) ∈ (replaceJobs blk (replay js) checks env).portals := by
      unfold replaceJobs
      rw [replaceSlots_hosts, if_pos portals]
      exact List.mem_map.mpr ⟨a, slot, rfl⟩
    have ret := worked.2.1 _ job
    have codes : ∀ exit, (glusterBlockReplacePortalRemote a (replaceRobj blk (replay js))).accepts
        exit = false → exit ≠ 0 := by
      rintro exit refused rfl
      exact Bool.false_ne_true refused.symm
    exact (latest_run (o := env.portals a) js
      (j := glusterBlockReplacePortalRemote a (replaceRobj blk (replay js)))
      (replacePool_portal other starts.checked portals slot)).trans
        (RemoteJob.after_done _ rfl codes _ ret)
  | false =>
    rw [latest_plain]
    · have enough := List.length_pos_of_mem slot
      obtain ⟨i, hi, at'⟩ := List.mem_take_iff_getElem.mp slot
      have mem : some a ∈ replaceSlots (replay js) blk.oldNode :=
        List.mem_map.mpr ⟨i, List.mem_range.mpr (by omega), by
          rw [List.getElem?_eq_getElem (by omega), at']⟩
      have moved := (replaceChecks_slots starts.checked).2
      rw [portals] at moved
      exact not_not.mp (bne_iff_ne.not.mp (List.any_eq_false.mp moved.symm _ mem))
    · exact replacePool_rest (fun _ => notNew) (fun _ => notOld)
        (fun todo => absurd (portals.symm.trans todo) (by simp))

theorem left_split (addr : Addr) : latest (replaceLeft blk env js) addr =
    if addr = blk.oldNode then some .cleanupSuccess
    else latest (js ++ written (replacePool blk js checks env)) addr := by
  have shown := trailer_shown addr blk js env (collectReplace blk (replay js) checks
    (replaceJobs blk (replay js) checks env))
  unfold replaceLeft
  rw [starts_evs starts, written_append, ← List.append_assoc]
  by_cases own : addr = blk.oldNode
  · subst own
    rw [if_pos rfl]
    split at shown
    · have fits : (statusText .cleanupSuccess none).length ≤ 31 := by decide
      rw [latest_after, shown]
      simp [written, effect, fits]
    · rw [latest_plain _ shown]
      exact worked_old starts full other worked
  · rw [if_neg (fun h => own h.1)] at shown
    rw [if_neg own, latest_plain _ shown]

/-- A host that is neither replaced nor kept stays as it is. -/
theorem left_rest {a : Addr} (notOld : a ≠ blk.oldNode) (notNew : a ≠ blk.newNode)
    (rest : a ∉ keptHosts blk js) : latest (replaceLeft blk env js) a = latest js a := by
  rw [left_split starts full other worked, if_neg notOld]
  exact latest_plain js (replacePool_rest (fun _ => notNew) (fun _ => notOld)
    (fun _ taken => rest ((slots_kept starts full).mp taken)))

theorem left_kept {a : Addr} :
    a ∈ keptHosts blk (replaceLeft blk env js) ↔ a ∈ keptHosts blk js := by
  by_cases own : a ≠ blk.oldNode ∧ a ≠ blk.newNode
  · obtain ⟨notOld, notNew⟩ := own
    by_cases kept : a ∈ keptHosts blk js
    · have moved : latest (replaceLeft blk env js) a = some .rpSuccess := by
        rw [left_split starts full other worked, if_neg notOld]
        exact worked_kept starts full other worked kept
      have valid : isValidAt (replaceLeft blk env js) a = true := by
        unfold isValidAt
        rw [moved]
        rfl
      exact iff_of_true (mem_keptHosts.mpr ⟨valid, notOld, notNew⟩) kept
    · rw [mem_keptHosts, mem_keptHosts, isValidAt, left_rest starts full other worked notOld notNew
        kept]
      rfl
  · have gone : ∀ ms, a ∉ keptHosts blk ms := fun ms kept => own (mem_keptHosts.mp kept).2
    exact iff_of_false (gone _) (gone js)

/-- A replace that worked shows as done. -/
theorem left_replaced (ended : (replaceTrailer blk (replay js) (collectReplace blk (replay js) checks
      (replaceJobs blk (replay js) checks env)) env).ret = 0) :
    Replaced blk (replaceLeft blk env js) where
  old := by rw [left_split starts full other worked, if_pos rfl]
  new := by
    rw [left_split starts full other worked, if_neg other.symm]
    exact worked_new starts full other worked
  kept a kept := by
    have before := (left_kept starts full other worked).mp kept
    rw [left_split starts full other worked, if_neg (mem_keptHosts.mp before).2.1]
    exact worked_kept starts full other worked before
  full := by
    have same : (keptHosts blk (replaceLeft blk env js)).Perm (keptHosts blk js) :=
      (List.perm_ext_iff_of_nodup keptHosts_nodup keptHosts_nodup).mpr
        (fun _ => left_kept starts full other worked)
    rw [left_mpath starts, same.length_eq, full]
  prio := left_prio starts other ended

theorem left_valid {a : Addr} : isValidAt (replaceLeft blk env js) a = true ↔
    a ∈ keptHosts blk js ∨ a = blk.newNode := by
  rw [← left_kept starts full other worked, mem_keptHosts]
  have old : latest (replaceLeft blk env js) blk.oldNode = some .cleanupSuccess := by
    rw [left_split starts full other worked, if_pos rfl]
  have new : isConfigured (latest (replaceLeft blk env js) blk.newNode) = true := by
    rw [left_split starts full other worked, if_neg other.symm]
    exact worked_new starts full other worked
  have away : a = blk.oldNode → ¬ isValidAt (replaceLeft blk env js) a = true := by
    rintro rfl
    unfold isValidAt
    rw [old]
    exact Bool.false_ne_true
  by_cases own : a = blk.newNode
  · exact iff_of_true (own ▸ configured_valid new) (.inr own)
  · constructor
    · exact fun valid => .inl ⟨valid, fun same => away same valid, own⟩
    · exact fun h => (h.resolve_right own).1

/-- Nobody is named behind a host that is named for the first time. -/
theorem left_named : ∃ front behind,
    hosts (replaceLeft blk env js) = front ++ blk.newNode :: behind ∧
      ((∃ a ∈ behind, a ∈ keptHosts blk (replaceLeft blk env js)) ↔ NamedEarly blk js) := by
  have known : ∀ a ∈ hosts (written (blockReplaceCli blk env (some js)).evs),
      a ∈ hosts js ∨ a = blk.newNode := by
    intro a mem
    by_contra strange
    obtain ⟨unnamed, notNew⟩ := not_or.mp strange
    have missing := latest_unmentioned unnamed
    have notOld : a ≠ blk.oldNode := fun same =>
      (replaceChecks_ok blk starts.checked).1 (same ▸ missing)
    have rest : a ∉ keptHosts blk js := fun kept =>
      unnamed (valid_hosted (mem_keptHosts.mp kept).1)
    have trailer := trailer_shown a blk js env (collectReplace blk (replay js) checks
      (replaceJobs blk (replay js) checks env))
    rw [if_neg (fun h => notOld h.1)] at trailer
    have pool : hostEvs a (replacePool blk js checks env) = [] :=
      replacePool_rest (fun _ => notNew) (fun _ => notOld)
        (fun _ taken => rest ((slots_kept starts full).mp taken))
    refine hosts_written mem ?_
    rw [starts_evs starts, hostEvs_append, pool, trailer]
    rfl
  have kept : ∀ a, a ∈ keptHosts blk (replaceLeft blk env js) ↔ a ∈ keptHosts blk js :=
    fun _ => left_kept starts full other worked
  simp only [kept]
  by_cases named : blk.newNode ∈ hosts js
  · have same : hosts (replaceLeft blk env js) = hosts js :=
      hosts_append_known (fun a mem => (known a mem).elim id (fun own => own ▸ named))
    rw [same]
    by_cases early : NamedEarly blk js
    · obtain ⟨front, behind, split, late⟩ := early
      exact ⟨front, behind, split, iff_of_true late ⟨front, behind, split, late⟩⟩
    · obtain ⟨front, behind, split⟩ := List.append_of_mem named
      exact ⟨front, behind, split, fun late => ⟨front, behind, split, late⟩,
        fun now => absurd now early⟩
  · have valid : isValidAt (replaceLeft blk env js) blk.newNode = true :=
      (left_valid starts full other worked).mpr (.inr rfl)
    have there : blk.newNode ∈ hosts (written (blockReplaceCli blk env (some js)).evs) :=
      (mem_hosts_append.mp (valid_hosted valid)).resolve_left named
    have last : hosts (replaceLeft blk env js) = hosts js ++ [blk.newNode] := by
      unfold replaceLeft hosts hostLog at *
      rw [List.filterMap_append]
      exact Ledger.mentions_append_new known named there
    refine ⟨hosts js, [], last, iff_of_false (by simp) ?_⟩
    rintro ⟨front, behind, split, _⟩
    exact named (split ▸ List.mem_append_right _ List.mem_cons_self)

end Worked

end Left

/-- Every worker of the replace and every step behind them succeeds. -/
structure ReplaceWorked (blk : BlockReplaceCli) (env : ReplaceEnv) (js : Journal)
    (checks : ReplaceChecks) : Prop where
  starts : ReplaceStarts blk env js checks
  workers : (replaceJobs blk (replay js) checks env).succeeded false
  ended : trailerOk blk env (replay js)
    (collectReplace blk (replay js) checks (replaceJobs blk (replay js) checks env))

/-- The request gets to the replace itself. -/
structure ReplaceEnv.Arrives (blk : BlockReplaceCli) (env : ReplaceEnv) (js : Journal) : Prop where
  connect : env.session.connect = none
  access : env.session.access blk.volume blk.blockName (some js) = .ok js
  caps : (replaceCaps blk js env.caps).1 = 0
  unlocked : env.session.unlocked = true

section Again

variable {blk : BlockReplaceCli} {js : Journal} {checks : ReplaceChecks} {env again : ReplaceEnv}

/-- A replace that worked leaves the kept hosts and the new node. Asked for again it touches
nothing: it is skipped, unless the new node was named in front of a host that is kept. Then the
request is refused. -/
theorem replace_again (worked : ReplaceWorked blk env js checks)
    (other : blk.oldNode ≠ blk.newNode) (unforced : blk.force = false)
    (full : (keptHosts blk js).length + 1 = (replay js).mpath)
    (arrives : again.Arrives blk (replaceLeft blk env js)) :
    (∀ a, a ∈ validHosts (replaceLeft blk env js) ↔ a ∈ keptHosts blk js ∨ a = blk.newNode) ∧
      (blockReplaceCli blk again (some (replaceLeft blk env js))).evs = [] ∧
      ∃ r, (blockReplaceCli blk again (some (replaceLeft blk env js))).reply = some r ∧
        (¬ NamedEarly blk js → r.exit = 0 ∧ r.result = .skipped) ∧
        (NamedEarly blk js → r.result = .fail ∧
          r.errMsg = some (replaceRefusal blk gbNodeInUse)) := by
  have ended := (trailer_ret blk env _ _).mpr ⟨worked.ended.1, worked.ended.2.1⟩
  have done := left_replaced worked.starts full other worked.workers ended
  obtain ⟨front, behind, split, early⟩ := left_named worked.starts full other worked.workers
  have run := again_run done other again split
  have slot := (new_slot done other split).trans early
  have caps : ¬ (replaceCaps blk (replaceLeft blk env js) again.caps).1 ≠ 0 :=
    not_not.mpr arrives.caps
  have still : ¬ ((replay (replaceLeft blk env js)).prioPath ≠ "" ∧
      (replay (replaceLeft blk env js)).prioPath = blk.oldNode) := by
    rintro ⟨some, old⟩
    exact done.prio.elim (fun away => away old) some
  have trailer : replaceTrailer blk (replay (replaceLeft blk env js)) (allSkipped blk) again =
      .done 0 := by
    unfold replaceTrailer allSkipped
    dsimp only
    rw [unforced, Bool.false_and, if_neg Bool.false_ne_true, if_neg still]
    rfl
  refine ⟨fun a => ?_, ?_⟩
  · rw [mem_validHosts]
    exact left_valid worked.starts full other worked.workers
  · by_cases named : NamedEarly blk js
    · rw [if_pos (slot.mpr named)] at run
      simp only [blockReplaceCli, arrives.connect, arrives.access, if_neg caps, run,
        Session.unlock, arrives.unlocked, if_true]
      refine ⟨trivial, _, rfl, fun late => absurd named late, fun _ => ⟨rfl, rfl⟩⟩
    · rw [if_neg (fun taken => named (slot.mp taken))] at run
      simp only [blockReplaceCli, arrives.connect, arrives.access, if_neg caps, run, trailer,
        Session.unlock, arrives.unlocked, if_true]
      exact ⟨rfl, _, rfl, fun _ => ⟨rfl, rfl⟩, fun early => absurd early named⟩

variable {next : BlockReplaceCli} {checks' : ReplaceChecks}

theorem worked_success (worked : ReplaceWorked blk env js checks) :
    ∃ r, (blockReplaceCli blk env (some js)).reply = some r ∧ r.result = .success := by
  have workers : (replaceJobs blk (replay js) checks env).succeeded blk.force :=
    ⟨worked.workers.1, worked.workers.2.1,
      .inl (worked.workers.2.2.resolve_right Bool.false_ne_true)⟩
  have shown := succeeded_result worked.starts workers blk.jsonResp
  dsimp only at shown
  refine ⟨_, replace_reply blk env js checks worked.starts, ?_⟩
  rcases replaceEnd_cases blk env (replay js) (collectReplace blk (replay js) checks
    (replaceJobs blk (replay js) checks env)) with ⟨_, ended⟩ | ⟨failed, _⟩
  · rw [ended]
    simpa [blockReplaceNodeCliFormatResponse, collectReplace, gbOpSkipped] using shown
  · exact absurd worked.ended failed

/-- A replace of the node that the last one brought in calls none of the kept hosts, which are
still shown with the portal of that replace, and yet it reports a success. -/
theorem replaced_twice (worked : ReplaceWorked blk env js checks)
    (other : blk.oldNode ≠ blk.newNode)
    (full : (keptHosts blk js).length + 1 = (replay js).mpath)
    (moves : next.oldNode = blk.newNode)
    (next_worked : ReplaceWorked next again (replaceLeft blk env js) checks') :
    (∀ a ∈ keptHosts blk js,
      hostEvs a (blockReplaceCli next again (some (replaceLeft blk env js))).evs = []) ∧
      ∃ r, (blockReplaceCli next again (some (replaceLeft blk env js))).reply = some r ∧
        r.result = .success := by
  have checked := next_worked.starts.checked
  have moved : ∀ a ∈ keptHosts blk js, latest (replaceLeft blk env js) a = some .rpSuccess := by
    intro a kept
    rw [left_split worked.starts full other worked.workers, if_neg (mem_keptHosts.mp kept).2.1]
    exact worked_kept worked.starts full other worked.workers kept
  have others : ∀ a, a ∈ replaceOthers (replay (replaceLeft blk env js)) next.oldNode ↔
      a ∈ keptHosts blk js := by
    intro a
    rw [mem_replaceOthers, left_valid worked.starts full other worked.workers, moves]
    exact ⟨fun h => h.1.resolve_right h.2, fun kept => ⟨.inl kept, (mem_keptHosts.mp kept).2.2⟩⟩
  have count : (replay (replaceLeft blk env js)).mpath - 1 ≤
      (replaceOthers (replay (replaceLeft blk env js)) next.oldNode).length := by
    have same := (List.perm_ext_iff_of_nodup
      (replaceOthers_nodup (replaceLeft blk env js) next.oldNode) keptHosts_nodup).mpr others
    rw [left_mpath worked.starts, same.length_eq, ← full]
    exact Nat.le_refl _
  have skipped : checks'.rCheck = false := by
    rw [(replaceChecks_slots checked).2]
    refine List.any_eq_false.mpr (fun slot mem => ?_)
    obtain ⟨a, taken, rfl⟩ := (slots_filled count).mp mem
    have shown : blockGetHostStatus (replay (replaceLeft blk env js)) (some a) = some .rpSuccess :=
      moved a ((others a).mp (List.mem_of_mem_take taken))
    rw [shown]
    decide
  refine ⟨fun a kept => ?_, worked_success next_worked⟩
  have notOld : a ≠ next.oldNode := moves ▸ (mem_keptHosts.mp kept).2.2
  have trailer := trailer_shown a next (replaceLeft blk env js) again
    (collectReplace next (replay (replaceLeft blk env js)) checks'
      (replaceJobs next (replay (replaceLeft blk env js)) checks' again))
  rw [if_neg (fun h => notOld h.1)] at trailer
  rw [starts_evs next_worked.starts, hostEvs_append, trailer, List.append_nil]
  refine replacePool_rest (fun todo => ?_) (fun _ => notOld)
    (fun todo => absurd (skipped.symm.trans todo) Bool.false_ne_true)
  rintro rfl
  have free := (replaceChecks_ok next checked).2.2.2 todo
  have valid := (left_valid worked.starts full other worked.workers).mpr (.inl kept)
  exact Bool.false_ne_true (free.symm.trans valid)

/-- A block that was moved to another node, and the way back. -/
def movedSample : Journal :=
  replaceLeft replaceSample (replaceSampleEnv "") replaceSampleJournal

def backSample : BlockReplaceCli :=
  { replaceSample with oldNode := "10.0.0.4", newNode := "10.0.0.1" }

def backSampleChecks : ReplaceChecks := { cCheck := false, dCheck := false, rCheck := false }

theorem movedSample_worked : ReplaceWorked replaceSample (replaceSampleEnv "")
    replaceSampleJournal replaceSampleChecks where
  starts := replaceSample_starts ""
  workers := by
    refine ⟨fun w made => ?_, by decide +kernel, .inl (fun w made => ?_)⟩
    · cases made
      rfl
    · cases made
      rfl
  ended := ⟨fun _ => rfl, fun _ => rfl, rfl⟩

theorem backSample_worked : ReplaceWorked backSample (replaceSampleEnv "") movedSample
    backSampleChecks where
  starts :=
    { connect := rfl
      access := rfl
      caps := by
        change (replaceCaps backSample movedSample allCapable).1 = 0
        decide +kernel
      room := by decide +kernel
      checked := by decide +kernel
      work := by decide
      filled := by decide +kernel }
  workers := by
    refine ⟨fun w made => ?_, by decide +kernel, .inl (fun w made => ?_)⟩
    · cases made
      rfl
    · cases made
      rfl
  ended := ⟨fun _ => rfl, fun _ => rfl, rfl⟩

theorem replace_again_sample : ∃ r,
    (blockReplaceCli backSample (replaceSampleEnv "")
      (some (replaceLeft backSample (replaceSampleEnv "") movedSample))).reply = some r ∧
      r.errMsg = some (replaceRefusal backSample gbNodeInUse) := by
  have arrives : (replaceSampleEnv "").Arrives backSample
      (replaceLeft backSample (replaceSampleEnv "") movedSample) :=
    ⟨rfl, rfl, by
      change (replaceCaps backSample _ allCapable).1 = 0
      decide +kernel, rfl⟩
  obtain ⟨_, _, r, reply, _, refused⟩ := replace_again backSample_worked (by decide) rfl
    (by decide +kernel) arrives
  refine ⟨r, reply, (refused ⟨[], ["10.0.0.2", "10.0.0.3", "10.0.0.4"], ?_, "10.0.0.2", ?_⟩).2⟩
  · decide +kernel
  · decide +kernel

theorem replaced_twice_sample : hostEvs "10.0.0.2"
    (blockReplaceCli backSample (replaceSampleEnv "") (some movedSample)).evs = [] :=
  (replaced_twice movedSample_worked (by decide) (by decide +kernel) rfl backSample_worked).1
    "10.0.0.2" (by decide +kernel)

end Again

end GlusterBlock
