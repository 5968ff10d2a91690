import GlusterBlock.Coordinator

/-! The hosts a metafile mentions, and what a pool of workers does to their
statuses. With one worker a host the status behind the pool depends on that
worker's outcomes alone. -/
namespace GlusterBlock

section Hosts

/-- The hosts a metafile mentions, in the order of first mention. -/
def hosts (js : Journal) : List Addr := Ledger.mentions (hostLog js)

theorem hosts_nodup (js : Journal) : (hosts js).Nodup := Ledger.mentions_nodup _

theorem replay_status (js : Journal) (addr : Addr) :
    blockMetaStatusEnumParse (rawNode js addr).parseRSstatus.status = latest js addr := by
  rw [latest_eq, parseRSstatus_status]
  rfl

theorem replay_nhosts (js : Journal) : (replay js).nhosts = (hosts js).length := by
  rw [MetaInfo.nhosts, replay_list, List.length_map]
  rfl

/-- The hosts that a test of the shown status selects. -/
theorem filter_replay (js : Journal) (p : Option MetaStatus → Bool) :
    ((replay js).list.filter (fun node => p (blockMetaStatusEnumParse node.status))).map
      NodeInfo.addr = (hosts js).filter (fun a => p (latest js a)) := by
  rw [replay_list, List.filter_map, List.map_map]
  have addr : NodeInfo.addr ∘ (fun a => (rawNode js a).parseRSstatus) = id := by
    funext a
    simp [rawNode]
  have test : (fun node : NodeInfo => p (blockMetaStatusEnumParse node.status)) ∘
      (fun a => (rawNode js a).parseRSstatus) = fun a => p (latest js a) := by
    funext a
    exact congrArg p (replay_status js a)
  rw [addr, test, List.map_id]
  rfl

theorem countP_replay (js : Journal) (p : Option MetaStatus → Bool) :
    (replay js).list.countP (fun node => p (blockMetaStatusEnumParse node.status)) =
      (hosts js).countP (fun a => p (latest js a)) := by
  rw [List.countP_eq_length_filter, List.countP_eq_length_filter, ← filter_replay js p,
    List.length_map]

theorem validHosts_eq (js : Journal) :
    validHosts js = (hosts js).filter (isValidAt js) := filter_replay js (·.any MetaStatus.isValid)

theorem mem_hosts_append {js ms : Journal} {addr : Addr} :
    addr ∈ hosts (js ++ ms) ↔ addr ∈ hosts js ∨ addr ∈ hosts ms := by
  unfold hosts hostLog
  rw [List.filterMap_append]
  exact Ledger.mem_mentions_append

theorem hosts_append_known {js ms : Journal} (known : ∀ a ∈ hosts ms, a ∈ hosts js) :
    hosts (js ++ ms) = hosts js := by
  unfold hosts hostLog
  rw [List.filterMap_append]
  exact Ledger.mentions_append_known known

/-- A host without a status is one no line mentions, or the marker of the backing
file. -/
theorem latest_unmentioned {js : Journal} {addr : Addr} (h : addr ∉ hosts js) :
    latest js addr = none := by
  have miss : ¬ addr ∈ Ledger.mentions (hostLog js) := h
  rw [latest, blockGetAddrStatusFromInfo, find_replay, if_neg miss]

theorem valid_hosted {js : Journal} {addr : Addr} (valid : isValidAt js addr = true) :
    addr ∈ hosts js := by
  by_contra unknown
  unfold isValidAt at valid
  rw [latest_unmentioned unknown] at valid
  cases valid

theorem hosts_written {addr : Addr} {evs : List Ev} (h : addr ∈ hosts (written evs)) :
    hostEvs addr evs ≠ [] := by
  obtain ⟨text, hr⟩ := Ledger.mem_mentions.mp h
  obtain ⟨l, hl, hrec⟩ := List.mem_filterMap.mp hr
  obtain ⟨e, he, hle⟩ := List.mem_flatMap.mp hl
  refine List.ne_nil_of_mem (List.mem_filter.mpr ⟨he, ?_⟩)
  cases e with
  | write lines => exact List.any_eq_true.mpr ⟨l, hle, by simp [hrec]⟩
  | _ => cases hle

end Hosts

def UpdRes.wrote : UpdRes → Bool
  | .ok | .notClosed => true
  | .notOpened | .notWritten => false

namespace RemoteJob

/-- The statuses a worker writes, in order. -/
def statuses (j : RemoteJob) (o : JobOutcome) : List MetaStatus :=
  if !o.start.wrote then []
  else if o.start ≠ .ok then [j.start]
  else
    match o.call with
    | .notSent => [j.start]
    | .sent exit =>
      j.start ::
        if !o.done.wrote then []
        else if j.accepts exit then
          j.done :: if o.done = .ok && o.extra.wrote then j.extra.toList else []
        else [j.failed]

def hostLine (j : RemoteJob) (status : MetaStatus) : MetaLine := .host j.addr status j.size

theorem run_written (j : RemoteJob) (o : JobOutcome) :
    written (j.run o).evs = (j.statuses o).map j.hostLine := by
  obtain ⟨start, call, done, extra⟩ := o
  cases start with
  | notOpened => rfl
  | notWritten => rfl
  | notClosed => rfl
  | ok =>
    cases call with
    | notSent => rfl
    | sent exit =>
      cases ha : j.accepts exit with
      | false =>
        cases done <;>
          simp [run, statuses, ha, update, metaUpdate, Act.next, Act.emit, Act.done, UpdRes.wrote,
            written, hostLine]
      | true =>
        cases hx : j.extra with
        | none =>
          cases done <;>
            simp [run, statuses, ha, hx, update, metaUpdate, Act.next, Act.emit, Act.done,
              UpdRes.wrote, written, hostLine]
        | some s =>
          cases done <;> cases extra <;>
            simp [run, statuses, ha, hx, update, metaUpdate, Act.next, Act.emit, UpdRes.wrote,
              written, hostLine]

theorem run_keeps (j : RemoteJob) (o : JobOutcome) : Ev.unlinkMeta ∉ (j.run o).evs := by
  have update : ∀ res status, Ev.unlinkMeta ∉ (j.update res status).evs := by
    intro res status
    cases res <;> simp [RemoteJob.update, metaUpdate]
  have next : ∀ {a b : Act}, Ev.unlinkMeta ∉ a.evs → Ev.unlinkMeta ∉ b.evs →
      Ev.unlinkMeta ∉ (a.next b).evs := by
    intro a b ha hb
    by_cases h : a.ret = 0
    · rw [Act.next_zero h]
      exact fun hm => (List.mem_append.mp hm).elim ha hb
    · rwa [Act.next_fail h]
  have done : ∀ ret, Ev.unlinkMeta ∉ (Act.done ret).evs := fun _ => List.not_mem_nil
  refine next (update _ _) ?_
  cases o.call with
  | notSent => exact done _
  | sent exit =>
    refine next (by simp [Act.emit]) ?_
    split
    · refine next (update _ _) ?_
      cases j.extra with
      | none => exact done _
      | some s => exact update _ _
    · exact next (update _ _) (done _)

/-- The status a host shows behind its worker, from the one before. -/
def after (j : RemoteJob) (o : JobOutcome) (old : Option MetaStatus) : Option MetaStatus :=
  (((j.statuses o).map j.hostLine).filterMap (effect j.addr)).getLast?.getD old

/-- Statuses without a size always fit. -/
theorem after_plain (j : RemoteJob) (plain : j.size = none) (o : JobOutcome)
    (old : Option MetaStatus) :
    j.after o old = ((j.statuses o).getLast?.map some).getD old := by
  have shown : ((j.statuses o).map j.hostLine).filterMap (effect j.addr) =
      (j.statuses o).map some := by
    induction j.statuses o with
    | nil => rfl
    | cons s rest ih =>
      have fits : (statusText s none).length ≤ 31 := Nat.le_trans (lookup_short s) (by decide)
      have here : effect j.addr (j.hostLine s) = some (some s) := by
        simp [hostLine, effect, plain, fits]
      rw [List.map_cons, List.filterMap_cons_some here, ih, List.map_cons]
  rw [after, shown, List.getLast?_map]

end RemoteJob

section Pools

variable {jobs : List (RemoteJob × JobOutcome)} {sched : List Nat}

theorem runWorkers_owner (distinct : (jobs.map (fun j => j.1.addr)).Nodup)
    {j : RemoteJob × JobOutcome} (hj : j ∈ jobs) :
    hostEvs j.1.addr (runPool (runWorkers jobs) sched) =
      hostEvs j.1.addr (j.1.run j.2).evs := by
  obtain ⟨i, hi⟩ := List.getElem?_of_mem hj
  have worker : (runWorkers jobs)[i]? = some (j.1.run j.2) := by simp [runWorkers, hi]
  refine pool_owner worker (fun k v hne hk => ?_)
  obtain ⟨b, hb, rfl⟩ : ∃ b, jobs[k]? = some b ∧ b.1.run b.2 = v := by
    simpa [runWorkers] using hk
  refine b.1.run_other b.2 (fun same => hne ?_)
  obtain ⟨hk', atk⟩ := List.getElem?_eq_some_iff.mp hb
  obtain ⟨hi', ati⟩ := List.getElem?_eq_some_iff.mp hi
  have addrs : (jobs.map (fun j => j.1.addr)).get ⟨k, by simpa using hk'⟩ =
      (jobs.map (fun j => j.1.addr)).get ⟨i, by simpa using hi'⟩ := by
    simp only [List.get_eq_getElem, List.getElem_map, atk, ati]
    exact same
  exact (distinct.getElem_inj_iff).mp addrs

theorem runWorkers_absent {addr : Addr} (away : ∀ j ∈ jobs, j.1.addr ≠ addr) :
    hostEvs addr (runPool (runWorkers jobs) sched) = [] := by
  refine pool_absent (fun w hw => ?_)
  obtain ⟨j, hj, rfl⟩ := List.mem_map.mp hw
  exact j.1.run_other j.2 (away j hj)

theorem runWorkers_keep : Ev.unlinkMeta ∉ runPool (runWorkers jobs) sched := by
  intro h
  obtain ⟨w, hw, he⟩ := pool_mem.mp h
  obtain ⟨j, _, rfl⟩ := List.mem_map.mp hw
  exact j.1.run_keeps j.2 he

/-- A worker writes about its host, with its size. -/
theorem runWorkers_line {l : MetaLine}
    (h : l ∈ written (runPool (runWorkers jobs) sched)) :
    ∃ j ∈ jobs, ∃ s, l = .host j.1.addr s j.1.size := by
  obtain ⟨lines, he, hl⟩ := mem_written.mp h
  obtain ⟨w, hw, hev⟩ := pool_mem.mp he
  obtain ⟨j, hj, rfl⟩ := List.mem_map.mp hw
  have own : l ∈ written (j.1.run j.2).evs := mem_written.mpr ⟨lines, hev, hl⟩
  rw [RemoteJob.run_written] at own
  obtain ⟨s, _, rfl⟩ := List.mem_map.mp own
  exact ⟨j, hj, s, rfl⟩

end Pools

section Pool

variable (args : List Addr) (job : Addr → RemoteJob) (o : Addr → JobOutcome) (sched : List Nat)

/-- One worker for every host of a list. -/
def hostWorkers : List Act := runWorkers (args.map (fun a => (job a, o a)))

theorem mem_hostWorkers {w : Act} :
    w ∈ hostWorkers args job o ↔ ∃ a ∈ args, w = (job a).run (o a) := by
  simp only [hostWorkers, runWorkers, List.mem_map, exists_exists_and_eq_and]
  exact ⟨fun ⟨a, ha, h⟩ => ⟨a, ha, h.symm⟩, fun ⟨a, ha, h⟩ => ⟨a, ha, h.symm⟩⟩

theorem hostWorkers_ret : (hostWorkers args job o).map Act.ret =
    args.map (fun a => ((job a).run (o a)).ret) := by
  simp [hostWorkers, runWorkers]

variable {args job o sched}

theorem hostWorkers_keep : Ev.unlinkMeta ∉ runPool (hostWorkers args job o) sched :=
  runWorkers_keep

theorem hostWorkers_host (nodup : args.Nodup) (own : ∀ a, (job a).addr = a) (addr : Addr) :
    hostEvs addr (runPool (hostWorkers args job o) sched) =
      if addr ∈ args then hostEvs addr ((job addr).run (o addr)).evs else [] := by
  have addrs : (args.map (fun a => (job a, o a))).map (fun j => j.1.addr) = args := by
    rw [List.map_map]
    exact List.map_id'' own args
  by_cases mem : addr ∈ args
  · rw [if_pos mem]
    have worker : (job addr, o addr) ∈ args.map (fun a => (job a, o a)) :=
      List.mem_map_of_mem mem
    have alone : hostEvs (job addr).addr (runPool (hostWorkers args job o) sched) = _ :=
      runWorkers_owner (addrs.symm ▸ nodup) worker
    rwa [own addr] at alone
  · rw [if_neg mem]
    refine runWorkers_absent (fun j hj same => mem ?_)
    rw [← addrs, ← same]
    exact List.mem_map_of_mem hj

theorem hostWorkers_latest (nodup : args.Nodup) (own : ∀ a, (job a).addr = a) (js : Journal)
    (addr : Addr) :
    latest (js ++ written (runPool (hostWorkers args job o) sched)) addr =
      if addr ∈ args then (job addr).after (o addr) (latest js addr) else latest js addr := by
  rw [latest_after, hostWorkers_host nodup own]
  by_cases mem : addr ∈ args
  · rw [if_pos mem, if_pos mem, RemoteJob.after, ← RemoteJob.run_written, own, effects_hostEvs]
  · rw [if_neg mem, if_neg mem]
    rfl

end Pool

section Counting

theorem countP_add_eq_length {α : Type} {p q : α → Bool} {l : List α}
    (disjoint : ∀ a ∈ l, p a = true → q a = false) :
    l.countP p + l.countP q = l.length ↔ ∀ a ∈ l, p a = true ∨ q a = true := by
  have both : l.countP p + l.countP q = l.countP (fun a => p a || q a) := by
    induction l with
    | nil => rfl
    | cons a l ih =>
      have tail := ih (fun b hb => disjoint b (List.mem_cons_of_mem _ hb))
      have head := disjoint a List.mem_cons_self
      simp only [List.countP_cons, ← tail]
      cases hp : p a with
      | true => simp [head hp]; omega
      | false => cases hq : q a <;> simp; omega
  rw [both, List.countP_eq_length]
  simp only [Bool.or_eq_true]

end Counting

end GlusterBlock
