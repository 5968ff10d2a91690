import GlusterBlock.Recorded
import GlusterBlock.VolumeFiles

/-! What a failed create leaves on the volume. The entry takes back what it did when one
of its calls fails; the updates around it do not. -/
namespace GlusterBlock

/-- Nothing of the block is left, and a file that was there, also the one that was given, has
its links again. -/
structure Undone (gbid : String) (file : Metafile) (s s' : Store) : Prop where
  metafile : file = none
  backing : s'.dir.lookup gbid = none
  storage : ∀ n i, s.dir.lookup n = some i →
    s'.dir.lookup n = some i ∧ Links.nlink s'.dir i = Links.nlink s.dir i

theorem undone_same {gbid : String} {s s' : Store} (fresh : s.dir.lookup gbid = none)
    (same : ∀ n, s'.dir.lookup n = s.dir.lookup n) : Undone gbid none s s' where
  metafile := rfl
  backing := (same gbid).trans fresh
  storage n i there := ⟨(same n).trans there, Links.nlink_congr (fun n => by rw [same n])⟩

/-- A create on a free name that replies with a failure leaves nothing. -/
def AllOrNothing (blk : BlockCreateCli) (env : CreateEnv) (calls : EntryCalls)
    (reads : MetaReads) (s : Store) : Prop :=
  let run := Volume.blockCreateCli blk env calls reads none s
  ∀ r, run.1.reply = some r → r.result = .fail →
    Undone env.gbid (metaAfter none run.1.evs) s run.2

section Outcome

variable (blk : BlockCreateCli) (env : CreateEnv) (calls : EntryCalls) (reads : MetaReads)
  (s : Store) (resultCaps : Caps)

/-- The entry is made and all updates in front of the workers are written. -/
def EntryRecorded : Prop :=
  env.header = .ok ∧ EntryMade blk calls s ∧ env.entry = .ok ∧
    (blk.authMode = true → env.password = .ok)

/-- Behind the workers the audit takes the block back, to the end. -/
def RollsBack : Prop :=
  ¬ (reads.audit = true ∧ (createHosts blk).Nodup ∧ ∀ i < blk.mpath, (env.jobs i).configures) ∧
    Volume.CleanUpGoes (auditedLines blk (entryEnv blk env calls s) resultCaps) false env.cleanUp
      reads ∧
    env.cleanUp.filesOk true

/-- The metafile is not opened, or the entry fails, or the audit rolls back. -/
def TakenBack : Prop :=
  env.header = .notOpened ∨ env.header = .ok ∧ ¬ EntryMade blk calls s ∨
    EntryRecorded blk env calls s ∧ RollsBack blk env calls reads s resultCaps

/-- The request gets to its audit, and nothing behind it makes the reply a failure. -/
def Answered : Prop :=
  EntryRecorded blk env calls s ∧ reads.audit = true ∧ reads.report = true ∧
    env.session.unlocked = true

/-- A request that gets past the refusals is taken back or does not reply with a failure
unless it is. -/
def CreateSafe : Prop :=
  ∀ resultCaps, blk.mpath ≤ (blockServerParse blk.blockHosts).length →
    createCapGate blk (capArgs (blockServerParse blk.blockHosts) env.caps) = .ok resultCaps →
    env.session.connect = none →
      TakenBack blk env calls reads s resultCaps ∨ Answered blk env calls reads s

variable {blk env calls reads s resultCaps}

theorem entry_made (fresh : s.dir.lookup env.gbid = none) :
    (∃ size, (entryEnv blk env calls s).createEntry = .created size) ↔ EntryMade blk calls s := by
  rcases createEntry_cases blk env.gbid calls s with
    ⟨⟨_, made⟩, _, size, run, _⟩ | ⟨refused, _, _, _, run, _⟩
  · exact ⟨fun _ => made, fun _ => ⟨size, run⟩⟩
  · refine ⟨fun ⟨size, created⟩ => ?_, fun made => absurd ⟨fresh, made⟩ refused⟩
    cases created.symm.trans run

theorem entry_prepared (fresh : s.dir.lookup env.gbid = none) :
    (entryEnv blk env calls s).prepared blk ↔ EntryRecorded blk env calls s :=
  and_congr_right (fun _ => and_congr_left (fun _ => entry_made fresh))

theorem entry_unlinks (unlinks : calls.unlinkMeta = true) (code : Int) (nonzero : code ≠ 0)
    (errMsg : String) (unlinked : Bool) (failed : (entryEnv blk env calls s).createEntry =
      .failed code nonzero errMsg unlinked) : unlinked = true := by
  rcases createEntry_cases blk env.gbid calls s with
    ⟨_, _, _, run, _⟩ | ⟨_, _, _, _, run, _⟩
  · cases failed.symm.trans run
  · cases failed.symm.trans run
    exact unlinks

/-- A failed entry leaves the directory as it was when its file can be unlinked. -/
theorem entry_restores (unlinks : calls.unlinkFile = none) (unmade : ¬ EntryMade blk calls s)
    (n : String) : (glusterBlockCreateEntry blk env.gbid calls s).1.dir.lookup n =
      s.dir.lookup n := by
  rcases createEntry_cases blk env.gbid calls s with
    ⟨⟨_, made⟩, _⟩ | ⟨_, _, _, _, _, same⟩
  · exact absurd made unmade
  · exact same unlinks n

theorem host_gbid {l : MetaLine} (host : l.isHost = true) : gbidOf? l = none := by
  cases l <;> first | rfl | cases host

theorem unprepared_file {env : CreateEnv} (resultCaps : Caps)
    (away : ∀ code nonzero errMsg unlinked,
      env.createEntry = .failed code nonzero errMsg unlinked → unlinked = true)
    (failed : ¬ env.prepared blk) :
    metaAfter none (createPrepare blk env resultCaps).evs = none ↔
      env.header = .notOpened ∨ env.header = .ok ∧ ¬ ∃ size, env.createEntry = .created size := by
  unfold CreateEnv.prepared at failed
  unfold createPrepare
  cases header : env.header with
  | notOpened => simp [metaUpdate, Act.next, metaAfter]
  | notWritten => simp [metaUpdate, Act.next, metaAfter, metaStep]
  | notClosed => simp [metaUpdate, Act.next, metaAfter, metaStep]
  | ok =>
    rw [metaUpdate_ok, Act.next_zero rfl]
    cases entry : env.createEntry with
    | failed code nonzero errMsg unlinked =>
      rw [away code nonzero errMsg unlinked entry]
      simp [metaAfter, metaStep]
    | created size =>
      cases update : env.entry with
      | ok =>
        cases mode : blk.authMode with
        | false => exact absurd ⟨header, ⟨size, entry⟩, update, by simp [mode]⟩ failed
        | true =>
          cases password : env.password with
          | ok => exact absurd ⟨header, ⟨size, entry⟩, update, fun _ => password⟩ failed
          | _ => simp [metaUpdate, Act.next, metaAfter, metaStep]
      | _ => simp [metaUpdate, Act.next, metaAfter, metaStep]

theorem run_proceeds (few : blk.mpath ≤ (blockServerParse blk.blockHosts).length)
    (gate : createCapGate blk (capArgs (blockServerParse blk.blockHosts) env.caps) =
      .ok resultCaps) (connect : env.session.connect = none) :
    Volume.blockCreateCli blk env calls reads none s =
      (let body := Volume.createBody blk env calls reads resultCaps none s
       let unlocked := env.session.unlock blk.volume body.1.1.act.ret body.1.2
       ({ evs := body.1.1.act.evs,
          reply := some (Volume.blockCreateCliFormatResponse blk
            (metaAfter none body.1.1.act.evs) reads unlocked.1 unlocked.2
            (body.1.1.attempt, body.1.1.success)) }, body.2)) := by
  unfold Volume.blockCreateCli
  dsimp only
  rw [if_neg (Nat.not_lt.mpr few), gate, connect]
  dsimp only
  rw [if_neg (by simp)]

theorem run_refused (calls : EntryCalls) (reads : MetaReads) (s : Store)
    (refused : ¬ (blk.mpath ≤ (blockServerParse blk.blockHosts).length ∧
      (∃ caps, createCapGate blk (capArgs (blockServerParse blk.blockHosts) env.caps) =
        .ok caps) ∧ env.session.connect = none)) :
    (Volume.blockCreateCli blk env calls reads none s).1.evs = [] ∧
      (Volume.blockCreateCli blk env calls reads none s).2 = s := by
  unfold Volume.blockCreateCli
  dsimp only
  by_cases few : blk.mpath > (blockServerParse blk.blockHosts).length
  · rw [if_pos few]
    exact ⟨rfl, rfl⟩
  · rw [if_neg few]
    cases gate : createCapGate blk (capArgs (blockServerParse blk.blockHosts) env.caps) with
    | error e => exact ⟨rfl, rfl⟩
    | ok caps =>
      cases connect : env.session.connect with
      | some e => exact ⟨rfl, rfl⟩
      | none => exact absurd ⟨Nat.not_lt.mp few, ⟨caps, gate⟩, connect⟩ refused

theorem body_unprepared (reads : MetaReads) (resultCaps : Caps)
    (failed : ¬ (entryEnv blk env calls s).prepared blk) :
    let body := Volume.createBody blk env calls reads resultCaps none s
    body.1.1.act = createPrepare blk (entryEnv blk env calls s) resultCaps ∧
      body.1.2 = some (createPrepareMsg blk (entryEnv blk env calls s)) ∧
      body.2 = if env.header = .ok then (glusterBlockCreateEntry blk env.gbid calls s).1 else s := by
  rcases prepare_cases blk (entryEnv blk env calls s) resultCaps with ⟨ok, _⟩ | ⟨_, ret, _⟩
  · exact absurd ok failed
  · unfold Volume.createBody
    dsimp only
    rw [if_pos ret]
    exact ⟨rfl, rfl, rfl⟩

theorem body_prepared (reads : MetaReads) (resultCaps : Caps)
    (prepared : (entryEnv blk env calls s).prepared blk) :
    let body := Volume.createBody blk env calls reads resultCaps none s
    let audit := Volume.glusterBlockAuditRequest
      (auditedLines blk (entryEnv blk env calls s) resultCaps) blk env.cleanUp reads
      (glusterBlockCreateEntry blk env.gbid calls s).1
    metaAfter none body.1.1.act.evs =
        metaAfter (some (auditedLines blk (entryEnv blk env calls s) resultCaps))
          audit.1.act.evs ∧
      body.1.1.act.ret = audit.1.act.ret ∧ body.1.2 = none ∧ body.2 = audit.2 := by
  have shown : metaAfter none ((createPrepare blk (entryEnv blk env calls s) resultCaps).evs ++
      runPool (createWorkers ((blockServerParse blk.blockHosts).take blk.mpath)
        (createObj blk (entryEnv blk env calls s) resultCaps) env.jobs) env.sched) =
          some (auditedLines blk (entryEnv blk env calls s) resultCaps) :=
    (createBody_eq blk (entryEnv blk env calls s) resultCaps prepared).2
  rcases prepare_cases blk (entryEnv blk env calls s) resultCaps with ⟨_, ret, _⟩ | ⟨failed, _⟩
  · have header : env.header = .ok := prepared.1
    unfold Volume.createBody
    dsimp only
    rw [if_neg (not_not.mpr ret), if_pos header]
    dsimp only
    rw [metaAfter_append, shown, Option.getD_some]
    exact ⟨rfl, rfl, rfl, rfl⟩
  · exact absurd prepared failed

theorem message_fails (file : Metafile) (errCode : Int) (msg : String)
    (saved : List Addr × List Addr) :
    (Volume.blockCreateCliFormatResponse blk file reads
      (env.session.unlock blk.volume errCode (some msg)).1
      (env.session.unlock blk.volume errCode (some msg)).2 saved).result = .fail := by
  unfold Session.unlock
  split <;> rfl

/-- Without one a metafile that is there makes the reply a success, when it is read. -/
theorem reply_fails (positive : 0 < blk.mpath) (js : Journal) (errCode : Int)
    (saved : List Addr × List Addr) :
    (Volume.blockCreateCliFormatResponse blk (some js) reads
      (env.session.unlock blk.volume errCode none).1
      (env.session.unlock blk.volume errCode none).2 saved).result = .fail ↔
      ¬ (errCode = 0 ∧ reads.report = true ∧ env.session.unlocked = true) := by
  have nonzero : ¬ blk.mpath = 0 := Nat.ne_of_gt positive
  unfold Session.unlock Volume.blockCreateCliFormatResponse
  cases unlocked : env.session.unlocked with
  | false => simp [GlusterBlock.blockCreateCliFormatResponse, blockFormatErrorResponse]
  | true =>
    cases report : reads.report with
    | false => simp [blockFormatErrorResponse]
    | true => simp [GlusterBlock.blockCreateCliFormatResponse, nonzero, resultOf]

/-- A rollback that gets to its end gives the directory back. Every other audit keeps the
metafile, and the new name when the files could be removed. -/
theorem audit_cases (reads : MetaReads) (resultCaps : Caps)
    (few : blk.mpath ≤ (blockServerParse blk.blockHosts).length)
    (fresh : s.dir.lookup env.gbid = none) (recorded : EntryRecorded blk env calls s) :
    let js := auditedLines blk (entryEnv blk env calls s) resultCaps
    let audit := Volume.glusterBlockAuditRequest js blk env.cleanUp reads
      (glusterBlockCreateEntry blk env.gbid calls s).1
    RollsBack blk env calls reads s resultCaps ∧ metaAfter (some js) audit.1.act.evs = none ∧
        (∀ n, audit.2.dir.lookup n = s.dir.lookup n) ∨
      ¬ RollsBack blk env calls reads s resultCaps ∧
        (∃ left, metaAfter (some js) audit.1.act.evs = some left ∧
          (replay left).gbid = env.gbid) ∧
        (audit.1.act.ret = 0 ↔ reads.audit = true) ∧
        (env.cleanUp.filesOk true →
          audit.2 = (glusterBlockCreateEntry blk env.gbid calls s).1) := by
  intro js
  have gbid : (replay js).gbid = env.gbid :=
    (audited_info blk (entryEnv blk env calls s) resultCaps).gbid
  have grown : ∀ evs, (∀ l ∈ written evs, gbidOf? l = none) →
      (replay (js ++ written evs)).gbid = env.gbid := by
    intro evs plain
    rw [gbid_append, no_pick plain]
    exact gbid
  obtain ⟨i, dir⟩ : ∃ i, (glusterBlockCreateEntry blk env.gbid calls s).1.dir =
      s.dir.insert env.gbid i := by
    rcases createEntry_cases blk env.gbid calls s with
      ⟨_, i, _, _, dir, _⟩ | ⟨refused, _⟩
    · exact ⟨i, dir⟩
    · exact absurd ⟨fresh, recorded.2.1⟩ refused
  have counts : blk.mpath = successcnt (replay js) ↔
      (createHosts blk).Nodup ∧ ∀ i < blk.mpath, (env.jobs i).configures := by
    rw [successcnt_replay, eq_comm]
    exact audited_complete blk (entryEnv blk env calls s) resultCaps few
  unfold RollsBack Volume.glusterBlockAuditRequest
  rw [← counts]
  by_cases all : reads.audit = true ∧ blk.mpath = successcnt (replay js)
  · rw [if_pos all]
    exact .inr ⟨fun h => h.1 all, ⟨js, rfl, gbid⟩, ⟨fun _ => all.1, fun _ => rfl⟩, fun _ => rfl⟩
  · rw [if_neg all]
    dsimp only
    have ret : (if reads.audit = true then (0 : Int) else -1) = 0 ↔ reads.audit = true := by
      cases reads.audit <;> simp
    rcases Volume.cleanUp_cases js blk.blockName false true env.cleanUp reads
        (glusterBlockCreateEntry blk env.gbid calls s).1 with
      ⟨goes, evs, store⟩ | ⟨stuck, store, evs⟩
    · rw [evs, store, metaAfter_append, deleteEvs, metaAfter_some js hostWorkers_keep]
      rcases deleteFiles_cases true env.cleanUp with ⟨ok, _, files⟩ | ⟨failed, _, kept⟩
      · refine .inl ⟨⟨all, goes, ok⟩, ?_, fun n => ?_⟩
        · rw [files]
          rfl
        · unfold Volume.deleteFiles
          dsimp only
          rw [if_pos ⟨ok.1, rfl, ok.2.1 rfl⟩, gbid]
          unfold Store.unlink
          rw [dir]
          exact Links.lookup_erase_insert fresh n
      · refine .inr ⟨fun h => failed h.2.2, ⟨_, metaAfter_some _ kept, ?_⟩, ret,
          fun ok => absurd ok failed⟩
        rw [gbid_append, no_pick]
        · exact grown _ (fun l hl => host_gbid (runWorkers_lines hl))
        · intro l hl
          obtain ⟨state, rfl⟩ := deleteFiles_lines hl
          rfl
    · refine .inr ⟨fun h => stuck h.2.1, ?_, ret, fun _ => store⟩
      rcases evs with ⟨_, none⟩ | nodes
      · rw [none]
        exact ⟨js, rfl, gbid⟩
      · rw [nodes]
        exact ⟨_, metaAfter_some js hostWorkers_keep,
          grown _ (fun l hl => host_gbid (runWorkers_lines hl))⟩

/-- What the request makes of the volume, as far as its reply is a failure. -/
def BodyAtomic (blk : BlockCreateCli) (env : CreateEnv) (calls : EntryCalls) (reads : MetaReads)
    (s : Store) (resultCaps : Caps) : Prop :=
  let body := Volume.createBody blk env calls reads resultCaps none s
  let file := metaAfter none body.1.1.act.evs
  let unlocked := env.session.unlock blk.volume body.1.1.act.ret body.1.2
  (Volume.blockCreateCliFormatResponse blk file reads unlocked.1 unlocked.2
      (body.1.1.attempt, body.1.1.success)).result = .fail →
    Undone env.gbid file s body.2

/-- Behind the first updates the audit decides. -/
theorem recorded_atomic (positive : 0 < blk.mpath)
    (few : blk.mpath ≤ (blockServerParse blk.blockHosts).length)
    (fresh : s.dir.lookup env.gbid = none) (recorded : EntryRecorded blk env calls s) :
    BodyAtomic blk env calls reads s resultCaps ↔
      TakenBack blk env calls reads s resultCaps ∨ Answered blk env calls reads s := by
  obtain ⟨evs, ret, msg, store⟩ := body_prepared reads resultCaps
    ((entry_prepared fresh).mpr recorded)
  unfold BodyAtomic
  dsimp only
  rw [evs, ret, msg, store]
  rcases audit_cases reads resultCaps few fresh recorded with
    ⟨rolled, gone, same⟩ | ⟨stuck, ⟨left, kept, _⟩, code, _⟩
  · rw [gone]
    exact ⟨fun _ => .inl (.inr (.inr ⟨recorded, rolled⟩)), fun _ _ => undone_same fresh same⟩
  · rw [kept, reply_fails positive, code]
    have failed : ¬ TakenBack blk env calls reads s resultCaps := by
      rintro (unopened | ⟨_, unmade⟩ | ⟨_, rolled⟩)
      · cases recorded.1.symm.trans unopened
      · exact unmade recorded.2.1
      · exact stuck rolled
    constructor
    · intro safe
      refine .inr ⟨recorded, ?_⟩
      by_contra unanswered
      cases (safe unanswered).metafile
    · intro safe unanswered
      exact absurd (safe.resolve_left failed).2 unanswered

/-- An update that fails is a failure, and only a file that was not opened, or one that
the entry took away again, is not left behind. -/
theorem unrecorded_atomic (fresh : s.dir.lookup env.gbid = none)
    (unlinks : calls.unlinkFile = none ∧ calls.unlinkMeta = true)
    (unrecorded : ¬ EntryRecorded blk env calls s) :
    BodyAtomic blk env calls reads s resultCaps ↔
      TakenBack blk env calls reads s resultCaps ∨ Answered blk env calls reads s := by
  have unprepared : ¬ (entryEnv blk env calls s).prepared blk := fun h =>
    unrecorded ((entry_prepared fresh).mp h)
  obtain ⟨act, msg, store⟩ := body_unprepared reads resultCaps unprepared
  have file := unprepared_file resultCaps (entry_unlinks unlinks.2) unprepared
  rw [entry_made fresh] at file
  unfold BodyAtomic
  dsimp only
  rw [act, msg, store]
  constructor
  · intro safe
    have undone := safe (message_fails _ _ _ _)
    left
    exact (file.mp undone.metafile).imp id Or.inl
  · rintro (taken | answered) _
    · have early : env.header = .notOpened ∨ env.header = .ok ∧ ¬ EntryMade blk calls s := by
        rcases taken with unopened | failed | ⟨recorded, _⟩
        · exact .inl unopened
        · exact .inr failed
        · exact absurd recorded unrecorded
      rw [file.mpr early]
      apply undone_same fresh
      intro n
      split
      · rename_i opened
        rcases early with unopened | ⟨_, unmade⟩
        · cases opened.symm.trans unopened
        · exact entry_restores unlinks.1 unmade n
      · rfl
    · exact absurd answered.1 unrecorded

end Outcome

/-- A create on a free name is all or nothing exactly when it is taken back or cannot
reply with a failure. -/
theorem create_atomic {blk : BlockCreateCli} {env : CreateEnv} {calls : EntryCalls}
    {reads : MetaReads} {s : Store} (positive : 0 < blk.mpath)
    (fresh : s.dir.lookup env.gbid = none)
    (unlinks : calls.unlinkFile = none ∧ calls.unlinkMeta = true) :
    AllOrNothing blk env calls reads s ↔ CreateSafe blk env calls reads s := by
  have body : ∀ resultCaps, blk.mpath ≤ (blockServerParse blk.blockHosts).length →
      (BodyAtomic blk env calls reads s resultCaps ↔
        TakenBack blk env calls reads s resultCaps ∨ Answered blk env calls reads s) := by
    intro resultCaps few
    by_cases recorded : EntryRecorded blk env calls s
    · exact recorded_atomic positive few fresh recorded
    · exact unrecorded_atomic fresh unlinks recorded
  unfold AllOrNothing CreateSafe
  dsimp only
  by_cases proceeds : blk.mpath ≤ (blockServerParse blk.blockHosts).length ∧
      (∃ caps, createCapGate blk (capArgs (blockServerParse blk.blockHosts) env.caps) = .ok caps) ∧
        env.session.connect = none
  · obtain ⟨few, ⟨resultCaps, gate⟩, connect⟩ := proceeds
    have run : (∀ r, (Volume.blockCreateCli blk env calls reads none s).1.reply = some r →
        r.result = .fail → Undone env.gbid
          (metaAfter none (Volume.blockCreateCli blk env calls reads none s).1.evs) s
          (Volume.blockCreateCli blk env calls reads none s).2) ↔
        BodyAtomic blk env calls reads s resultCaps := by
      rw [run_proceeds few gate connect]
      constructor
      · exact fun safe failed => safe _ rfl failed
      · rintro safe r ⟨⟩ failed
        exact safe failed
    rw [run, body resultCaps few]
    constructor
    · intro safe caps _ ok _
      cases gate.symm.trans ok
      exact safe
    · exact fun safe => safe resultCaps few gate connect
  · obtain ⟨evs, store⟩ := run_refused calls reads s proceeds
    rw [evs, store]
    constructor
    · intro _ caps few gate connect
      exact absurd ⟨few, ⟨caps, gate⟩, connect⟩ proceeds
    · intro _ r _ _
      exact undone_same fresh (fun _ => rfl)

section Sample

def emptyStore : Store := ⟨∅, fun _ => 0⟩

/-- A name leads to its file, and so does the path through `.` in front of it. -/
def sampleWalk : PathWalk := fun path =>
  match path.toList with
  | '.' :: '/' :: name => some (String.ofList name)
  | _ => some path

/-- All calls behind the entry succeed. -/
def goodCalls : EntryCalls where
  space := .enough
  walk := sampleWalk
  mkdir := none
  chdir := none
  stat := none
  link := none
  creat := none
  truncate := none
  zerofill := none
  writeZeros := none
  close := none
  unlinkFile := none
  unlinkMeta := true
  inode := 1

/-- The second host fails, and the block is rolled back. -/
theorem create_atomic_sample :
    AllOrNothing createSample (createSampleEnv []) goodCalls .good emptyStore ↔
      CreateSafe createSample (createSampleEnv []) goodCalls .good emptyStore :=
  create_atomic (by decide) rfl ⟨rfl, rfl⟩

/-- The update behind the entry is not written: the request fails, and the metafile and
the backing file stay. -/
theorem unrecorded_entry_stays :
    ¬ AllOrNothing createSample { createSampleEnv [] with entry := .notWritten } goodCalls .good
      emptyStore := by
  intro safe
  have undone := safe _ (Option.some_get (by decide)).symm (by decide)
  exact absurd undone.metafile (by decide)

end Sample

end GlusterBlock
