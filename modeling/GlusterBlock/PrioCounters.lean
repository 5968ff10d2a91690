import GlusterBlock.CreateAtomic
import GlusterBlock.DeleteRetry
import GlusterBlock.GenConfig

/-! The load balance counters over the requests of a volume: what each request does to
them, and when they go on to say how many blocks have a host as their priority path. -/
namespace GlusterBlock

section Requests

/-- The refusals in front of the first update of a create. -/
def createReaches (blk : BlockCreateCli) (env : CreateEnv) (file : Metafile) : Option Caps :=
  let hosts := blockServerParse blk.blockHosts
  if blk.mpath > hosts.length then none
  else
    match createCapGate blk (capArgs hosts env.caps), env.session.connect with
    | .ok resultCaps, none =>
      if env.session.accessErr.isNone && file.isSome then none else some resultCaps
    | _, _ => none

/-- Behind the audit the path counts, whatever the rollback did. -/
def createPrio (blk : BlockCreateCli) (env : CreateEnv) (calls : PrioCalls) (file : Metafile)
    (prio : Prio) : Prio :=
  match createReaches blk env file with
  | none => prio
  | some resultCaps =>
    let path := createPrioPath env resultCaps
    if (createBody blk env resultCaps file).1.act.ret = 0 ∧
        resultCaps .createLoadBalance = false ∧ path ≠ "" then
      blockIncPrioAttr prio calls path
    else prio

/-- The checks in front of the cleanup of a delete. -/
def deleteReaches (blk : BlockDeleteCli) (env : DeleteEnv) (file : Metafile) : Option Journal :=
  match env.session.connect, env.session.access blk.volume blk.blockName file with
  | none, .ok js =>
    if blk.force then some js
    else
      match glusterBlockGetListFromInfo (replay js) with
      | none => none
      | some list => if (checkHosts (.delete blk) list env.caps).1 ≠ 0 then none else some js
  | _, _ => none

def deletePrio (blk : BlockDeleteCli) (env : DeleteEnv) (calls : PrioCalls) (file : Metafile)
    (prio : Prio) : Prio :=
  match deleteReaches blk env file with
  | none => prio
  | some js =>
    let res := glusterBlockCleanUp js blk.blockName blk.force blk.unlink env.cleanUp
    if res.act.ret = 0 ∧ (replay js).prioPath ≠ "" then
      blockDecPrioAttr prio calls (replay js).prioPath
    else prio

end Requests

/-- A request on a volume with the calls on `prio.info`. -/
inductive PrioRequest where
  | create (blk : BlockCreateCli) (env : CreateEnv) (calls : PrioCalls)
  | delete (blk : BlockDeleteCli) (env : DeleteEnv) (calls : PrioCalls)
  | replace (blk : BlockReplaceCli) (env : ReplaceEnv)
  | genConfig (addr : Addr) (env : GenConfigEnv)

namespace VolumeMeta

def put (v : VolumeMeta) (name : String) : Metafile → Tally.Table String Journal
  | none => v.metas.erase name
  | some js => v.metas.insert name js

/-- The path of a create is chosen among the hosts of its list. -/
def createEnv (v : VolumeMeta) (blk : BlockCreateCli) (env : CreateEnv) (calls : PrioCalls) :
    CreateEnv :=
  { env with prioPath := blockGetPrioPath v.prio calls (blockServerParse blk.blockHosts) }

def after (v : VolumeMeta) : PrioRequest → VolumeMeta
  | .create blk env calls =>
    let env := v.createEnv blk env calls
    let file := v.metas.lookup blk.blockName
    { metas := v.put blk.blockName (metaAfter file (blockCreateCli blk env file).evs),
      prio := createPrio blk env calls file v.prio }
  | .delete blk env calls =>
    let file := v.metas.lookup blk.blockName
    { metas := v.put blk.blockName (metaAfter file (blockDeleteCli blk env file).evs),
      prio := deletePrio blk env calls file v.prio }
  | .replace blk env =>
    let file := v.metas.lookup blk.blockName
    { metas := v.put blk.blockName (metaAfter file (blockReplaceCli blk env file).evs),
      prio := v.prio }
  | .genConfig addr env => (getSoTgArrays env addr v ⟨[], []⟩).1

end VolumeMeta

def prioOf (js : Journal) : Addr := (replay js).prioPath

/-- Each counter is the number of blocks with the host as their priority path. -/
def PrioCounted (v : VolumeMeta) : Prop :=
  ∀ h, h ≠ "" → counter v.prio h = Tally.tally v.metas prioOf h

/-- The hosts are such as the command line accepts, with the empty names that it skips,
and every call on the storage succeeds. -/
def PrioRequest.storageOk : PrioRequest → Prop
  | create blk env calls =>
    (∀ a ∈ blockServerParse blk.blockHosts, a = "" ∨ addrAcceptable a = true) ∧
      env.session = .good ∧ calls = .good ∧ env.header = .ok ∧ env.entry = .ok ∧
      env.password = .ok ∧ (∀ code nonzero errMsg unlinked,
        env.createEntry = .failed code nonzero errMsg unlinked → unlinked = true) ∧
      env.cleanUp.filesOk true
  | delete blk env calls => env.session = .good ∧ calls = .good ∧ env.cleanUp.filesOk blk.unlink
  | replace blk env => addrAcceptable blk.newNode = true ∧ env.session = .good
  | genConfig _ env =>
    env.prioCalls = .good ∧ (∀ n, env.readMeta n = true) ∧ ∀ n, env.update n = .ok

/-- The workers do not get through, and the rollback gets to its end. -/
def createUndone (blk : BlockCreateCli) (env : CreateEnv) (resultCaps : Caps) : Prop :=
  env.prepared blk ∧ ¬ ((createHosts blk).Nodup ∧ ∀ i < blk.mpath, (env.jobs i).configures) ∧
    env.cleanUp.nodesCleared (auditedLines blk env resultCaps)

/-- The replace passes all its checks. -/
def replaceGoes (blk : BlockReplaceCli) (env : ReplaceEnv) (js : Journal) : Prop :=
  (replaceCaps blk js env.caps).1 = 0 ∧
    (replaceOthers (replay js) blk.oldNode).length ≤ (replay js).mpath ∧
    ∃ checks, replaceChecks blk (replay js) = .ok checks ∧
      (checks.rCheck = true → ∀ slot ∈ replaceSlots (replay js) blk.oldNode, slot ≠ none)

/-- No create with a priority path is taken back, and no replace is of the host that is
the path of the block. -/
def PrioRequest.steady (v : VolumeMeta) : PrioRequest → Prop
  | create blk env calls =>
    let env := v.createEnv blk env calls
    ∀ resultCaps, createReaches blk env (v.metas.lookup blk.blockName) = some resultCaps →
      createPrioPath env resultCaps ≠ "" → ¬ createUndone blk env resultCaps
  | replace blk env => ∀ js, v.metas.lookup blk.blockName = some js → replaceGoes blk env js →
      prioOf js = "" ∨ prioOf js ≠ blk.oldNode
  | _ => True

/-- Any number of requests on one volume. -/
def PrioRun : VolumeMeta → VolumeMeta → Prop :=
  Relation.ReflTransGen (fun v v' =>
    ∃ req : PrioRequest, req.storageOk ∧ req.steady v ∧ v' = v.after req)

section Reaches

theorem create_reaches (blk : BlockCreateCli) (env : CreateEnv) (file : Metafile) :
    (createReaches blk env file = none ∧ (blockCreateCli blk env file).evs = []) ∨
      ∃ resultCaps, createReaches blk env file = some resultCaps ∧
        blk.mpath ≤ (blockServerParse blk.blockHosts).length ∧
        (env.session.accessErr = none → file = none) ∧
        (blockCreateCli blk env file).evs = (createBody blk env resultCaps file).1.act.evs := by
  unfold createReaches blockCreateCli
  dsimp only
  by_cases few : blk.mpath > (blockServerParse blk.blockHosts).length
  · rw [if_pos few, if_pos few]
    exact .inl ⟨rfl, rfl⟩
  · rw [if_neg few, if_neg few]
    cases createCapGate blk (capArgs (blockServerParse blk.blockHosts) env.caps) with
    | error e => exact .inl ⟨rfl, rfl⟩
    | ok caps =>
      cases env.session.connect with
      | some e => exact .inl ⟨rfl, rfl⟩
      | none =>
        dsimp only
        by_cases taken : (env.session.accessErr.isNone && file.isSome) = true
        · rw [if_pos taken, if_pos taken]
          exact .inl ⟨rfl, rfl⟩
        · rw [if_neg taken, if_neg taken]
          refine .inr ⟨caps, rfl, Nat.not_lt.mp few, fun finds => ?_, rfl⟩
          cases file with
          | none => rfl
          | some js => exact absurd (by simp [finds]) taken

theorem delete_reaches (blk : BlockDeleteCli) (env : DeleteEnv) (file : Metafile) :
    (deleteReaches blk env file = none ∧ (blockDeleteCli blk env file).evs = []) ∨
      ∃ js, file = some js ∧ deleteReaches blk env file = some js ∧
        (blockDeleteCli blk env file).evs =
          (glusterBlockCleanUp js blk.blockName blk.force blk.unlink env.cleanUp).act.evs := by
  unfold deleteReaches blockDeleteCli
  cases env.session.connect with
  | some e => exact .inl ⟨rfl, rfl⟩
  | none =>
    dsimp only
    rcases access_cases env.session blk.volume blk.blockName file with ⟨e, failed⟩ | ⟨js, rfl, ok⟩
    · rw [failed]
      exact .inl ⟨rfl, rfl⟩
    · rw [ok]
      dsimp only
      by_cases force : blk.force = true
      · rw [if_pos force, if_pos force]
        exact .inr ⟨js, rfl, rfl, rfl⟩
      · rw [if_neg force, if_neg force]
        cases glusterBlockGetListFromInfo (replay js) with
        | none => exact .inl ⟨rfl, rfl⟩
        | some list =>
          dsimp only
          by_cases refused : (checkHosts (.delete blk) list env.caps).1 ≠ 0
          · rw [if_pos refused, if_pos refused]
            exact .inl ⟨rfl, rfl⟩
          · rw [if_neg refused, if_neg refused]
            exact .inr ⟨js, rfl, rfl, rfl⟩

end Reaches

section Fields

theorem prioOf_append (js ms : Journal) :
    prioOf (js ++ ms) = (ms.filterMap prioPathOf?).getLast?.getD (prioOf js) :=
  replay_field MetaInfo.prioPath prioPathOf? (fun _ => rfl) (fun _ l => by cases l <;> rfl) js ms

theorem host_prio {l : MetaLine} (host : l.isHost = true) : prioPathOf? l = none := by
  cases l <;> first | rfl | cases host

theorem prioOf_grown {js ms : Journal} (plain : ∀ l ∈ ms, prioPathOf? l = none) :
    prioOf (js ++ ms) = prioOf js := by
  rw [prioOf_append, no_pick plain]
  rfl

end Fields

/-- What is kept besides the numbers: the paths and the hosts have short names. -/
structure PrioSound (v : VolumeMeta) : Prop where
  counted : PrioCounted v
  paths : ∀ n js, v.metas.lookup n = some js → Short (prioOf js)
  known : ∀ n js, v.metas.lookup n = some js → ∀ a ∈ hosts js, Short a

/-- The block behind a metafile has this path. -/
def shows (file : Metafile) (h : Addr) : Bool := file.any (fun js => prioOf js = h)

section Put

variable {v : VolumeMeta} {name : String} {file : Metafile} {prio : Prio}

theorem put_lookup {n : String} {js : Journal} (there : (v.put name file).lookup n = some js) :
    file = some js ∨ v.metas.lookup n = some js := by
  by_cases same : n = name
  · subst n
    cases file with
    | none =>
      rw [VolumeMeta.put, AList.lookup_erase] at there
      cases there
    | some js' =>
      rw [VolumeMeta.put, AList.lookup_insert] at there
      exact .inl there
  · refine .inr ?_
    cases file with
    | none => rwa [VolumeMeta.put, AList.lookup_erase_ne same] at there
    | some js' => rwa [VolumeMeta.put, AList.lookup_insert_ne same] at there

theorem put_tally (v : VolumeMeta) (name : String) (file : Metafile) (h : Addr) :
    Tally.tally (v.put name file) prioOf h + (shows (v.metas.lookup name) h).toNat =
      Tally.tally v.metas prioOf h + (shows file h).toNat := by
  cases file with
  | none => exact Tally.tally_erase v.metas prioOf name h
  | some js => exact Tally.tally_insert v.metas prioOf name js h

/-- A change of one metafile that moves the counters along with its path. -/
theorem sound_put (sound : PrioSound v)
    (moved : ∀ h, h ≠ "" → counter prio h + (shows (v.metas.lookup name) h).toNat =
      counter v.prio h + (shows file h).toNat)
    (paths : ∀ js, file = some js → Short (prioOf js))
    (known : ∀ js, file = some js → ∀ a ∈ hosts js, Short a) :
    PrioSound ⟨v.put name file, prio⟩ where
  counted h host := by
    have here := moved h host
    have numbers := put_tally v name file h
    have before := sound.counted h host
    dsimp only
    omega
  paths n js there := (put_lookup there).elim (paths js) (sound.paths n js)
  known n js there := (put_lookup there).elim (known js) (sound.known n js)

/-- A request that leaves the metafile as it is. -/
theorem sound_same (sound : PrioSound v) (name : String) :
    PrioSound ⟨v.put name (v.metas.lookup name), v.prio⟩ :=
  sound_put sound (fun _ _ => rfl) (sound.paths name) (sound.known name)

/-- New lines about hosts and the backing file. -/
theorem sound_lines (sound : PrioSound v) {js ms : Journal}
    (there : v.metas.lookup name = some js) (plain : ∀ l ∈ ms, prioPathOf? l = none)
    (known : ∀ a ∈ hosts (js ++ ms), Short a) :
    PrioSound ⟨v.put name (some (js ++ ms)), v.prio⟩ := by
  have same : prioOf (js ++ ms) = prioOf js := prioOf_grown plain
  refine sound_put sound (fun h _ => ?_) (fun js' new => ?_) (fun js' new => ?_)
  · rw [there, shows, shows, Option.any_some, Option.any_some, same]
  · cases new
    rw [same]
    exact sound.paths name js there
  · cases new
    exact known

end Put

section Steps

variable {v : VolumeMeta}

theorem short_accepted {a : Addr} (ok : a = "" ∨ addrAcceptable a = true) : Short a := by
  unfold Short
  rcases ok with rfl | accepted
  · decide
  · unfold addrAcceptable at accepted
    simp only [Bool.and_eq_true, decide_eq_true_eq] at accepted
    omega

theorem chosen_short (v : VolumeMeta) {blk : BlockCreateCli} (env : CreateEnv) (calls : PrioCalls)
    (given : ∀ a ∈ blockServerParse blk.blockHosts, a = "" ∨ addrAcceptable a = true)
    (resultCaps : Caps) : Short (createPrioPath (v.createEnv blk env calls) resultCaps) := by
  unfold createPrioPath
  split
  · exact short_accepted (.inl rfl)
  · rcases prioPath_mem v.prio calls (blockServerParse blk.blockHosts) with none | chosen
    · exact short_accepted (.inl none)
    · exact short_accepted (given _ chosen)

/-- Behind the refusals the block is gone, without a count or by the rollback, or is there
with its path and counts. -/
theorem createBody_after (blk : BlockCreateCli) (env : CreateEnv) (resultCaps : Caps)
    (few : blk.mpath ≤ (blockServerParse blk.blockHosts).length)
    (updates : env.header = .ok ∧ env.entry = .ok ∧ env.password = .ok)
    (unlinks : ∀ code nonzero errMsg unlinked,
      env.createEntry = .failed code nonzero errMsg unlinked → unlinked = true)
    (files : env.cleanUp.filesOk true) :
    let body := createBody blk env resultCaps none
    metaAfter none body.1.act.evs = none ∧ (body.1.act.ret ≠ 0 ∨ createUndone blk env resultCaps) ∨
      ∃ js, metaAfter none body.1.act.evs = some js ∧ body.1.act.ret = 0 ∧
        prioOf js = createPrioPath env resultCaps := by
  intro body
  by_cases prepared : env.prepared blk
  · obtain ⟨evs, ret, _⟩ := createBody_prepared blk env resultCaps prepared
    have prio : prioOf _ = _ := (audited_info blk env resultCaps).prioPath
    have complete := audited_complete blk env resultCaps few
    rw [← successcnt_replay, eq_comm] at complete
    rw [evs, audit_evs, rollbackEvs]
    by_cases all : blk.mpath = successcnt (replay (auditedLines blk env resultCaps))
    · rw [if_pos all]
      exact .inr ⟨_, rfl, ret, prio⟩
    · rw [if_neg all]
      by_cases goes : env.cleanUp.nodesCleared (auditedLines blk env resultCaps)
      · refine .inl ⟨(cleanUp_removes _ _ _ _ _).mpr ⟨.inr goes, files⟩, .inr ⟨prepared, ?_, goes⟩⟩
        exact fun each => all (complete.mpr each)
      · have stuck : ¬ ((false = true ∨ env.cleanUp.nodesCleared (auditedLines blk env resultCaps)) ∧
            env.cleanUp.filesOk true) := fun h => goes (h.1.resolve_left Bool.false_ne_true)
        have kept := cleanUp_keeps blk.blockName stuck
        refine .inr ⟨_, metaAfter_some _ kept, ret, ?_⟩
        rw [prioOf_grown, prio]
        intro l hl
        rcases cleanUp_lines hl with host | ⟨state, rfl⟩
        · exact host_prio host
        · rfl
  · obtain ⟨run, _⟩ := createBody_failed blk env resultCaps prepared
    have file : metaAfter none (createPrepare blk env resultCaps).evs = none := by
      rw [unprepared_file resultCaps unlinks prepared]
      refine .inr ⟨updates.1, fun made => prepared ?_⟩
      exact ⟨updates.1, made, updates.2.1, fun _ => updates.2.2⟩
    refine .inl ⟨?_, .inl ?_⟩
    · change metaAfter none (createBody blk env resultCaps none).1.act.evs = none
      rw [run]
      exact file
    · change (createBody blk env resultCaps none).1.act.ret ≠ 0
      rw [run]
      rcases prepare_cases blk env resultCaps with ⟨ok, _⟩ | ⟨_, ret, _⟩
      · exact absurd ok prepared
      · exact ret

/-- The hosts of the metafile that a request leaves were given to it or known before. -/
theorem left_short (sound : PrioSound v) (name : String) (req : Request)
    (finds : req.session.accessErr = none) (given : ∀ a ∈ req.given, Short a) :
    ∀ js, metaAfter (v.metas.lookup name) (req.outcome (v.metas.lookup name)).evs = some js →
      ∀ a ∈ hosts js, Short a := by
  intro js left a ha
  rcases hosts_grow (fun _ => finds) (List.prefix_refl _) left ha with marker | new | old
  · subst a
    exact (show "ENTRYDELETE".length ≤ 244 by decide)
  · exact given a new
  · cases file : v.metas.lookup name with
    | none =>
      rw [file] at old
      cases old
    | some js' =>
      rw [file] at old
      exact sound.known name js' file a old

theorem create_sound (sound : PrioSound v) {blk : BlockCreateCli} {env : CreateEnv}
    {calls : PrioCalls} (ok : (PrioRequest.create blk env calls).storageOk)
    (steady : (PrioRequest.create blk env calls).steady v) :
    PrioSound (v.after (.create blk env calls)) := by
  obtain ⟨given, session, rfl, header, entry, password, unlinks, files⟩ := ok
  let env' := v.createEnv blk env .good
  have finds : env'.session.accessErr = none := congrArg Session.accessErr session
  change PrioSound ⟨v.put blk.blockName (metaAfter (v.metas.lookup blk.blockName)
    (blockCreateCli blk env' (v.metas.lookup blk.blockName)).evs),
    createPrio blk env' .good (v.metas.lookup blk.blockName) v.prio⟩
  rcases create_reaches blk env' (v.metas.lookup blk.blockName) with
    ⟨refused, evs⟩ | ⟨resultCaps, reaches, few, free, evs⟩
  · rw [createPrio, refused, evs]
    exact sound_same sound blk.blockName
  · have known := left_short sound blk.blockName (.create blk env') finds
      (fun a ha => short_accepted (given a ha))
    have path := chosen_short v env .good given resultCaps
    have file := free finds
    have asks := steady resultCaps reaches
    rw [createPrio, reaches]
    dsimp only [Request.outcome] at known ⊢
    rw [evs] at known ⊢
    rw [file] at known ⊢
    rcases createBody_after blk env' resultCaps few ⟨header, entry, password⟩ unlinks files with
      ⟨gone, uncounted⟩ | ⟨js, there, counted, prio⟩
    · rw [gone]
      have same : ¬ ((createBody blk env' resultCaps none).1.act.ret = 0 ∧
          resultCaps .createLoadBalance = false ∧ createPrioPath env' resultCaps ≠ "") := by
        rintro ⟨zero, _, chosen⟩
        rcases uncounted with code | undone
        · exact code zero
        · exact asks chosen undone
      rw [if_neg same, ← file]
      exact sound_same sound blk.blockName
    · rw [there] at known ⊢
      refine sound_put sound (fun h host => ?_) (fun js' new => ?_) known
      · rw [file, shows, shows, Option.any_none, Option.any_some, prio]
        by_cases chosen : createPrioPath env' resultCaps = ""
        · rw [if_neg (fun h => h.2.2 chosen), chosen]
          simp [host.symm]
        · have able : resultCaps .createLoadBalance = false := by
            by_contra lacks
            exact chosen (if_pos ((Bool.not_eq_false _).mp lacks))
          rw [if_pos ⟨counted, able, chosen⟩, counter_inc v.prio path h]
          rfl
      · cases new
        rw [prio]
        exact path

/-- A delete takes the path of the block back with the block. -/
theorem delete_sound (sound : PrioSound v) {blk : BlockDeleteCli} {env : DeleteEnv}
    {calls : PrioCalls} (ok : (PrioRequest.delete blk env calls).storageOk) :
    PrioSound (v.after (.delete blk env calls)) := by
  obtain ⟨session, rfl, files⟩ := ok
  have finds : env.session.accessErr = none := congrArg Session.accessErr session
  change PrioSound ⟨v.put blk.blockName (metaAfter (v.metas.lookup blk.blockName)
    (blockDeleteCli blk env (v.metas.lookup blk.blockName)).evs),
    deletePrio blk env .good (v.metas.lookup blk.blockName) v.prio⟩
  rcases delete_reaches blk env (v.metas.lookup blk.blockName) with
    ⟨refused, evs⟩ | ⟨js, file, reaches, evs⟩
  · rw [deletePrio, refused, evs]
    exact sound_same sound blk.blockName
  · have known := left_short sound blk.blockName (.delete blk env) finds
      (fun a ha => nomatch ha)
    have removes := cleanUp_removes js blk.blockName blk.force blk.unlink env.cleanUp
    have ret := cleanUp_ret js blk.blockName blk.force blk.unlink env.cleanUp
    rw [deletePrio, reaches]
    dsimp only [Request.outcome] at known ⊢
    rw [evs] at known ⊢
    rw [file] at known ⊢
    by_cases goes : (blk.force = true ∨ env.cleanUp.nodesCleared js) ∧
        env.cleanUp.filesOk blk.unlink
    · rw [removes.mpr goes]
      refine sound_put sound (fun h host => ?_) (fun js' absurd => nomatch absurd)
        (fun js' absurd => nomatch absurd)
      rw [file, shows, shows, Option.any_some, Option.any_none]
      by_cases path : prioOf js = ""
      · rw [if_neg (fun h => h.2 path), path]
        simp [host.symm]
      · have counts : 0 < counter v.prio (prioOf js) := by
          rw [sound.counted _ path]
          have erased := Tally.tally_erase v.metas prioOf blk.blockName (prioOf js)
          rw [Tally.carries_of file, decide_eq_true rfl, Bool.toNat_true] at erased
          omega
        rw [if_pos ⟨ret.mpr goes, path⟩]
        exact counter_dec (sound.paths _ js file) counts h
    · have kept := cleanUp_keeps blk.blockName goes
      rw [if_neg (fun h => goes (ret.mp h.1))]
      rw [metaAfter_some js kept] at known ⊢
      refine sound_lines sound file (fun l hl => ?_) (known _ rfl)
      rcases cleanUp_lines hl with host | ⟨state, rfl⟩
      · exact host_prio host
      · rfl

theorem trailer_prio {blk : BlockReplaceCli} {js : Journal} {resp : ReplaceResp}
    {env : ReplaceEnv} {l : MetaLine}
    (h : l ∈ written (replaceTrailer blk (replay js) resp env).evs) :
    l.isHost = true ∨ prioOf js ≠ "" ∧ prioOf js = blk.oldNode := by
  unfold replaceTrailer at h
  rcases next_lines h with forced | prio
  · split at forced
    · rw [List.mem_singleton.mp (metaUpdate_lines forced)]
      exact .inl rfl
    · cases forced
  · split at prio
    · rename_i moves
      exact .inr moves
    · cases prio

theorem replace_goes {blk : BlockReplaceCli} {env : ReplaceEnv} {js : Journal}
    (passed : (replaceCaps blk js env.caps).1 = 0)
    (run : ∀ evs, glusterBlockReplaceNodeRemoteAsync blk (replay js) env ≠ .died evs)
    (served : ∀ e, glusterBlockReplaceNodeRemoteAsync blk (replay js) env ≠ .refused e) :
    replaceGoes blk env js := by
  unfold glusterBlockReplaceNodeRemoteAsync at run served
  by_cases overrun : (replaceOthers (replay js) blk.oldNode).length > (replay js).mpath
  · rw [if_pos overrun] at run
    exact absurd rfl (run [])
  · rw [if_neg overrun] at run served
    refine ⟨passed, Nat.not_lt.mp overrun, ?_⟩
    cases checked : replaceChecks blk (replay js) with
    | error e =>
      rw [checked] at served
      exact absurd rfl (served e)
    | ok checks =>
      refine ⟨checks, rfl, fun todo slot hslot none => ?_⟩
      rw [checked] at run
      dsimp only at run
      have empty : (replaceSlots (replay js) blk.oldNode).any Option.isNone = true :=
        List.any_eq_true.mpr ⟨slot, hslot, Option.isNone_iff_eq_none.mpr none⟩
      rw [todo, empty] at run
      exact absurd rfl (run _)

/-- A replace writes about hosts, and about the path when it gets that far. -/
theorem replace_lines (blk : BlockReplaceCli) (env : ReplaceEnv) (file : Metafile) :
    (blockReplaceCli blk env file).evs = [] ∨ ∃ js, file = some js ∧
      Ev.unlinkMeta ∉ (blockReplaceCli blk env file).evs ∧
      ∀ l ∈ written (blockReplaceCli blk env file).evs, l.isHost = true ∨
        replaceGoes blk env js ∧ prioOf js ≠ "" ∧ prioOf js = blk.oldNode := by
  unfold blockReplaceCli
  dsimp only
  split
  · exact .inl rfl
  · rcases access_cases env.session blk.volume blk.blockName file with ⟨e, failed⟩ | ⟨js, rfl, ok⟩
    · rw [failed]
      exact .inl rfl
    · rw [ok]
      dsimp only
      by_cases refused : (replaceCaps blk js env.caps).1 ≠ 0
      · rw [if_pos refused]
        exact .inl rfl
      · rw [if_neg refused]
        have passed := not_not.mp refused
        rcases replaceAsync_cases blk env js with
          died | ⟨errCode, refused⟩ | ⟨checks, _, run⟩
        · rw [died]
          exact .inl rfl
        · rw [refused]
          exact .inl rfl
        · refine .inr ⟨js, rfl, ?_⟩
          rcases run with ⟨skipped, _⟩ | died | ran
          · have goes : replaceGoes blk env js := by
              apply replace_goes passed <;> rw [skipped] <;> exact fun _ absurd => nomatch absurd
            rw [skipped]
            exact ⟨trailer_keep blk _ _ env,
              fun l hl => (trailer_prio hl).imp id (fun moves => ⟨goes, moves⟩)⟩
          · rw [died]
            exact ⟨runWorkers_keep, fun l hl => .inl (runWorkers_lines hl)⟩
          · have goes : replaceGoes blk env js := by
              apply replace_goes passed <;> rw [ran] <;> exact fun _ absurd => nomatch absurd
            rw [ran]
            refine ⟨fun removed => ?_, fun l hl => ?_⟩
            · exact (List.mem_append.mp removed).elim runWorkers_keep (trailer_keep blk _ _ env)
            · rcases List.mem_append.mp (written_append .. ▸ hl) with pool | trailer
              · exact .inl (runWorkers_lines pool)
              · exact (trailer_prio trailer).imp id (fun moves => ⟨goes, moves⟩)

theorem replace_sound (sound : PrioSound v) {blk : BlockReplaceCli} {env : ReplaceEnv}
    (ok : (PrioRequest.replace blk env).storageOk) (steady : (PrioRequest.replace blk env).steady v) :
    PrioSound (v.after (.replace blk env)) := by
  obtain ⟨accepted, session⟩ := ok
  have finds : env.session.accessErr = none := congrArg Session.accessErr session
  change PrioSound ⟨v.put blk.blockName (metaAfter (v.metas.lookup blk.blockName)
    (blockReplaceCli blk env (v.metas.lookup blk.blockName)).evs), v.prio⟩
  have known := left_short sound blk.blockName (.replace blk env) finds (fun a ha => by
    rw [List.mem_singleton.mp ha]
    exact short_accepted (.inr accepted))
  rcases replace_lines blk env (v.metas.lookup blk.blockName) with none | ⟨js, file, keep, lines⟩
  · rw [none]
    exact sound_same sound blk.blockName
  · have stays := steady js file
    dsimp only [Request.outcome] at known
    rw [file] at keep lines known ⊢
    rw [metaAfter_some js keep] at known ⊢
    refine sound_lines sound file (fun l hl => ?_) (known _ rfl)
    rcases lines l hl with host | ⟨goes, path, moves⟩
    · exact host_prio host
    · exact absurd moves ((stays goes).resolve_left path)

/-- The pass gives a path and a count to each block that it finds without a path. -/
theorem genConfig_sound (addr : Addr) (env : GenConfigEnv)
    (ok : (PrioRequest.genConfig addr env).storageOk) (names : List String) :
    ∀ v objs, PrioSound v → PrioSound (genConfigLoop env addr names v objs).1 := by
  obtain ⟨calls, reads, updates⟩ := ok
  induction names with
  | nil => exact fun v objs sound => sound
  | cons name names ih =>
    intro v objs sound
    unfold genConfigLoop
    cases there : (v.metas.lookup name).filter (fun _ => !name.toList.contains '.') with
    | none => exact ih v objs sound
    | some js =>
      have file : v.metas.lookup name = some js := (Option.filter_eq_some_iff.mp there).1
      have assigned : PrioSound (assignPrioPath env name js v).2.1 := by
        unfold assignPrioPath
        by_cases path : (replay js).prioPath ≠ ""
        · rw [if_pos path]
          exact sound
        · rw [if_neg path, updates name, calls]
          let chosen := blockGetPrioPath v.prio .good (blockMetaInfoToServerParse (replay js))
          have none : prioOf js = "" := not_not.mp path
          have new : prioOf (js ++ [.prioPath chosen]) = chosen := by
            rw [prioOf_append]
            rfl
          have short : Short chosen := by
            rcases prioPath_mem v.prio .good (blockMetaInfoToServerParse (replay js)) with
              empty | mem
            · exact short_accepted (.inl empty)
            · apply sound.known name js file
              apply known_of_latest
              intro unknown
              have valid := mem_validHosts.mp mem
              rw [isValidAt, unknown] at valid
              cases valid
          change PrioSound ⟨v.put name (some (js ++ [.prioPath chosen])),
            blockIncPrioAttr v.prio .good chosen⟩
          refine sound_put sound (fun h host => ?_) ?_ ?_
          · rw [file, shows, shows, Option.any_some, Option.any_some, none, new,
              counter_inc v.prio short]
            simp [host.symm]
          · rintro js' ⟨⟩
            rw [new]
            exact short
          · rintro js' ⟨⟩ a ha
            rcases mem_hosts_append.mp ha with old | line
            · exact sound.known name js file a old
            · cases line
      dsimp only
      rw [if_neg (by rw [reads name]; exact Bool.noConfusion)]
      split
      · exact assigned
      · split
        · exact ih _ _ assigned
        · exact ih _ _ assigned

theorem sound_step (sound : PrioSound v) {req : PrioRequest} (ok : req.storageOk)
    (steady : req.steady v) : PrioSound (v.after req) := by
  cases req with
  | create blk env calls => exact create_sound sound ok steady
  | delete blk env calls => exact delete_sound sound ok
  | replace blk env => exact replace_sound sound ok steady
  | genConfig addr env => exact genConfig_sound addr env ok env.listing v ⟨[], []⟩ sound

end Steps

/-- A volume without blocks and without counters. -/
def emptyVolumeMeta : VolumeMeta := ⟨∅, fun _ => none⟩

/-- Over every run of steady requests the counters stay right. -/
theorem prio_counters {v : VolumeMeta} (run : PrioRun emptyVolumeMeta v) : PrioCounted v := by
  have sound : PrioSound v := by
    induction run with
    | refl => exact ⟨fun _ _ => rfl, fun _ _ absurd => (nomatch absurd), fun _ _ absurd => (nomatch absurd)⟩
    | tail _ step ih =>
      obtain ⟨req, ok, steady, rfl⟩ := step
      exact sound_step ih ok steady
  exact sound.counted

section Sample

/-- A block on one host counts for it. -/
theorem prio_counters_sample :
    PrioCounted (emptyVolumeMeta.after (.create oneHost (createSampleEnv []) .good)) := by
  refine prio_counters (.tail .refl ⟨.create oneHost (createSampleEnv []) .good, ?_, ?_, rfl⟩)
  · exact ⟨by decide, rfl, rfl, rfl, rfl, rfl, fun _ _ _ _ absurd => (nomatch absurd), by decide⟩
  · exact fun _ _ _ undone => undone.2.1 ⟨by decide, by decide⟩

/-- The second host fails and the block is taken back; the first one counts it all the
same. -/
theorem rolled_back_counts :
    (PrioRequest.create createSample (createSampleEnv []) .good).storageOk ∧
      ¬ PrioCounted (emptyVolumeMeta.after (.create createSample (createSampleEnv []) .good)) := by
  refine ⟨⟨by decide, rfl, rfl, rfl, rfl, rfl, fun _ _ _ _ absurd => (nomatch absurd), by decide⟩, ?_⟩
  intro counted
  exact absurd (counted "10.0.0.1" (by decide)) (by decide)

end Sample

end GlusterBlock
