import GlusterBlock.AuthRollback
import GlusterBlock.BackedSizes
import GlusterBlock.DeleteRetry

/-! What a metafile records of a block beside its hosts. A block is made whole or in part by
one create; from then on a request changes one entry at most, until a delete takes the block
away. -/
namespace GlusterBlock

open Trail

structure Card where
  volume : String := ""
  gbid : String := ""
  mpath : Nat := 0
  rbSize : Nat := 0
  blkSize : Nat := 0
  ioTimeout : Nat := 0
  size : Nat := 0
  passwd : String := ""
  prioPath : Addr := ""
  deriving DecidableEq, Repr

def MetaInfo.card (info : MetaInfo) : Card where
  volume := info.volume
  gbid := info.gbid
  mpath := info.mpath
  rbSize := info.rbSize
  blkSize := info.blkSize
  ioTimeout := info.ioTimeout
  size := info.size
  passwd := info.passwd
  prioPath := info.prioPath

def recorded (js : Journal) : Card := (replay js).card

def Card.put (c : Card) : MetaLine → Card
  | .volume v => { c with volume := v }
  | .gbid g => { c with gbid := g }
  | .ha n => { c with mpath := n }
  | .prioPath a => { c with prioPath := a }
  | .size n => { c with size := n }
  | .ringBuffer n => { c with rbSize := n }
  | .blkSize n => { c with blkSize := n }
  | .ioTimeout n => { c with ioTimeout := n }
  | .passwd p => { c with passwd := p }
  | .entryCreate _ | .entryDelete _ | .host _ _ _ => c

theorem recorded_append (js ms : Journal) :
    recorded (js ++ ms) = ms.foldl Card.put (recorded js) := by
  have fold (ms : Journal) (info : MetaInfo) :
      (ms.foldl stuff info).card = ms.foldl Card.put info.card := by
    induction ms generalizing info with
    | nil => rfl
    | cons l ms ih =>
      have first : (stuff info l).card = info.card.put l := by cases l <;> rfl
      rw [List.foldl_cons, List.foldl_cons, ih, first]
  unfold recorded replay
  rw [List.foldl_append]
  exact fold ms _

section Abstract

/-- What a create makes of a free name, wherever it stops. -/
structure Card.MadeBy (c : Card) (blk : BlockCreateCli) (env : CreateEnv) : Prop where
  named : c.volume = "" ∧ c.gbid = "" ∧ c.mpath = 0 ∨
    c.volume = blk.volume ∧ c.gbid = env.gbid ∧ c.mpath = blk.mpath
  sized : c.rbSize = 0 ∧ c.blkSize = 0 ∧ c.size = 0 ∨
    c.rbSize = blk.rbSize ∧ c.blkSize = blk.blkSize ∧ c.size = createSize blk env
  ioTimeout : c.ioTimeout = 0 ∨ c.ioTimeout = blk.ioTimeout
  passwd : c.passwd = "" ∨ blk.authMode = true ∧ c.passwd = env.passwd
  prioPath : c.prioPath = "" ∨ c.prioPath = env.prioPath

/-- What a request makes of a block that is there, wherever it stops. -/
inductive Request.Turns : Request → Card → Card → Prop where
  | still (req : Request) (c : Card) : Turns req c c
  | cleared (blk : BlockModifyCli) (env : ModifyEnv) (c : Card) :
      Turns (.modify blk env) c { c with passwd := "" }
  | enabled (blk : BlockModifyCli) (env : ModifyEnv) (c : Card) :
      blk.authMode = true → c.passwd = "" →
        Turns (.modify blk env) c { c with passwd := env.passwd }
  | resized (blk : BlockModifySizeCli) (env : ModifySizeEnv) (c : Card) :
      (blk.force = false → c.size ≤ blk.size) →
        Turns (.modifySize blk env) c { c with size := blk.size }
  | moved (blk : BlockReplaceCli) (env : ReplaceEnv) (c : Card) : c.prioPath = blk.oldNode →
      Turns (.replace blk env) c { c with prioPath := blk.newNode }

/-- The steps of a block, with what is recorded of it for its whole state. -/
inductive CardStep : Request → Option Card → Option Card → Prop where
  | idle (req : Request) : CardStep req none none
  | made (blk : BlockCreateCli) (env : CreateEnv) (c : Card) : c.MadeBy blk env →
      CardStep (.create blk env) none (some c)
  | turned (req : Request) (c c' : Card) : req.Turns c c' → CardStep req (some c) (some c')
  | removed (blk : BlockDeleteCli) (env : DeleteEnv) (c : Card) :
      CardStep (.delete blk env) (some c) none

structure Card.SameBlock (c c' : Card) : Prop where
  volume : c'.volume = c.volume
  gbid : c'.gbid = c.gbid
  mpath : c'.mpath = c.mpath
  rbSize : c'.rbSize = c.rbSize
  blkSize : c'.blkSize = c.blkSize
  ioTimeout : c'.ioTimeout = c.ioTimeout

theorem Card.SameBlock.refl (c : Card) : c.SameBlock c := ⟨rfl, rfl, rfl, rfl, rfl, rfl⟩

theorem Card.SameBlock.trans {a b c : Card} (first : a.SameBlock b) (second : b.SameBlock c) :
    a.SameBlock c where
  volume := second.volume.trans first.volume
  gbid := second.gbid.trans first.gbid
  mpath := second.mpath.trans first.mpath
  rbSize := second.rbSize.trans first.rbSize
  blkSize := second.blkSize.trans first.blkSize
  ioTimeout := second.ioTimeout.trans first.ioTimeout

theorem turns_same {req : Request} {c c' : Card} (turn : req.Turns c c') : c.SameBlock c' := by
  cases turn <;> exact ⟨rfl, rfl, rfl, rfl, rfl, rfl⟩

end Abstract

section Writes

theorem foldl_writes {P : Card → Prop} {evs : List Ev}
    (keeps : ∀ lines, Ev.write lines ∈ evs → ∀ c, P c → P (lines.foldl Card.put c)) {c : Card}
    (start : P c) : P ((written evs).foldl Card.put c) := by
  induction evs generalizing c with
  | nil => exact start
  | cons e evs ih =>
    have rest := fun lines mem => keeps lines (List.mem_cons_of_mem e mem)
    have split : written (e :: evs) = written [e] ++ written evs := written_append [e] evs
    rw [split, List.foldl_append]
    apply ih rest
    cases e with
    | write lines =>
      have first := keeps lines List.mem_cons_self c start
      simpa [written] using first
    | _ => exact start

theorem put_host {l : MetaLine} (host : l.isHost = true) (c : Card) : c.put l = c := by
  cases l with
  | host a s n => rfl
  | _ => cases host

theorem foldl_plain {ms : Journal} (plain : ∀ l ∈ ms, ∀ c : Card, c.put l = c) (c : Card) :
    ms.foldl Card.put c = c := by
  induction ms with
  | nil => rfl
  | cons l ms ih =>
    rw [List.foldl_cons, plain l List.mem_cons_self]
    exact ih (fun l mem => plain l (List.mem_cons_of_mem _ mem))

theorem pool_plain {jobs : List (RemoteJob × JobOutcome)} {sched : List Nat} {lines : Journal}
    (mem : Ev.write lines ∈ runPool (runWorkers jobs) sched) (c : Card) :
    lines.foldl Card.put c = c :=
  foldl_plain (fun _ hl => put_host (runWorkers_lines (mem_written.mpr ⟨lines, mem, hl⟩))) c

theorem cleanUp_plain {js : Journal} {blockname : String} {forcedel unlink : Bool}
    {env : CleanUpEnv} {lines : Journal}
    (mem : Ev.write lines ∈ (glusterBlockCleanUp js blockname forcedel unlink env).act.evs)
    (c : Card) : lines.foldl Card.put c = c := by
  refine foldl_plain (fun l hl => ?_) c
  rcases cleanUp_lines (mem_written.mpr ⟨lines, mem, hl⟩) with host | ⟨state, rfl⟩
  · exact put_host host
  · exact fun _ => rfl

theorem update_write {res : UpdRes} {lines ms : Journal}
    (mem : Ev.write ms ∈ (metaUpdate res lines).evs) : ms = lines := by
  rcases mem_metaUpdate mem with touch | write
  · cases touch
  · exact Ev.write.inj write

end Writes

section Create

variable {blk : BlockCreateCli} {env : CreateEnv} {resultCaps : Caps} {c : Card}

theorem header_made (made : c.MadeBy blk env) :
    ((headerLines blk env.gbid (createPrioPath env resultCaps)).foldl Card.put c).MadeBy
      blk env := by
  have prio : createPrioPath env resultCaps = "" ∨
      createPrioPath env resultCaps = env.prioPath := by
    unfold createPrioPath
    split
    · exact .inl rfl
    · exact .inr rfl
  unfold headerLines
  rw [List.foldl_append]
  split
  · exact { made with named := .inr ⟨rfl, rfl, rfl⟩ }
  · exact { made with named := .inr ⟨rfl, rfl, rfl⟩, prioPath := prio }

theorem card_made (made : c.MadeBy blk env) :
    ((entryLines blk (createSize blk env) resultCaps).foldl Card.put c).MadeBy blk env := by
  unfold entryLines
  rw [List.foldl_append, List.foldl_append]
  split
  · exact { made with sized := .inr ⟨rfl, rfl, rfl⟩ }
  · exact { made with sized := .inr ⟨rfl, rfl, rfl⟩, ioTimeout := .inr rfl }

theorem prepare_made {lines : Journal}
    (mem : Ev.write lines ∈ (createPrepare blk env resultCaps).evs) (made : c.MadeBy blk env) :
    (lines.foldl Card.put c).MadeBy blk env := by
  unfold createPrepare at mem
  rcases mem_next mem with header | mem
  · rw [update_write header]
    exact header_made made
  · split at mem
    · -- without an entry the metafile is removed, if it can be
      split at mem
      · cases List.mem_singleton.mp mem
      · cases mem
    · rcases mem_next mem with entry | mem
      · rw [update_write entry]
        exact card_made made
      · split at mem
        · rename_i auth
          rw [update_write mem]
          exact { made with passwd := .inr ⟨auth, rfl⟩ }
        · cases mem

theorem created_made {lines : Journal}
    (mem : Ev.write lines ∈ (createBody blk env resultCaps none).1.act.evs)
    (made : c.MadeBy blk env) : (lines.foldl Card.put c).MadeBy blk env := by
  rcases createBody_evs blk env resultCaps with prep | ⟨_, evs⟩
  · rw [prep] at mem
    exact prepare_made mem made
  · rw [evs] at mem
    rcases List.mem_append.mp mem with mem | rollback
    · rcases List.mem_append.mp mem with prep | workers
      · exact prepare_made prep made
      · rw [pool_plain workers]
        exact made
    · unfold rollbackEvs at rollback
      split at rollback
      · cases rollback
      · rw [cleanUp_plain rollback]
        exact made

theorem empty_made : (recorded []).MadeBy blk env :=
  ⟨.inl ⟨rfl, rfl, rfl⟩, .inl ⟨rfl, rfl, rfl⟩, .inl rfl, .inl rfl, .inl rfl⟩

end Create

section Turns

variable {js : Journal}

theorem modify_turns {blk : BlockModifyCli} {env : ModifyEnv} {lines : Journal}
    (mem : Ev.write lines ∈ (modifyBody blk js env).evs) {c : Card}
    (turn : (Request.modify blk env).Turns (recorded js) c) :
    (Request.modify blk env).Turns (recorded js) (lines.foldl Card.put c) := by
  have cleared : (Request.modify blk env).Turns (recorded js) { c with passwd := "" } := by
    cases turn with
    | still => exact .cleared blk env _
    | cleared => exact .cleared blk env _
    | enabled => exact .cleared blk env _
  have part := (modifyBody_cut blk env js).subset mem
  unfold ModifyParts.all modifyParts at part
  simp only [List.mem_append] at part
  rcases part with record | tried | clear | undo
  · unfold modifyRecord at record
    split at record
    · cases record
    · rename_i fresh
      rw [update_write record]
      change (Request.modify blk env).Turns _
        { c with passwd := modifyPasswd blk (replay js) env.passwd }
      cases auth : blk.authMode with
      | false =>
        have password : modifyPasswd blk (replay js) env.passwd = "" := by
          simp [modifyPasswd, auth]
        rw [password]
        exact cleared
      | true =>
        have none : (recorded js).passwd = "" := by
          simpa [auth, recorded, MetaInfo.card] using fresh
        have password : modifyPasswd blk (replay js) env.passwd = env.passwd := by
          have unset : (replay js).passwd = "" := none
          simp [modifyPasswd, auth, unset]
        rw [password]
        cases turn with
        | still => exact .enabled blk env _ auth none
        | cleared => exact .enabled blk env _ auth none
        | enabled => exact .enabled blk env _ auth none
  · rw [pool_plain tried]
    exact turn
  · unfold modifyClear at clear
    split at clear
    · rw [update_write clear]
      exact cleared
    · cases clear
  · rw [pool_plain undo]
    exact turn

theorem modifySize_turns {blk : BlockModifySizeCli} {env : ModifySizeEnv}
    (accepted : sizeRefusal blk (replay js) = none) {lines : Journal}
    (mem : Ev.write lines ∈ (modifySizeBody blk js env).evs) {c : Card}
    (turn : (Request.modifySize blk env).Turns (recorded js) c) :
    (Request.modifySize blk env).Turns (recorded js) (lines.foldl Card.put c) := by
  rcases modifySizeBody_evs blk env js with none | ⟨_, evs⟩
  · rw [none] at mem
    cases mem
  · rw [evs] at mem
    rcases List.mem_append.mp mem with record | workers
    · have grows : blk.force = false → (recorded js).size ≤ blk.size := fun unforced =>
        unshrunk_size accepted (fun forced => absurd (unforced.symm.trans forced) (by decide))
      rw [update_write record]
      cases turn with
      | still => exact .resized blk env _ grows
      | resized => exact .resized blk env _ grows
    · split at workers
      · rw [pool_plain workers]
        exact turn
      · cases workers

theorem trailer_turns {blk : BlockReplaceCli} {env : ReplaceEnv} {resp : ReplaceResp}
    {lines : Journal} (mem : Ev.write lines ∈ (replaceTrailer blk (replay js) resp env).evs)
    {c : Card} (turn : (Request.replace blk env).Turns (recorded js) c) :
    (Request.replace blk env).Turns (recorded js) (lines.foldl Card.put c) := by
  unfold replaceTrailer at mem
  rcases mem_next mem with forced | prio
  · split at forced
    · rw [update_write forced]
      exact turn
    · cases forced
  · split at prio
    · rename_i own
      have owned : (recorded js).prioPath = blk.oldNode := own.2
      rw [update_write prio]
      cases turn with
      | still => exact .moved blk env _ owned
      | moved => exact .moved blk env _ owned
    · cases prio

theorem outcome_turns {req : Request} (finds : req.session.accessErr = none) {lines : Journal}
    (mem : Ev.write lines ∈ (req.outcome (some js)).evs) {c : Card}
    (turn : req.Turns (recorded js) c) : req.Turns (recorded js) (lines.foldl Card.put c) := by
  have nothing : ∀ {evs : List Ev}, evs = [] → Ev.write lines ∉ evs := by
    rintro evs rfl absurd
    cases absurd
  cases req with
  | create blk env =>
    rcases create_evs blk env (fun _ : (some js : Metafile) ≠ none => finds) with none | ⟨free, _⟩
    · exact absurd mem (nothing none)
    · cases free
  | delete blk env =>
    rcases delete_evs blk env (some js) with none | ⟨js', _, evs⟩
    · exact absurd mem (nothing none)
    · change Ev.write lines ∈ (blockDeleteCli blk env (some js)).evs at mem
      rw [evs] at mem
      rw [cleanUp_plain mem]
      exact turn
  | modify blk env =>
    rcases modify_evs blk env (some js) with none | ⟨js', same, evs⟩
    · exact absurd mem (nothing none)
    · cases same
      change Ev.write lines ∈ (blockModifyCli blk env (some js)).evs at mem
      rw [evs] at mem
      exact modify_turns mem turn
  | modifySize blk env =>
    rcases modifySize_evs blk env (some js) with none | ⟨js', same, accepted, evs⟩
    · exact absurd mem (nothing none)
    · cases same
      change Ev.write lines ∈ (blockModifySizeCli blk env (some js)).evs at mem
      rw [evs] at mem
      exact modifySize_turns accepted mem turn
  | replace blk env =>
    rcases replace_evs blk env (some js) with none | ⟨js', checks, same, _, run⟩
    · exact absurd mem (nothing none)
    · cases same
      change Ev.write lines ∈ (blockReplaceCli blk env (some js)).evs at mem
      rcases run with ⟨_, evs⟩ | ⟨resp, _, _, evs⟩
      · rw [evs] at mem
        rw [pool_plain mem]
        exact turn
      · rw [evs] at mem
        rcases List.mem_append.mp mem with pool | trailer
        · rw [pool_plain pool]
          exact turn
        · exact trailer_turns trailer turn

/-- Only a delete takes a metafile away that was there. -/
theorem outcome_removes {req : Request} (finds : req.session.accessErr = none)
    (mem : Ev.unlinkMeta ∈ (req.outcome (some js)).evs) : ∃ blk env, req = .delete blk env := by
  have nothing : ∀ {evs : List Ev}, evs = [] → Ev.unlinkMeta ∉ evs := by
    rintro evs rfl absurd
    cases absurd
  cases req with
  | create blk env =>
    rcases create_evs blk env (fun _ : (some js : Metafile) ≠ none => finds) with none | ⟨free, _⟩
    · exact absurd mem (nothing none)
    · cases free
  | delete blk env => exact ⟨blk, env, rfl⟩
  | modify blk env =>
    rcases modify_evs blk env (some js) with none | ⟨js', _, evs⟩
    · exact absurd mem (nothing none)
    · change Ev.unlinkMeta ∈ (blockModifyCli blk env (some js)).evs at mem
      rw [evs] at mem
      exact absurd mem (modify_keep blk js' env)
  | modifySize blk env =>
    rcases modifySize_evs blk env (some js) with none | ⟨js', _, _, evs⟩
    · exact absurd mem (nothing none)
    · change Ev.unlinkMeta ∈ (blockModifySizeCli blk env (some js)).evs at mem
      rw [evs] at mem
      exact absurd mem (modifySize_keep blk js' env)
  | replace blk env =>
    rcases replace_evs blk env (some js) with none | ⟨js', checks, _, _, run⟩
    · exact absurd mem (nothing none)
    · change Ev.unlinkMeta ∈ (blockReplaceCli blk env (some js)).evs at mem
      rcases run with ⟨_, evs⟩ | ⟨resp, _, _, evs⟩
      · rw [evs] at mem
        exact absurd mem runWorkers_keep
      · rw [evs] at mem
        rcases List.mem_append.mp mem with pool | trailer
        · exact absurd pool runWorkers_keep
        · exact absurd trailer (trailer_keep blk _ resp env)

end Turns

section Refines

variable {N : Type} {M : NodeModel N} {req : Request} {evs : List Ev} {w w' : World N}

theorem free_evs (some_evs : (req.outcome none).evs ≠ []) : ∃ blk env resultCaps,
    req = .create blk env ∧
      (req.outcome none).evs = (createBody blk env resultCaps none).1.act.evs := by
  cases req with
  | create blk env =>
    rcases create_evs blk env (fun absurd => absurd.elim rfl) with none | ⟨_, resultCaps, evs⟩
    · exact absurd none some_evs
    · exact ⟨blk, env, resultCaps, rfl, evs⟩
  | delete blk env =>
    rcases delete_evs blk env none with none | ⟨_, absurd, _⟩
    · exact absurd none some_evs
    · cases absurd
  | modify blk env =>
    rcases modify_evs blk env none with none | ⟨_, absurd, _⟩
    · exact absurd none some_evs
    · cases absurd
  | modifySize blk env =>
    rcases modifySize_evs blk env none with none | ⟨_, absurd, _⟩
    · exact absurd none some_evs
    · cases absurd
  | replace blk env =>
    rcases replace_evs blk env none with none | ⟨_, _, absurd, _⟩
    · exact absurd none some_evs
    · cases absurd

theorem free_step (step : Step M req evs w w') (free : w.file = none) {js : Journal}
    (left : w'.file = some js) : CardStep req none (some (recorded js)) := by
  obtain ⟨_, grown⟩ := step_grows step left
  rw [free] at grown
  have cut := step.takes.cut
  rw [free] at cut
  have some_evs : (req.outcome none).evs ≠ [] := by
    intro idle
    rw [idle] at cut
    have gone := step.file
    rw [List.prefix_nil.mp cut, free, left] at gone
    cases gone
  obtain ⟨blk, env, resultCaps, rfl, body⟩ := free_evs some_evs
  apply CardStep.made
  have whole : js = [] ++ written evs := grown
  rw [whole, recorded_append]
  refine foldl_writes (P := fun c => c.MadeBy blk env) (fun lines mem c made => ?_) empty_made
  exact created_made (body ▸ cut.subset mem) made

theorem existing_step (step : Step M req evs w w') {js js' : Journal} (there : w.file = some js)
    (left : w'.file = some js') : CardStep req (some (recorded js)) (some (recorded js')) := by
  obtain ⟨_, grown⟩ := step_grows step left
  have cut := step.takes.cut
  have finds := step.takes.finds (by simp [there])
  rw [there] at cut grown
  have whole : js' = js ++ written evs := grown
  apply CardStep.turned
  rw [whole, recorded_append]
  exact foldl_writes (P := req.Turns (recorded js))
    (fun lines mem c turn => outcome_turns finds (cut.subset mem) turn) (.still req _)

theorem step_refines (step : Step M req evs w w') :
    CardStep req (w.file.map recorded) (w'.file.map recorded) := by
  cases left : w'.file with
  | some js' =>
    cases there : w.file with
    | none => exact free_step step there left
    | some js => exact existing_step step there left
  | none =>
    cases there : w.file with
    | none => exact .idle req
    | some js =>
      have removed : Ev.unlinkMeta ∈ evs := by
        by_contra keep
        have kept := step.file
        rw [there, left, metaAfter_some js keep] at kept
        cases kept
      have cut := step.takes.cut
      rw [there] at cut
      obtain ⟨blk, env, rfl⟩ := outcome_removes (step.takes.finds (by simp [there]))
        (cut.subset removed)
      exact .removed blk env _

/-- A request, cut short anywhere. -/
def NodeModel.Took (M : NodeModel N) (req : Request) (w w' : World N) : Prop :=
  ∃ evs, Step M req evs w w'

/-- Runs of requests, each cut short anywhere, are runs of the recorded block, each step that
of its request. -/
theorem run_refines {reqs : List Request} (run : Along M.Took w reqs w') :
    Along CardStep (w.file.map recorded) reqs (w'.file.map recorded) :=
  run.map (fun w => w.file.map recorded) (fun _ _ _ ⟨_, step⟩ => step_refines step)

/-- The metafile stays, and no forced request asks for another size. -/
def staysUnforced (req : Request) (_ : List Ev) (_ w' : World N) : Prop :=
  w'.file ≠ none ∧ ∀ blk env, req = .modifySize blk env → blk.force = false

theorem turns_grows {c c' : Card} (turn : req.Turns c c')
    (unforced : ∀ blk env, req = .modifySize blk env → blk.force = false) : c.size ≤ c'.size := by
  cases turn with
  | resized blk env c grows => exact grows (unforced blk env rfl)
  | _ => exact Nat.le_refl _

/-- As long as its metafile stays, a block is the one that was created, and its size only
grows. -/
theorem block_kept (run : Run M staysUnforced w w') {js js' : Journal} (there : w.file = some js)
    (left : w'.file = some js') :
    (recorded js).SameBlock (recorded js') ∧ (recorded js).size ≤ (recorded js').size := by
  induction run generalizing js' with
  | refl =>
    cases there.symm.trans left
    exact ⟨.refl _, Nat.le_refl _⟩
  | @tail mid last before step ih =>
    obtain ⟨req, evs, took, _, unforced⟩ := step
    have stays : mid.file ≠ none := by
      rcases Relation.ReflTransGen.cases_tail before with rfl | ⟨_, _, _, _, _, kept, _⟩
      · simp [there]
      · exact kept
    obtain ⟨ms, middle⟩ := Option.ne_none_iff_exists'.mp stays
    obtain ⟨same, grown⟩ := ih middle
    have turned : CardStep req (some (recorded ms)) (some (recorded js')) :=
      existing_step took middle left
    cases turned with
    | turned _ _ _ turn =>
      exact ⟨same.trans (turns_same turn), grown.trans (turns_grows turn unforced)⟩

theorem run_refines_sample : Along CardStep none
    [.create oneHost (createSampleEnv []), .modify (modifySample true) modifySampleEnv]
    (authOn.file.map recorded) := by
  have create : Takes (.create oneHost (createSampleEnv [])) none _ :=
    ⟨Nat.one_pos, fun there => (there rfl).elim, List.prefix_refl _⟩
  have modify : Takes (.modify (modifySample true) modifySampleEnv) authOff.file _ :=
    ⟨trivial, fun _ => rfl, List.prefix_refl _⟩
  have run : Along authModel.Took (.none fun _ => ⟨false, ""⟩) _ authOn :=
    .cons ⟨_, advance_step (fun _ _ _ => rfl) create (fun _ _ => trivial)⟩
      (.cons ⟨_, advance_step (fun _ _ _ => rfl) modify (fun _ _ => trivial)⟩ (.nil _))
  exact run_refines run

end Refines

section Calls

variable {given : Addr → Prop} {req : Request} {evs : List Ev} {w w' : World Unit}

/-- A request calls nobody but the hosts that this request or one before it was given, and
the marker of the backing file, which the replay takes for a host. -/
theorem calls_given (run : Run anyNode (givenHosts given) (World.none fun _ => ()) w)
    (step : Step anyNode req evs w w') (allowed : ∀ a ∈ req.given, given a) {a : Addr} {msg : Msg}
    {exit : Int} (called : Ev.call a msg exit ∈ evs) : a = "ENTRYDELETE" ∨ given a := by
  have none : Named given (World.none fun _ => ()) := fun _ absurd => by cases absurd
  have named := run_named none run
  have seen : hostEvs a (req.outcome w.file).evs ≠ [] := by
    have about : (Ev.call a msg exit).isAbout a = true := beq_self_eq_true a
    exact List.ne_nil_of_mem (List.mem_filter.mpr ⟨step.takes.cut.subset called, about⟩)
  rcases outcome_hosts req w.file step.takes.finds seen with marker | new | old
  · exact .inl marker
  · exact .inr (allowed a new)
  · cases there : w.file with
    | none =>
      rw [there] at old
      cases old
    | some js =>
      rw [there] at old
      exact named js there a old

theorem calls_given_sample : "10.0.0.1" = "ENTRYDELETE" ∨ "10.0.0.1" = "10.0.0.1" := by
  let w : World Unit := ⟨some oneHostLines, fun _ => ()⟩
  let evs := ((Request.delete retryDelete (retryEnv .ok)).outcome w.file).evs
  have took : Takes (.delete retryDelete (retryEnv .ok)) w.file evs :=
    ⟨trivial, fun _ => rfl, List.prefix_refl _⟩
  have step : Step anyNode (.delete retryDelete (retryEnv .ok)) evs w
      (w.advance (fun _ _ _ => ()) evs) :=
    advance_step (fun _ _ _ => trivial) took (fun _ _ => trivial)
  have called : Ev.call "10.0.0.1" (.delete (cleanUpObj oneHostLines "block")) 0 ∈ evs := by
    show _ ∈ ((Request.delete retryDelete (retryEnv .ok)).outcome (some oneHostLines)).evs
    decide +kernel
  exact calls_given oneHost_run step (fun _ absurd => by cases absurd) called

end Calls

end GlusterBlock
