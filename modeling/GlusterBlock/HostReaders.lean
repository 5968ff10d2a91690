import GlusterBlock.AuthTruth
import GlusterBlock.DeleteRetry
import GlusterBlock.GenConfig
import GlusterBlock.ReplaceReport
import GlusterBlock.ValidServers

/-! The two readers of the valid hosts on the metafiles that runs leave. A status with a
size is passed over by one of them; a resize writes such statuses, and only of hosts that
were valid before. -/
namespace GlusterBlock

section Sized

variable {a : Addr} {s : MetaStatus} {n : Nat}

theorem unsized_jobs {jobs : List (RemoteJob × JobOutcome)} {sched : List Nat}
    (plain : ∀ j ∈ jobs, j.1.size = none) :
    MetaLine.host a s (some n) ∉ written (runPool (runWorkers jobs) sched) := by
  intro h
  obtain ⟨j, hj, _, same⟩ := runWorkers_line h
  have size : some n = j.1.size := (MetaLine.host.inj same).2.2
  rw [plain j hj] at size
  cases size

theorem unsized_hosts {args : List Addr} {job : Addr → RemoteJob} {o : Addr → JobOutcome}
    {sched : List Nat} (plain : ∀ b, (job b).size = none) :
    MetaLine.host a s (some n) ∉ written (runPool (hostWorkers args job o) sched) := by
  apply unsized_jobs
  intro j hj
  obtain ⟨b, _, rfl⟩ := List.mem_map.mp hj
  exact plain b

theorem unsized_cleanUp {js : Journal} {blockname : String} {forcedel unlink : Bool}
    {env : CleanUpEnv} : MetaLine.host a s (some n) ∉
      written (glusterBlockCleanUp js blockname forcedel unlink env).act.evs := by
  intro h
  rw [cleanUp_evs, written_append] at h
  rcases List.mem_append.mp h with nodes | files
  · exact unsized_hosts (fun _ => rfl) nodes
  · split at files
    · obtain ⟨_, other⟩ := deleteFiles_lines files
      cases other
    · cases files

theorem unsized_create {blk : BlockCreateCli} {env : CreateEnv} {resultCaps : Caps} :
    MetaLine.host a s (some n) ∉ written (createBody blk env resultCaps none).1.act.evs := by
  have prepare : MetaLine.host a s (some n) ∉ written (createPrepare blk env resultCaps).evs := by
    intro h
    obtain ⟨lines, he, hl⟩ := mem_written.mp h
    have seen : Ev.write lines ∈ hostEvs a (createPrepare blk env resultCaps).evs :=
      List.mem_filter.mpr ⟨he, List.any_eq_true.mpr ⟨_, hl, by simp [hostRecord]⟩⟩
    rw [prepare_host] at seen
    cases seen
  intro h
  rcases createBody_evs blk env resultCaps with prep | ⟨_, evs⟩
  · rw [prep] at h
    exact prepare h
  · rw [evs, written_append, written_append] at h
    rcases List.mem_append.mp h with front | back
    · rcases List.mem_append.mp front with prep | workers
      · exact prepare prep
      · refine unsized_jobs (fun j hj => ?_) workers
        obtain ⟨b, _, rfl⟩ := List.mem_map.mp hj
        rfl
    · unfold rollbackEvs at back
      split at back
      · cases back
      · exact unsized_cleanUp back

theorem unsized_modify {blk : BlockModifyCli} {env : ModifyEnv} {js : Journal} :
    MetaLine.host a s (some n) ∉ written (modifyBody blk js env).evs := by
  intro h
  obtain ⟨lines, he, hl⟩ := mem_written.mp h
  have part := (modifyBody_cut blk env js).subset he
  have within : ∀ {es : List Ev}, Ev.write lines ∈ es → MetaLine.host a s (some n) ∈ written es :=
    fun he => mem_written.mpr ⟨lines, he, hl⟩
  have update : ∀ {res : UpdRes} {passwd : String},
      MetaLine.host a s (some n) ∉ written (metaUpdate res [.passwd passwd]).evs :=
    fun line => nomatch List.mem_singleton.mp (metaUpdate_lines line)
  unfold ModifyParts.all modifyParts at part
  simp only [List.mem_append] at part
  rcases part with record | tried | clear | undo
  · have line := within record
    unfold modifyRecord at line
    split at line
    · cases line
    · exact update line
  · exact unsized_hosts (fun _ => rfl) (within tried)
  · have line := within clear
    unfold modifyClear at line
    split at line
    · exact update line
    · cases line
  · exact unsized_hosts (fun _ => rfl) (within undo)

theorem unsized_replace {blk : BlockReplaceCli} {env : ReplaceEnv} {js : Journal}
    {checks : ReplaceChecks} : MetaLine.host a s (some n) ∉
      written (replacePool blk js checks env) := by
  apply unsized_jobs
  intro j hj
  rcases mem_replaceWork.mp hj with ⟨_, rfl⟩ | ⟨_, _, _, rfl⟩ | ⟨_, rfl⟩ <;> rfl

theorem unsized_trailer {blk : BlockReplaceCli} {info : MetaInfo} {resp : ReplaceResp}
    {env : ReplaceEnv} : MetaLine.host a s (some n) ∉
      written (replaceTrailer blk info resp env).evs := by
  intro h
  unfold replaceTrailer at h
  rcases next_lines h with forced | prio
  · split at forced
    · exact nomatch List.mem_singleton.mp (metaUpdate_lines forced)
    · cases forced
  · split at prio
    · exact nomatch List.mem_singleton.mp (metaUpdate_lines prio)
    · cases prio

/-- A status with a size is about a host that was valid when the request came. -/
theorem outcome_sized {req : Request} {file : Metafile}
    (finds : file ≠ none → req.session.accessErr = none)
    (h : MetaLine.host a s (some n) ∈ written (req.outcome file).evs) :
    isValidAt (file.getD []) a = true := by
  have nothing : ∀ {es : List Ev}, es = [] → MetaLine.host a s (some n) ∉ written es := by
    rintro es rfl absurd
    cases absurd
  cases req with
  | create blk env =>
    rcases create_evs blk env finds with none | ⟨rfl, resultCaps, body⟩
    · exact (nothing none h).elim
    · change _ ∈ written (blockCreateCli blk env none).evs at h
      rw [body] at h
      exact (unsized_create h).elim
  | delete blk env =>
    rcases delete_evs blk env file with none | ⟨js, rfl, evs⟩
    · exact (nothing none h).elim
    · change _ ∈ written (blockDeleteCli blk env (some js)).evs at h
      rw [evs] at h
      exact (unsized_cleanUp h).elim
  | modify blk env =>
    rcases modify_evs blk env file with none | ⟨js, rfl, evs⟩
    · exact (nothing none h).elim
    · change _ ∈ written (blockModifyCli blk env (some js)).evs at h
      rw [evs] at h
      exact (unsized_modify h).elim
  | modifySize blk env =>
    rcases modifySize_evs blk env file with none | ⟨js, rfl, _, evs⟩
    · exact (nothing none h).elim
    · change _ ∈ written (blockModifySizeCli blk env (some js)).evs at h
      rw [evs] at h
      rcases modifySizeBody_evs blk env js with none | ⟨_, body⟩
      · exact (nothing none h).elim
      · rw [body, written_append] at h
        rcases List.mem_append.mp h with record | workers
        · exact nomatch List.mem_singleton.mp (metaUpdate_lines record)
        · split at workers
          · obtain ⟨j, hj, _, same⟩ := runWorkers_line workers
            obtain ⟨b, contacted, rfl⟩ := List.mem_map.mp hj
            have here : a = b := (MetaLine.host.inj same).1
            subst here
            exact (Bool.and_eq_true_iff.mp (List.mem_filter.mp contacted).2).2
          · cases workers
  | replace blk env =>
    rcases replace_evs blk env file with none | ⟨js, checks, rfl, _, run⟩
    · exact (nothing none h).elim
    · change _ ∈ written (blockReplaceCli blk env (some js)).evs at h
      rcases run with ⟨_, evs⟩ | ⟨resp, _, _, evs⟩
      · rw [evs] at h
        exact (unsized_replace h).elim
      · rw [evs, written_append] at h
        rcases List.mem_append.mp h with pool | trailer
        · exact (unsized_replace pool).elim
        · exact (unsized_trailer trailer).elim

end Sized

section Shown

/-- A valid host has a line with that status. -/
theorem valid_line {js : Journal} {a : Addr} (valid : isValidAt js a = true) :
    ∃ s n, MetaLine.host a s n ∈ js ∧ s.isValid = true := by
  have last := latest_append [] js a
  unfold isValidAt at valid
  rw [List.nil_append] at last
  rw [last] at valid
  cases put : (js.filterMap (effect a)).getLast? with
  | none =>
    rw [put] at valid
    cases valid
  | some status =>
    rw [put] at valid
    obtain ⟨l, hl, given⟩ := List.mem_filterMap.mp (List.mem_of_getLast? put)
    cases l with
    | host b s n =>
      change (if b = a ∧ _ then some (some s) else none) = _ at given
      split at given
      · rename_i here
        cases given
        cases here.1
        exact ⟨s, n, hl, valid⟩
      · cases given
    | entryDelete e =>
      change (if a = "ENTRYDELETE" then some none else none) = _ at given
      split at given
      · cases given
        cases valid
      · cases given
    | _ => cases given

/-- A status without a size is the latest one behind its line. -/
theorem line_latest (js : Journal) (a : Addr) (s : MetaStatus) :
    latest (js ++ [.host a s none]) a = some s := by
  have short : (statusText s none).length ≤ 31 := by cases s <;> decide
  rw [latest_append]
  simp [effect, short]

/-- Every host with a status that has a size was given a valid one without. -/
def SizedKnown (js : Journal) : Prop :=
  ∀ a s n, .host a s (some n) ∈ js → ∃ t, .host a t none ∈ js ∧ t.isValid = true

theorem known_valid {js : Journal} (known : SizedKnown js) {a : Addr}
    (valid : isValidAt js a = true) : ∃ s, .host a s none ∈ js ∧ s.isValid = true := by
  obtain ⟨s, n, mem, shown⟩ := valid_line valid
  cases n with
  | none => exact ⟨s, mem, shown⟩
  | some n => exact known a s n mem

theorem run_sized {nodes : Addr → Unit} {w : World Unit}
    (run : Run anyNode anyRequest (World.none nodes) w) :
    ∀ js, w.file = some js → SizedKnown js := by
  refine run_keeps (fun w => ∀ js, w.file = some js → SizedKnown js) ?_ ?_ run
  · intro req evs v v' known step _ js left a s n mem
    obtain ⟨_, rfl⟩ := step_grows step left
    have before : SizedKnown (v.file.getD []) := by
      cases file : v.file with
      | none => exact fun _ _ _ absurd => nomatch absurd
      | some js' => exact known js' file
    have there : ∃ t, .host a t none ∈ v.file.getD [] ∧ t.isValid = true := by
      rcases List.mem_append.mp mem with old | new
      · exact before a s n old
      · obtain ⟨lines, he, hl⟩ := mem_written.mp new
        exact known_valid before (outcome_sized step.takes.finds
          (mem_written.mpr ⟨lines, step.takes.cut.subset he, hl⟩))
    obtain ⟨t, mem, valid⟩ := there
    exact ⟨t, List.mem_append_left _ mem, valid⟩
  · intro js absurd
    cases absurd

/-- What the second reader finds is what the metafile has shown valid at some time. -/
theorem parseValid_iff {js : Journal} (known : SizedKnown js) {a : Addr} :
    a ∈ blockParseValidServers js none ↔ ∃ before, before <+: js ∧ isValidAt before a = true := by
  rw [mem_parseValidServers]
  constructor
  · rintro ⟨s, mem, valid⟩
    obtain ⟨front, back, rfl⟩ := List.append_of_mem mem
    refine ⟨front ++ [.host a s none], ⟨back, by simp⟩, ?_⟩
    rw [isValidAt, line_latest]
    exact valid
  · rintro ⟨before, cut, valid⟩
    obtain ⟨s, n, mem, shown⟩ := valid_line valid
    have here := cut.subset mem
    cases n with
    | none => exact ⟨s, here, shown⟩
    | some n => exact known a s n here

end Shown

/-- On a metafile that requests leave, both readers succeed, and they find the same hosts
exactly when no host was valid at an earlier time and is not any more. -/
theorem readers_agree {nodes : Addr → Unit} {w : World Unit}
    (run : Run anyNode anyRequest (World.none nodes) w) {js : Journal} (left : w.file = some js)
    (writable : ∀ l ∈ js, l.writable = true) (line line' : List Char) :
    ∃ list info, Text.blockParseValidServers line (render js) [] none = some list ∧
      blockGetMetaInfo line' (render js) = some info ∧
      (∀ a, a ∈ blockMetaInfoToServerParse info ↔ isValidAt js a = true) ∧
      ((∀ a, a ∈ list ↔ a ∈ blockMetaInfoToServerParse info) ↔
        ∀ a before, before <+: js → isValidAt before a = true → isValidAt js a = true) := by
  have known := run_sized run js left
  have valid : ∀ a, a ∈ blockMetaInfoToServerParse (replay js) ↔ isValidAt js a = true := by
    intro a
    rw [serverParse_replay, mem_validHosts]
  refine ⟨_, _, blockParseValidServers_render writable line none,
    blockGetMetaInfo_render js writable line', valid, ?_⟩
  constructor
  · intro same a before cut shown
    exact (valid a).mp ((same a).mp ((parseValid_iff known).mpr ⟨before, cut, shown⟩))
  · intro stays a
    rw [valid a, parseValid_iff known]
    constructor
    · rintro ⟨before, cut, shown⟩
      exact stays a before cut shown
    · intro shown
      exact ⟨js, List.prefix_refl js, shown⟩

section Sample

/-- A block on one host that is moved to another one. -/
def movedBlock : World Unit :=
  let created := (World.none fun _ => ()).advance (fun n _ _ => n)
    ((Request.create oneHost (createSampleEnv [])).outcome none).evs
  created.advance (fun n _ _ => n)
    ((Request.replace { replaceSample with newNode := "10.0.0.2" } (replaceSampleEnv "")).outcome
      created.file).evs

def movedLines : Journal := movedBlock.file.getD []

theorem movedBlock_run : Run anyNode anyRequest (.none fun _ => ()) movedBlock := by
  have created : Run anyNode anyRequest (.none fun _ => ())
      ((World.none fun _ => ()).advance (fun n _ _ => n)
        ((Request.create oneHost (createSampleEnv [])).outcome none).evs) :=
    run_next (fun _ _ _ => trivial) .refl (.create oneHost (createSampleEnv [])) Nat.one_pos
      (fun there => (there rfl).elim) (fun _ _ => trivial) trivial
  apply run_next (fun _ _ _ => trivial) created _ _ (fun _ => rfl) (fun _ _ => trivial) trivial
  change "10.0.0.1" ≠ "10.0.0.2"
  decide

theorem movedBlock_file : movedBlock.file = some movedLines := (Option.some_get (by decide)).symm

theorem movedLines_writable : ∀ l ∈ movedLines, l.writable = true := by decide

theorem readers_agree_sample :
    ∃ list info, Text.blockParseValidServers [] (render movedLines) [] none = some list ∧
      blockGetMetaInfo [] (render movedLines) = some info ∧
      (∀ a, a ∈ blockMetaInfoToServerParse info ↔ isValidAt movedLines a = true) ∧
      ((∀ a, a ∈ list ↔ a ∈ blockMetaInfoToServerParse info) ↔
        ∀ a before, before <+: movedLines → isValidAt before a = true →
          isValidAt movedLines a = true) :=
  readers_agree movedBlock_run movedBlock_file movedLines_writable [] []

/-- The node that the block was moved away from is still found by one of the readers. -/
theorem moved_node_found : Run anyNode anyRequest (.none fun _ => ()) movedBlock ∧
    movedBlock.file = some movedLines ∧
    Text.blockParseValidServers [] (render movedLines) [] none =
      some ["10.0.0.1", "10.0.0.2"] ∧
    (blockGetMetaInfo [] (render movedLines)).map blockMetaInfoToServerParse =
      some ["10.0.0.2"] := by
  refine ⟨movedBlock_run, movedBlock_file, ?_, ?_⟩
  · rw [blockParseValidServers_render movedLines_writable]
    decide
  · rw [blockGetMetaInfo_render movedLines movedLines_writable]
    decide

end Sample

end GlusterBlock
