import GlusterBlock.AuthTruth

/-! What a resize says about the sizes of the nodes. The recorded size is that of the
last request, and a host that does not have it yet is known by its resize status only,
which other operations overwrite. -/
namespace GlusterBlock

open Trail

/-- A create and a resize that return 0 set the size that they carry. Nothing else
changes it. -/
def sizeServe (n : Nat) (msg : Msg) (exit : Int) : Nat :=
  match msg with
  | .create obj => if exit = 0 then obj.size else n
  | .modifySize obj => if exit = 0 then obj.size else n
  | _ => n

def sizeModel : NodeModel Nat where
  fresh := fun _ => True
  serve := fun msg exit n n' => n' = sizeServe n msg exit

/-- The resize of the host is known to be unfinished. -/
def resizeMarked : Option MetaStatus → Bool
  | some .rsFail | some .rsInprogress => true
  | _ => false

/-- A host that counts as valid has the recorded size, or its status says that its
resize is to be done. -/
def SizesShown (w : World Nat) : Prop :=
  ∀ js, w.file = some js → ∀ a, isValidAt js a = true →
    w.nodes a = (replay js).size ∨ resizeMarked (latest js a) = true

/-- The statuses that some effects give to a host. -/
def given (evs : List Ev) (addr : Addr) : List (Option MetaStatus) :=
  (written evs).filterMap (effect addr)

/-- The host still has another size than the recorded one, and its status says so. -/
def resizeDue (js : Journal) (w : World Nat) (addr : Addr) : Prop :=
  resizeMarked (latest js addr) = true ∧ w.nodes addr ≠ (replay js).size

/-- A step that loses no unfinished resize. A resize that gets to record its size gets
to every host that has another one and no mark yet. No other request gives a new status
to a host whose resize is due. The one that is deleted may be left at
CLEANUPINPROGRESS only with the recorded size. -/
def SizeCare (req : Request) (evs : List Ev) (w _ : World Nat) : Prop :=
  match req with
  | .create _ _ => ∀ a, (given evs a).getLast? = some (some .cleanupInprogress) →
      ∃ obj, Ev.call a (.create obj) 0 ∈ evs
  | .delete _ _ => False
  | .modify _ _ => ∀ js, w.file = some js → ∀ a, resizeDue js w a → given evs a = []
  | .modifySize blk _ => ∀ js, w.file = some js → Ev.write [.size blk.size] ∈ evs →
      ∀ a, isValidAt js a = true → w.nodes a ≠ blk.size →
        resizeMarked (latest js a) = true ∨ given evs a ≠ [] ∨
          ∃ obj, Ev.call a (.modifySize obj) 0 ∈ evs
  | .replace blk _ => ∀ js, w.file = some js →
      (∀ a, a ≠ blk.oldNode → resizeDue js w a → given evs a = []) ∧
        ((given evs blk.oldNode).getLast? = some (some .cleanupInprogress) →
          w.nodes blk.oldNode = (replay js).size)

section Nodes

variable {addr : Addr}

/-- The size that an effect gives to a node. -/
def sizeSet (addr : Addr) : Ev → Option Nat
  | .call a (.create obj) exit => if a = addr ∧ exit = 0 then some obj.size else none
  | .call a (.modifySize obj) exit => if a = addr ∧ exit = 0 then some obj.size else none
  | _ => none

theorem size_step {e : Ev} {n n' : Nat} (step : sizeModel.step addr e n n') :
    n' = (sizeSet addr e).getD n := by
  unfold NodeModel.step at step
  cases e with
  | call a msg exit =>
    dsimp only at step
    split at step
    · rename_i same
      have served : n' = sizeServe n msg exit := step
      cases msg with
      | create obj =>
        rw [served]
        by_cases zero : exit = 0 <;> simp [sizeServe, sizeSet, same, zero]
      | modifySize obj =>
        rw [served]
        by_cases zero : exit = 0 <;> simp [sizeServe, sizeSet, same, zero]
      | _ => exact served
    · rename_i other
      rw [step]
      cases msg <;> simp [sizeSet, other]
  | _ => exact step

theorem size_along {evs : List Ev} {n n' : Nat} (along : Along (sizeModel.step addr) n evs n') :
    n' = (evs.filterMap (sizeSet addr)).getLast?.getD n :=
  along_last (fun _ _ _ step => size_step step) along

/-- When all calls that set the size carry the same one, the node has it or kept its
own. -/
theorem size_only {evs : List Ev} {n n' : Nat} (size : Nat)
    (along : Along (sizeModel.step addr) n evs n')
    (only : ∀ e ∈ evs, ∀ m, sizeSet addr e = some m → m = size) :
    ((∃ e ∈ evs, sizeSet addr e ≠ none) → n' = size) ∧
      ((∀ e ∈ evs, sizeSet addr e = none) → n' = n) := by
  have ends := size_along along
  constructor
  · rintro ⟨e, he, set⟩
    cases last : (evs.filterMap (sizeSet addr)).getLast? with
    | none =>
      have empty := List.filterMap_eq_nil_iff.mp (List.getLast?_eq_none_iff.mp last)
      exact absurd (empty e he) set
    | some m =>
      rw [last] at ends
      obtain ⟨d, hd, put⟩ := List.mem_filterMap.mp (List.mem_of_getLast? last)
      exact ends.trans (only d hd m put)
  · intro none
    rw [List.filterMap_eq_nil_iff.mpr none] at ends
    exact ends

theorem sizeSet_about {e : Ev} {size : Nat} (set : sizeSet addr e = some size) :
    e.isAbout addr = true := by
  unfold sizeSet at set
  split at set
  · split at set
    · rename_i here
      exact beq_iff_eq.mpr here.1
    · cases set
  · split at set
    · rename_i here
      exact beq_iff_eq.mpr here.1
    · cases set
  · cases set

theorem given_after (js : Journal) (evs : List Ev) (addr : Addr) :
    latest (js ++ written evs) addr = (given evs addr).getLast?.getD (latest js addr) :=
  latest_append js (written evs) addr

theorem given_hostEvs (evs : List Ev) (addr : Addr) :
    given (hostEvs addr evs) addr = given evs addr := effects_hostEvs addr evs

theorem given_nil {evs : List Ev} (none : hostEvs addr evs = []) : given evs addr = [] := by
  rw [← given_hostEvs, none]
  rfl

/-- A status that some effects give to a host comes from a line about it. -/
theorem mem_given {evs : List Ev} {status : Option MetaStatus} (h : status ∈ given evs addr) :
    ∃ lines, Ev.write lines ∈ hostEvs addr evs ∧ ∃ l ∈ lines, effect addr l = some status := by
  rw [← given_hostEvs] at h
  obtain ⟨l, hl, put⟩ := List.mem_filterMap.mp h
  obtain ⟨lines, he, hmem⟩ := mem_written.mp hl
  exact ⟨lines, he, l, hmem, put⟩

/-- Among the effects of one worker it is one of the worker's statuses. -/
theorem given_full {j : RemoteJob} {evs : List Ev}
    (each : ∀ e ∈ hostEvs j.addr evs, ∃ exit, e ∈ j.full exit) {status : Option MetaStatus}
    (h : status ∈ given evs j.addr) :
    ∃ s ∈ j.words, status = some s ∧ j.line s ∈ hostEvs j.addr evs := by
  obtain ⟨lines, he, l, hl, put⟩ := mem_given h
  obtain ⟨exit, full⟩ := each _ he
  rcases mem_full full with ⟨s, word, line⟩ | call
  · have same : lines = [.host j.addr s j.size] := by
      unfold RemoteJob.line at line
      cases line
      rfl
    subst same
    rw [List.mem_singleton.mp hl] at put
    have shown : (if j.addr = j.addr ∧ (statusText s j.size).length ≤ 31 then some (some s)
        else none) = some status := put
    split at shown
    · exact ⟨s, word, (Option.some.inj shown).symm, he⟩
    · cases shown
  · cases call

theorem effect_own {addr : Addr} {s : MetaStatus} {size : Option Nat} {status : Option MetaStatus}
    (put : effect addr (.host addr s size) = some status) : status = some s := by
  have fits : (if addr = addr ∧ (statusText s size).length ≤ 31 then some (some s) else none) =
      some status := put
  split at fits
  · exact (Option.some.inj fits).symm
  · cases fits

/-- The only valid status that a delete worker gives is CLEANUPINPROGRESS. -/
theorem deleted_given {dobj : BlockDelete} {exit : Int} {lines : Journal} {l : MetaLine}
    {status : Option MetaStatus}
    (full : Ev.write lines ∈ (glusterBlockDeleteRemote addr dobj).full exit) (hl : l ∈ lines)
    (put : effect addr l = some status) (valid : status.any MetaStatus.isValid = true) :
    status = some .cleanupInprogress := by
  rcases mem_full full with ⟨s, word, line⟩ | call
  · unfold RemoteJob.line at line
    cases line
    obtain rfl := List.mem_singleton.mp hl
    have words : s = .cleanupInprogress ∨ s = .cleanupFail ∨ s = .cleanupSuccess := by
      simpa [RemoteJob.words, glusterBlockDeleteRemote] using word
    rw [effect_own put] at valid ⊢
    rcases words with rfl | rfl | rfl
    · rfl
    · cases valid
    · cases valid
  · cases call

end Nodes

section Steps

variable {w w' : World Nat} {evs : List Ev} {addr : Addr}

theorem host_noSize {l : MetaLine} (host : l.isHost = true) : sizeOf? l = none := by
  cases l <;> first | rfl | cases host

theorem sizes_idle {req : Request} (inv : SizesShown w) (step : Step sizeModel req evs w w')
    (none : evs = []) : SizesShown w' := by
  intro js left a valid
  subst none
  have there : w.file = some js := step.file.symm.trans left
  rw [along_nil.mp (step_existing step there a)]
  exact inv js there a valid

/-- What a call of this worker sets is not the size. -/
theorem full_unsized {j : RemoteJob} (unsized : ∀ exit, sizeSet j.addr (.call j.addr j.msg exit) = none)
    {exit : Int} {e : Ev} (he : e ∈ j.full exit) : sizeSet j.addr e = none := by
  rcases mem_full he with ⟨status, _, rfl⟩ | rfl
  · rfl
  · exact unsized exit

theorem node_kept {n n' : Nat} (along : Along (sizeModel.step addr) n evs n')
    (unsized : ∀ e ∈ hostEvs addr evs, sizeSet addr e = none) : n' = n := by
  have still : ∀ e ∈ evs, sizeSet addr e = none := by
    intro e he
    cases set : sizeSet addr e with
    | none => rfl
    | some size =>
      have here := unsized e (List.mem_filter.mpr ⟨he, sizeSet_about set⟩)
      exact set.symm.trans here
  exact (size_only n along (fun e he m set => nomatch (still e he).symm.trans set)).2 still

theorem size_kept {js : Journal} (none : ∀ l ∈ written evs, sizeOf? l = none) :
    (replay (js ++ written evs)).size = (replay js).size := by
  rw [size_append, no_pick none]
  rfl

/-- A host whose node stays as it is keeps its truth when its due resize is not
hidden. -/
theorem sizes_kept {js : Journal} {n n' : Nat}
    (before : isValidAt js addr = true → n = (replay js).size ∨ resizeMarked (latest js addr) = true)
    (node : n' = n) (recorded : (replay (js ++ written evs)).size = (replay js).size)
    (touched : given evs addr ≠ [] → isValidAt js addr = true)
    (care : resizeMarked (latest js addr) = true → n ≠ (replay js).size → given evs addr = [])
    (valid : isValidAt (js ++ written evs) addr = true) :
    n' = (replay (js ++ written evs)).size ∨
      resizeMarked (latest (js ++ written evs) addr) = true := by
  rw [recorded, node]
  by_cases none : given evs addr = []
  · have same : latest (js ++ written evs) addr = latest js addr := by
      rw [given_after, none]
      rfl
    rw [same]
    unfold isValidAt at valid before
    rw [same] at valid
    exact before valid
  · left
    by_contra other
    rcases before (touched none) with right | marked
    · exact other right
    · exact none (care marked other)

theorem modify_sizes {blk : BlockModifyCli} {env : ModifyEnv} (inv : SizesShown w)
    (step : Step sizeModel (.modify blk env) evs w w')
    (care : SizeCare (.modify blk env) evs w w') : SizesShown w' := by
  rcases modify_evs blk env w.file with none | ⟨js, there, body⟩
  · exact sizes_idle inv step (List.prefix_nil.mp (none ▸ step.takes.cut))
  · intro js' left a valid
    obtain ⟨_, rfl⟩ := step_grows step left
    rw [there, Option.getD_some] at valid ⊢
    have cut : hostEvs a evs <+: hostEvs a (modifyBody blk js env).evs :=
      hostEvs_cut _ (body ▸ step.takes.cut)
    apply sizes_kept (inv js there a) _ _ _ _ valid
    · apply node_kept (step_existing step there a)
      intro e he
      have round : ∀ ms mobj jobs sched, e ∈ hostEvs a (modifyEvs ms mobj jobs sched) →
          sizeSet a e = none := by
        intro ms mobj jobs sched he
        rw [modifyEvs_host] at he
        split at he
        · obtain ⟨exit, full⟩ := run_seen (j := glusterBlockModifyRemote a mobj) he
          exact full_unsized (fun _ => rfl) full
        · cases he
      rcases List.mem_append.mp ((modify_host _ blk js env).subset (cut.subset he)) with tried | undo
      · exact round _ _ _ _ tried
      · exact round _ _ _ _ undo
    · apply size_kept
      intro l hl
      rcases step_lines step there hl with host | ⟨passwd, rfl⟩
      · exact host_noSize host
      · rfl
    · intro some_status
      by_contra invalid
      have away := modify_untouched blk env (Bool.eq_false_iff.mpr invalid)
      exact some_status (given_nil (List.prefix_nil.mp (away ▸ cut)))
    · intro marked other
      exact care js there a ⟨marked, other⟩

/-- A create worker gives a valid status behind a call that set the size only. -/
theorem created_set {cobj : BlockCreate2} {es : List Ev}
    (before : Weaving.Before
      (fun e => e = .call addr (glusterBlockCreateRemote addr cobj).msg 0)
      (fun e => ∃ s ∈ (glusterBlockCreateRemote addr cobj).done ::
          (glusterBlockCreateRemote addr cobj).extra.toList,
        e = (glusterBlockCreateRemote addr cobj).line s) es) {s : MetaStatus}
    (word : s ∈ (glusterBlockCreateRemote addr cobj).words) (valid : s.isValid = true)
    (line : (glusterBlockCreateRemote addr cobj).line s ∈ es) :
    Ev.call addr (glusterBlockCreateRemote addr cobj).msg 0 ∈ es := by
  have success : s ∈ (glusterBlockCreateRemote addr cobj).done ::
      (glusterBlockCreateRemote addr cobj).extra.toList := by
    unfold RemoteJob.words at word
    rcases List.mem_cons.mp word with rfl | word
    · cases valid
    · rcases List.mem_cons.mp word with rfl | word
      · cases valid
      · exact word
  obtain ⟨e, he, rfl⟩ := Weaving.before_found before line ⟨s, success, rfl⟩
  exact he

theorem create_success (addr : Addr) (cobj : BlockCreate2) :
    let j := glusterBlockCreateRemote addr cobj
    ∀ s ∈ j.done :: j.extra.toList, s.isValid = true ∧ s ≠ .cleanupInprogress := by
  cases mode : cobj.authMode <;> simp [glusterBlockCreateRemote, mode, MetaStatus.isValid]

theorem create_sets {cobj : BlockCreate2} {exit : Int} {e : Ev}
    (he : e ∈ (glusterBlockCreateRemote addr cobj).full exit) {m : Nat}
    (set : sizeSet addr e = some m) : m = cobj.size := by
  rcases mem_full he with ⟨status, _, rfl⟩ | rfl
  · cases set
  · have shown : (if addr = addr ∧ exit = 0 then some cobj.size else none) = some m := set
    split at shown
    · exact (Option.some.inj shown).symm
    · cases shown

section Create

variable {blk : BlockCreateCli} {env : CreateEnv} {resultCaps : Caps}

theorem prepared_size (resultCaps : Caps) :
    (replay (preparedLines blk env resultCaps)).size = createSize blk env := by
  have start : preparedLines blk env resultCaps = [] ++ preparedLines blk env resultCaps := rfl
  rw [start, size_append]
  unfold preparedLines headerLines entryLines
  split <;> split <;> split <;> rfl

theorem rollback_unsized {js : Journal} {e : Ev}
    (he : e ∈ hostEvs addr (rollbackEvs blk env js)) : sizeSet addr e = none := by
  rcases rollback_seen he with ⟨dobj, exit, full⟩ | files
  · exact full_unsized (j := glusterBlockDeleteRemote addr dobj) (fun _ => rfl) full
  · cases e with
    | call a msg exit => exact absurd files deleteFiles_calls
    | _ => rfl

/-- The only valid status that the rollback gives is CLEANUPINPROGRESS. -/
theorem rollback_given {js : Journal} {lines : Journal} {l : MetaLine}
    {status : Option MetaStatus}
    (he : Ev.write lines ∈ hostEvs addr (rollbackEvs blk env js)) (hl : l ∈ lines)
    (put : effect addr l = some status) (valid : status.any MetaStatus.isValid = true) :
    status = some .cleanupInprogress := by
  rcases rollback_seen he with ⟨dobj, exit, full⟩ | files
  · exact deleted_given full hl put valid
  · obtain ⟨state, rfl⟩ := deleteFiles_lines (mem_written.mpr ⟨lines, files, hl⟩)
    have reset : (if addr = "ENTRYDELETE" then some none else none) = some status := put
    split at reset
    · cases reset
      cases valid
    · cases reset

variable (cut : evs <+: (createPrepare blk env resultCaps).evs ++
  createEvs (createHosts blk) (createObj blk env resultCaps) env.jobs env.sched ++
    rollbackEvs blk env (auditedLines blk env resultCaps))
include cut

theorem create_cut (addr : Addr) : hostEvs addr evs <+:
    hostEvs addr (createEvs (createHosts blk) (createObj blk env resultCaps) env.jobs env.sched) ++
      hostEvs addr (rollbackEvs blk env (auditedLines blk env resultCaps)) := by
  have shown := hostEvs_cut addr cut
  rwa [hostEvs_append, hostEvs_append, prepare_host, List.nil_append] at shown

/-- A create that has got to a host has written the lines of its preparation, and no
other size behind them. -/
theorem create_lines (prepared : env.prepared blk) (reached : hostEvs addr evs ≠ []) :
    ∃ rest, written evs = preparedLines blk env resultCaps ++ rest ∧
      ∀ l ∈ rest, sizeOf? l = none := by
  rw [List.append_assoc] at cut
  rcases List.prefix_or_prefix_of_prefix cut (List.prefix_append _ _) with short | ⟨rest, long⟩
  · have none := hostEvs_cut addr short
    rw [prepare_host] at none
    exact absurd (List.prefix_nil.mp none) reached
  · rcases prepare_cases blk env resultCaps with ⟨_, _, lines, keep⟩ | ⟨failed, _⟩
    · have first := metaAfter_none keep lines
      rw [← long] at cut
      have tail := (List.prefix_append_right_inj _).mp cut
      refine ⟨written rest, ?_, fun l hl => ?_⟩
      · rw [← long, written_append, ← first]
      · obtain ⟨ls, he, hmem⟩ := mem_written.mp hl
        rcases List.mem_append.mp (tail.subset he) with worker | undo
        · exact host_noSize (runWorkers_lines (mem_written.mpr ⟨ls, worker, hmem⟩))
        · unfold rollbackEvs at undo
          split at undo
          · cases undo
          · rcases cleanUp_lines (mem_written.mpr ⟨ls, undo, hmem⟩) with host | ⟨state, rfl⟩
            · exact host_noSize host
            · rfl
    · exact absurd prepared failed

theorem create_recorded (prepared : env.prepared blk) (reached : hostEvs addr evs ≠ []) :
    (replay (written evs)).size = createSize blk env := by
  obtain ⟨rest, lines, none⟩ := create_lines cut prepared reached
  rw [lines, size_append, no_pick none, prepared_size]
  rfl

/-- A host that the create left valid got a call that returned 0. -/
theorem create_called {s : MetaStatus} (last : (given evs addr).getLast? = some (some s))
    (valid : s.isValid = true)
    (care : s = .cleanupInprogress → ∃ obj, Ev.call addr (.create obj) 0 ∈ evs) :
    ∃ obj, Ev.call addr (.create obj) 0 ∈ evs := by
  let j := glusterBlockCreateRemote addr (createObj blk env resultCaps)
  have seen := create_cut cut addr
  obtain ⟨lines, he, l, hl, put⟩ := mem_given (List.mem_of_getLast? last)
  rcases List.mem_append.mp (seen.subset he) with worker | undo
  · obtain ⟨exit, full⟩ := createEvs_seen worker
    rcases mem_full full with ⟨s', word, line⟩ | call
    · have order : Weaving.Before _ _ (hostEvs addr (createEvs (createHosts blk)
          (createObj blk env resultCaps) env.jobs env.sched)) :=
        createEvs_before (full_order (j := j) rfl (create_apart addr _))
      have before := Weaving.before_append order (hostEvs addr (rollbackEvs blk env
        (auditedLines blk env resultCaps))) ?_
      · obtain ⟨rest, whole⟩ := seen
        have same : s = s' := by
          unfold RemoteJob.line at line
          cases line
          obtain rfl := List.mem_singleton.mp hl
          exact Option.some.inj (effect_own put)
        have call := created_set (Weaving.before_cut (whole ▸ before)) (same ▸ word) valid
          (same ▸ line ▸ he)
        exact ⟨_, List.mem_of_mem_filter call⟩
      · rintro e undo ⟨d, success, rfl⟩
        obtain ⟨ends, other⟩ := create_success addr (createObj blk env resultCaps) d success
        have fits : (statusText d none).length ≤ 31 := Nat.le_trans (lookup_short d) (by decide)
        have shown : effect addr (.host addr d none) = some (some d) := if_pos ⟨rfl, fits⟩
        have pending := rollback_given undo (List.mem_singleton.mpr rfl) shown ends
        exact other (Option.some.inj pending)
    · cases call
  · exact care (Option.some.inj (rollback_given undo hl put valid))

end Create

theorem create_sizes {blk : BlockCreateCli} {env : CreateEnv} (inv : SizesShown w)
    (step : Step sizeModel (.create blk env) evs w w')
    (care : SizeCare (.create blk env) evs w w') : SizesShown w' := by
  rcases create_evs blk env step.takes.finds with none | ⟨free, resultCaps, body⟩
  · exact sizes_idle inv step (List.prefix_nil.mp (none ▸ step.takes.cut))
  · have cut : evs <+: (createBody blk env resultCaps none).1.act.evs := body ▸ step.takes.cut
    intro js left a valid
    obtain ⟨_, rfl⟩ := step_grows step left
    rw [free, Option.getD_none, List.nil_append] at valid ⊢
    obtain ⟨n, _, along⟩ := step.nodes a
    obtain ⟨s, last, ends⟩ : ∃ s, (given evs a).getLast? = some (some s) ∧ s.isValid = true := by
      have shown := given_after [] evs a
      rw [List.nil_append] at shown
      unfold isValidAt at valid
      rw [shown] at valid
      cases last : (given evs a).getLast? with
      | none =>
        rw [last] at valid
        cases valid
      | some status =>
        rw [last] at valid
        cases status with
        | none => cases valid
        | some s => exact ⟨s, rfl, valid⟩
    have reached : hostEvs a evs ≠ [] := by
      intro none
      rw [given_nil none] at last
      cases last
    rcases createBody_evs blk env resultCaps with prep | ⟨prepared, whole⟩
    · have none := hostEvs_cut a (prep ▸ cut)
      rw [prepare_host] at none
      exact absurd (List.prefix_nil.mp none) reached
    · rw [whole] at cut
      left
      rw [create_recorded cut prepared reached]
      obtain ⟨obj, call⟩ := create_called cut last ends (fun pending => care a (pending ▸ last))
      apply (size_only _ along _).1 ⟨_, call, by simp [sizeSet]⟩
      intro e he m set
      have here := List.mem_filter.mpr ⟨he, sizeSet_about set⟩
      rcases List.mem_append.mp ((create_cut cut a).subset here) with worker | undo
      · obtain ⟨exit, full⟩ := createEvs_seen worker
        exact create_sets full set
      · exact nomatch (rollback_unsized undo).symm.trans set

section Resize

variable {blk : BlockModifySizeCli} {env : ModifySizeEnv} {js : Journal}

/-- A resize records the size before it gets to a node. -/
theorem resize_cut (cut : evs <+: (modifySizeBody blk js env).evs) :
    evs = [] ∨ evs = [.touch] ∨ ∃ p, evs = .write [.size blk.size] :: p ∧
      p <+: modifySizeEvs js (modifySizeObj blk (replay js)) env := by
  rcases modifySizeBody_evs blk env js with none | ⟨_, body⟩
  · exact .inl (List.prefix_nil.mp (none ▸ cut))
  · rw [body] at cut
    cases evs with
    | nil => exact .inl rfl
    | cons e p =>
      right
      cases update : env.sizeUpdate with
      | ok =>
        rw [update] at cut
        obtain ⟨rfl, rest⟩ := List.cons_prefix_cons.mp cut
        exact .inr ⟨p, rfl, rest⟩
      | notOpened =>
        rw [update] at cut
        exact absurd (List.prefix_nil.mp cut) (List.cons_ne_nil e p)
      | notWritten =>
        rw [update] at cut
        obtain ⟨rfl, rest⟩ := List.cons_prefix_cons.mp cut
        obtain rfl := List.prefix_nil.mp rest
        exact .inl rfl
      | notClosed =>
        rw [update] at cut
        obtain ⟨rfl, rest⟩ := List.cons_prefix_cons.mp cut
        obtain rfl := List.prefix_nil.mp rest
        exact .inr ⟨[], rfl, List.nil_prefix⟩

theorem resize_recorded {p : List Ev}
    (workers : p <+: modifySizeEvs js (modifySizeObj blk (replay js)) env) :
    (replay (js ++ written (.write [.size blk.size] :: p))).size = blk.size := by
  have lines : written (.write [.size blk.size] :: p) = .size blk.size :: written p := rfl
  have rest : (written p).filterMap sizeOf? = [] := by
    apply no_pick
    intro l hl
    obtain ⟨ls, he, hmem⟩ := mem_written.mp hl
    exact host_noSize (runWorkers_lines (mem_written.mpr ⟨ls, workers.subset he, hmem⟩))
  rw [size_append, lines, List.filterMap_cons_some (show sizeOf? (.size blk.size) = _ from rfl),
    rest]
  rfl

/-- A host of a resize sees its worker, or nothing. -/
theorem resize_seen {p : List Ev} {mobj : BlockModifySize}
    (workers : p <+: modifySizeEvs js mobj env) {e : Ev} (he : e ∈ hostEvs addr p) :
    ∃ exit, e ∈ (glusterBlockModifySizeRemote addr mobj).full exit := by
  have seen := (hostEvs_cut addr workers).subset he
  rw [modifySizeEvs_host] at seen
  split at seen
  · exact run_seen (j := glusterBlockModifySizeRemote addr mobj) seen
  · cases seen

theorem resize_before {p : List Ev} {mobj : BlockModifySize}
    (workers : p <+: modifySizeEvs js mobj env) :
    let j := glusterBlockModifySizeRemote addr mobj
    Weaving.Before (fun e => e = .call addr j.msg 0)
      (fun e => ∃ s ∈ j.done :: j.extra.toList, e = j.line s) (hostEvs addr p) := by
  obtain ⟨rest, whole⟩ := hostEvs_cut addr workers
  suffices order : Weaving.Before _ _ (hostEvs addr p ++ rest) from Weaving.before_cut order
  rw [whole, modifySizeEvs_host]
  split
  · obtain ⟨exit, more, full⟩ := (glusterBlockModifySizeRemote addr mobj).run_cut
      (env.jobs addr)
    have order := full_order (j := glusterBlockModifySizeRemote addr mobj) rfl
      (by simp [glusterBlockModifySizeRemote]) exit
    exact Weaving.before_cut (full ▸ order)
  · trivial

theorem resize_sets {mobj : BlockModifySize} {exit : Int} {e : Ev}
    (he : e ∈ (glusterBlockModifySizeRemote addr mobj).full exit) {m : Nat}
    (set : sizeSet addr e = some m) : m = mobj.size ∧ e = .call addr (.modifySize mobj) 0 := by
  rcases mem_full he with ⟨status, _, rfl⟩ | rfl
  · cases set
  · have shown : (if addr = addr ∧ exit = 0 then some mobj.size else none) = some m := set
    split at shown
    · rename_i zero
      exact ⟨(Option.some.inj shown).symm, zero.2 ▸ rfl⟩
    · cases shown

end Resize

theorem modifySize_sizes {blk : BlockModifySizeCli} {env : ModifySizeEnv} (inv : SizesShown w)
    (step : Step sizeModel (.modifySize blk env) evs w w')
    (care : SizeCare (.modifySize blk env) evs w w') : SizesShown w' := by
  rcases modifySize_evs blk env w.file with none | ⟨js, there, _, body⟩
  · exact sizes_idle inv step (List.prefix_nil.mp (none ▸ step.takes.cut))
  · have untouched : ∀ {a}, isValidAt js a = false → given evs a = [] := by
      intro a invalid
      have none := hostEvs_cut a (body ▸ step.takes.cut)
      rw [modifySize_untouched blk env invalid] at none
      exact given_nil (List.prefix_nil.mp none)
    rcases resize_cut (body ▸ step.takes.cut) with none | touched | ⟨p, recording, workers⟩
    · exact sizes_idle inv step none
    · intro js' left a valid
      obtain ⟨_, rfl⟩ := step_grows step left
      rw [there, Option.getD_some] at valid ⊢
      have along := step_existing step there a
      subst touched
      apply sizes_kept (inv js there a) _ _ _ (fun _ _ => rfl) valid
      · exact node_kept along (fun e he => nomatch he)
      · exact size_kept (fun l hl => nomatch hl)
      · exact fun some_status => (some_status rfl).elim
    · let mobj := modifySizeObj blk (replay js)
      intro js' left a valid
      obtain ⟨_, rfl⟩ := step_grows step left
      rw [there, Option.getD_some] at valid ⊢
      have along := step_existing step there a
      have care := care js there (recording ▸ List.mem_cons_self) a
      have host : hostEvs a evs = hostEvs a p := by rw [recording]; rfl
      have seen : ∀ e ∈ hostEvs a evs, ∃ exit,
          e ∈ (glusterBlockModifySizeRemote a mobj).full exit :=
        fun e he => resize_seen workers (host ▸ he)
      have size : (replay (js ++ written evs)).size = blk.size :=
        recording ▸ resize_recorded workers
      rw [size]
      by_cases called : Ev.call a (.modifySize mobj) 0 ∈ evs
      · left
        apply (size_only _ along _).1 ⟨_, called, by simp [sizeSet]⟩
        intro e he m set
        obtain ⟨exit, full⟩ := seen e (List.mem_filter.mpr ⟨he, sizeSet_about set⟩)
        exact (resize_sets full set).1
      · have node : w'.nodes a = w.nodes a := by
          apply node_kept along
          intro e he
          cases set : sizeSet a e with
          | none => rfl
          | some m =>
            obtain ⟨exit, full⟩ := seen e he
            have call := (resize_sets full set).2
            exact absurd (List.mem_of_mem_filter (call ▸ he)) called
        rw [node]
        cases last : (given evs a).getLast? with
        | none =>
          have none := List.getLast?_eq_none_iff.mp last
          unfold isValidAt at valid
          rw [given_after, none, List.getLast?_nil, Option.getD_none] at valid ⊢
          by_cases right : w.nodes a = blk.size
          · exact .inl right
          · rcases care valid right with marked | some_status | ⟨obj, call⟩
            · exact .inr marked
            · exact absurd none some_status
            · have here : Ev.call a (.modifySize obj) 0 ∈ hostEvs a evs :=
                List.mem_filter.mpr ⟨call, beq_self_eq_true a⟩
              obtain ⟨exit, full⟩ := seen _ here
              have same := (resize_sets full (m := obj.size) (by simp [sizeSet])).2
              exact absurd (same ▸ call) called
        | some status =>
          right
          obtain ⟨s, word, same, line⟩ := given_full (j := glusterBlockModifySizeRemote a mobj)
            seen (List.mem_of_getLast? last)
          rw [given_after, last, Option.getD_some, same]
          have words : s = .rsInprogress ∨ s = .rsFail ∨ s = .rsSuccess := by
            simpa [RemoteJob.words, glusterBlockModifySizeRemote] using word
          rcases words with rfl | rfl | rfl
          · rfl
          · rfl
          · obtain ⟨e, he, rfl⟩ := Weaving.before_found (resize_before workers) (host ▸ line)
              ⟨_, List.mem_cons_self, rfl⟩
            exact absurd (List.mem_of_mem_filter (host ▸ he)) called

section Replace

variable {blk : BlockReplaceCli} {env : ReplaceEnv} {js : Journal} {checks : ReplaceChecks}
variable (other : blk.oldNode ≠ blk.newNode) (ok : replaceChecks blk (replay js) = .ok checks)
include other ok

/-- The old node sees the worker that deletes it, and the line of a forced replace. -/
theorem replace_old {e : Ev}
    (he : e ∈ hostEvs blk.oldNode (replacePool blk js checks env) ++
      [.write [.host blk.oldNode .cleanupSuccess none]]) :
    (∃ exit, e ∈ (glusterBlockDeleteRemote blk.oldNode
        ⟨blk.blockName, (replay js).gbid⟩).full exit) ∨
      e = .write [.host blk.oldNode .cleanupSuccess none] := by
  rcases List.mem_append.mp he with pool | line
  · left
    cases done : checks.dCheck with
    | false =>
      rw [replacePool_old other ok done] at pool
      exact run_seen (j := glusterBlockDeleteRemote blk.oldNode _) pool
    | true =>
      have idle : hostEvs blk.oldNode (replacePool blk js checks env) = [] :=
        replacePool_rest (fun _ => other)
          (fun pending => absurd (pending.symm.trans done) Bool.false_ne_true)
          (fun _ h => (mem_replaceOthers.mp (List.mem_of_mem_take h)).2 rfl)
      rw [idle] at pool
      cases pool
  · exact .inr (List.mem_singleton.mp line)

/-- The only valid status that it gets is CLEANUPINPROGRESS. -/
theorem replace_old_given
    (cut : hostEvs blk.oldNode evs <+: hostEvs blk.oldNode (replacePool blk js checks env) ++
      [.write [.host blk.oldNode .cleanupSuccess none]])
    {status : Option MetaStatus} (h : status ∈ given evs blk.oldNode)
    (valid : status.any MetaStatus.isValid = true) : status = some .cleanupInprogress := by
  obtain ⟨lines, he, l, hl, put⟩ := mem_given h
  rcases replace_old other ok (cut.subset he) with ⟨exit, full⟩ | line
  · exact deleted_given full hl put valid
  · cases line
    obtain rfl := List.mem_singleton.mp hl
    rw [effect_own put] at valid
    cases valid

/-- The other hosts than the two nodes see a portal replacement, and were valid. -/
theorem replace_portal {a : Addr} (notOld : a ≠ blk.oldNode)
    (notNew : ¬ (a = blk.newNode ∧ checks.cCheck = false)) {e : Ev}
    (he : e ∈ hostEvs a (replacePool blk js checks env)) :
    isValidAt js a = true ∧ ∃ exit,
      e ∈ (glusterBlockReplacePortalRemote a (replaceRobj blk (replay js))).full exit := by
  by_cases slot : checks.rCheck = true ∧
      a ∈ (replaceOthers (replay js) blk.oldNode).take ((replay js).mpath - 1)
  · rw [replacePool_portal other ok slot.1 slot.2] at he
    exact ⟨(mem_replaceOthers.mp (List.mem_of_mem_take slot.2)).1,
      run_seen (j := glusterBlockReplacePortalRemote a _) he⟩
  · rw [replacePool_rest (fun todo h => notNew ⟨h, todo⟩) (fun _ => notOld)
      (fun todo h => slot ⟨todo, h⟩)] at he
    cases he

/-- The new node gets a valid status behind a call that gave it the recorded size. -/
theorem replace_new (todo : checks.cCheck = false)
    (cut : hostEvs blk.newNode evs <+: hostEvs blk.newNode (replacePool blk js checks env))
    (valid : isValidAt (js ++ written evs) blk.newNode = true) {n n' : Nat}
    (along : Along (sizeModel.step blk.newNode) n evs n') : n' = (replay js).size := by
  let cobj := replaceCobj blk (replay js) env.volServer
  rw [replacePool_new other ok todo] at cut
  obtain ⟨exit, full⟩ := (glusterBlockCreateRemote blk.newNode cobj).run_cut env.create
  have each : ∀ e ∈ hostEvs blk.newNode evs, e ∈ (glusterBlockCreateRemote blk.newNode cobj).full
      exit := fun e he => full.subset (cut.subset he)
  obtain ⟨rest, whole⟩ := cut.trans full
  have order := full_order (j := glusterBlockCreateRemote blk.newNode cobj) rfl
    (create_apart blk.newNode cobj) exit
  have before := Weaving.before_cut (whole ▸ order)
  have unused : (latest js blk.newNode).any MetaStatus.isValid = false :=
    (replaceChecks_ok blk ok).2.2.2 todo
  unfold isValidAt at valid
  rw [given_after] at valid
  cases last : (given evs blk.newNode).getLast? with
  | none =>
    rw [last, Option.getD_none, unused] at valid
    cases valid
  | some status =>
    obtain ⟨s, word, same, line⟩ := given_full (j := glusterBlockCreateRemote blk.newNode cobj)
      (fun e he => ⟨exit, each e he⟩) (List.mem_of_getLast? last)
    rw [last, Option.getD_some, same] at valid
    have call := created_set before word valid line
    apply (size_only _ along _).1
    · exact ⟨_, List.mem_of_mem_filter call, by simp [sizeSet, glusterBlockCreateRemote]⟩
    · intro e he m set
      exact create_sets (each e (List.mem_filter.mpr ⟨he, sizeSet_about set⟩)) set

end Replace

theorem replace_sizes {blk : BlockReplaceCli} {env : ReplaceEnv} (inv : SizesShown w)
    (step : Step sizeModel (.replace blk env) evs w w')
    (care : SizeCare (.replace blk env) evs w w') : SizesShown w' := by
  rcases replace_shown blk env w.file with none | ⟨js, checks, there, ok, shown⟩
  · exact sizes_idle inv step (List.prefix_nil.mp (none ▸ step.takes.cut))
  · have other : blk.oldNode ≠ blk.newNode := step.takes.accepted
    have cut := fun a => (hostEvs_cut a step.takes.cut).trans (shown a)
    intro js' left a valid
    obtain ⟨_, rfl⟩ := step_grows step left
    rw [there, Option.getD_some] at valid ⊢
    have along := step_existing step there a
    have recorded : (replay (js ++ written evs)).size = (replay js).size := by
      apply size_kept
      intro l hl
      rcases step_lines step there hl with host | ⟨addr, rfl⟩
      · exact host_noSize host
      · rfl
    obtain ⟨careOthers, careOld⟩ := care js there
    by_cases isOld : a = blk.oldNode
    · subst isOld
      have cut := cut blk.oldNode
      rw [if_pos rfl] at cut
      have node : w'.nodes blk.oldNode = w.nodes blk.oldNode := by
        apply node_kept along
        intro e he
        rcases replace_old other ok (cut.subset he) with ⟨exit, full⟩ | rfl
        · exact full_unsized (j := glusterBlockDeleteRemote blk.oldNode _) (fun _ => rfl) full
        · rfl
      cases last : (given evs blk.oldNode).getLast? with
      | none =>
        have none := List.getLast?_eq_none_iff.mp last
        apply sizes_kept (inv js there blk.oldNode) node recorded _ (fun _ _ => none) valid
        intro some_status
        exact absurd none some_status
      | some status =>
        unfold isValidAt at valid
        rw [given_after, last, Option.getD_some] at valid
        have pending := replace_old_given other ok cut (List.mem_of_getLast? last) valid
        rw [pending] at last
        rw [node, recorded]
        exact .inl (careOld last)
    · have cut := cut a
      rw [if_neg isOld, List.append_nil] at cut
      by_cases isNew : a = blk.newNode ∧ checks.cCheck = false
      · obtain ⟨rfl, todo⟩ := isNew
        rw [recorded]
        exact .inl (replace_new other ok todo cut valid along)
      · have portal := fun e he => replace_portal other ok isOld isNew (cut.subset (a := e) he)
        apply sizes_kept (inv js there a) _ recorded _ _ valid
        · apply node_kept along
          intro e he
          obtain ⟨_, exit, full⟩ := portal e he
          exact full_unsized (j := glusterBlockReplacePortalRemote a _) (fun _ => rfl) full
        · intro some_status
          obtain ⟨status, hs⟩ := List.exists_mem_of_ne_nil _ some_status
          obtain ⟨lines, he, _⟩ := mem_given hs
          exact (portal _ he).1
        · intro marked due
          exact careOthers a isOld ⟨marked, due⟩

theorem sizes_step {req : Request} (inv : SizesShown w) (step : Step sizeModel req evs w w')
    (care : SizeCare req evs w w') : SizesShown w' := by
  cases req with
  | create blk env => exact create_sizes inv step care
  | delete blk env => exact care.elim
  | modify blk env => exact modify_sizes inv step care
  | modifySize blk env => exact modifySize_sizes inv step care
  | replace blk env => exact replace_sizes inv step care

theorem run_sizes {nodes : Addr → Nat} (run : Run sizeModel SizeCare (World.none nodes) w) :
    SizesShown w := by
  refine run_keeps _ (fun _ _ _ _ => sizes_step) ?_ run
  intro js absurd
  cases absurd

end Steps

section Told

variable {blk : BlockModifySizeCli} {env : ModifySizeEnv}

/-- The request gets to the check of its size, and is refused as one for the size that
the block has. -/
def refusedSame (blk : BlockModifySizeCli) (env : ModifySizeEnv) (file : Metafile) : Prop :=
  env.session.connect = none ∧
    ∃ js, env.session.access blk.volume blk.blockName file = .ok js ∧
      ∃ errCode cSize rSize, sizeRefusal blk (replay js) = some (errCode, sameSize cSize rSize)

/-- The reply to a resize says that the block has the requested size. -/
def toldSize (blk : BlockModifySizeCli) (env : ModifySizeEnv) (file : Metafile) : Prop :=
  (∃ r, (blockModifySizeCli blk env file).reply = some r ∧ r.result = .success) ∨
    refusedSame blk env file

theorem access_ok {s : Session} {volume blockName : String} {file : Metafile} {js : Journal}
    (ok : s.access volume blockName file = .ok js) : file = some js := by
  rcases access_cases s volume blockName file with ⟨e, failed⟩ | ⟨js', there, ok'⟩
  · cases ok.symm.trans failed
  · cases ok.symm.trans ok'
    exact there

theorem head_append {p q : String} {c : Char} (head : p.toList.head? = some c) :
    (p ++ q).toList.head? = some c := by
  rw [String.toList_append, List.head?_append, head]
  rfl

theorem sameSize_head (cSize rSize : String) : (sameSize cSize rSize).toList.head? = some 'r' :=
  head_append (head_append (head_append (head_append (by decide))))

theorem shrinkSize_head (cSize rSize : String) :
    (shrinkSize cSize rSize).toList.head? = some 'S' :=
  head_append (head_append (head_append (head_append (by decide))))

/-- The texts of the three refusals begin differently. -/
theorem refusal_same {info : MetaInfo} {errCode : Int} {cSize rSize : String}
    (refused : sizeRefusal blk info = some (errCode, sameSize cSize rSize)) :
    info.size = blk.size ∧ glusterBlockIsResizeFailed info = false := by
  have first : ∀ {text : String} {code : Int} {c : Char}, text.toList.head? = some c →
      some (code, text) = some (errCode, sameSize cSize rSize) → c = 'r' := by
    rintro text code c head ⟨⟩
    exact Option.some.inj (head.symm.trans (sameSize_head cSize rSize))
  unfold sizeRefusal at refused
  by_cases unaligned : info.blkSize ≠ 0 ∧ blk.size % info.blkSize ≠ 0
  · rw [if_pos unaligned] at refused
    have text := first (head_append (head_append (head_append (head_append (head_append
      (c := 's') (by decide)))))) refused
    exact absurd text (by decide)
  · rw [if_neg unaligned] at refused
    by_cases grows : (info.size > blk.size ∧ ¬ blk.force) ∨
        (info.size = blk.size ∧ ¬ glusterBlockIsResizeFailed info)
    · rw [if_pos grows] at refused
      by_cases same : info.size = blk.size
      · refine ⟨same, ?_⟩
        rcases grows with ⟨shrinks, _⟩ | ⟨_, done⟩
        · omega
        · simpa using done
      · dsimp only at refused
        rw [if_neg same] at refused
        exact absurd (first (shrinkSize_head _ _) refused) (by decide)
    · rw [if_neg grows] at refused
      cases refused

/-- A host that is marked makes the last resize count as failed. -/
theorem resizeFailed_marked {js : Journal} {addr : Addr} (hosted : addr ∈ hosts js)
    (marked : resizeMarked (latest js addr) = true) :
    glusterBlockIsResizeFailed (replay js) = true := by
  unfold glusterBlockIsResizeFailed
  rw [replay_list, List.any_map]
  apply List.any_eq_true.mpr
  refine ⟨addr, hosted, ?_⟩
  have shown := replay_status js addr
  dsimp only [Function.comp]
  rw [shown]
  revert marked
  cases latest js addr with
  | none => exact fun absurd => (nomatch absurd)
  | some status => cases status <;> decide

theorem modifySizeBody_success {js : Journal}
    (asyncret : (modifySizeBody blk js env).asyncret = 0)
    (errMsg : (modifySizeBody blk js env).errMsg = none) :
    (∀ a ∈ sizeArgs js blk.size, ((glusterBlockModifySizeRemote a
        (modifySizeObj blk (replay js))).run (env.jobs a)).ret = 0) ∧
      (modifySizeBody blk js env).evs = .write [.size blk.size] ::
        modifySizeEvs js (modifySizeObj blk (replay js)) env := by
  unfold modifySizeBody at asyncret errMsg ⊢
  cases entry : env.resizeEntry with
  | some msg =>
    rw [entry] at errMsg
    cases errMsg
  | none =>
    rw [entry] at asyncret errMsg
    dsimp only at asyncret errMsg ⊢
    cases update : env.sizeUpdate with
    | ok =>
      have recorded : ¬ (metaUpdate .ok [.size blk.size]).ret ≠ 0 := not_not.mpr rfl
      rw [update, if_neg recorded, modifySizeArgsFill_eq] at asyncret
      rw [if_neg recorded, modifySizeArgsFill_eq]
      refine ⟨fun a chosen => ?_, rfl⟩
      dsimp only at asyncret
      unfold collectExits at asyncret
      split at asyncret
      · rename_i all
        have worker := List.all_eq_true.mp all _ ((mem_hostWorkers _ _ _).mpr ⟨a, chosen, rfl⟩)
        exact beq_iff_eq.mp worker
      · cases asyncret
    | _ =>
      rw [update] at errMsg
      cases errMsg

theorem modifySize_success {file : Metafile} {r : BlockResponse}
    (reply : (blockModifySizeCli blk env file).reply = some r) (success : r.result = .success) :
    ∃ js, file = some js ∧
      (∀ a ∈ sizeArgs js blk.size, ((glusterBlockModifySizeRemote a
        (modifySizeObj blk (replay js))).run (env.jobs a)).ret = 0) ∧
      (blockModifySizeCli blk env file).evs = .write [.size blk.size] ::
        modifySizeEvs js (modifySizeObj blk (replay js)) env := by
  unfold blockModifySizeCli at reply ⊢
  cases connect : env.session.connect with
  | some e =>
    rw [connect] at reply
    cases reply
    obtain ⟨_, _, msg⟩ := format_success success
    cases msg
  | none =>
    rw [connect] at reply
    dsimp only at reply ⊢
    rcases access_cases env.session blk.volume blk.blockName file with ⟨e, failed⟩ | ⟨js, rfl, ok⟩
    · rw [failed] at reply
      exact (refused_fails success (access_refused failed) reply).elim
    · rw [ok] at reply ⊢
      dsimp only at reply ⊢
      cases size : sizeRefusal blk (replay js) with
      | some e =>
        rw [size] at reply
        exact (refused_fails success (fun zero : _ ∧ some e.2 = none => nomatch zero.2) reply).elim
      | none =>
        rw [size] at reply
        dsimp only at reply ⊢
        cases check : checkConfigured (.modifySize blk) blk.blockName js env.caps with
        | none =>
          rw [check] at reply
          cases reply
        | some e =>
          rw [check] at reply
          dsimp only at reply ⊢
          by_cases code : e.1 ≠ 0
          · rw [if_pos code] at reply
            exact (refused_fails success (fun zero => code zero.1) reply).elim
          · rw [if_neg code] at reply ⊢
            cases reply
            obtain ⟨asyncret, code', msg'⟩ := format_success success
            obtain ⟨_, errMsg⟩ := unlock_zero code' msg'
            obtain ⟨workers, evs⟩ := modifySizeBody_success asyncret errMsg
            exact ⟨js, rfl, workers, evs⟩

/-- A refusal as one for the same size is what the reply says. -/
theorem refusedSame_reply {file : Metafile} (refused : refusedSame blk env file) :
    ∃ r cSize rSize, (blockModifySizeCli blk env file).reply = some r ∧
      r.errMsg = some (sameSize cSize rSize) ∧ (blockModifySizeCli blk env file).evs = [] := by
  obtain ⟨connect, js, access, errCode, cSize, rSize, size⟩ := refused
  unfold blockModifySizeCli Session.unlock
  rw [connect]
  dsimp only
  rw [access]
  dsimp only
  rw [size]
  dsimp only
  split
  · exact ⟨_, cSize, rSize, rfl, rfl, rfl⟩
  · exact ⟨_, cSize, rSize, rfl, rfl, rfl⟩

/-- Every node that counts as valid has this size. -/
def SizesTrue (size : Nat) (w : World Nat) : Prop :=
  ∀ js, w.file = some js → ∀ a, isValidAt js a = true → w.nodes a = size

variable {nodes : Addr → Nat} {w w' : World Nat} {evs : List Ev}

/-- Every host that a successful resize got to has the size, and those it skipped had
it. -/
theorem success_sizes (inv : SizesShown w) (step : Step sizeModel (.modifySize blk env) evs w w')
    (whole : evs = (blockModifySizeCli blk env w.file).evs) {r : BlockResponse}
    (reply : (blockModifySizeCli blk env w.file).reply = some r) (success : r.result = .success) :
    SizesTrue blk.size w' := by
  obtain ⟨js, there, workers, effects⟩ := modifySize_success reply success
  let mobj := modifySizeObj blk (replay js)
  intro js' left a valid
  obtain ⟨_, rfl⟩ := step_grows step left
  rw [there, Option.getD_some] at valid
  have along := step_existing step there a
  have host : hostEvs a evs = hostEvs a (modifySizeEvs js mobj env) := by
    rw [whole, effects]
    rfl
  rw [modifySizeEvs_host] at host
  by_cases chosen : a ∈ sizeArgs js blk.size
  · let j := glusterBlockModifySizeRemote a mobj
    have seen : hostEvs a evs = j.full 0 := by
      refine host.trans ((if_pos chosen).trans ?_)
      have run := run_zero (j := j) rfl rfl (workers a chosen)
      exact (congrArg (hostEvs a) run).trans (hostEvs_full j 0)
    have call : Ev.call a j.msg 0 ∈ hostEvs a evs := by
      rw [seen]
      exact List.mem_cons_of_mem _ List.mem_cons_self
    apply (size_only _ along _).1 ⟨_, List.mem_of_mem_filter call, by simp [sizeSet, j,
      glusterBlockModifySizeRemote]⟩
    intro e he m set
    have here : e ∈ hostEvs a evs := List.mem_filter.mpr ⟨he, sizeSet_about set⟩
    exact (resize_sets (seen ▸ here) set).1
  · have none : hostEvs a evs = [] := host.trans (if_neg chosen)
    have node : w'.nodes a = w.nodes a := by
      apply node_kept along
      intro e he
      rw [none] at he
      cases he
    have same : latest (js ++ written evs) a = latest js a := by
      rw [given_after, given_nil none]
      rfl
    unfold isValidAt at valid
    rw [same] at valid
    have skipped : (replay js).size = blk.size ∧ latest js a = some .rsSuccess := by
      by_contra other
      apply chosen
      apply List.mem_filter.mpr ⟨valid_hosted valid, _⟩
      have open_size : ¬ ((replay js).size == blk.size && latest js a == some .rsSuccess) = true := by
        simpa using other
      simp only [isValidAt, valid, Bool.and_true, Bool.not_eq_true']
      exact Bool.eq_false_iff.mpr open_size
    rcases inv js there a valid with right | marked
    · rw [node, right, skipped.1]
    · rw [skipped.2] at marked
      cases marked

theorem refused_sizes (inv : SizesShown w) (step : Step sizeModel (.modifySize blk env) evs w w')
    (refused : refusedSame blk env w.file) : SizesTrue blk.size w' := by
  obtain ⟨r, c, d, _, _, effects⟩ := refusedSame_reply refused
  obtain ⟨_, js, access, errCode, cSize, rSize, size⟩ := refused
  have there := access_ok access
  obtain ⟨same, done⟩ := refusal_same size
  have nothing : evs = [] := List.prefix_nil.mp (effects ▸ step.takes.cut)
  subst nothing
  intro js' left a valid
  obtain rfl := Option.some.inj (there.symm.trans (step.file.symm.trans left))
  rw [along_nil.mp (step_existing step there a), ← same]
  rcases inv js there a valid with right | marked
  · exact right
  · have failed := resizeFailed_marked (valid_hosted valid) marked
    exact absurd (done.symm.trans failed) Bool.false_ne_true

/-- In a run that loses no unfinished resize a reply that the block has the requested
size is true of every node. -/
theorem resize_truth (run : Run sizeModel SizeCare (World.none nodes) w)
    (step : Step sizeModel (.modifySize blk env) evs w w')
    (whole : evs = (blockModifySizeCli blk env w.file).evs) (told : toldSize blk env w.file) :
    SizesTrue blk.size w' := by
  have inv := run_sizes run
  rcases told with ⟨r, reply, success⟩ | refused
  · exact success_sizes inv step whole reply success
  · exact refused_sizes inv step refused

end Told

section Sample

def MetaLine.gives (status : MetaStatus) : MetaLine → Bool
  | .host _ s _ => s == status
  | _ => false

/-- A status that no line gives is given to no host. -/
theorem not_given {status : MetaStatus} {evs : List Ev}
    (no : (written evs).any (MetaLine.gives status) = false) (addr : Addr) :
    (given evs addr).getLast? ≠ some (some status) := by
  intro last
  obtain ⟨l, hl, put⟩ := List.mem_filterMap.mp (List.mem_of_getLast? last)
  have other := List.any_eq_false.mp no l hl
  cases l with
  | host a s n =>
    have shown : (if a = addr ∧ (statusText s n).length ≤ 31 then some (some s) else none) =
        some (some status) := put
    split at shown
    · cases shown
      exact other (beq_self_eq_true _)
    · cases shown
  | entryDelete state =>
    have reset : (if addr = "ENTRYDELETE" then some none else none) = some (some status) := put
    split at reset <;> cases reset
  | _ => cases put

def sizeNext (w : World Nat) (req : Request) : World Nat :=
  w.advance sizeServe (req.outcome w.file).evs

/-- A block of 1048576 bytes on one host. -/
def sizeCreated : World Nat :=
  sizeNext (.none fun _ => 0) (.create oneHost (createSampleEnv []))

theorem sizeCreated_run : Run sizeModel SizeCare (.none fun _ => 0) sizeCreated := by
  apply run_next (fun _ _ _ => rfl) .refl
  · exact Nat.one_pos
  · exact fun there => (there rfl).elim
  · exact fun _ _ => trivial
  · exact fun a pending => (not_given (by decide) a pending).elim

theorem resize_truth_sample :
    SizesTrue 2097152 (sizeNext sizeCreated
      (.modifySize (resizeSample 2097152) (resizeSampleEnv (.sent 0)))) :=
  resize_truth sizeCreated_run
    (advance_step (fun _ _ _ => rfl) ⟨trivial, fun _ => rfl, List.prefix_refl _⟩
      (fun _ _ => trivial)) rfl
    (.inl ⟨⟨0, .success, none,
      [("FAILED ON", []), ("SUCCESSFUL ON", ["10.0.0.1"]), ("SKIPPED ON", [])]⟩, by decide, rfl⟩)

/-- The resize fails on the host, and the authentication is turned on. -/
def sizeHidden : World Nat :=
  sizeNext (sizeNext sizeCreated
    (.modifySize (resizeSample 2097152) (resizeSampleEnv (.sent 1))))
      (.modify (modifySample true) modifySampleEnv)

theorem sizeHidden_run : Run sizeModel anyRequest (.none fun _ => 0) sizeHidden := by
  have created : Run sizeModel anyRequest (.none fun _ => 0) sizeCreated := by
    apply run_next (fun _ _ _ => rfl) .refl _ _ _ _ trivial
    · exact Nat.one_pos
    · exact fun there => (there rfl).elim
    · exact fun _ _ => trivial
  have failed := run_next (fun _ _ _ => rfl) created
    (.modifySize (resizeSample 2097152) (resizeSampleEnv (.sent 1))) trivial (fun _ => rfl)
    (fun _ _ => trivial) trivial
  exact run_next (fun _ _ _ => rfl) failed _ trivial (fun _ => rfl) (fun _ _ => trivial) trivial

/-- Behind it the same resize is refused as one for the size that the block has. -/
theorem hidden_resize_refused :
    Run sizeModel anyRequest (.none fun _ => 0) sizeHidden ∧
      Step sizeModel (.modifySize (resizeSample 2097152) (resizeSampleEnv (.sent 0)))
        (blockModifySizeCli (resizeSample 2097152) (resizeSampleEnv (.sent 0))
          sizeHidden.file).evs sizeHidden
        (sizeNext sizeHidden (.modifySize (resizeSample 2097152) (resizeSampleEnv (.sent 0)))) ∧
      refusedSame (resizeSample 2097152) (resizeSampleEnv (.sent 0)) sizeHidden.file ∧
      ¬ SizesTrue 2097152
        (sizeNext sizeHidden (.modifySize (resizeSample 2097152) (resizeSampleEnv (.sent 0)))) := by
  let js := sizeHidden.file.get (by decide)
  let size := glusterBlockFormatSize 2097152
  have there : sizeHidden.file = some js := (Option.some_get (by decide)).symm
  refine ⟨sizeHidden_run, ?_, ⟨rfl, js, ?_, -1, size, size, ?_⟩, fun truth => ?_⟩
  · exact advance_step (fun _ _ _ => rfl) ⟨trivial, fun _ => rfl, List.prefix_refl _⟩
      (fun _ _ => trivial)
  · rw [there]
    rfl
  · unfold sizeRefusal
    rw [if_neg (by decide), if_pos (by decide)]
    exact congrArg (fun text => some (-1, text)) (if_pos (by decide))
  · have shown := truth _ (Option.some_get (by decide)).symm "10.0.0.1" (by decide)
    exact absurd shown (by decide)

end Sample

end GlusterBlock
