import GlusterBlock.CommandLog
import GlusterBlock.ReplaceReport
import GlusterBlock.ResizeTruth

/-! The size that an info reports for a host whose resize failed. It is read off the
history of the host, back to its last success, and the first size of the block stands in;
the device of a host has the size that it was configured with or last resized to. -/
namespace GlusterBlock

open Trail

section Report

/-- The size on a line about the success of a resize. -/
def successSize (addr : Addr) : MetaLine → Option (Option Nat)
  | .host a s n => if a = addr ∧ s = .rsSuccess then some n else none
  | _ => none

def lastSuccess (js : Journal) (addr : Addr) : Option (Option Nat) :=
  (js.filterMap (successSize addr)).getLast?

theorem lastSuccess_append (js ms : Journal) (addr : Addr) :
    lastSuccess (js ++ ms) addr = (ms.filterMap (successSize addr)).getLast?.or (lastSuccess js addr) := by
  unfold lastSuccess
  rw [List.filterMap_append, List.getLast?_append]

theorem success_text (s : MetaStatus) (n : Option Nat) :
    "RSSUCCESS".toList <:+: (statusText s n).toList ↔ s = .rsSuccess := by
  have word : "RSSUCCESS".toList <:+: (metaStatusLookup s).toList ↔ s = .rsSuccess := by
    cases s <;> decide
  cases n with
  | none => exact word
  | some size =>
    have text : (statusText s (some size)).toList =
        (metaStatusLookup s).toList ++ '-' :: Nat.toDigits 10 size := by
      simp [statusText, Nat.toString_eq_repr, Nat.toList_repr]
    have digits : ¬ "RSSUCCESS".toList <:+: Nat.toDigits 10 size := by
      intro inside
      have first : 'R' ∈ Nat.toDigits 10 size := inside.subset (by decide)
      exact absurd (CText.digits_isDigit first) (by decide)
    rw [text, Search.infix_apart (by decide) (by decide), word]
    exact or_iff_left digits

theorem success_line {addr : Addr} {l : MetaLine} {size : Option Nat} (h : successSize addr l = some size) :
    l = .host addr .rsSuccess size := by
  cases l with
  | host a s m =>
    have shown : (if a = addr ∧ s = .rsSuccess then some m else none) = some size := h
    split at shown
    · rename_i own
      rw [own.1, own.2, Option.some.inj shown]
    · cases shown
  | _ => cases h

section Found

variable (isSuccess : String → Bool) (js : Journal) (addr : Addr)
variable (status : ∀ s n, isSuccess (statusText s n) = true ↔ s = .rsSuccess)
variable (reset : ∀ e : EntryState, isSuccess e.text = false)
include status reset

/-- A line that is no success of the host adds no text of one. -/
theorem other_texts {l : MetaLine} (other : successSize addr l = none) :
    ∀ text ∈ hostTexts [l] addr, ¬ isSuccess text = true := by
  intro text mem
  cases l with
  | host a s n =>
    by_cases own : a = addr
    · have texts : hostTexts [.host a s n] addr = [statusText s n] := by
        simp [hostTexts, hostLog, hostRecord, Ledger.records_single, own]
      rw [texts] at mem
      obtain rfl := List.mem_singleton.mp mem
      intro success
      have shown : (if a = addr ∧ s = .rsSuccess then some n else none) = none := other
      rw [if_pos ⟨own, (status s n).mp success⟩] at shown
      cases shown
    · have texts : hostTexts [.host a s n] addr = [] := by
        simp [hostTexts, hostLog, hostRecord, Ledger.records_single, own]
      rw [texts] at mem
      cases mem
  | entryDelete e =>
    by_cases own : "ENTRYDELETE" = addr
    · have texts : hostTexts [.entryDelete e] addr = [e.text] := by
        simp [hostTexts, hostLog, hostRecord, Ledger.records_single, own]
      rw [texts] at mem
      obtain rfl := List.mem_singleton.mp mem
      exact Bool.eq_false_iff.mp (reset e)
    · have texts : hostTexts [.entryDelete e] addr = [] := by
        simp [hostTexts, hostLog, hostRecord, Ledger.records_single, own]
      rw [texts] at mem
      cases mem
  | _ => cases mem

/-- The text that is found from the back is that of the last success. -/
theorem success_found : (hostTexts js addr).reverse.find? isSuccess =
    (lastSuccess js addr).map (statusText .rsSuccess) := by
  induction js using List.reverseRecOn with
  | nil => rfl
  | append_singleton js l ih =>
    rw [hostTexts_append, List.reverse_append, List.find?_append, ih, lastSuccess_append]
    cases size : successSize addr l with
    | none =>
      have skip : (hostTexts [l] addr).reverse.find? isSuccess = none := by
        apply List.find?_eq_none.mpr
        intro text mem
        exact other_texts isSuccess addr status reset size text (List.mem_reverse.mp mem)
      rw [skip, List.filterMap_cons_none size]
      rfl
    | some n =>
      have texts : hostTexts [l] addr = [statusText .rsSuccess n] := by
        simp [success_line size, hostTexts, hostLog, hostRecord, Ledger.records_single]
      rw [texts, List.reverse_singleton,
        List.find?_cons_of_pos ((status .rsSuccess n).mpr rfl), List.filterMap_cons_some size]
      rfl

end Found

/-- The history of a host tells this size: that of its last success, or the first size of
the block, which no later one replaces unless it is 0. -/
def TellsSize (js : Journal) (addr : Addr) (n : Nat) : Prop :=
  lastSuccess js addr = none ∧ (replay js).initialSize = n ∧ n ≠ 0 ∨
    lastSuccess js addr = some (some n) ∧ n ≤ CText.maxSize

theorem currentSize_tells {js : Journal} {node : NodeInfo} {n : Nat}
    (mem : node ∈ (replay js).list) (tells : TellsSize js node.addr n) :
    blockInfoGetCurrentSizeOfNode (replay js) node = some (glusterBlockFormatSize n) := by
  rw [replay_list] at mem
  obtain ⟨addr, -, rfl⟩ := List.mem_map.mp mem
  have texts : (rawNode js addr).parseRSstatus.stJournal = hostTexts js addr :=
    parseRSstatus_stJournal _
  have own : (rawNode js addr).parseRSstatus.addr = addr := parseRSstatus_addr _
  have reset : ∀ e : EntryState, ¬ "RSSUCCESS".toList <:+: e.text.toList := by
    intro e
    cases e <;> decide
  have found := success_found (fun text => decide ("RSSUCCESS".toList <:+: text.toList)) js addr
    (fun s n => decide_eq_true_iff.trans (success_text s n)) (fun e => decide_eq_false (reset e))
  rw [own] at tells
  unfold blockInfoGetCurrentSizeOfNode
  dsimp only
  rw [texts, found]
  cases tells with
  | inl first =>
    rw [first.1, first.2.1]
    rfl
  | inr last =>
    have text : (statusText .rsSuccess (some n)).toList =
        "RSSUCCESS".toList ++ '-' :: Nat.toDigits 10 n := by
      simp [statusText, Nat.toString_eq_repr, Nat.toList_repr, metaStatusLookup]
    rw [last.1]
    dsimp only [Option.map_some]
    rw [text, CText.after_of (by decide), Option.map_some, CText.scanZu_digits last.2]
    rfl

end Report

section Device

/-- The size that the device of a node was configured with or last resized to. -/
def deviceServe (device : Option Nat) (msg : Msg) (exit : Int) : Option Nat :=
  match msg with
  | .create obj => if exit = 0 then some obj.size else device
  | .modifySize obj => if exit = 0 then some obj.size else device
  | _ => device

/-- The nodes of a new target have no device of it yet. -/
def deviceModel : NodeModel (Option Nat) where
  fresh := (· = none)
  serve := fun msg exit device device' => device' = deviceServe device msg exit

theorem device_step {addr : Addr} {e : Ev} {device device' : Option Nat}
    (step : deviceModel.step addr e device device') :
    device' = (sizeSet addr e).or device := by
  unfold NodeModel.step at step
  cases e with
  | call a msg exit =>
    dsimp only at step
    split at step
    · rename_i same
      have served : device' = deviceServe device msg exit := step
      cases msg with
      | create obj =>
        rw [served]
        by_cases zero : exit = 0 <;> simp [deviceServe, sizeSet, same, zero]
      | modifySize obj =>
        rw [served]
        by_cases zero : exit = 0 <;> simp [deviceServe, sizeSet, same, zero]
      | _ => exact served
    · rename_i other
      rw [step]
      cases msg <;> simp [sizeSet, other]
  | _ => exact step

theorem device_along {addr : Addr} {evs : List Ev} {device device' : Option Nat}
    (along : Along (deviceModel.step addr) device evs device') :
    device' = (evs.filterMap (sizeSet addr)).getLast?.or device := by
  have sets : ∀ e n n', deviceModel.step addr e n n' → n' = ((sizeSet addr e).map some).getD n := by
    intro e n n' step
    rw [device_step step]
    cases sizeSet addr e <;> rfl
  rw [along_last sets along, ← List.map_filterMap, List.getLast?_map]
  cases (evs.filterMap (sizeSet addr)).getLast? <;> rfl

end Device

section History

variable {js ms : Journal} {addr : Addr} {n : Nat}

theorem initial_append (js ms : Journal) (set : (replay js).initialSize ≠ 0) :
    (replay (js ++ ms)).initialSize = (replay js).initialSize := by
  have scan : ∀ ls : Journal, (replay ls).initialSize =
      ((ls.filterMap sizeOf?).find? (· != 0)).getD 0 := foldl_initialSize
  rw [scan] at set
  rw [scan, scan, List.filterMap_append, List.find?_append]
  cases first : (js.filterMap sizeOf?).find? (· != 0) with
  | none =>
    rw [first] at set
    exact absurd rfl set
  | some size => rfl

theorem tells_append (tells : TellsSize js addr n) (quiet : ms.filterMap (successSize addr) = []) :
    TellsSize (js ++ ms) addr n := by
  have same : lastSuccess (js ++ ms) addr = lastSuccess js addr := by
    rw [lastSuccess_append, quiet]
    rfl
  unfold TellsSize
  rw [same]
  cases tells with
  | inl first =>
    obtain ⟨none, initial, set⟩ := first
    refine .inl ⟨none, ?_, set⟩
    rw [initial_append js ms (initial ▸ set), initial]
  | inr last => exact .inr last

theorem tells_success (last : (ms.filterMap (successSize addr)).getLast? = some (some n))
    (size : n ≤ CText.maxSize) : TellsSize (js ++ ms) addr n := by
  right
  rw [lastSuccess_append, last]
  exact ⟨rfl, size⟩

/-- Success of a resize is written about a host. -/
def Ev.reports (addr : Addr) (e : Ev) : Prop :=
  ∃ lines n, e = .write lines ∧ .host addr .rsSuccess n ∈ lines

theorem mem_successes {evs : List Ev} {size : Option Nat}
    (h : size ∈ (written evs).filterMap (successSize addr)) :
    ∃ lines, Ev.write lines ∈ hostEvs addr evs ∧ .host addr .rsSuccess size ∈ lines := by
  obtain ⟨l, hl, put⟩ := List.mem_filterMap.mp h
  obtain rfl := success_line put
  obtain ⟨lines, he, mem⟩ := mem_written.mp hl
  refine ⟨lines, List.mem_filter.mpr ⟨he, ?_⟩, mem⟩
  exact List.any_eq_true.mpr ⟨_, mem, by simp [hostRecord]⟩

theorem no_success {evs : List Ev} (none : ∀ e ∈ hostEvs addr evs, ¬ e.reports addr) :
    (written evs).filterMap (successSize addr) = [] := by
  apply List.eq_nil_iff_forall_not_mem.mpr
  intro size h
  obtain ⟨lines, he, mem⟩ := mem_successes h
  exact none _ he ⟨lines, size, rfl, mem⟩

end History

section Hosts

variable {js : Journal} {addr : Addr} {evs : List Ev}

/-- Neither the device of a host nor what its history tells changes by it. -/
structure Ev.quiet (addr : Addr) (e : Ev) : Prop where
  unsized : sizeSet addr e = none
  unreported : ¬ e.reports addr

theorem line_reports {j : RemoteJob} {s : MetaStatus} (reports : (j.line s).reports j.addr) :
    s = .rsSuccess := by
  obtain ⟨lines, n, line, mem⟩ := reports
  cases line
  cases List.mem_singleton.mp mem
  rfl

theorem full_quiet {j : RemoteJob}
    (unsized : ∀ exit, sizeSet j.addr (.call j.addr j.msg exit) = none)
    (other : .rsSuccess ∉ j.words) {exit : Int} {e : Ev} (he : e ∈ j.full exit) :
    e.quiet j.addr := by
  refine ⟨full_unsized unsized he, fun reports => ?_⟩
  rcases mem_full he with ⟨s, word, rfl⟩ | rfl
  · exact other (line_reports reports ▸ word)
  · obtain ⟨_, _, line, _⟩ := reports
    cases line

theorem deletes_quiet {dobj : BlockDelete} {exit : Int} {e : Ev}
    (he : e ∈ (glusterBlockDeleteRemote addr dobj).full exit) : e.quiet addr :=
  full_quiet (j := glusterBlockDeleteRemote addr dobj) (fun _ => rfl)
    (by simp [RemoteJob.words, glusterBlockDeleteRemote]) he

theorem modifies_quiet {mobj : BlockModify} {exit : Int} {e : Ev}
    (he : e ∈ (glusterBlockModifyRemote addr mobj).full exit) : e.quiet addr := by
  apply full_quiet (j := glusterBlockModifyRemote addr mobj) (fun _ => rfl) _ he
  cases mode : mobj.authMode <;> simp [RemoteJob.words, glusterBlockModifyRemote, mode]

theorem portals_quiet {robj : BlockReplace} {exit : Int} {e : Ev}
    (he : e ∈ (glusterBlockReplacePortalRemote addr robj).full exit) : e.quiet addr :=
  full_quiet (j := glusterBlockReplacePortalRemote addr robj) (fun _ => rfl)
    (by simp [RemoteJob.words, glusterBlockReplacePortalRemote]) he

theorem creates_unreported {cobj : BlockCreate2} {exit : Int} {e : Ev}
    (he : e ∈ (glusterBlockCreateRemote addr cobj).full exit) : ¬ e.reports addr := by
  intro reports
  rcases mem_full he with ⟨s, word, rfl⟩ | rfl
  · rw [line_reports (j := glusterBlockCreateRemote addr cobj) reports] at word
    revert word
    cases mode : cobj.authMode <;> simp [RemoteJob.words, glusterBlockCreateRemote, mode]
  · obtain ⟨_, _, line, _⟩ := reports
    cases line

/-- A host that only quiet effects are about keeps its device and what is told of it. -/
theorem device_kept {device device' : Option Nat}
    (along : Along (deviceModel.step addr) device evs device')
    (quiet : ∀ e ∈ hostEvs addr evs, e.quiet addr)
    (told : ∀ n, device = some n → TellsSize js addr n) :
    ∀ n, device' = some n → TellsSize (js ++ written evs) addr n := by
  have still : evs.filterMap (sizeSet addr) = [] := by
    apply List.filterMap_eq_nil_iff.mpr
    intro e he
    cases set : sizeSet addr e with
    | none => rfl
    | some size =>
      have here := (quiet e (List.mem_filter.mpr ⟨he, sizeSet_about set⟩)).unsized
      exact set.symm.trans here
  have same := device_along along
  rw [still] at same
  intro n device
  exact tells_append (told n (same.symm.trans device))
    (no_success (fun e he => (quiet e he).unreported))

/-- When all calls that set the size carry the same one, a node has it or kept its
device. -/
theorem device_only {device device' : Option Nat} (size : Nat)
    (along : Along (deviceModel.step addr) device evs device')
    (only : ∀ e ∈ evs, ∀ m, sizeSet addr e = some m → m = size) :
    (∃ e ∈ evs, sizeSet addr e = some size) ∧ device' = some size ∨
      (∀ e ∈ evs, sizeSet addr e = none) ∧ device' = device := by
  have ends := device_along along
  cases last : (evs.filterMap (sizeSet addr)).getLast? with
  | none =>
    rw [last] at ends
    exact .inr ⟨List.filterMap_eq_nil_iff.mp (List.getLast?_eq_none_iff.mp last), ends⟩
  | some m =>
    rw [last] at ends
    obtain ⟨e, he, set⟩ := List.mem_filterMap.mp (List.mem_of_getLast? last)
    have same := only e he m set
    exact .inl ⟨⟨e, he, same ▸ set⟩, same ▸ ends⟩

end Hosts

/-- The history of every host with a device tells the size of it. -/
def SizesTold (w : World (Option Nat)) : Prop :=
  ∀ js, w.file = some js → ∀ a n, w.nodes a = some n → TellsSize js a n

/-- A step that leaves the histories true. A block that gets a device has a size other
than 0; a resize that a node has carried out is written down, unless the history tells
that size already; and a node that joins has no old success behind it and joins a block of
the first size, or its last success has the recorded one. -/
def DeviceCare (req : Request) (evs : List Ev) (w _ : World (Option Nat)) : Prop :=
  match req with
  | .create blk env => ∀ a obj, Ev.call a (.create obj) 0 ∈ evs → createSize blk env ≠ 0
  | .delete _ _ => False
  | .modify _ _ => True
  | .modifySize blk _ => blk.size ≤ CText.maxSize ∧ ∀ js, w.file = some js → ∀ a obj,
      Ev.call a (.modifySize obj) 0 ∈ evs →
        Ev.write [.host a .rsSuccess (some blk.size)] ∈ evs ∨ TellsSize js a blk.size
  | .replace blk _ => ∀ js, w.file = some js → ∀ obj,
      Ev.call blk.newNode (.create obj) 0 ∈ evs → TellsSize js blk.newNode (replay js).size

section Steps

variable {w w' : World (Option Nat)} {evs : List Ev}

theorem told_idle {req : Request} (inv : SizesTold w) (step : Step deviceModel req evs w w')
    (none : evs = []) : SizesTold w' := by
  intro js left a n device
  subst none
  have there : w.file = some js := step.file.symm.trans left
  rw [along_nil.mp (step_existing step there a)] at device
  exact inv js there a n device

theorem modify_told {blk : BlockModifyCli} {env : ModifyEnv} (inv : SizesTold w)
    (step : Step deviceModel (.modify blk env) evs w w') : SizesTold w' := by
  rcases modify_evs blk env w.file with none | ⟨js, there, body⟩
  · exact told_idle inv step (List.prefix_nil.mp (none ▸ step.takes.cut))
  · intro js' left a
    obtain ⟨_, rfl⟩ := step_grows step left
    rw [there, Option.getD_some]
    apply device_kept (step_existing step there a) _ (inv js there a)
    intro e he
    have cut : hostEvs a evs <+: hostEvs a (modifyBody blk js env).evs :=
      hostEvs_cut _ (body ▸ step.takes.cut)
    have round : ∀ ms mobj jobs sched, e ∈ hostEvs a (modifyEvs ms mobj jobs sched) →
        e.quiet a := by
      intro ms mobj jobs sched he
      rw [modifyEvs_host] at he
      split at he
      · obtain ⟨exit, full⟩ := run_seen (j := glusterBlockModifyRemote a mobj) he
        exact modifies_quiet full
      · cases he
    rcases List.mem_append.mp ((modify_host _ blk js env).subset (cut.subset he)) with tried | undo
    · exact round _ _ _ _ tried
    · exact round _ _ _ _ undo

/-- What sets the size of a node that a worker creates is a call that returned 0. -/
theorem create_calls {addr : Addr} {cobj : BlockCreate2} {exit : Int} {e : Ev}
    (he : e ∈ (glusterBlockCreateRemote addr cobj).full exit) {m : Nat}
    (sized : sizeSet addr e = some m) : ∃ obj, e = .call addr (.create obj) 0 := by
  rcases mem_full he with ⟨s, _, rfl⟩ | rfl
  · cases sized
  · have shown : (if addr = addr ∧ exit = 0 then some cobj.size else none) = some m := sized
    split at shown
    · rename_i zero
      exact ⟨{ cobj with ipaddr := addr }, by rw [zero.2]; rfl⟩
    · cases shown

section Create

variable {blk : BlockCreateCli} {env : CreateEnv} {resultCaps : Caps} {addr : Addr}

theorem rollback_quiet {js : Journal} {e : Ev} (he : e ∈ hostEvs addr (rollbackEvs blk env js)) :
    e.quiet addr := by
  rcases rollback_seen he with ⟨dobj, exit, full⟩ | files
  · exact deletes_quiet full
  · refine ⟨rollback_unsized he, ?_⟩
    rintro ⟨lines, n, rfl, mem⟩
    obtain ⟨state, line⟩ := deleteFiles_lines (mem_written.mpr ⟨lines, files, mem⟩)
    cases line

theorem prepared_initial (resultCaps : Caps) :
    (replay (preparedLines blk env resultCaps)).initialSize = createSize blk env := by
  have scan := foldl_initialSize (preparedLines blk env resultCaps)
  have one : (preparedLines blk env resultCaps).filterMap sizeOf? = [createSize blk env] := by
    unfold preparedLines headerLines entryLines
    split <;> split <;> split <;> rfl
  rw [one] at scan
  refine scan.trans ?_
  by_cases zero : createSize blk env = 0
  · rw [zero]
    rfl
  · simp [zero]

variable (cut : evs <+: (createPrepare blk env resultCaps).evs ++
  createEvs (createHosts blk) (createObj blk env resultCaps) env.jobs env.sched ++
    rollbackEvs blk env (auditedLines blk env resultCaps))
include cut

/-- A node of the create has got its size, and nothing has been told of it but the first
size of the block. -/
theorem create_device (prepared : env.prepared blk) {device : Option Nat} {n : Nat}
    (along : Along (deviceModel.step addr) none evs device) (set : device = some n)
    (care : ∀ obj, Ev.call addr (.create obj) 0 ∈ evs → createSize blk env ≠ 0) :
    TellsSize (written evs) addr n := by
  have seen : ∀ e ∈ hostEvs addr evs, ¬ e.reports addr ∧ ∀ m, sizeSet addr e = some m →
      m = createSize blk env ∧ ∃ obj, e = .call addr (.create obj) 0 := by
    intro e he
    rcases List.mem_append.mp ((create_cut cut addr).subset he) with worker | undo
    · obtain ⟨exit, full⟩ := createEvs_seen worker
      exact ⟨creates_unreported full,
        fun m sized => ⟨create_sets full sized, create_calls full sized⟩⟩
    · have quiet := rollback_quiet undo
      exact ⟨quiet.unreported, fun m sized => nomatch quiet.unsized.symm.trans sized⟩
  have sets : ∀ e ∈ evs, ∀ m, sizeSet addr e = some m → m = createSize blk env :=
    fun e he m sized => ((seen e (List.mem_filter.mpr ⟨he, sizeSet_about sized⟩)).2 m sized).1
  rcases device_only _ along sets with ⟨⟨e, he, sized⟩, size⟩ | ⟨_, kept⟩
  · have here : e ∈ hostEvs addr evs := List.mem_filter.mpr ⟨he, sizeSet_about sized⟩
    obtain ⟨_, obj, rfl⟩ := (seen e here).2 _ sized
    obtain rfl : createSize blk env = n := Option.some.inj (size.symm.trans set)
    have big := care obj he
    have silent := no_success (fun e he => (seen e he).1)
    obtain ⟨rest, lines, _⟩ := create_lines cut prepared (List.ne_nil_of_mem here)
    refine .inl ⟨?_, ?_, big⟩
    · unfold lastSuccess
      rw [silent]
      rfl
    · have first : (replay (preparedLines blk env resultCaps)).initialSize = createSize blk env :=
        prepared_initial resultCaps
      rw [lines, initial_append _ _ (first ▸ big), first]
  · cases kept.symm.trans set

end Create

theorem create_told {blk : BlockCreateCli} {env : CreateEnv} (inv : SizesTold w)
    (step : Step deviceModel (.create blk env) evs w w')
    (care : DeviceCare (.create blk env) evs w w') : SizesTold w' := by
  rcases create_evs blk env step.takes.finds with none | ⟨free, resultCaps, body⟩
  · exact told_idle inv step (List.prefix_nil.mp (none ▸ step.takes.cut))
  · have cut : evs <+: (createBody blk env resultCaps none).1.act.evs := body ▸ step.takes.cut
    intro js left a n device
    obtain ⟨_, rfl⟩ := step_grows step left
    rw [free, Option.getD_none, List.nil_append]
    obtain ⟨device₀, fresh, along⟩ := step.nodes a
    unfold NodeModel.starts at fresh
    rw [free] at fresh
    obtain rfl : device₀ = none := fresh
    rcases createBody_evs blk env resultCaps with prep | ⟨prepared, whole⟩
    · have none : hostEvs a evs = [] := by
        have seen := hostEvs_cut a (prep ▸ cut)
        rw [prepare_host] at seen
        exact List.prefix_nil.mp seen
      have idle : ∀ e ∈ hostEvs a evs, e.quiet a := by
        rw [none]
        exact fun e he => nomatch he
      have kept : TellsSize ([] ++ written evs) a n :=
        device_kept along idle (fun _ absurd => nomatch absurd) n device
      exact kept
    · exact create_device (whole ▸ cut) prepared along device (care a)

section Resize

variable {blk : BlockModifySizeCli} {env : ModifySizeEnv} {js : Journal} {addr : Addr}

/-- The size on a success that the worker of a resize writes is the requested one. -/
theorem resize_reports {p : List Ev}
    (workers : p <+: modifySizeEvs js (modifySizeObj blk (replay js)) env) {size : Option Nat}
    (h : size ∈ (written p).filterMap (successSize addr)) :
    size = some blk.size ∧ (glusterBlockModifySizeRemote addr
      (modifySizeObj blk (replay js))).line .rsSuccess ∈ hostEvs addr p := by
  obtain ⟨lines, he, mem⟩ := mem_successes h
  obtain ⟨exit, full⟩ := resize_seen workers he
  rcases mem_full full with ⟨s, _, line⟩ | call
  · have same : lines = [.host addr s (some blk.size)] := by
      cases line
      rfl
    subst same
    cases List.mem_singleton.mp mem
    exact ⟨rfl, he⟩
  · cases call

theorem resize_host {p : List Ev}
    (workers : p <+: modifySizeEvs js (modifySizeObj blk (replay js)) env)
    {device device' : Option Nat}
    (along : Along (deviceModel.step addr) device (.write [.size blk.size] :: p) device')
    (told : ∀ n, device = some n → TellsSize js addr n) (fits : blk.size ≤ CText.maxSize)
    (care : ∀ obj, Ev.call addr (.modifySize obj) 0 ∈ p →
      Ev.write [.host addr .rsSuccess (some blk.size)] ∈ p ∨ TellsSize js addr blk.size) :
    ∀ n, device' = some n →
      TellsSize (js ++ written (.write [.size blk.size] :: p)) addr n := by
  let mobj := modifySizeObj blk (replay js)
  have tail : (written (.write [.size blk.size] :: p)).filterMap (successSize addr) =
      (written p).filterMap (successSize addr) := rfl
  have sets : ∀ e ∈ .write [.size blk.size] :: p, ∀ m, sizeSet addr e = some m →
      m = blk.size ∧ e = .call addr (.modifySize mobj) 0 := by
    intro e he m sized
    rcases List.mem_cons.mp he with rfl | he
    · cases sized
    · obtain ⟨exit, full⟩ := resize_seen workers
        (List.mem_filter.mpr ⟨he, sizeSet_about sized⟩)
      exact resize_sets full sized
  intro n set
  rcases device_only blk.size along (fun e he m sized => (sets e he m sized).1) with
    ⟨⟨e, he, sized⟩, size⟩ | ⟨unsized, kept⟩
  · obtain rfl : blk.size = n := Option.some.inj (size.symm.trans set)
    have call : Ev.call addr (.modifySize mobj) 0 ∈ p := by
      have same := (sets e he _ sized).2
      rw [same] at he
      rcases List.mem_cons.mp he with absurd | call
      · cases absurd
      · exact call
    cases last : ((written p).filterMap (successSize addr)).getLast? with
    | some size =>
      rw [(resize_reports workers (List.mem_of_getLast? last)).1] at last
      exact tells_success (tail ▸ last) fits
    | none =>
      have silent := List.getLast?_eq_none_iff.mp last
      rcases care mobj call with line | tells
      · have own : some blk.size ∈ (written p).filterMap (successSize addr) := by
          apply List.mem_filterMap.mpr
          exact ⟨_, mem_written.mpr ⟨_, line, List.mem_singleton.mpr rfl⟩, if_pos ⟨rfl, rfl⟩⟩
        rw [silent] at own
        cases own
      · exact tells_append tells (tail ▸ silent)
  · apply tells_append (told n (kept.symm.trans set))
    rw [tail]
    apply List.eq_nil_iff_forall_not_mem.mpr
    intro size h
    obtain ⟨_, line⟩ := resize_reports workers h
    -- the line of a success comes behind the call that succeeded
    obtain ⟨e, he, rfl⟩ := Weaving.before_found (resize_before workers) line
      ⟨_, List.mem_cons_self, rfl⟩
    have called := unsized _ (List.mem_cons_of_mem _ (List.mem_of_mem_filter he))
    have shown : sizeSet addr (.call addr (.modifySize mobj) 0) = some mobj.size :=
      if_pos ⟨rfl, rfl⟩
    cases shown.symm.trans called

end Resize

theorem modifySize_told {blk : BlockModifySizeCli} {env : ModifySizeEnv} (inv : SizesTold w)
    (step : Step deviceModel (.modifySize blk env) evs w w')
    (care : DeviceCare (.modifySize blk env) evs w w') : SizesTold w' := by
  obtain ⟨fits, care⟩ := care
  rcases modifySize_evs blk env w.file with none | ⟨js, there, _, body⟩
  · exact told_idle inv step (List.prefix_nil.mp (none ▸ step.takes.cut))
  · intro js' left a
    obtain ⟨_, rfl⟩ := step_grows step left
    rw [there, Option.getD_some]
    have along := step_existing step there a
    have told := inv js there a
    rcases resize_cut (body ▸ step.takes.cut) with none | touched | ⟨p, recording, workers⟩
    · rw [none] at along ⊢
      exact device_kept along (fun e he => nomatch he) told
    · rw [touched] at along ⊢
      exact device_kept along (fun e he => nomatch he) told
    · rw [recording] at along ⊢
      apply resize_host workers along told fits
      intro obj call
      rcases care js there a obj (recording ▸ List.mem_cons_of_mem _ call) with line | tells
      · rw [recording] at line
        rcases List.mem_cons.mp line with absurd | line
        · cases absurd
        · exact .inl line
      · exact .inr tells

/-- The new node of a replace gets the recorded size, and its history stays as it is. -/
theorem replace_joined {blk : BlockReplaceCli} {env : ReplaceEnv} {js : Journal}
    {checks : ReplaceChecks} (other : blk.oldNode ≠ blk.newNode)
    (ok : replaceChecks blk (replay js) = .ok checks) (todo : checks.cCheck = false)
    (cut : hostEvs blk.newNode evs <+: hostEvs blk.newNode (replacePool blk js checks env))
    {device device' : Option Nat}
    (along : Along (deviceModel.step blk.newNode) device evs device')
    (told : ∀ n, device = some n → TellsSize js blk.newNode n)
    (care : ∀ obj, Ev.call blk.newNode (.create obj) 0 ∈ evs →
      TellsSize js blk.newNode (replay js).size) :
    ∀ n, device' = some n → TellsSize (js ++ written evs) blk.newNode n := by
  let cobj := replaceCobj blk (replay js) env.volServer
  rw [replacePool_new other ok todo] at cut
  obtain ⟨exit, full⟩ := (glusterBlockCreateRemote blk.newNode cobj).run_cut env.create
  have each : ∀ e ∈ hostEvs blk.newNode evs,
      e ∈ (glusterBlockCreateRemote blk.newNode cobj).full exit :=
    fun e he => full.subset (cut.subset he)
  have silent : (written evs).filterMap (successSize blk.newNode) = [] :=
    no_success (fun e he => creates_unreported (each e he))
  have sets : ∀ e ∈ evs, ∀ m, sizeSet blk.newNode e = some m → m = (replay js).size :=
    fun e he m sized => create_sets (each e (List.mem_filter.mpr ⟨he, sizeSet_about sized⟩)) sized
  intro n set
  rcases device_only _ along sets with ⟨⟨e, he, sized⟩, size⟩ | ⟨_, kept⟩
  · obtain rfl : (replay js).size = n := Option.some.inj (size.symm.trans set)
    obtain ⟨obj, rfl⟩ := create_calls (each e (List.mem_filter.mpr ⟨he, sizeSet_about sized⟩)) sized
    exact tells_append (care obj he) silent
  · exact tells_append (told n (kept.symm.trans set)) silent

theorem replace_told {blk : BlockReplaceCli} {env : ReplaceEnv} (inv : SizesTold w)
    (step : Step deviceModel (.replace blk env) evs w w')
    (care : DeviceCare (.replace blk env) evs w w') : SizesTold w' := by
  rcases replace_shown blk env w.file with none | ⟨js, checks, there, ok, shown⟩
  · exact told_idle inv step (List.prefix_nil.mp (none ▸ step.takes.cut))
  · have other : blk.oldNode ≠ blk.newNode := step.takes.accepted
    have cut := fun a => (hostEvs_cut a step.takes.cut).trans (shown a)
    intro js' left a
    obtain ⟨_, rfl⟩ := step_grows step left
    rw [there, Option.getD_some]
    have along := step_existing step there a
    have told := inv js there a
    by_cases isOld : a = blk.oldNode
    · subst isOld
      have cut := cut blk.oldNode
      rw [if_pos rfl] at cut
      apply device_kept along _ told
      intro e he
      rcases replace_old other ok (cut.subset he) with ⟨exit, full⟩ | rfl
      · exact deletes_quiet full
      · refine ⟨rfl, ?_⟩
        rintro ⟨lines, n, line, mem⟩
        cases line
        cases List.mem_singleton.mp mem
    · have cut := cut a
      rw [if_neg isOld, List.append_nil] at cut
      by_cases isNew : a = blk.newNode ∧ checks.cCheck = false
      · obtain ⟨rfl, todo⟩ := isNew
        exact replace_joined other ok todo cut along told (care js there)
      · apply device_kept along _ told
        intro e he
        obtain ⟨_, exit, full⟩ := replace_portal other ok isOld isNew (cut.subset he)
        exact portals_quiet full

theorem told_step {req : Request} (inv : SizesTold w) (step : Step deviceModel req evs w w')
    (care : DeviceCare req evs w w') : SizesTold w' := by
  cases req with
  | create blk env => exact create_told inv step care
  | delete blk env => exact care.elim
  | modify blk env => exact modify_told inv step
  | modifySize blk env => exact modifySize_told inv step care
  | replace blk env => exact replace_told inv step care

theorem run_told {nodes : Addr → Option Nat} (run : Run deviceModel DeviceCare (World.none nodes) w) :
    SizesTold w := by
  refine run_keeps _ (fun _ _ _ _ => told_step) ?_ run
  intro js absurd
  cases absurd

end Steps

section Truth

/-- An info gives the size of the device of every host whose resize failed. -/
def DeviceReported (w : World (Option Nat)) : Prop :=
  ∀ js, w.file = some js → ∀ node ∈ (replay js).list,
    blockMetaStatusEnumParse node.status = some .rsFail → ∀ n, w.nodes node.addr = some n →
      blockInfoGetCurrentSizeOfNode (replay js) node = some (glusterBlockFormatSize n)

/-- In a run that leaves the histories true the sizes that are read off them are those of
the devices. -/
theorem device_reported {nodes : Addr → Option Nat} {w : World (Option Nat)}
    (run : Run deviceModel DeviceCare (World.none nodes) w) : DeviceReported w := by
  intro js there node mem _ n device
  exact currentSize_tells mem (run_told run js there node.addr n device)

end Truth

section Sample

def deviceNext (w : World (Option Nat)) (req : Request) : World (Option Nat) :=
  w.advance deviceServe (req.outcome w.file).evs

/-- A block of 1048576 bytes on one host. -/
def deviceCreated : World (Option Nat) :=
  deviceNext (.none fun _ => none) (.create oneHost (createSampleEnv []))

/-- No resize call returned 0. -/
def Ev.unresized : Ev → Bool
  | .call _ (.modifySize _) exit => exit != 0
  | _ => true

theorem device_reported_sample : DeviceReported (deviceNext deviceCreated
    (.modifySize (resizeSample 2097152) (resizeSampleEnv (.sent 1)))) := by
  have created : Run deviceModel DeviceCare (.none fun _ => none) deviceCreated := by
    apply run_next (fun _ _ _ => rfl) .refl
    · exact Nat.one_pos
    · exact fun there => (there rfl).elim
    · exact fun _ _ => rfl
    · exact fun _ _ _ => by decide
  have failed : ((Request.modifySize (resizeSample 2097152) (resizeSampleEnv (.sent 1))).outcome
      deviceCreated.file).evs.all Ev.unresized = true := by decide
  apply device_reported
  apply run_next (fun _ _ _ => rfl) created
    (.modifySize (resizeSample 2097152) (resizeSampleEnv (.sent 1))) trivial (fun _ => rfl)
    (fun absurd => nomatch absurd)
  refine ⟨by decide, fun js there a obj call => ?_⟩
  exact absurd (List.all_eq_true.mp failed _ call) Bool.false_ne_true

def withoutDelete {N : Type} (req : Request) (_ : List Ev) (_ _ : World N) : Prop :=
  match req with
  | .delete _ _ => False
  | _ => True

/-- The block is resized, its node is replaced, and the next resize fails on the new
one. -/
def deviceReplaced : World (Option Nat) :=
  deviceNext (deviceNext deviceCreated
    (.modifySize (resizeSample 2097152) (resizeSampleEnv (.sent 0))))
    (.replace replaceSample (replaceSampleEnv ""))

/-- The new node has the size of the resize, and an info gives the first one. -/
theorem replaced_device_unreported :
    Run deviceModel withoutDelete (.none fun _ => none) (deviceNext deviceReplaced
      (.modifySize (resizeSample 4194304) (resizeSampleEnv (.sent 1)))) ∧
    ¬ DeviceReported (deviceNext deviceReplaced
      (.modifySize (resizeSample 4194304) (resizeSampleEnv (.sent 1)))) := by
  constructor
  · have created : Run deviceModel withoutDelete (.none fun _ => none) deviceCreated := by
      apply run_next (fun _ _ _ => rfl) .refl _ _ _ _ trivial
      · exact Nat.one_pos
      · exact fun there => (there rfl).elim
      · exact fun _ _ => rfl
    have resized := run_next (fun _ _ _ => rfl) created
      (.modifySize (resizeSample 2097152) (resizeSampleEnv (.sent 0))) trivial (fun _ => rfl)
      (fun absurd => nomatch absurd) trivial
    have replaced := run_next (fun _ _ _ => rfl) resized
      (.replace replaceSample (replaceSampleEnv "")) (show _ ≠ _ by decide) (fun _ => rfl)
      (fun absurd => nomatch absurd) trivial
    exact run_next (fun _ _ _ => rfl) replaced _ trivial (fun _ => rfl)
      (fun absurd => nomatch absurd) trivial
  · intro truth
    let w := deviceNext deviceReplaced
      (.modifySize (resizeSample 4194304) (resizeSampleEnv (.sent 1)))
    let js := w.file.get (by decide +kernel)
    have there : w.file = some js := (Option.some_get (by decide +kernel)).symm
    let node := (rawNode js "10.0.0.4").parseRSstatus
    have mem : node ∈ (replay js).list := by decide +kernel
    have reported := truth js there node mem (by decide +kernel) 2097152 (by decide +kernel)
    exact absurd reported (by decide +kernel)

end Sample

end GlusterBlock
