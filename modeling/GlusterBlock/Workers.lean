import GlusterBlock.Trace

/-! The worker threads. Create, delete, modify, resize and portal replacement
share one shape: a status line, the call, and a status line for its result. -/
namespace GlusterBlock

/-- What one worker does and which calls it takes for done. -/
structure RemoteJob where
  addr : Addr
  msg : Msg
  size : Option Nat
  start : MetaStatus
  failed : MetaStatus
  done : MetaStatus
  extra : Option MetaStatus
  accepts : Int → Bool

/-- The outcomes of a worker's updates and of its call. -/
structure JobOutcome where
  start : UpdRes
  call : CallRes
  done : UpdRes
  extra : UpdRes
  deriving DecidableEq, Repr

def JobOutcome.good : JobOutcome where
  start := .ok
  call := .sent 0
  done := .ok
  extra := .ok

namespace RemoteJob

def line (j : RemoteJob) (status : MetaStatus) : Ev := .write [.host j.addr status j.size]

def update (j : RemoteJob) (res : UpdRes) (status : MetaStatus) : Act :=
  metaUpdate res [.host j.addr status j.size]

def run (j : RemoteJob) (o : JobOutcome) : Act :=
  (j.update o.start j.start).next <|
    match o.call with
    | .notSent => .done (-1)
    | .sent exit =>
      (Act.emit (.call j.addr j.msg exit)).next <|
        if j.accepts exit then
          (j.update o.done j.done).next <|
            match j.extra with
            | some status => j.update o.extra status
            | none => .done 0
        else (j.update o.done j.failed).next (.done exit)

/-- The effects when nothing stops the worker behind a call with this exit code. -/
def full (j : RemoteJob) (exit : Int) : List Ev :=
  [j.line j.start, .call j.addr j.msg exit] ++
    if j.accepts exit then j.line j.done :: (j.extra.map j.line).toList else [j.line j.failed]

end RemoteJob

def isZero (exit : Int) : Bool := exit == 0

def glusterBlockCreateRemote (addr : Addr) (cobj : BlockCreate2) : RemoteJob where
  addr := addr
  msg := .create { cobj with ipaddr := addr }
  size := none
  start := .configInprogress
  failed := .configFail
  done := .configSuccess
  extra := if cobj.authMode then some .authEnforced else none
  accepts := isZero

def glusterBlockDeleteRemote (addr : Addr) (dobj : BlockDelete) : RemoteJob where
  addr := addr
  msg := .delete dobj
  size := none
  start := .cleanupInprogress
  failed := .cleanupFail
  done := .cleanupSuccess
  extra := none
  accepts := isZero

def glusterBlockModifyRemote (addr : Addr) (mobj : BlockModify) : RemoteJob where
  addr := addr
  msg := .modify mobj
  size := none
  start := if mobj.authMode then .authEnforceing else .authClearEnforceing
  failed := if mobj.authMode then .authEnforceFail else .authClearEnforceFail
  done := if mobj.authMode then .authEnforced else .authClearEnforced
  extra := none
  accepts := isZero

def glusterBlockModifySizeRemote (addr : Addr) (mobj : BlockModifySize) : RemoteJob where
  addr := addr
  msg := .modifySize mobj
  size := some mobj.size
  start := .rsInprogress
  failed := .rsFail
  done := .rsSuccess
  extra := none
  accepts := isZero

/-- A portal that is there already counts as replaced. -/
def glusterBlockReplacePortalRemote (addr : Addr) (robj : BlockReplace) : RemoteJob where
  addr := addr
  msg := .replace robj
  size := none
  start := .rpInprogress
  failed := .rpFail
  done := .rpSuccess
  extra := none
  accepts := fun exit => exit == 0 || exit == gbOpSkipped

section Spec

def JobOutcome.updatesOk (o : JobOutcome) : Prop :=
  o.start = .ok ∧ o.done = .ok ∧ o.extra = .ok

instance (o : JobOutcome) : Decidable o.updatesOk := inferInstanceAs (Decidable (_ ∧ _ ∧ _))

namespace RemoteJob

/-- With successful updates only the call decides what the worker does. -/
theorem run_ok (j : RemoteJob) {o : JobOutcome} (ok : o.updatesOk) :
    j.run o =
      match o.call with
      | .notSent => { evs := [j.line j.start], ret := -1 }
      | .sent exit => { evs := j.full exit, ret := if j.accepts exit then 0 else exit } := by
  obtain ⟨hs, hd, he⟩ := ok
  cases hc : o.call with
  | notSent => simp [run, update, hs, hc, Act.next, Act.done, line]
  | sent exit =>
    cases ha : j.accepts exit with
    | false => simp [run, update, hs, hd, hc, ha, Act.next, Act.done, Act.emit, full, line]
    | true =>
      cases hx : j.extra with
      | none => simp [run, update, hs, hd, hc, ha, hx, Act.next, Act.done, Act.emit, full, line]
      | some s =>
        simp [run, update, hs, hd, he, hc, ha, hx, Act.next, Act.emit, full, line]

theorem line_isAbout (j : RemoteJob) (status : MetaStatus) (addr : Addr) :
    (j.line status).isAbout addr = (j.addr == addr) := by
  simp [line, Ev.isAbout, hostRecord]

/-- The visible effects of an update are its line or nothing. -/
theorem update_evs (j : RemoteJob) (res : UpdRes) (status : MetaStatus) :
    hostEvs j.addr (j.update res status).evs = [j.line status] ∨
      hostEvs j.addr (j.update res status).evs = [] ∧ (j.update res status).ret ≠ 0 := by
  have own : hostEvs j.addr [j.line status] = [j.line status] :=
    List.filter_cons_of_pos (by rw [line_isAbout, beq_self_eq_true])
  have failed : (-1 : Int) ≠ 0 := by decide
  cases res with
  | ok => exact .inl own
  | notOpened => exact .inr ⟨rfl, failed⟩
  | notWritten => exact .inr ⟨rfl, failed⟩
  | notClosed => exact .inl own

theorem next_evs (addr : Addr) (a b : Act) :
    hostEvs addr (a.next b).evs = hostEvs addr a.evs ++ hostEvs addr b.evs ∨
      hostEvs addr (a.next b).evs = hostEvs addr a.evs := by
  by_cases h : a.ret = 0
  · rw [Act.next_zero h]
    exact .inl (hostEvs_append ..)
  · rw [Act.next_fail h]
    exact .inr rfl

/-- An update in front of `b` shows a prefix of its line and what `b` shows. -/
theorem update_next_cut (j : RemoteJob) (res : UpdRes) (status : MetaStatus) {b : Act}
    {rest : List Ev} (hb : hostEvs j.addr b.evs <+: rest) :
    hostEvs j.addr ((j.update res status).next b).evs <+: j.line status :: rest := by
  rcases j.update_evs res status with shown | ⟨hidden, failed⟩
  · rcases next_evs j.addr (j.update res status) b with all | first
    · rw [all, shown]
      exact (List.prefix_append_right_inj [j.line status]).mpr hb
    · rw [first, shown]
      exact List.prefix_append [j.line status] rest
  · rw [Act.next_fail failed, hidden]
    exact List.nil_prefix

/-- Whatever fails, the host sees the beginning of a full run. -/
theorem run_cut (j : RemoteJob) (o : JobOutcome) :
    ∃ exit, hostEvs j.addr (j.run o).evs <+: j.full exit := by
  cases hc : o.call with
  | notSent =>
    have nothing : hostEvs j.addr (Act.done (-1)).evs <+: [] := List.prefix_refl _
    have shown := j.update_next_cut o.start j.start nothing
    refine ⟨0, ?_⟩
    rw [run, hc]
    exact shown.trans (List.prefix_append [j.line j.start] _)
  | sent exit =>
    have called : ∀ {b : Act} {rest : List Ev}, hostEvs j.addr b.evs <+: rest →
        hostEvs j.addr ((Act.emit (.call j.addr j.msg exit)).next b).evs <+:
          .call j.addr j.msg exit :: rest := by
      intro b rest hb
      have own : hostEvs j.addr [.call j.addr j.msg exit] = [.call j.addr j.msg exit] :=
        List.filter_cons_of_pos (by simp [Ev.isAbout])
      rw [Act.next_zero (show (Act.emit (.call j.addr j.msg exit)).ret = 0 from rfl)]
      change hostEvs j.addr ([.call j.addr j.msg exit] ++ b.evs) <+: _
      rw [hostEvs_append, own]
      exact (List.prefix_append_right_inj [.call j.addr j.msg exit]).mpr hb
    have nothing : ∀ ret, hostEvs j.addr (Act.done ret).evs <+: [] := fun _ => List.prefix_refl _
    refine ⟨exit, ?_⟩
    rw [run, hc, full]
    refine j.update_next_cut o.start j.start (called ?_)
    cases ha : j.accepts exit with
    | false => exact j.update_next_cut o.done j.failed (nothing exit)
    | true =>
      refine j.update_next_cut o.done j.done ?_
      cases hx : j.extra with
      | none => exact nothing 0
      | some s =>
        rcases j.update_evs o.extra s with shown | ⟨hidden, _⟩
        · exact shown ▸ List.prefix_refl _
        · exact hidden ▸ List.nil_prefix

theorem run_other (j : RemoteJob) (o : JobOutcome) {addr : Addr} (other : j.addr ≠ addr) :
    hostEvs addr (j.run o).evs = [] := by
  have hne : (j.addr == addr) = false := beq_false_of_ne other
  have lines : ∀ res status, hostEvs addr (j.update res status).evs = [] := by
    intro res status
    have away : hostEvs addr [j.line status] = [] :=
      List.filter_eq_nil_iff.mpr (by simp [line_isAbout, hne])
    cases res with
    | ok => exact away
    | notOpened => rfl
    | notWritten => rfl
    | notClosed => exact away
  have step : ∀ {a b : Act}, hostEvs addr a.evs = [] → hostEvs addr b.evs = [] →
      hostEvs addr (a.next b).evs = [] := by
    intro a b ha hb
    rcases next_evs addr a b with all | first
    · rw [all, ha, hb, List.nil_append]
    · rw [first, ha]
  have call : ∀ exit, hostEvs addr (Act.emit (.call j.addr j.msg exit)).evs = [] :=
    fun exit => List.filter_eq_nil_iff.mpr (by simp [Act.emit, Ev.isAbout, other])
  refine step (lines _ _) ?_
  cases o.call with
  | notSent => rfl
  | sent exit =>
    refine step (call exit) ?_
    split
    · refine step (lines _ _) ?_
      cases j.extra with
      | none => rfl
      | some s => exact lines _ _
    · exact step (lines _ _) rfl

end RemoteJob

end Spec

end GlusterBlock
