import GlusterBlock.BlockRecord
import GlusterBlock.CommandLog
import GlusterBlock.HaBound
import GlusterBlock.Orphans
import GlusterBlock.Regenerate

/-! What `info` prints of a block, next to what was asked for when it was created and to what
its nodes have. -/
namespace GlusterBlock

/-- The front of an info, down to the hosts. -/
def infoHead (name volume gbid : String) (size mpath ioTimeout : Nat) (passwd : String) : Text :=
  "NAME: ".toList ++ name.toList ++ "\nVOLUME: ".toList ++ volume.toList ++
    "\nGBID: ".toList ++ gbid.toList ++
    "\nSIZE: ".toList ++ (glusterBlockFormatSize size).toList ++
    "\nHA: ".toList ++ (toString mpath).toList ++
    "\nIOTIMEOUT: ".toList ++ (toString ioTimeout).toList ++ " Seconds".toList ++
    "\nPASSWORD: ".toList ++ passwd.toList

/-- The timeout the hosts can serve. -/
def timeoutServed (blk : BlockCreateCli) (env : CreateEnv) : Nat :=
  if ∀ a ∈ createArgs blk env, a.reports .createIoTimeout = true then blk.ioTimeout else 0

section Created

variable {N : Type} {M : NodeModel N} {blk : BlockCreateCli} {env : CreateEnv} {js : Journal}
  {w w' : World N}

theorem created_mpath {resultCaps : Caps} :
    (replay (auditedLines blk env resultCaps)).mpath = blk.mpath := by
  unfold auditedLines
  rw [mpath_append, no_pick, prepared_mpath]
  · rfl
  · intro l mem
    have host := createEvs_lines mem
    cases l <;> first | rfl | cases host

theorem info_text (json : JsonResponseFormat → Json.Layout) (blk : BlockInfoCli) (env : InfoEnv)
    (plain : blk.jsonResp.given = false) (connect : env.session.connect = none)
    (read : env.session.readMeta = true) (unlocked : env.session.unlocked = true) (js : Journal) :
    blockInfoCli json blk env (some js) =
      infoHead blk.blockName (recorded js).volume (recorded js).gbid (recorded js).size
        (recorded js).mpath (recorded js).ioTimeout (recorded js).passwd ++
        infoTailText (replay js) := by
  unfold blockInfoCli infoHead
  simp only [connect, read, if_true, Session.unlock, unlocked, infoText, plain]
  rfl

/-- What the metafile of a create that succeeded records. -/
theorem succeeded_card (positive : 0 < blk.mpath) (made : Succeeds blk env js) :
    (recorded js).volume = blk.volume ∧ (recorded js).gbid = env.gbid ∧
      (recorded js).mpath = blk.mpath ∧ (recorded js).size = createSize blk env ∧
      (recorded js).ioTimeout = timeoutServed blk env := by
  obtain ⟨resultCaps, gate, rfl, _⟩ := succeeds_lines positive made
  have info := audited_info blk env resultCaps
  refine ⟨info.volume, info.gbid, created_mpath, info.size, info.ioTimeout.trans ?_⟩
  unfold timeoutServed
  cases lacked : resultCaps .createIoTimeout with
  | true =>
    have some : ¬ (blk.ioTimeout = 0 ∨
        ∀ a ∈ createArgs blk env, a.reports .createIoTimeout = true) := by
      intro all
      rw [(gate_timeout gate).mpr all] at lacked
      cases lacked
    rw [if_neg (fun all => some (.inr all))]
    rfl
  | false =>
    rcases (gate_timeout gate).mp lacked with none | all
    · simp [none]
    · rw [if_pos all]
      rfl

/-- A block that was created shows what was asked for, whatever else was done to it. -/
theorem info_shows (json : JsonResponseFormat → Json.Layout) (positive : 0 < blk.mpath)
    (made : Succeeds blk env js) (run : Run M staysUnforced w w') (there : w.file = some js)
    {js' : Journal} (left : w'.file = some js') (info : BlockInfoCli) (infoEnv : InfoEnv)
    (plain : info.jsonResp.given = false) (connect : infoEnv.session.connect = none)
    (read : infoEnv.session.readMeta = true) (unlocked : infoEnv.session.unlocked = true) :
    ∃ size passwd, createSize blk env ≤ size ∧
      blockInfoCli json info infoEnv w'.file =
        infoHead info.blockName blk.volume env.gbid size blk.mpath (timeoutServed blk env) passwd ++
          infoTailText (replay js') := by
  obtain ⟨volume, gbid, mpath, size, timeout⟩ := succeeded_card positive made
  obtain ⟨same, grown⟩ := block_kept run there left
  refine ⟨(recorded js').size, (recorded js').passwd, size ▸ grown, ?_⟩
  rw [left, info_text json info infoEnv plain connect read unlocked, ← volume, ← gbid, ← mpath,
    ← timeout, same.volume, same.gbid, same.mpath, same.ioTimeout]

end Created

section Targets

/-- The hosts that an info names: it exports on the first of them and has failures on the
others. -/
def infoHosts (info : MetaInfo) : List Addr :=
  (info.list.filter (fun node => blockhostIsValid node.status)).map NodeInfo.addr ++
    (info.list.filter infoFailed).map NodeInfo.addr

/-- The status of a host that an info names. -/
def isNamed (s : Option MetaStatus) : Bool :=
  s.any MetaStatus.isValid || s == some .configFail || s == some .cleanupFail

theorem mem_infoHosts {js : Journal} {addr : Addr} :
    addr ∈ infoHosts (replay js) ↔ addr ∈ hosts js ∧ isNamed (latest js addr) = true := by
  have failed := filter_replay js
    (fun s => !s.any MetaStatus.isValid && (s == some .configFail || s == some .cleanupFail))
  have named : infoHosts (replay js) = validHosts js ++ (hosts js).filter (fun a =>
      !(latest js a).any MetaStatus.isValid &&
        (latest js a == some .configFail || latest js a == some .cleanupFail)) :=
    congrArg (validHosts js ++ ·) failed
  rw [named, validHosts_eq, List.mem_append, List.mem_filter, List.mem_filter, ← and_or_left]
  refine and_congr_right (fun _ => ?_)
  unfold isNamed isValidAt
  cases (latest js addr).any MetaStatus.isValid <;> simp

/-- A host that may have the target has a status, and an info names it but for one. -/
theorem booked_shown {js : Journal} {addr : Addr} (booked : Cleared ⟨latest js addr, true⟩) :
    addr ∈ infoHosts (replay js) ↔ latest js addr ≠ some .configInprogress := by
  have touched : latest js addr ≠ none ∧ latest js addr ≠ some .cleanupSuccess := by
    constructor <;> intro gone
    · exact Bool.false_ne_true (booked (.inl gone)).symm
    · exact Bool.false_ne_true (booked (.inr gone)).symm
  have listed : addr ∈ hosts js := by
    by_contra unknown
    exact touched.1 (latest_unmentioned unknown)
  rw [mem_infoHosts]
  cases status : latest js addr with
  | none => exact absurd status touched.1
  | some s => cases s <;> simp_all [isNamed, MetaStatus.isValid]

/-- An info names every node that has the target, but one whose create has not got to the line
for its result. -/
theorem targets_shown {nodes : Addr → Bool} {w : World Bool}
    (run : Run targetModel unforcedRuns (World.none nodes) w) {js : Journal}
    (there : w.file = some js) {addr : Addr} (node : addr ≠ "ENTRYDELETE")
    (target : w.nodes addr = true) :
    addr ∈ infoHosts (replay js) ↔ latest js addr ≠ some .configInprogress := by
  have fresh : Books (World.none nodes) := fun js hjs => nomatch hjs
  exact booked_shown (target ▸ run_books fresh run js there addr node)

end Targets

section Sample

/-- A block with a timeout, behind a resize to twice its size. -/
def grownTimed : World Unit :=
  World.advance (fun _ _ _ => ()) ⟨some (timedJournal []), fun _ => ()⟩
    ((Request.modifySize (resizeSample 2097152) (resizeSampleEnv (.sent 0))).outcome
      (some (timedJournal []))).evs

theorem grownTimed_run :
    Run anyNode staysUnforced ⟨some (timedJournal []), fun _ => ()⟩ grownTimed := by
  refine run_next (fun _ _ _ => trivial) .refl
    (.modifySize (resizeSample 2097152) (resizeSampleEnv (.sent 0))) trivial (fun _ => rfl)
    (fun _ _ => trivial) ⟨by decide +kernel, fun blk env same => ?_⟩
  cases same
  rfl

theorem info_shows_sample : ∃ js', grownTimed.file = some js' ∧ ∃ size passwd, 1048576 ≤ size ∧
    blockInfoCli (fun _ => .plain) ⟨"block", "vol", .none⟩ ⟨.good, 0, ""⟩ grownTimed.file =
      infoHead "block" "vol" "6b60c53c-8ce0-4d8d-a42c-5b546bca3d09" size 1 30 passwd ++
        infoTailText (replay js') := by
  obtain ⟨js', left⟩ := Option.isSome_iff_exists.mp
    (show grownTimed.file.isSome = true by decide +kernel)
  exact ⟨js', left, info_shows (fun _ => .plain) (by decide) (timed_create (.inl rfl)).succeeds
    grownTimed_run rfl left ⟨"block", "vol", .none⟩ ⟨.good, 0, ""⟩ rfl rfl rfl rfl⟩

theorem targets_shown_sample : "10.0.0.1" ∈ infoHosts (replay unrecordedLines) ↔
    latest unrecordedLines "10.0.0.1" ≠ some .configInprogress :=
  targets_shown unrecorded_run rfl (by decide) rfl

end Sample

end GlusterBlock
