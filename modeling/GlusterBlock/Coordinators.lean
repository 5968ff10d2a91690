import GlusterBlock.AuthTruth
import GlusterBlock.Lib.Sections

/-! Coordinators on several nodes. Each of them takes the lock of the volume before it reads
a metafile and gives it back behind its last effect; the lock of one that dies is free. -/
namespace GlusterBlock

open Trail Sections

def Request.blockName : Request → String
  | create blk _ => blk.blockName
  | delete blk _ => blk.blockName
  | modify blk _ => blk.blockName
  | modifySize blk _ => blk.blockName
  | replace blk _ => blk.blockName

section Volume

variable {N : Type}

/-- The blocks of a volume by their names, each with its metafile and its target on the
nodes. -/
abbrev Blocks (N : Type) := String → World N

/-- An effect on the metafile of a block and on the nodes. -/
structure NodeModel.Effect (M : NodeModel N) (e : Ev) (w w' : World N) : Prop where
  file : w'.file = metaStep w.file e
  nodes : ∀ addr, M.step addr e (w.nodes addr) (w'.nodes addr)

/-- A request in its section: it is about one block, and all that it does follows from the
metafile that it finds there. -/
structure NodeModel.Enters (M : NodeModel N) (req : Request) (bs bs' : Blocks N)
    (es : List (String × Ev)) : Prop where
  accepted : req.accepted
  finds : (bs req.blockName).file ≠ none → req.session.accessErr = none
  effects : es = (req.outcome (bs req.blockName).file).evs.map (fun e => (req.blockName, e))
  file : (bs' req.blockName).file = (bs req.blockName).file
  starts : ∀ addr, M.starts (bs req.blockName) addr ((bs' req.blockName).nodes addr)
  others : ∀ b, b ≠ req.blockName → bs' b = bs b

def NodeModel.work (M : NodeModel N) : Work (Blocks N) (String × Ev) Request where
  enter := M.Enters
  step := fun e bs bs' => M.Effect e.2 (bs e.1) (bs' e.1) ∧ ∀ b, b ≠ e.1 → bs' b = bs b

variable {M : NodeModel N}

theorem effects_world {evs : List Ev} {w w' : World N} (along : Along M.Effect w evs w') :
    w'.file = metaAfter w.file evs ∧
      ∀ addr, Along (M.step addr) (w.nodes addr) evs (w'.nodes addr) := by
  induction along with
  | nil w => exact ⟨rfl, fun addr => .nil _⟩
  | cons first _ ih =>
    obtain ⟨file, nodes⟩ := ih
    refine ⟨?_, fun addr => .cons (first.nodes addr) (nodes addr)⟩
    rw [file, first.file]
    rfl

/-- The effects of a section are those on its block. -/
theorem effects_block {name : String} {evs : List Ev} {bs bs' : Blocks N}
    (along : Along M.work.step bs (evs.map (fun e => (name, e))) bs') :
    Along M.Effect (bs name) evs (bs' name) ∧ ∀ b, b ≠ name → bs' b = bs b := by
  induction evs generalizing bs with
  | nil =>
    rw [along_nil.mp along]
    exact ⟨.nil _, fun b _ => rfl⟩
  | cons e evs ih =>
    obtain ⟨mid, ⟨first, others⟩, rest⟩ := along_cons.mp along
    obtain ⟨here, there⟩ := ih rest
    refine ⟨.cons first here, fun b other => ?_⟩
    rw [there b other, others b other]

/-- A section alone is a step of its block. -/
theorem alone_step {bs bs' : Blocks N} (alone : Alone M.work bs bs') :
    ∃ req evs, Step M req evs (bs req.blockName) (bs' req.blockName) ∧
      ∀ b, b ≠ req.blockName → bs' b = bs b := by
  obtain ⟨req, start, es, done, enters, cut, along⟩ := alone
  rw [enters.effects] at cut
  obtain ⟨evs, short, rfl⟩ := List.prefix_map_iff.mp cut
  obtain ⟨here, others⟩ := effects_block along
  obtain ⟨file, nodes⟩ := effects_world here
  refine ⟨req, evs, ⟨⟨enters.accepted, enters.finds, short⟩, ?_, ?_⟩, fun b other => ?_⟩
  · rw [file, enters.file]
  · exact fun addr => ⟨_, enters.starts addr, nodes addr⟩
  · rw [others b other, enters.others b other]

/-- The effects on a block whose nodes answer by a function. -/
theorem advance_block {serve : N → Msg → Int → N}
    (serves : ∀ n msg exit, M.serve msg exit n (serve n msg exit)) (name : String) (evs : List Ev)
    (bs : Blocks N) : Along M.work.step bs (evs.map (fun e => (name, e)))
      (Function.update bs name ((bs name).advance serve evs)) := by
  induction evs generalizing bs with
  | nil =>
    rw [show (bs name).advance serve [] = bs name from rfl, Function.update_eq_self]
    exact .nil bs
  | cons e evs ih =>
    have rest := ih (Function.update bs name ((bs name).advance serve [e]))
    rw [Function.update_idem, Function.update_self] at rest
    refine .cons ⟨?_, fun b other => Function.update_of_ne other ..⟩ rest
    rw [Function.update_self]
    refine ⟨rfl, fun addr => ?_⟩
    obtain ⟨n, first, last⟩ :=
      along_cons.mp (along_advance serves addr ((bs name).nodes addr) [e])
    rw [← along_nil.mp last] at first
    exact first

/-- A request whose nodes answer by a function, up to some point. -/
theorem advance_alone {serve : N → Msg → Int → N}
    (serves : ∀ n msg exit, M.serve msg exit n (serve n msg exit)) {bs : Blocks N} {req : Request}
    {evs : List Ev} (takes : Takes req (bs req.blockName).file evs)
    (fresh : ∀ addr, M.starts (bs req.blockName) addr ((bs req.blockName).nodes addr)) :
    Alone M.work bs
      (Function.update bs req.blockName ((bs req.blockName).advance serve evs)) :=
  ⟨req, bs, _, _, ⟨takes.accepted, takes.finds, rfl, rfl, fresh, fun _ _ => rfl⟩,
    takes.cut.map _, advance_block serves req.blockName evs bs⟩

theorem serial_run {bs bs' : Blocks N} (serial : Serial M.work bs bs') (b : String) :
    Run M anyRequest (bs b) (bs' b) := by
  induction serial with
  | refl => exact .refl
  | tail _ alone ih =>
    obtain ⟨req, evs, step, others⟩ := alone_step alone
    by_cases same : b = req.blockName
    · subst same
      exact ih.tail ⟨req, evs, step, trivial⟩
    · rw [others b same]
      exact ih

end Volume

section Interleaved

variable {P N : Type} [DecidableEq P] {M : NodeModel N} {c₀ c : Conf P (Blocks N) (String × Ev)}

/-- Whatever the order in which coordinators take their steps, and wherever some of them
die, at most one is at work, and every block is in a state that requests one after another
lead to. -/
theorem coordinators_serial (idle : c₀.Idle) (run : Relation.ReflTransGen (Next M.work) c₀ c) :
    (∀ p q es fs, c.inside p = some es → c.inside q = some fs → p = q) ∧
      ∀ b, Run M anyRequest (c₀.shared b) (c.shared b) := by
  have ordered := ordered_run idle run
  constructor
  · intro p q es fs first second
    have same := (ordered.exclusive p es first).symm.trans (ordered.exclusive q fs second)
    exact Option.some.inj same
  · exact serial_run ordered.serial

/-- What the metafile of a block shows of the authentication on a node is so at every moment,
also while coordinators are at work. -/
theorem interleaved_shown {c₀ c : Conf P (Blocks AuthNode) (String × Ev)} (idle : c₀.Idle)
    (none : ∀ b, (c₀.shared b).file = none)
    (run : Relation.ReflTransGen (Next authModel.work) c₀ c) {b : String} {js : Journal}
    (there : (c.shared b).file = some js) (a : Addr) :
    AuthShown ⟨latest js a, (c.shared b).nodes a⟩ := by
  have first : c₀.shared b = World.none (c₀.shared b).nodes :=
    congrArg (fun file => World.mk file (c₀.shared b).nodes) (none b)
  have serial := serial_run (ordered_run idle run).serial b
  rw [first] at serial
  exact run_shown serial js there a

end Interleaved

section Sample

theorem work_write {N : Type} {M : NodeModel N} (name : String) {e : Ev}
    (quiet : ∀ a msg exit, e ≠ .call a msg exit) (bs : Blocks N) :
    M.work.step (name, e) bs
      (Function.update bs name ⟨metaStep (bs name).file e, (bs name).nodes⟩) := by
  refine ⟨?_, fun b other => Function.update_of_ne other _ _⟩
  rw [Function.update_self]
  refine ⟨rfl, fun addr => ?_⟩
  unfold NodeModel.step
  cases e with
  | call a msg exit => exact absurd rfl (quiet a msg exit)
  | _ => rfl

/-- No block, and nobody at work. -/
def quietVolume : Conf Nat (Blocks AuthNode) (String × Ev) :=
  ⟨fun _ => .none (fun _ => ⟨false, ""⟩), none, fun _ => none⟩

def deleteSample : Request :=
  .delete
    { volume := "vol", blockName := "block", unlink := true, force := true, jsonResp := .none }
    { session := .good, caps := allCapable, cleanUp := (createSampleEnv []).cleanUp }

def firstLines : Ev := .write (headerLines oneHost "6b60c53c-8ce0-4d8d-a42c-5b546bca3d09" "")

/-- The volume behind the first lines of a block. -/
def headed : Blocks AuthNode :=
  Function.update quietVolume.shared "block" ⟨metaStep none firstLines, fun _ => ⟨false, ""⟩⟩

def createSteps : List (String × Ev) :=
  (blockCreateCli oneHost (createSampleEnv []) none).evs.map (fun e => ("block", e))

def deleteSteps : List (String × Ev) :=
  (deleteSample.outcome (headed "block").file).evs.map (fun e => ("block", e))

/-- A coordinator has died behind the first lines of a new block, and another one has begun
to delete the block. -/
def takenOver : Conf Nat (Blocks AuthNode) (String × Ev) :=
  ⟨headed, some 2, Function.update (Function.update (Function.update
    (Function.update quietVolume.inside 1 (some createSteps)) 1 (some createSteps.tail)) 1 none) 2
    (some deleteSteps)⟩

theorem takenOver_run :
    Relation.ReflTransGen (Next authModel.work) quietVolume takenOver := by
  let begun : Conf Nat (Blocks AuthNode) (String × Ev) :=
    ⟨quietVolume.shared, some 1, Function.update quietVolume.inside 1 (some createSteps)⟩
  let wrote : Conf Nat (Blocks AuthNode) (String × Ev) :=
    ⟨headed, some 1, Function.update begun.inside 1 (some createSteps.tail)⟩
  have made : authModel.Enters (.create oneHost (createSampleEnv [])) quietVolume.shared
      quietVolume.shared createSteps :=
    ⟨Nat.one_pos, fun _ => rfl, rfl, rfl, fun _ => trivial, fun _ _ => rfl⟩
  have first : Next authModel.work quietVolume begun := .enter rfl made
  have here : begun.inside 1 = some (("block", firstLines) :: createSteps.tail) :=
    Function.update_self (1 : Nat) (some createSteps) quietVolume.inside
  have second : Next authModel.work begun wrote :=
    .act here (work_write "block" (by simp [firstLines]) _)
  have third : Next authModel.work wrote (wrote.out 1) :=
    .crash (Function.update_self (1 : Nat) (some createSteps.tail) begun.inside)
  have fourth : Next authModel.work (wrote.out 1) takenOver :=
    .enter rfl (r := deleteSample)
      ⟨trivial, fun _ => rfl, rfl, rfl, fun _ => rfl, fun _ _ => rfl⟩
  exact (((Relation.ReflTransGen.single first).tail second).tail third).tail fourth

theorem coordinators_serial_sample :
    Run authModel anyRequest (quietVolume.shared "block") (takenOver.shared "block") :=
  (coordinators_serial ⟨rfl, fun _ => rfl⟩ takenOver_run).2 "block"

/-- One coordinator has created the block, and another one has died behind the last line of a
modify. -/
theorem interleaved_shown_sample :
    ∃ c, Relation.ReflTransGen (Next authModel.work) quietVolume c ∧
      ∃ js, (c.shared "block").file = some js ∧ latest js "10.0.0.1" = some .authEnforced ∧
        AuthShown ⟨latest js "10.0.0.1", (c.shared "block").nodes "10.0.0.1"⟩ := by
  have create : Takes (.create oneHost (createSampleEnv [])) (quietVolume.shared "block").file _ :=
    ⟨Nat.one_pos, fun there => (there rfl).elim, List.prefix_refl _⟩
  have serves : ∀ n msg exit, authModel.serve msg exit n (AuthNode.serve n msg exit) :=
    fun _ _ _ => rfl
  have created := advance_alone serves create (fun _ => trivial)
  let made := Function.update quietVolume.shared "block" authOff
  have modify : Takes (.modify (modifySample true) modifySampleEnv) (made "block").file _ :=
    ⟨trivial, fun _ => rfl, List.prefix_refl _⟩
  have modified := advance_alone serves modify (fun _ => rfl)
  obtain ⟨c, run, shared, _⟩ := serial_reached 1 rfl
    ((Relation.ReflTransGen.single created).tail modified)
  have block : c.shared "block" =
      authNext authOff (.modify (modifySample true) modifySampleEnv) := by
    rw [shared]
    rfl
  have file := (congrArg World.file block).trans (Option.some_get (by decide)).symm
  refine ⟨c, run, _, file, by decide, ?_⟩
  exact interleaved_shown ⟨rfl, fun _ => rfl⟩ (fun _ => rfl) run file "10.0.0.1"

end Sample

end GlusterBlock
