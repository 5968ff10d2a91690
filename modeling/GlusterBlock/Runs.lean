import GlusterBlock.Lib.Trail
import GlusterBlock.BlockReplace
import GlusterBlock.CreateReport

/-! Runs of requests on one block. A step is a request up to a crash, which may
come between any two of its effects; the nodes go along with the calls that reach
them, as far as a model of the nodes says what a call does. -/
namespace GlusterBlock

open Trail

inductive Request where
  | create (blk : BlockCreateCli) (env : CreateEnv)
  | delete (blk : BlockDeleteCli) (env : DeleteEnv)
  | modify (blk : BlockModifyCli) (env : ModifyEnv)
  | modifySize (blk : BlockModifySizeCli) (env : ModifySizeEnv)
  | replace (blk : BlockReplaceCli) (env : ReplaceEnv)

namespace Request

def session : Request → Session
  | create _ env => env.session
  | delete _ env => env.session
  | modify _ env => env.session
  | modifySize _ env => env.session
  | replace _ env => env.session

def outcome (file : Metafile) : Request → Outcome
  | create blk env => blockCreateCli blk env file
  | delete blk env => blockDeleteCli blk env file
  | modify blk env => blockModifyCli blk env file
  | modifySize blk env => blockModifySizeCli blk env file
  | replace blk env => blockReplaceCli blk env file

/-- What the command line checks of the numbers and addresses of a request. -/
def accepted : Request → Prop
  | create blk _ => 0 < blk.mpath
  | replace blk _ => blk.oldNode ≠ blk.newNode
  | _ => True

end Request

/-- The effects `evs` of a request, all of them or up to a crash. A metafile that
is there is found. -/
structure Takes (req : Request) (file : Metafile) (evs : List Ev) : Prop where
  accepted : req.accepted
  finds : file ≠ none → req.session.accessErr = none
  cut : evs <+: (req.outcome file).evs

/-- The nodes a new target may meet, and what a call with an exit code makes of a
node. -/
structure NodeModel (N : Type) where
  fresh : N → Prop
  serve : Msg → Int → N → N → Prop

structure World (N : Type) where
  file : Metafile
  nodes : Addr → N

/-- A block that is not there yet. -/
def World.none {N : Type} (nodes : Addr → N) : World N := { file := Option.none, nodes := nodes }

variable {N : Type}

def NodeModel.step (M : NodeModel N) (addr : Addr) (e : Ev) (n n' : N) : Prop :=
  match e with
  | .call a msg exit => if a = addr then M.serve msg exit n n' else n' = n
  | _ => n' = n

/-- A create on a name that is free makes a new target: the nodes are those of that
target from then on. -/
def NodeModel.starts (M : NodeModel N) (w : World N) (addr : Addr) (n : N) : Prop :=
  match w.file with
  | some _ => n = w.nodes addr
  | none => M.fresh n

structure Step (M : NodeModel N) (req : Request) (evs : List Ev) (w w' : World N) : Prop where
  takes : Takes req w.file evs
  file : w'.file = metaAfter w.file evs
  nodes : ∀ addr, ∃ n, M.starts w addr n ∧ Along (M.step addr) n evs (w'.nodes addr)

/-- What a node that answers by a function makes of an effect. -/
def nodeAfter (serve : N → Msg → Int → N) (addr : Addr) (n : N) : Ev → N
  | .call a msg exit => if a = addr then serve n msg exit else n
  | _ => n

/-- The world behind some effects when the nodes answer by a function. -/
def World.advance (serve : N → Msg → Int → N) (w : World N) (evs : List Ev) : World N where
  file := metaAfter w.file evs
  nodes := fun addr => evs.foldl (nodeAfter serve addr) (w.nodes addr)

theorem along_advance {M : NodeModel N} {serve : N → Msg → Int → N}
    (serves : ∀ n msg exit, M.serve msg exit n (serve n msg exit)) (addr : Addr) (n : N)
    (evs : List Ev) : Along (M.step addr) n evs (evs.foldl (nodeAfter serve addr) n) := by
  induction evs generalizing n with
  | nil => exact .nil n
  | cons e evs ih =>
    rw [List.foldl_cons]
    refine .cons ?_ (ih (nodeAfter serve addr n e))
    unfold NodeModel.step nodeAfter
    cases e with
    | call a msg exit =>
      dsimp only
      split
      · exact serves n msg exit
      · rfl
    | _ => rfl

theorem advance_step {M : NodeModel N} {serve : N → Msg → Int → N}
    (serves : ∀ n msg exit, M.serve msg exit n (serve n msg exit)) {req : Request} {w : World N}
    {evs : List Ev} (takes : Takes req w.file evs)
    (fresh : w.file = none → ∀ addr, M.fresh (w.nodes addr)) :
    Step M req evs w (w.advance serve evs) := by
  refine ⟨takes, rfl, fun addr => ⟨w.nodes addr, ?_, along_advance serves addr _ evs⟩⟩
  unfold NodeModel.starts
  cases file : w.file with
  | none => exact fresh file addr
  | some js => rfl

/-- The runs whose steps all meet a condition. -/
def Run (M : NodeModel N) (cond : Request → List Ev → World N → World N → Prop) :
    World N → World N → Prop :=
  Relation.ReflTransGen (fun w w' => ∃ req evs, Step M req evs w w' ∧ cond req evs w w')

/-- A run goes on with a request that is carried out to its end. -/
theorem run_next {M : NodeModel N} {cond : Request → List Ev → World N → World N → Prop}
    {serve : N → Msg → Int → N} (serves : ∀ n msg exit, M.serve msg exit n (serve n msg exit))
    {w₀ w : World N} (run : Run M cond w₀ w) (req : Request) (accepted : req.accepted)
    (finds : w.file ≠ none → req.session.accessErr = none)
    (fresh : w.file = none → ∀ addr, M.fresh (w.nodes addr))
    (met : cond req (req.outcome w.file).evs w (w.advance serve (req.outcome w.file).evs)) :
    Run M cond w₀ (w.advance serve (req.outcome w.file).evs) :=
  .tail run ⟨req, _, advance_step serves ⟨accepted, finds, List.prefix_refl _⟩ fresh, met⟩

/-- What every step that meets the condition keeps holds after every run. -/
theorem run_keeps {M : NodeModel N} {cond : Request → List Ev → World N → World N → Prop}
    (Inv : World N → Prop)
    (keeps : ∀ req evs w w', Inv w → Step M req evs w w' → cond req evs w w' → Inv w')
    {w w' : World N} (start : Inv w) (run : Run M cond w w') : Inv w' := by
  induction run with
  | refl => exact start
  | tail _ step ih =>
    obtain ⟨req, evs, took, met⟩ := step
    exact keeps req evs _ _ ih took met

section Host

/-- A node as the coordinator sees it and as it is. -/
structure HostView (N : Type) where
  status : Option MetaStatus
  node : N

def statusStep (addr : Addr) (status : Option MetaStatus) : Ev → Option MetaStatus
  | .write lines => (lines.filterMap (effect addr)).getLast?.getD status
  | _ => status

def NodeModel.hostStep (M : NodeModel N) (addr : Addr) (e : Ev) (h h' : HostView N) : Prop :=
  h'.status = statusStep addr h.status e ∧ M.step addr e h.node h'.node

theorem latest_foldl (js : Journal) (addr : Addr) (evs : List Ev) :
    latest (js ++ written evs) addr = evs.foldl (statusStep addr) (latest js addr) := by
  induction evs generalizing js with
  | nil => simp
  | cons e evs ih =>
    have split : written (e :: evs) = written [e] ++ written evs := written_append [e] evs
    rw [split, ← List.append_assoc, ih, List.foldl_cons]
    refine congrArg (fun s => evs.foldl (statusStep addr) s) ?_
    cases e with
    | write lines => simp [latest_append, written, statusStep]
    | _ => simp [written, statusStep]

theorem along_host {M : NodeModel N} {addr : Addr} {h h' : HostView N} {evs : List Ev} :
    Along (M.hostStep addr) h evs h' ↔
      h'.status = evs.foldl (statusStep addr) h.status ∧
        Along (M.step addr) h.node evs h'.node := by
  induction evs generalizing h with
  | nil =>
    simp only [along_nil, List.foldl_nil]
    constructor
    · rintro rfl
      exact ⟨rfl, rfl⟩
    · rintro ⟨status, node⟩
      cases h
      cases h'
      cases status
      cases node
      rfl
  | cons e evs ih =>
    simp only [along_cons, List.foldl_cons, ih]
    constructor
    · rintro ⟨u, ⟨status, node⟩, rest, along⟩
      rw [status] at rest
      exact ⟨rest, u.node, node, along⟩
    · rintro ⟨status, n, node, along⟩
      exact ⟨⟨statusStep addr h.status e, n⟩, ⟨rfl, node⟩, status, along⟩

/-- What is not about a host changes nothing for it. -/
theorem hostStep_still {M : NodeModel N} {addr : Addr} (e : Ev) (h h' : HostView N)
    (other : e.isAbout addr = false) : M.hostStep addr e h h' ↔ h' = h := by
  have parts : h' = h ↔ h'.status = h.status ∧ h'.node = h.node := by
    cases h
    cases h'
    simp
  rw [parts, NodeModel.hostStep]
  cases e with
  | write lines =>
    have none : lines.filterMap (effect addr) = [] := by
      refine List.filterMap_eq_nil_iff.mpr (fun l hl => effect_unmentioned ?_)
      exact Bool.eq_false_iff.mpr (List.any_eq_false.mp other l hl)
    simp [statusStep, NodeModel.step, none]
  | call a msg exit =>
    have away : ¬ a = addr := by simpa [Ev.isAbout] using other
    simp [statusStep, NodeModel.step, away]
  | _ => simp [statusStep, NodeModel.step]

theorem along_hostEvs {M : NodeModel N} {addr : Addr} {h h' : HostView N} {evs : List Ev} :
    Along (M.hostStep addr) h (hostEvs addr evs) h' ↔ Along (M.hostStep addr) h evs h' :=
  along_filter hostStep_still

end Host

section Growth

theorem metaAfter_none {evs : List Ev} (keep : Ev.unlinkMeta ∉ evs) {js : Journal}
    (h : metaAfter none evs = some js) : js = written evs := by
  induction evs with
  | nil => cases h
  | cons e evs ih =>
    have rest : Ev.unlinkMeta ∉ evs := fun he => keep (List.mem_cons_of_mem _ he)
    cases e with
    | touch =>
      have grown := metaAfter_some [] rest
      exact Option.some.inj (h.symm.trans grown)
    | write lines =>
      have grown := metaAfter_some lines rest
      exact Option.some.inj (h.symm.trans grown)
    | call a msg exit => exact ih rest h
    | unlinkMeta => exact absurd List.mem_cons_self keep

/-- When the metafile is removed at the very end only, a part of the effects that
leaves one has added its lines to it. -/
theorem metaAfter_grows {evs p : List Ev} {file : Metafile} {js : Journal}
    (last : Ev.unlinkMeta ∉ evs.dropLast) (cut : p <+: evs) (h : metaAfter file p = some js) :
    Ev.unlinkMeta ∉ p ∧ js = file.getD [] ++ written p := by
  have keep : Ev.unlinkMeta ∉ p := by
    intro removed
    obtain ⟨rest, rfl⟩ := cut
    rcases List.eq_nil_or_concat p with rfl | ⟨init, e, rfl⟩
    · cases removed
    · rw [List.concat_eq_append] at *
      rcases List.mem_append.mp removed with early | final
      · refine last ?_
        rw [List.append_assoc, List.singleton_append, List.dropLast_append_cons]
        exact List.mem_append_left _ early
      · rw [metaAfter_append, ← List.mem_singleton.mp final] at h
        cases h
  refine ⟨keep, ?_⟩
  cases file with
  | none => exact metaAfter_none keep h
  | some js' =>
    rw [metaAfter_some js' keep] at h
    exact (Option.some.inj h).symm

end Growth

end GlusterBlock
