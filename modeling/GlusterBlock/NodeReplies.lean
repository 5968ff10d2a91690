import GlusterBlock.InfoShown
import GlusterBlock.LoadedStatus
import GlusterBlock.PathsKept

/-! What a node replies and what it has of the block behind that: its storage object and its
target. A coordinator takes a create that returns 0 for a node with the block and a delete that
returns 0 for one without, and it takes a node that does not find the block for one that does
not have it. A node that runs its scripts line by line, any of which may fail, keeps to this. -/
namespace GlusterBlock

open Trail

section Services

def replyFailed (text : String) (sr : SrvReply) : SrvReply :=
  if sr.exit ≠ 0 then { sr with out := text.toList } else sr

/-- `block_create_common`, with the search for the name in the saved configuration. -/
def blockCreateSvc (args : CommonArgs) (capable nameSaved : Bool) (targetcli : Text → Popen) :
    SrvReply :=
  if nameSaved then
    ⟨("block with name '" ++ args.blk.blockName ++
      "' already exist (Hint: may be hosted on a different block-hosting volume)").toList, -1⟩
  else
    replyFailed "configure failed" (execReply
      ((SrvRequest.create args capable).messages.map Prod.snd) ⟨[], -1⟩
        (targetcli (createScript args capable)))

def deleteMessages (blk : BlockDelete) : List Text :=
  [("Deleted storage object " ++ blk.blockName ++ ".").toList,
    ("Deleted Target " ++ gbTgcliIqnPrefix ++ blk.gbid ++ ".").toList]

/-- `block_delete_1_svc_st`. -/
def blockDeleteSvc (blk : BlockDelete) (loaded : LoadedRuns) (targetcli : Text → Popen) :
    SrvReply :=
  let (ret, reply) := blockCheckBlockLoadedStatus blk.blockName loaded (-1)
  if ret ≠ 0 then reply
  else
    replyFailed "delete failed" (execReply (deleteMessages blk) ⟨[], reply.exit⟩
      (targetcli (deleteScript blk)))

theorem replyFailed_exit (text : String) (sr : SrvReply) :
    (replyFailed text sr).exit = sr.exit := by
  unfold replyFailed
  split <;> rfl

/-- Of a run only an output with all messages gives 0, and nothing else but -1 is given. -/
theorem execReply_zero {messages : List Text} {sr : SrvReply} {popen : Popen}
    (failed : sr.exit = -1) :
    ((execReply messages sr popen).exit = 0 → ∃ out, popen = .output out ∧
        ∀ m ∈ messages, m <:+: out) ∧
      ((execReply messages sr popen).exit = 0 ∨ (execReply messages sr popen).exit = -1) := by
  cases popen with
  | failed errno => simp [execReply, failed]
  | unreadable errno => simp [execReply]
  | output out =>
    unfold execReply
    dsimp only
    split
    · rename_i all
      have shown : ∀ m ∈ messages, m <:+: out := fun m mem =>
        (all m mem).trans (execText_front out).isInfix
      exact ⟨fun _ => ⟨out, rfl, shown⟩, .inl rfl⟩
    · exact ⟨fun zero => absurd zero (by decide), .inr rfl⟩

/-- The reply is that of `blockCreateCommon`, where a script runs through when its output says
so. -/
theorem create_common (args : CommonArgs) (capable nameSaved : Bool) (targetcli : Text → Popen) :
    ∃ runs, (blockCreateSvc args capable nameSaved targetcli).exit =
        (blockCreateCommon args ⟨nameSaved, capable, runs⟩).2.1 ∧
      ∀ text, (blockCreateCommon args ⟨nameSaved, capable, runs⟩).2.2 = some text →
        (blockCreateSvc args capable nameSaved targetcli).out = text.toList := by
  unfold blockCreateSvc blockCreateCommon
  cases nameSaved with
  | true => exact ⟨true, rfl, fun text same => by cases same; rfl⟩
  | false =>
    have code := (@execReply_zero ((SrvRequest.create args capable).messages.map Prod.snd)
      ⟨[], -1⟩ (targetcli (createScript args capable)) rfl).2
    simp only [Bool.false_eq_true, if_false, replyFailed_exit]
    rcases code with zero | failed
    · exact ⟨true, zero, fun text same => by cases same⟩
    · refine ⟨false, failed, fun text same => ?_⟩
      cases same
      unfold replyFailed
      rw [if_pos (by rw [failed]; decide)]

end Services

section Sessions

/-- What `targetcli` prints of a line that it carried out. -/
def TcLine.told : TcLine → Option Text
  | .make (.createObject name) =>
    some ("Created user-backed storage object ".toList ++ name ++ " size ".toList)
  | .make (.createTarget iqn) => some ("Created target ".toList ++ iqn ++ ['.'])
  | .remove (.object name) => some ("Deleted storage object ".toList ++ name ++ ['.'])
  | .remove (.target iqn) => some ("Deleted Target ".toList ++ iqn ++ ['.'])
  | _ => none

variable {I : Type} {F : Family I} {i : I} {s s' : TcState} {c : OwnCall F}

/-- A line of the session that does this. -/
def OwnCall.Does (c : OwnCall F) (s : TcState) (line : TcLine) : Prop :=
  ∃ front l rest, c.steps = front ++ l :: rest ∧ l.refused = false ∧
    lineOf l.words = some line ∧ (F.cli.execLine (front.foldl F.cli.next s) line).isSome

/-- What the daemon gets of a session. An output says of the object and of the target that they
were made or deleted only when a line did so. -/
inductive OwnCall.Heard (c : OwnCall F) (s : TcState) : Popen → Prop
  | unstarted (errno : Text) (away : c.starts = false) : c.Heard s (.failed errno)
  | unreadable (errno : Text) : c.Heard s (.unreadable errno)
  | read (out : Text) (told : ∀ line text, F.Owns c.block line → line.told = some text →
      text <:+: out → c.Does s line) : c.Heard s (.output out)

/-- The objects and the targets are there later as well. -/
structure TcState.Stays (s s' : TcState) : Prop where
  objects : ∀ name ∈ s.objects, name ∈ s'.objects
  targets : ∀ iqn ∈ s.targets, iqn ∈ s'.targets

theorem TcState.Stays.refl (s : TcState) : s.Stays s := ⟨fun _ there => there, fun _ there => there⟩

theorem TcState.Stays.trans {s'' : TcState} (first : s.Stays s') (second : s'.Stays s'') :
    s.Stays s'' where
  objects name there := second.objects name (first.objects name there)
  targets iqn there := second.targets iqn (first.targets iqn there)

theorem exec_stays {c : TcCommand} (done : s.exec c = some s') : s.Stays s' := by
  rcases exec_cases done with rfl | ⟨object, groups, _, rfl⟩ | ⟨target, tpgs, _, rfl⟩
  · exact .refl _
  · exact ⟨fun _ there => (AList.mem_insert _).mpr (.inr there), fun _ there => there⟩
  · exact ⟨fun _ there => there, fun _ there => (AList.mem_insert _).mpr (.inr there)⟩

theorem remove_stays {T : Targetcli} {r : TcRemoval} (done : T.remove s r = some s') :
    s'.Stays s := by
  cases r with
  | object name =>
    constructor
    · intro n there
      rw [← AList.lookup_isSome, T.objectGone done] at there
      split at there
      · cases there
      · exact AList.lookup_isSome.mp there
    · intro iqn there
      rw [← AList.lookup_isSome, T.objectLuns done, Option.isSome_map] at there
      exact AList.lookup_isSome.mp there
  | target iqn =>
    obtain ⟨objects, targets⟩ := T.targetGone done
    constructor
    · intro n there
      exact objects ▸ there
    · intro q there
      rw [← AList.lookup_isSome, targets] at there
      split at there
      · cases there
      · exact AList.lookup_isSome.mp there

theorem does_run {line : TcLine} {R : TcState → TcState → Prop} (refl : ∀ s, R s s)
    (trans : ∀ {s t u}, R s t → R t u → R s u) (does : c.Does s line)
    (each : ∀ l ∈ c.steps, ∀ line, lineOf l.words = some line → ∀ s s',
      F.cli.execLine s line = some s' → R s s') :
    ∃ t t', F.cli.execLine t line = some t' ∧ R t' (c.run s) := by
  obtain ⟨front, l, rest, steps, tried, reads, works⟩ := does
  obtain ⟨t', exec⟩ := Option.isSome_iff_exists.mp works
  have next : F.cli.next (front.foldl F.cli.next s) l = t' := by
    unfold Targetcli.next
    rw [tried, if_neg Bool.false_ne_true, reads]
    exact congrArg (fun o => Option.getD o _) exec
  refine ⟨_, t', exec, ?_⟩
  unfold OwnCall.run
  rw [steps, List.foldl_append, List.foldl_cons, next]
  refine steps_along refl trans (fun m mem => each m ?_) t'
  exact steps ▸ List.mem_append_right front (List.mem_cons_of_mem l mem)

theorem create_made {args : CommonArgs} {capable : Bool} (call : c.call = .create args capable) :
    ∀ l ∈ c.steps, ∃ command, lineOf l.words = some (.make command) := by
  intro l mem
  have row := OwnCall.steps_words mem
  have texts : ScriptTexts args := c.texts.create args capable call
  obtain ⟨rows, lines, each⟩ := Option.bind_eq_some_iff.mp (createScript_commands capable texts)
  unfold NodeCall.rows at row
  rw [call, NodeCall.script, lines, Option.getD_some] at row
  obtain ⟨command, _, reads⟩ := mem_mapM each row
  exact ⟨command, lineOf_make reads⟩

/-- What a create did is there behind it. -/
theorem create_stays {args : CommonArgs} {capable : Bool} {line : TcLine}
    (call : c.call = .create args capable) (does : c.Does s line) :
    ∃ t t', F.cli.execLine t line = some t' ∧ t'.Stays (c.run s) := by
  refine does_run .refl .trans does (fun l mem line reads t t' exec => ?_)
  obtain ⟨command, made⟩ := create_made call l mem
  obtain rfl := Option.some.inj (made.symm.trans reads)
  exact exec_stays exec

theorem create_object {args : CommonArgs} {capable : Bool} {name : Text}
    (call : c.call = .create args capable) (does : c.Does s (.make (.createObject name))) :
    name ∈ (c.run s).objects := by
  obtain ⟨t, t', exec, stays⟩ := create_stays call does
  rw [Targetcli.execLine, TcState.exec, Option.ite_none_left_eq_some] at exec
  obtain rfl := Option.some.inj exec.2
  exact stays.objects name ((AList.mem_insert _).mpr (.inl rfl))

theorem create_target {args : CommonArgs} {capable : Bool} {iqn : Text}
    (call : c.call = .create args capable) (does : c.Does s (.make (.createTarget iqn))) :
    iqn ∈ (c.run s).targets := by
  obtain ⟨t, t', exec, stays⟩ := create_stays call does
  rw [Targetcli.execLine, TcState.exec, Option.ite_none_left_eq_some] at exec
  obtain rfl := Option.some.inj exec.2
  exact stays.targets iqn ((AList.mem_insert _).mpr (.inl rfl))

theorem delete_removes {blk : BlockDelete} (call : c.call = .delete blk) {l : TcStep}
    (mem : l ∈ c.steps) {line : TcLine} (reads : lineOf l.words = some line) :
    ∃ r, line = .remove r := by
  have row := OwnCall.steps_words mem
  have texts : (NodeCall.delete blk).Texts := call ▸ c.texts
  have name : Plain blk.blockName.toList := texts.name
  have gbid : Plain blk.gbid.toList := texts.gbid
  unfold NodeCall.rows at row
  rw [call, NodeCall.script, deleteScript_rows name gbid, Option.getD_some] at row
  have listed : some line ∈ (deleteRows blk).map lineOf := reads ▸ List.mem_map_of_mem row
  rw [deleteRows_lines] at listed
  rcases List.mem_cons.mp listed with object | listed
  · exact ⟨_, Option.some.inj object⟩
  · exact ⟨_, Option.some.inj (List.mem_singleton.mp listed)⟩

/-- What a delete took away is gone behind it. -/
theorem delete_stays {blk : BlockDelete} {line : TcLine} (call : c.call = .delete blk)
    (does : c.Does s line) : ∃ t t', F.cli.execLine t line = some t' ∧ (c.run s).Stays t' := by
  refine does_run (R := fun t t' => t'.Stays t) .refl (fun first second => second.trans first)
    does (fun l mem line reads t t' exec => ?_)
  obtain ⟨r, rfl⟩ := delete_removes call mem reads
  exact remove_stays exec

/-- A delete that did both leaves nothing of the block. -/
theorem delete_view {blk : BlockDelete} (call : c.call = .delete blk)
    (object : c.Does s (.remove (.object (F.name c.block))))
    (target : c.Does s (.remove (.target (F.iqn c.block)))) :
    F.view c.block (c.run s) = (none, none) := by
  obtain ⟨t, t', first, objects⟩ := delete_stays call object
  obtain ⟨u, u', second, targets⟩ := delete_stays call target
  have noObject : F.name c.block ∉ (c.run s).objects := by
    intro there
    have back := objects.objects _ there
    rw [← AList.lookup_isSome, F.cli.objectGone first, if_pos rfl] at back
    cases back
  have noTarget : F.iqn c.block ∉ (c.run s).targets := by
    intro there
    have back := targets.targets _ there
    rw [← AList.lookup_isSome, (F.cli.targetGone second).2, if_pos rfl] at back
    cases back
  exact Prod.ext (AList.lookup_eq_none.mpr noObject) (AList.lookup_eq_none.mpr noTarget)

end Sessions

section Serves

variable {I : Type} (F : Family I)

/-- A search that ends with 1 has missed what is not there. -/
structure Family.Finds (i : I) (s : TcState) (loaded : LoadedRuns) : Prop where
  object : loaded.glfs = 1 → F.name i ∉ s.objects
  target : loaded.iscsi = 1 → F.iqn i ∉ s.targets

/-- The node has the block: its object and its target. -/
def Family.Has (i : I) (s : TcState) : Prop := F.name i ∈ s.objects ∧ F.iqn i ∈ s.targets

instance (i : I) (s : TcState) : Decidable (F.Has i s) :=
  inferInstanceAs (Decidable (F.name i ∈ s.objects ∧ F.iqn i ∈ s.targets))

variable {F} {i : I} {s s' : TcState} {c : OwnCall F} {exit : Int}

/-- The exit that the coordinator gets of a call. The checks of a service turn a call away or
start its script. A reply may be lost, and so may the call. -/
inductive OwnCall.Serves (c : OwnCall F) (s : TcState) : Int → Prop
  | create {args : CommonArgs} {capable : Bool} (call : c.call = .create args capable)
      (nameSaved : Bool) (targetcli : Text → Popen)
      (heard : if nameSaved then c.starts = false
        else c.Heard s (targetcli (createScript args capable))) :
    c.Serves s (blockCreateSvc args capable nameSaved targetcli).exit
  | delete {blk : BlockDelete} (call : c.call = .delete blk) (loaded : LoadedRuns)
      (finds : F.Finds c.block s loaded) (targetcli : Text → Popen)
      (heard : if (blockCheckBlockLoadedStatus blk.blockName loaded (-1)).1 ≠ 0
        then c.starts = false else c.Heard s (targetcli (deleteScript blk))) :
    c.Serves s (blockDeleteSvc blk loaded targetcli).exit
  | settle (call : c.call.settles) (exit : Int) : c.Serves s exit
  | lost {exit : Int} (served : c.Serves s exit) : c.Serves s (-1)
  | unserved (away : c.starts = false) : c.Serves s (-1)

theorem run_away (away : c.starts = false) : c.run s = s := by
  unfold OwnCall.run OwnCall.steps
  rw [away]
  rfl

theorem iqn_message (word gbid : String) : word.toList ++ iqnText gbid ++ ['.'] =
    (word ++ gbTgcliIqnPrefix ++ gbid ++ ".").toList := by
  unfold iqnText
  simp only [String.toList_append, List.append_assoc]
  rfl

theorem create_leaves {args : CommonArgs} {capable nameSaved : Bool} {targetcli : Text → Popen}
    (call : c.call = .create args capable)
    (heard : if nameSaved then c.starts = false
      else c.Heard s (targetcli (createScript args capable)))
    (zero : (blockCreateSvc args capable nameSaved targetcli).exit = 0) :
    F.Has c.block (c.run s) := by
  unfold blockCreateSvc at zero
  cases nameSaved with
  | true => cases zero
  | false =>
    rw [if_neg Bool.false_ne_true] at zero heard
    rw [replyFailed_exit] at zero
    obtain ⟨out, printed, all⟩ := (execReply_zero rfl).1 zero
    rw [printed] at heard
    have name : F.name c.block = args.blk.blockName.toList := by rw [c.name, call]; rfl
    have iqn : F.iqn c.block = iqnText args.blk.gbid := by rw [c.iqn, call]; rfl
    have object : "Created user-backed storage object ".toList ++ F.name c.block ++
        " size ".toList <:+: out := by
      let tail : Text := (toString args.blk.size ++ ".").toList
      have text : ("Created user-backed storage object ".toList ++ F.name c.block ++
          " size ".toList) ++ tail = ("Created user-backed storage object " ++
            args.blk.blockName ++ " size " ++ toString args.blk.size ++ ".").toList := by
        rw [name]
        simp only [tail, String.toList_append, List.append_assoc]
      have whole := all _ (show ("Created user-backed storage object " ++ args.blk.blockName ++
        " size " ++ toString args.blk.size ++ ".").toList ∈ _ by
          simp [SrvRequest.messages, SrvRequest.createMessages])
      exact (text ▸ List.prefix_append _ tail).isInfix.trans whole
    have target : "Created target ".toList ++ F.iqn c.block ++ ['.'] <:+: out := by
      rw [iqn, iqn_message]
      exact all _ (by simp [SrvRequest.messages, SrvRequest.createMessages])
    cases heard with
    | read out told =>
      have made := told (.make (.createObject (F.name c.block))) _ (owns_of (.inr rfl) (.inl rfl))
        rfl object
      have aimed := told (.make (.createTarget (F.iqn c.block))) _ (owns_of (.inl rfl) (.inr rfl))
        rfl target
      exact ⟨create_object call made, create_target call aimed⟩

/-- What the search for a block leaves as the exit, which was -1 before. -/
structure LoadedCode (runs : LoadedRuns) (checked : Int × SrvReply) : Prop where
  present : checked.1 = 0 → checked.2.exit = -1
  missing : checked.2.exit = gbBlockNotFound → runs.Missing
  nonzero : checked.2.exit ≠ 0

theorem loaded_code (blockName : String) (runs : LoadedRuns) :
    LoadedCode runs (blockCheckBlockLoadedStatus blockName runs (-1)) := by
  by_cases missing : runs.Missing
  · by_cases failed : runs.savecfg = -1
    · obtain ⟨ret, kept⟩ := aborted_status blockName (-1) missing failed
      exact ⟨fun _ => kept, fun _ => missing, by rw [kept]; decide⟩
    · rcases missing_status blockName (-1) missing failed with
        ⟨gone, ret, code⟩ | ⟨left, ret, code⟩
      · exact ⟨by rw [ret]; omega, fun _ => missing, code ▸ by decide⟩
      · exact ⟨by rw [ret]; omega, fun _ => missing, code ▸ by decide⟩
  · have kept := (present_status blockName (-1) missing).1
    refine ⟨fun _ => kept, fun gone => ?_, by rw [kept]; decide⟩
    exact absurd (kept.symm.trans gone) (by decide)

/-- A delete that replies 0 has left nothing of the block, and one that does not find the block
has done nothing. -/
theorem delete_told {blk : BlockDelete} {loaded : LoadedRuns} {targetcli : Text → Popen}
    (call : c.call = .delete blk) (finds : F.Finds c.block s loaded)
    (heard : if (blockCheckBlockLoadedStatus blk.blockName loaded (-1)).1 ≠ 0
      then c.starts = false else c.Heard s (targetcli (deleteScript blk))) :
    ((blockDeleteSvc blk loaded targetcli).exit = 0 → F.view c.block (c.run s) = (none, none)) ∧
      ((blockDeleteSvc blk loaded targetcli).exit = gbBlockNotFound →
        ¬ F.Has c.block s ∧ c.run s = s) := by
  have code := loaded_code blk.blockName loaded
  unfold blockDeleteSvc
  generalize status : blockCheckBlockLoadedStatus blk.blockName loaded (-1) = checked at heard code
  obtain ⟨ret, reply⟩ := checked
  dsimp only at heard code ⊢
  by_cases failed : ret ≠ 0
  · rw [if_pos failed] at heard ⊢
    refine ⟨fun zero => absurd zero code.nonzero, fun gone => ⟨?_, run_away heard⟩⟩
    rintro ⟨object, target⟩
    rcases code.missing gone with glfs | ⟨_, iscsi⟩
    · exact finds.object glfs object
    · exact finds.target iscsi target
  · rw [if_neg failed] at heard ⊢
    rw [replyFailed_exit]
    have run := @execReply_zero (deleteMessages blk) ⟨[], reply.exit⟩ (targetcli (deleteScript blk))
      (code.present (not_not.mp failed))
    have found : (execReply (deleteMessages blk) ⟨[], reply.exit⟩
        (targetcli (deleteScript blk))).exit ≠ gbBlockNotFound := by
      rcases run.2 with zero | failed
      · rw [zero]
        decide
      · rw [failed]
        decide
    refine ⟨fun zero => ?_, fun gone => absurd gone found⟩
    obtain ⟨out, printed, all⟩ := run.1 zero
    rw [printed] at heard
    have name : F.name c.block = blk.blockName.toList := by rw [c.name, call]; rfl
    have iqn : F.iqn c.block = iqnText blk.gbid := by rw [c.iqn, call]; rfl
    have object : "Deleted storage object ".toList ++ F.name c.block ++ ['.'] <:+: out := by
      have text : "Deleted storage object ".toList ++ F.name c.block ++ ['.'] =
          ("Deleted storage object " ++ blk.blockName ++ ".").toList := by
        rw [name]
        simp only [String.toList_append]
        rfl
      exact text ▸ all _ (by simp [deleteMessages])
    have target : "Deleted Target ".toList ++ F.iqn c.block ++ ['.'] <:+: out := by
      rw [iqn, iqn_message]
      exact all _ (by simp [deleteMessages])
    cases heard with
    | read out told =>
      exact delete_view call
        (told (.remove (.object (F.name c.block))) _ (owns_of (.inr rfl) (.inl rfl)) rfl object)
        (told (.remove (.target (F.iqn c.block))) _ (owns_of (.inl rfl) (.inr rfl)) rfl target)

/-- A delete that is tried whole on a node that has the block does both. -/
theorem delete_does {blk : BlockDelete} (call : c.call = .delete blk) (whole : c.Whole)
    (has : F.Has c.block s) : c.Does s (.remove (.object (F.name c.block))) ∧
      c.Does s (.remove (.target (F.iqn c.block))) := by
  have texts : (NodeCall.delete blk).Texts := call ▸ c.texts
  have name : F.name c.block = blk.blockName.toList := by rw [c.name, call]; rfl
  have iqn : F.iqn c.block = iqnText blk.gbid := by rw [c.iqn, call]; rfl
  obtain ⟨object, target, rows⟩ : ∃ a b, deleteRows blk = [a, b] := ⟨_, _, rfl⟩
  have lines := deleteRows_lines blk
  rw [rows, List.map_cons, List.map_singleton, ← name, ← iqn] at lines
  obtain ⟨first, tail⟩ := List.cons.inj lines
  have second := (List.cons.inj tail).1
  have steps : c.steps = [⟨object, false⟩, ⟨target, false⟩] := by
    unfold OwnCall.steps
    rw [whole.starts, if_pos rfl, call]
    exact (sessionSteps_tried whole.tried (deleteScript_rows texts.name texts.gbid)).trans
      (congrArg (List.map (fun row => TcStep.mk row false)) rows)
  refine ⟨⟨[], _, [_], steps, rfl, first, (F.cli.objectThere s _).mpr has.1⟩,
    ⟨[_], _, [], steps, rfl, second, (F.cli.targetThere _ _).mpr ?_⟩⟩
  rcases next_cases (T := F.cli) s ⟨object, false⟩ with same | ⟨line, reads, exec⟩
  · rw [List.foldl_cons, List.foldl_nil, same]
    exact has.2
  · obtain rfl := Option.some.inj (first.symm.trans reads)
    rw [List.foldl_cons, List.foldl_nil, ← AList.lookup_isSome, F.cli.objectLuns exec,
      Option.isSome_map, AList.lookup_isSome]
    exact has.2

/-- Of a delete only its own service gives 0. -/
theorem delete_done {blk : BlockDelete} (call : c.call = .delete blk) (serves : c.Serves s 0) :
    F.view c.block (c.run s) = (none, none) := by
  generalize zero : (0 : Int) = exit at serves
  cases serves with
  | create other nameSaved targetcli heard => cases call.symm.trans other
  | delete same loaded finds targetcli heard => exact (delete_told same finds heard).1 zero.symm
  | settle settles exit =>
    rw [call] at settles
    exact settles.elim
  | lost served => cases zero
  | unserved => cases zero

variable [DecidableEq I]

/-- Behind a delete that replies 0 the node is as though no call for the block had ever come. -/
theorem delete_forgets (calls : List (OwnCall F)) {blk : BlockDelete}
    (delete : c.call = .delete blk) (serves : c.Serves (TcState.serve ⟨∅, ∅⟩ calls) 0) (i : I) :
    F.view i (TcState.serve ⟨∅, ∅⟩ (calls ++ [c])) =
      F.view i (TcState.serve ⟨∅, ∅⟩ (calls.filter (fun d => d.block ≠ c.block))) := by
  by_cases own : i = c.block
  · subst own
    have unseen : F.view c.block
          (TcState.serve ⟨∅, ∅⟩ (calls.filter (fun d => d.block ≠ c.block))) =
        F.view c.block (TcState.serve ⟨∅, ∅⟩ ([] : List (OwnCall F))) := by
      apply serve_same
      rw [List.filter_filter]
      simp
    have last : TcState.serve ⟨∅, ∅⟩ (calls ++ [c]) = c.run (TcState.serve ⟨∅, ∅⟩ calls) := by
      unfold TcState.serve
      rw [List.foldl_append]
      rfl
    rw [unseen, last]
    exact delete_done delete serves
  · apply serve_same
    have away : ¬ c.block = i := fun same => own same.symm
    rw [List.filter_append, List.filter_filter]
    refine (congrArg (_ ++ ·) (List.filter_cons_of_neg (by simpa using away))).trans ?_
    rw [List.filter_nil, List.append_nil]
    refine List.filter_congr (fun d _ => ?_)
    by_cases here : d.block = i
    · simp [here, own]
    · simp [here]

theorem sample_has : samplePair.Has true (TcState.serve ⟨∅, ∅⟩ [sampleMade, sampleMadeOther]) := by
  have own : [sampleMade, sampleMadeOther].filter (fun d => d.block = sampleMade.block) =
      [sampleMade] := rfl
  obtain ⟨object, tpgs, target, _⟩ := paths_served own rfl ⟨rfl, fun _ => rfl⟩
    (List.forall_mem_nil _) (by decide +kernel)
  exact ⟨AList.lookup_isSome.mp (object ▸ rfl), AList.lookup_isSome.mp (target ▸ rfl)⟩

def sampleDeletedText : Text :=
  ("Deleted storage object blk.\n" ++ "Deleted Target " ++ gbTgcliIqnPrefix ++ "0a.\n").toList

theorem sample_heard : sampleDeleted.Heard (TcState.serve ⟨∅, ∅⟩ [sampleMade, sampleMadeOther])
    (.output sampleDeletedText) := by
  obtain ⟨object, target⟩ := delete_does (c := sampleDeleted) rfl ⟨rfl, fun _ => rfl⟩ sample_has
  refine .read _ (fun line text owns told printed => ?_)
  cases line with
  | make command =>
    -- the text of a line that makes something begins with another letter
    have letter : 'C' ∈ text := by
      cases command with
      | createObject name => cases told; simp
      | createTarget iqn => cases told; simp
      | _ => cases told
    exact absurd printed (Search.not_infix_of_notMem letter (by decide +kernel))
  | remove removal =>
    cases removal with
    | object name =>
      obtain rfl := owns.object name rfl
      exact object
    | target iqn =>
      obtain rfl := owns.target iqn rfl
      exact target

theorem sample_replies : sampleDeleted.Serves
    (TcState.serve ⟨∅, ∅⟩ [sampleMade, sampleMadeOther]) 0 := by
  have finds : samplePair.Finds true (TcState.serve ⟨∅, ∅⟩ [sampleMade, sampleMadeOther])
      ⟨0, 0, 0⟩ := ⟨fun zero => absurd zero (by decide), fun zero => absurd zero (by decide)⟩
  have zero : (blockDeleteSvc ⟨"blk", "0a"⟩ ⟨0, 0, 0⟩ (fun _ => .output sampleDeletedText)).exit =
      0 := by decide
  exact zero ▸ .delete rfl ⟨0, 0, 0⟩ finds (fun _ => .output sampleDeletedText) sample_heard

theorem delete_forgets_sample :
    samplePair.view true (TcState.serve ⟨∅, ∅⟩ ([sampleMade, sampleMadeOther] ++ [sampleDeleted])) =
      samplePair.view true (TcState.serve ⟨∅, ∅⟩ ([sampleMade, sampleMadeOther].filter
        (fun d => d.block ≠ sampleDeleted.block))) :=
  delete_forgets [sampleMade, sampleMadeOther] (c := sampleDeleted) rfl sample_replies true

end Serves

section Nodes

inductive NodeCall.Of : NodeCall → Msg → Prop
  | create (cobj : BlockCreate2) (behind : List UInt8) (capable : Bool) :
    NodeCall.Of (.create (glusterBlockCallCreate cobj.ipaddr cobj behind) capable) (.create cobj)
  | delete (blk : BlockDelete) : NodeCall.Of (.delete blk) (.delete blk)
  | modify (blk : BlockModify) (tpgs : Nat) : NodeCall.Of (.modify blk tpgs) (.modify blk)
  | modifySize (blk : BlockModifySize) : NodeCall.Of (.modifySize blk) (.modifySize blk)
  | replace (blk : BlockReplace) (tpg : Text) : NodeCall.Of (.replace blk tpg) (.replace blk)

variable {I : Type} (F : Family I) (i : I)

/-- A node that serves a message, and other blocks before and behind it. -/
structure Family.Answers (msg : Msg) (exit : Int) (s s' : TcState) (c : OwnCall F)
    (before behind : List (OwnCall F)) : Prop where
  own : c.block = i
  message : c.call.Of msg
  others : ∀ d ∈ before ++ behind, d.block ≠ i
  serves : c.Serves (s.serve before) exit
  left : s' = (c.run (s.serve before)).serve behind

/-- Nodes that run the scripts of the block `i` and of others. The target of a new block has a
name of its own. -/
def nodeModel : NodeModel TcState where
  fresh s := F.OwnLuns s ∧ F.iqn i ∉ s.targets
  serve msg exit s s' := ∃ c before behind, F.Answers i msg exit s s' c before behind

def Family.has (s : TcState) : Bool := decide (F.Has i s)

variable {F i} {s s' : TcState}

theorem Family.view_has {t : TcState} (same : F.view i s = F.view i t) : F.has i s = F.has i t := by
  obtain ⟨objects, targets⟩ := Prod.mk.inj same
  apply decide_eq_decide.mpr
  unfold Family.Has
  rw [← AList.lookup_isSome, ← AList.lookup_isSome, ← AList.lookup_isSome, ← AList.lookup_isSome,
    objects, targets]

theorem serve_luns (luns : F.OwnLuns s) (calls : List (OwnCall F)) : F.OwnLuns (s.serve calls) := by
  induction calls generalizing s with
  | nil => exact luns
  | cons c calls ih => exact ih ((node_unwinds F).steps_keep c.owned luns)

theorem serve_apart (luns : F.OwnLuns s) {calls : List (OwnCall F)}
    (away : ∀ c ∈ calls, c.block ≠ i) : F.has i (s.serve calls) = F.has i s := by
  induction calls generalizing s with
  | nil => rfl
  | cons c calls ih =>
    have rest := ih (serve_luns luns [c]) (fun d mem => away d (List.mem_cons_of_mem c mem))
    have first : F.view i (c.run s) = F.view i s :=
      (node_unwinds F).steps_others c.owned (Ne.symm (away c List.mem_cons_self)) luns
    exact rest.trans (Family.view_has first)

theorem serves_truly {msg : Msg} {exit : Int} {c : OwnCall F} (message : c.call.Of msg)
    (serves : c.Serves s exit) :
    targetModel.serve msg exit (F.has c.block s) (F.has c.block (c.run s)) := by
  have lost : ∀ n n', targetModel.serve msg (-1) n n' := by
    intro n n'
    cases msg with
    | create cobj => exact fun zero => absurd zero (by decide)
    | delete blk => exact ⟨fun zero => absurd zero (by decide), fun gone => absurd gone (by decide)⟩
    | _ => trivial
  cases serves with
  | create call nameSaved targetcli heard =>
    rw [call] at message
    cases message
    exact fun zero => decide_eq_true (create_leaves call heard zero)
  | delete call loaded finds targetcli heard =>
    rw [call] at message
    cases message
    obtain ⟨done, gone⟩ := delete_told call finds heard
    refine ⟨fun zero => decide_eq_false ?_, fun unknown => ?_⟩
    · rintro ⟨object, _⟩
      have away : F.name c.block ∉ (c.run s).objects :=
        AList.lookup_eq_none.mp (congrArg Prod.fst (done zero))
      exact away object
    · obtain ⟨away, same⟩ := gone unknown
      exact ⟨decide_eq_false away, same.symm ▸ decide_eq_false away⟩
  | settle settles exit =>
    cases msg with
    | create cobj =>
      generalize c.call = call at message settles
      cases message
      exact settles.elim
    | delete blk =>
      generalize c.call = call at message settles
      cases message
      exact settles.elim
    | _ => trivial
  | lost served => exact lost _ _
  | unserved => exact lost _ _

/-- What a node replies about the block is what it has of it. -/
theorem node_serves {msg : Msg} {exit : Int} (luns : F.OwnLuns s)
    (serve : (nodeModel F i).serve msg exit s s') :
    F.OwnLuns s' ∧ targetModel.serve msg exit (F.has i s) (F.has i s') := by
  obtain ⟨c, before, behind, answers⟩ := serve
  obtain ⟨rfl, message, others, serves, rfl⟩ := answers
  have first : F.OwnLuns (s.serve before) := serve_luns luns before
  have mid : F.OwnLuns (c.run (s.serve before)) := serve_luns first [c]
  refine ⟨serve_luns mid behind, ?_⟩
  rw [serve_apart mid (fun d mem => others d (List.mem_append_right _ mem)),
    ← serve_apart luns (fun d mem => others d (List.mem_append_left _ mem))]
  exact serves_truly message serves

end Nodes

section Worlds

variable {N N' : Type} {M : NodeModel N} {M' : NodeModel N'} {inv : N → Prop} {f : N → N'}

/-- What a node of the one model does, seen through `f`, a node of the other one may do. -/
structure NodeModel.Simulates (M : NodeModel N) (M' : NodeModel N') (inv : N → Prop)
    (f : N → N') : Prop where
  fresh : ∀ n, M.fresh n → inv n ∧ M'.fresh (f n)
  serve : ∀ msg exit n n', inv n → M.serve msg exit n n' → inv n' ∧ M'.serve msg exit (f n) (f n')

def World.map (f : N → N') (w : World N) : World N' := ⟨w.file, fun addr => f (w.nodes addr)⟩

theorem simulates_effect (sim : M.Simulates M' inv f) {addr : Addr} (e : Ev) (n n' : N)
    (start : inv n) (step : M.step addr e n n') : inv n' ∧ M'.step addr e (f n) (f n') := by
  unfold NodeModel.step at step ⊢
  cases e with
  | call a msg exit =>
    dsimp only at step ⊢
    by_cases here : a = addr
    · rw [if_pos here] at step ⊢
      exact sim.serve msg exit n n' start step
    · rw [if_neg here] at step ⊢
      subst step
      exact ⟨start, rfl⟩
  | _ =>
    subst step
    exact ⟨start, rfl⟩

theorem simulates_step (sim : M.Simulates M' inv f) {req : Request} {evs : List Ev}
    {w w' : World N} (start : w.file ≠ none → ∀ addr, inv (w.nodes addr))
    (step : Step M req evs w w') :
    (∀ addr, inv (w'.nodes addr)) ∧ Step M' req evs (w.map f) (w'.map f) := by
  have each : ∀ addr, inv (w'.nodes addr) ∧ ∃ n, M'.starts (w.map f) addr n ∧
      Along (M'.step addr) n evs (f (w'.nodes addr)) := by
    intro addr
    obtain ⟨n, starts, along⟩ := step.nodes addr
    have begun : inv n ∧ M'.starts (w.map f) addr (f n) := by
      unfold NodeModel.starts World.map at *
      cases file : w.file with
      | none =>
        rw [file] at starts
        exact sim.fresh n starts
      | some js =>
        rw [file] at starts start
        exact ⟨starts ▸ start (Option.some_ne_none js) addr, congrArg f starts⟩
    obtain ⟨kept, along⟩ := along_simulates (simulates_effect sim) begun.1 along
    exact ⟨kept, f n, begun.2, along⟩
  exact ⟨fun addr => (each addr).1, step.takes, step.file, fun addr => (each addr).2⟩

theorem simulates_run (sim : M.Simulates M' inv f)
    {cond : Request → List Ev → World N → World N → Prop}
    {cond' : Request → List Ev → World N' → World N' → Prop}
    (met : ∀ req evs w w', cond req evs w w' → cond' req evs (w.map f) (w'.map f))
    {w w' : World N} (start : w.file ≠ none → ∀ addr, inv (w.nodes addr)) (run : Run M cond w w') :
    (w'.file ≠ none → ∀ addr, inv (w'.nodes addr)) ∧ Run M' cond' (w.map f) (w'.map f) := by
  induction run with
  | refl => exact ⟨start, .refl⟩
  | tail _ last ih =>
    obtain ⟨req, evs, step, cond⟩ := last
    obtain ⟨held, before⟩ := ih
    obtain ⟨kept, step'⟩ := simulates_step sim held step
    exact ⟨fun _ => kept, before.tail ⟨req, evs, step', met _ _ _ _ cond⟩⟩

variable {I : Type} {F : Family I} {i : I}

theorem fresh_away {s : TcState} (fresh : (nodeModel F i).fresh s) :
    F.OwnLuns s ∧ F.has i s = false :=
  ⟨fresh.1, decide_eq_false (fun has => fresh.2 has.2)⟩

/-- The nodes that run the scripts keep to what the records of a block go by. -/
theorem nodes_simulate : (nodeModel F i).Simulates targetModel F.OwnLuns (F.has i) :=
  ⟨fun _ fresh => fresh_away fresh, fun _ _ _ _ luns serve => node_serves luns serve⟩

def unforcedServed (req : Request) (_ : List Ev) (_ _ : World TcState) : Prop := req.unforced

/-- An info names every node that has the block, but one whose create has not got to the line
for its result. -/
theorem configured_shown {nodes : Addr → TcState} {w : World TcState}
    (run : Run (nodeModel F i) unforcedServed (World.none nodes) w) {js : Journal}
    (there : w.file = some js) {addr : Addr} (node : addr ≠ "ENTRYDELETE")
    (has : F.Has i (w.nodes addr)) :
    addr ∈ infoHosts (replay js) ↔ latest js addr ≠ some .configInprogress := by
  have begun : (World.none nodes).file ≠ none → ∀ addr, F.OwnLuns ((World.none nodes).nodes addr) :=
    fun there => absurd rfl there
  have seen : Run targetModel unforcedRuns (World.map (F.has i) (World.none nodes))
      (w.map (F.has i)) := (simulates_run nodes_simulate (fun _ _ _ _ met => met) begun run).2
  have fresh : Books (World.map (F.has i) (World.none nodes)) := fun js hjs => nomatch hjs
  have seen_there : F.has i (w.nodes addr) = true := decide_eq_true has
  exact booked_shown (seen_there ▸ run_books fresh seen js there addr node)

end Worlds

section Sample

def onlyBlock : Family Unit where
  cli := plainCli
  name _ := "block".toList
  iqn _ := iqnText "6b60c53c-8ce0-4d8d-a42c-5b546bca3d09"
  names := Function.injective_of_subsingleton _
  iqns := Function.injective_of_subsingleton _

/-- The only host runs the script, and its daemon cannot read what `targetcli` printed. -/
def unreadEnv : CreateEnv :=
  { createSampleEnv [] with jobs := fun _ => { JobOutcome.good with call := .sent (-1) } }

def unreadLines : Journal :=
  configuredLines 1 [] ++
    [.host "10.0.0.1" .configInprogress none, .host "10.0.0.1" .configFail none]

def unreadObj : BlockCreate2 :=
  { createObj oneHost unreadEnv (fun _ => false) with ipaddr := "10.0.0.1" }

def unreadEvs : List Ev :=
  [.write ((configuredLines 1 []).take 4), .write ((configuredLines 1 []).drop 4),
    .write [.host "10.0.0.1" .configInprogress none],
    .call "10.0.0.1" (.create unreadObj) (-1), .write [.host "10.0.0.1" .configFail none]]

def unreadArgs : CommonArgs := glusterBlockCallCreate unreadObj.ipaddr unreadObj []

theorem unread_texts : ScriptTexts unreadArgs :=
  ⟨by decide +kernel, by decide +kernel, fun _ => by decide +kernel, by decide +kernel,
    by decide +kernel, by decide +kernel, by decide +kernel⟩

theorem unread_name : onlyBlock.name () = unreadArgs.blk.blockName.toList := by decide +kernel

theorem unread_iqn : onlyBlock.iqn () = iqnText unreadArgs.blk.gbid := by decide +kernel

def unreadCall : OwnCall onlyBlock where
  block := ()
  call := .create unreadArgs true
  starts := true
  refused := fun _ => false
  texts := sample_texts unread_texts
  name := unread_name
  iqn := unread_iqn

theorem unread_create : unreadCall.call = .create unreadArgs true := rfl

theorem unread_heard : unreadCall.Heard ⟨∅, ∅⟩ (.unreadable []) := .unreadable []

theorem unread_serves : unreadCall.Serves ⟨∅, ∅⟩ (-1) :=
  .lost (.create unread_create false (fun _ => .unreadable []) unread_heard)

theorem unread_answers : onlyBlock.Answers () (.create unreadObj) (-1) ⟨∅, ∅⟩
    (unreadCall.run ⟨∅, ∅⟩) unreadCall [] [] where
  own := rfl
  message := .create unreadObj [] true
  others := by simp
  serves := unread_serves
  left := by
    unfold TcState.serve
    rw [List.foldl_nil, List.foldl_nil]

def unreadWorld : World TcState where
  file := some unreadLines
  nodes := fun a => if a = "10.0.0.1" then unreadCall.run ⟨∅, ∅⟩ else ⟨∅, ∅⟩

theorem unread_prefix : unreadEvs <+: (blockCreateCli oneHost unreadEnv none).evs := by
  decide +kernel

theorem unread_run :
    Run (nodeModel onlyBlock ()) unforcedServed (World.none fun _ => ⟨∅, ∅⟩) unreadWorld := by
  refine .single ⟨.create oneHost unreadEnv, unreadEvs, ⟨⟨Nat.one_pos, fun h => absurd rfl h,
    unread_prefix⟩, ?_, fun addr => ⟨⟨∅, ∅⟩, ⟨empty_luns, AList.notMem_empty _⟩, ?_⟩⟩, trivial⟩
  · change some unreadLines = metaAfter none unreadEvs
    decide +kernel
  · refine .cons rfl (.cons rfl (.cons rfl (.cons ?_ (.cons rfl (.nil _)))))
    unfold NodeModel.step
    dsimp only
    unfold unreadWorld
    by_cases here : "10.0.0.1" = addr
    · rw [if_pos here]
      dsimp only
      rw [if_pos here.symm]
      exact ⟨unreadCall, [], [], unread_answers⟩
    · rw [if_neg here]
      exact if_neg (fun same => here same.symm)

theorem unread_has : onlyBlock.Has () (unreadCall.run ⟨∅, ∅⟩) := by
  obtain ⟨tpgs, run, _⟩ := run_createScript (s := ⟨∅, ∅⟩) true unread_texts (by decide +kernel)
    (AList.notMem_empty _) (AList.notMem_empty _)
  have tried : ∀ k, unreadCall.refused k = false := fun _ => rfl
  have made := session_of_run (T := plainCli) tried run
  have whole : unreadCall.run ⟨∅, ∅⟩ = plainCli.session ⟨∅, ∅⟩ (createScript unreadArgs true)
      unreadCall.refused := rfl
  unfold Family.Has
  rw [whole, made, unread_name, unread_iqn]
  exact ⟨(AList.mem_insert _).mpr (.inl rfl), (AList.mem_insert _).mpr (.inl rfl)⟩

theorem configured_shown_sample : "10.0.0.1" ∈ infoHosts (replay unreadLines) ↔
    latest unreadLines "10.0.0.1" ≠ some .configInprogress := by
  refine configured_shown unread_run rfl (by decide) ?_
  have node : unreadWorld.nodes "10.0.0.1" = unreadCall.run ⟨∅, ∅⟩ := by
    unfold unreadWorld
    dsimp only
    rw [if_pos rfl]
  rw [node]
  exact unread_has

end Sample

end GlusterBlock
