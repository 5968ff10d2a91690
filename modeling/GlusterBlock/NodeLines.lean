import GlusterBlock.ScriptTarget
import GlusterBlock.Lib.Tables
import GlusterBlock.Lib.Unwinding

/-! The blocks of one node side by side. A line that `targetcli` is given is about the storage
object and the target of one block; what it takes away of an object it takes away of the LUNs
that are on it as well. Any line may fail beside those that the configuration makes fail. -/
namespace GlusterBlock

open Tally (Table)

section Lines

/-- The lines that take something away. -/
inductive TcRemoval where
  | object (name : Text)
  | target (iqn : Text)
  deriving DecidableEq, Repr

def TcPlace.removal (verb : Text) (args : List Text) : TcPlace → Option TcRemoval
  | .glfs =>
    if verb = "delete".toList then (args.head?.bind (paramOf "name")).map .object else none
  | .iscsi =>
    match args with
    | [iqn] => if verb = "delete".toList then some (.target iqn) else none
    | _ => none
  | _ => none

inductive TcLine where
  | make (c : TcCommand)
  | remove (r : TcRemoval)
  deriving DecidableEq, Repr

def lineOf : List Text → Option TcLine
  | path :: verb :: args =>
    (placeOf path).bind (fun p =>
      ((p.command verb args).map .make).or ((p.removal verb args).map .remove))
  | _ => none

def TcTpg.without (name : Text) (t : TcTpg) : TcTpg :=
  { t with luns := t.luns.filter (fun lun => lun.object ≠ name) }

/-- The removals of `targetcli`, with what is documented of them: an object goes with the LUNs
that are on it, a target with all its groups, and only what is there can be removed. -/
structure Targetcli where
  remove : TcState → TcRemoval → Option TcState
  objectThere : ∀ s name, (remove s (.object name)).isSome ↔ name ∈ s.objects
  objectGone : ∀ {s s' name}, remove s (.object name) = some s' →
    ∀ n, s'.objects.lookup n = if n = name then none else s.objects.lookup n
  objectLuns : ∀ {s s' name}, remove s (.object name) = some s' → ∀ iqn,
    s'.targets.lookup iqn = (s.targets.lookup iqn).map (Tables.mapVals (TcTpg.without name))
  targetThere : ∀ s iqn, (remove s (.target iqn)).isSome ↔ iqn ∈ s.targets
  targetGone : ∀ {s s' iqn}, remove s (.target iqn) = some s' →
    s'.objects = s.objects ∧
      ∀ q, s'.targets.lookup q = if q = iqn then none else s.targets.lookup q

def plainRemove (s : TcState) : TcRemoval → Option TcState
  | .object name =>
    if name ∈ s.objects then
      some {
        objects := s.objects.erase name
        targets := Tables.mapVals (Tables.mapVals (TcTpg.without name)) s.targets }
    else none
  | .target iqn => if iqn ∈ s.targets then some { s with targets := s.targets.erase iqn } else none

/-- One that does just that. -/
def plainCli : Targetcli where
  remove := plainRemove
  objectThere s name := by
    rw [plainRemove]
    split_ifs with there <;> simp [there]
  objectGone done n := by
    rw [plainRemove, Option.ite_none_right_eq_some] at done
    obtain rfl := Option.some.inj done.2
    exact Tables.lookup_erase _ _ _
  objectLuns done iqn := by
    rw [plainRemove, Option.ite_none_right_eq_some] at done
    obtain rfl := Option.some.inj done.2
    exact Tables.lookup_mapVals _ _ _
  targetThere s iqn := by
    rw [plainRemove]
    split_ifs with there <;> simp [there]
  targetGone done := by
    rw [plainRemove, Option.ite_none_right_eq_some] at done
    obtain rfl := Option.some.inj done.2
    exact ⟨rfl, fun q => Tables.lookup_erase _ _ _⟩

variable (T : Targetcli)

def Targetcli.execLine (s : TcState) : TcLine → Option TcState
  | .make c => s.exec c
  | .remove r => T.remove s r

/-- A line of a session, and whether it fails for a reason of its own. -/
structure TcStep where
  words : List Text
  refused : Bool

/-- A line that `targetcli` cannot read or that fails changes nothing, and the session goes
on. -/
def Targetcli.next (s : TcState) (l : TcStep) : TcState :=
  if l.refused then s else ((lineOf l.words).bind (T.execLine s)).getD s

/-- The lines of a session, those with these numbers failing. A session that is cut off is one
with all later lines failing. -/
def sessionSteps (script : Text) (refused : Nat → Bool) : List TcStep :=
  ((sessionLines script).getD []).zipIdx.map (fun l => ⟨l.1, refused l.2⟩)

def Targetcli.session (s : TcState) (script : Text) (refused : Nat → Bool) : TcState :=
  (sessionSteps script refused).foldl T.next s

theorem sessionSteps_words {script : Text} {refused : Nat → Bool} {l : TcStep}
    (mem : l ∈ sessionSteps script refused) : l.words ∈ (sessionLines script).getD [] := by
  obtain ⟨⟨row, k⟩, listed, rfl⟩ := List.mem_map.mp mem
  exact (List.mem_zipIdx' listed).2 ▸ List.getElem_mem _

variable {T}

theorem next_cases (s : TcState) (l : TcStep) : T.next s l = s ∨
    ∃ line, lineOf l.words = some line ∧ T.execLine s line = some (T.next s l) := by
  unfold Targetcli.next
  split
  · exact .inl rfl
  · cases reads : lineOf l.words with
    | none => exact .inl rfl
    | some line =>
      cases exec : T.execLine s line with
      | none => exact .inl (by simp [exec])
      | some s' => exact .inr ⟨line, rfl, by simp [exec]⟩

/-- What each line does holds from the first state to the last one. -/
theorem steps_along {R : TcState → TcState → Prop} (refl : ∀ s, R s s)
    (trans : ∀ {s t u}, R s t → R t u → R s u) {steps : List TcStep}
    (each : ∀ l ∈ steps, ∀ line, lineOf l.words = some line → ∀ s s',
      T.execLine s line = some s' → R s s') (s : TcState) : R s (steps.foldl T.next s) := by
  induction steps generalizing s with
  | nil => exact refl s
  | cons l steps ih =>
    have rest := ih (fun m mem => each m (List.mem_cons_of_mem l mem)) (T.next s l)
    rcases next_cases s l with same | ⟨line, reads, exec⟩
    · rw [List.foldl_cons, same]
      exact same ▸ rest
    · exact trans (each l List.mem_cons_self line reads s _ exec) rest

theorem lineOf_make {words : List Text} {c : TcCommand} (reads : commandOf words = some c) :
    lineOf words = some (.make c) := by
  unfold commandOf at reads
  split at reads
  · rename_i path verb args
    obtain ⟨p, place, command⟩ := Option.bind_eq_some_iff.mp reads
    simp only [lineOf, place, Option.bind_some, command, Option.map_some, Option.some_or]
  · cases reads

theorem rows_of_run {rows : List (List Text)} {cs : List TcCommand} {s s' : TcState}
    (each : rows.mapM commandOf = some cs) (run : s.run cs = some s') :
    (rows.map (fun row => TcStep.mk row false)).foldl T.next s = s' := by
  induction rows generalizing s cs with
  | nil =>
    cases each
    exact Option.some.inj run
  | cons row rows ih =>
    rw [List.mapM_cons] at each
    obtain ⟨c, first, rest⟩ := Option.bind_eq_some_iff.mp each
    obtain ⟨ds, others, same⟩ := Option.bind_eq_some_iff.mp rest
    cases same
    rw [TcState.run, List.foldlM_cons] at run
    obtain ⟨mid, exec, run⟩ := Option.bind_eq_some_iff.mp run
    have next : T.next s ⟨row, false⟩ = mid := by
      unfold Targetcli.next
      rw [if_neg Bool.false_ne_true, lineOf_make first]
      exact congrArg (fun o => Option.getD o s) exec
    rw [List.map_cons, List.foldl_cons, next]
    exact ih others run

theorem sessionSteps_tried {script : Text} {refused : Nat → Bool} {rows : List (List Text)}
    (whole : ∀ k, refused k = false) (lines : sessionLines script = some rows) :
    sessionSteps script refused = rows.map (fun row => TcStep.mk row false) := by
  unfold sessionSteps
  rw [lines, Option.getD_some]
  simp only [whole]
  have fst : rows.zipIdx.map Prod.fst = rows := List.zipIdx_map_fst 0 rows
  have words := congrArg (List.map (fun row => TcStep.mk row false)) fst
  rw [List.map_map] at words
  exact words

/-- A script of which every line is read and carried out. -/
theorem session_of_run {s s' : TcState} {script : Text} {refused : Nat → Bool}
    (whole : ∀ k, refused k = false) (run : s.runScript script = some s') :
    T.session s script refused = s' := by
  obtain ⟨cs, commands, run⟩ := Option.bind_eq_some_iff.mp run
  obtain ⟨rows, lines, each⟩ := Option.bind_eq_some_iff.mp commands
  unfold Targetcli.session
  rw [sessionSteps_tried whole lines]
  exact rows_of_run each run

end Lines

section Blocks

/-- Blocks on one node with its `targetcli`: no two of them share a name or a target. -/
structure Family (I : Type) where
  cli : Targetcli
  name : I → Text
  iqn : I → Text
  names : Function.Injective name
  iqns : Function.Injective iqn

variable {I : Type} (F : Family I)

/-- What the node has of a block. -/
def Family.view (i : I) (s : TcState) : Option (List Text) × Option (Table Nat TcTpg) :=
  (s.objects.lookup (F.name i), s.targets.lookup (F.iqn i))

/-- The LUNs of a block are on its own object. -/
def Family.OwnLuns (s : TcState) : Prop :=
  ∀ i tpgs, s.targets.lookup (F.iqn i) = some tpgs → ∀ tag t, tpgs.lookup tag = some t →
    ∀ lun ∈ t.luns, lun.object = F.name i

/-- The object and the target that a command is about. -/
def TcCommand.object? : TcCommand → Option Text
  | .createObject name | .setObject name _ | .saveConfig name | .createGroup name _ _
  | .setGroup name _ _ | .createLun _ _ name => some name
  | _ => none

def TcCommand.target? : TcCommand → Option Text
  | .createTarget iqn | .createTpg iqn _ | .createLun iqn _ _ | .setLunGroup iqn _ _
  | .createPortal iqn _ _ | .deletePortal iqn _ _ | .enable iqn _ | .setAttributes iqn _ _
  | .setAuth iqn _ _ => some iqn
  | _ => none

def TcLine.object? : TcLine → Option Text
  | .make c => c.object?
  | .remove (.object name) => some name
  | .remove (.target _) => none

def TcLine.target? : TcLine → Option Text
  | .make c => c.target?
  | .remove (.object _) => none
  | .remove (.target iqn) => some iqn

/-- The line is about this block only. -/
structure Family.Owns (i : I) (l : TcLine) : Prop where
  object : ∀ name, l.object? = some name → name = F.name i
  target : ∀ iqn, l.target? = some iqn → iqn = F.iqn i

variable {F} {i j : I} {s t s' : TcState}

theorem onTpg_some {iqn : Text} {tag : Nat} {f : TcTpg → Option TcTpg}
    (done : s.onTpg iqn tag f = some s') : ∃ tpgs t t', s.targets.lookup iqn = some tpgs ∧
      tpgs.lookup tag = some t ∧ f t = some t' ∧ s' = s.put iqn (tpgs.insert tag t') := by
  unfold TcState.onTpg at done
  obtain ⟨tpgs, target, done⟩ := Option.bind_eq_some_iff.mp done
  obtain ⟨tpg, group, done⟩ := Option.bind_eq_some_iff.mp done
  obtain ⟨next, changed, done⟩ := Option.bind_eq_some_iff.mp done
  cases done
  exact ⟨tpgs, tpg, next, target, group, changed, rfl⟩

/-- A command changes the object that it names, or the target, or nothing. -/
theorem exec_cases {c : TcCommand} (done : s.exec c = some s') : s' = s ∨
    (∃ name groups, c.object? = some name ∧
      s' = { s with objects := s.objects.insert name groups }) ∨
    ∃ iqn tpgs, c.target? = some iqn ∧ s' = s.put iqn tpgs := by
  have tpg : ∀ {iqn tag f}, c.target? = some iqn → s.onTpg iqn tag f = some s' →
      ∃ iqn tpgs, c.target? = some iqn ∧ s' = s.put iqn tpgs := by
    intro iqn tag f about done
    obtain ⟨tpgs, t, t', _, _, _, same⟩ := onTpg_some done
    exact ⟨iqn, _, about, same⟩
  cases c with
  | createObject name =>
    rw [TcState.exec, Option.ite_none_left_eq_some] at done
    exact .inr (.inl ⟨name, [], rfl, (Option.some.inj done.2).symm⟩)
  | setObject name ss =>
    rw [TcState.exec, Option.ite_none_right_eq_some] at done
    exact .inl (Option.some.inj done.2).symm
  | saveConfig name =>
    rw [TcState.exec, Option.ite_none_right_eq_some] at done
    exact .inl (Option.some.inj done.2).symm
  | createGroup name group number =>
    obtain ⟨groups, _, done⟩ := Option.bind_eq_some_iff.mp done
    rw [Option.ite_none_left_eq_some] at done
    exact .inr (.inl ⟨name, _, rfl, (Option.some.inj done.2).symm⟩)
  | setGroup name group setting =>
    rw [TcState.exec, Option.ite_none_right_eq_some] at done
    exact .inl (Option.some.inj done.2).symm
  | createTarget iqn =>
    rw [TcState.exec, Option.ite_none_left_eq_some] at done
    exact .inr (.inr ⟨iqn, _, rfl, (Option.some.inj done.2).symm⟩)
  | createTpg iqn tag =>
    obtain ⟨tpgs, _, done⟩ := Option.bind_eq_some_iff.mp done
    rw [Option.ite_none_left_eq_some] at done
    exact .inr (.inr ⟨iqn, _, rfl, (Option.some.inj done.2).symm⟩)
  | createLun iqn tag name =>
    rw [TcState.exec, Option.ite_none_right_eq_some] at done
    exact .inr (.inr (tpg rfl done.2))
  | createPortal iqn tag addr =>
    rw [TcState.exec, Option.ite_none_left_eq_some] at done
    exact .inr (.inr (tpg rfl done.2))
  | setLunGroup iqn tag group => exact .inr (.inr (tpg rfl done))
  | deletePortal iqn tag addr => exact .inr (.inr (tpg rfl done))
  | enable iqn tag => exact .inr (.inr (tpg rfl done))
  | setAttributes iqn tag ss => exact .inr (.inr (tpg rfl done))
  | setAuth iqn tag ss => exact .inr (.inr (tpg rfl done))

theorem exec_others (apart : i ≠ j) {c : TcCommand} (owns : F.Owns j (.make c))
    (done : s.exec c = some s') : F.view i s' = F.view i s := by
  rcases exec_cases done with rfl | ⟨name, groups, about, rfl⟩ | ⟨iqn, tpgs, about, rfl⟩
  · rfl
  · have other : F.name i ≠ name := fun same =>
      apart (F.names (same.trans (owns.object name about)))
    unfold Family.view
    rw [AList.lookup_insert_ne other]
  · have other : F.iqn i ≠ iqn := fun same =>
      apart (F.iqns (same.trans (owns.target iqn about)))
    unfold Family.view TcState.put
    rw [AList.lookup_insert_ne other]

/-- A change of a portal group shows the block the same on both nodes. -/
theorem onTpg_view {tag : Nat} {f g : TcTpg → Option TcTpg} (same : F.view i s = F.view i t)
    (agree : ∀ tpgs, s.targets.lookup (F.iqn i) = some tpgs → ∀ u, tpgs.lookup tag = some u →
      f u = g u) :
    (s.onTpg (F.iqn i) tag f).map (F.view i) = (t.onTpg (F.iqn i) tag g).map (F.view i) := by
  obtain ⟨objects, targets⟩ := Prod.mk.inj same
  unfold TcState.onTpg
  rw [← targets]
  cases target : s.targets.lookup (F.iqn i) with
  | none => rfl
  | some tpgs =>
    cases group : tpgs.lookup tag with
    | none => simp [group]
    | some u =>
      have next := agree tpgs target u group
      cases changed : g u with
      | none => simp [group, next, changed]
      | some u' => simp [group, next, changed, Family.view, TcState.put, objects]

/-- What the command does to its own block depends on the block only. -/
theorem exec_own {c : TcCommand} (owns : F.Owns i (.make c)) (hs : F.OwnLuns s)
    (same : F.view i s = F.view i t) :
    (s.exec c).map (F.view i) = (t.exec c).map (F.view i) := by
  obtain ⟨objects, targets⟩ := Prod.mk.inj same
  have there : F.name i ∈ s.objects ↔ F.name i ∈ t.objects := by
    rw [← AList.lookup_isSome, ← AList.lookup_isSome, objects]
  have aimed : F.iqn i ∈ s.targets ↔ F.iqn i ∈ t.targets := by
    rw [← AList.lookup_isSome, ← AList.lookup_isSome, targets]
  have object : ∀ {name}, c.object? = some name → name = F.name i := fun about =>
    owns.object _ about
  have target : ∀ {iqn}, c.target? = some iqn → iqn = F.iqn i := fun about =>
    owns.target _ about
  have tpg : ∀ {iqn tag f}, c.target? = some iqn →
      (s.onTpg iqn tag f).map (F.view i) = (t.onTpg iqn tag f).map (F.view i) := by
    intro iqn tag f about
    rw [target about]
    exact onTpg_view same (fun _ _ _ _ => rfl)
  have grown : ∀ groups, F.view i { s with objects := s.objects.insert (F.name i) groups } =
      F.view i { t with objects := t.objects.insert (F.name i) groups } := by
    intro groups
    unfold Family.view
    rw [AList.lookup_insert, AList.lookup_insert, targets]
  have aims : ∀ tpgs, F.view i (s.put (F.iqn i) tpgs) = F.view i (t.put (F.iqn i) tpgs) := by
    intro tpgs
    unfold Family.view
    rw [TcState.put_lookup, TcState.put_lookup, TcState.put_objects, TcState.put_objects, objects]
  cases c with
  | createObject name =>
    obtain rfl := object rfl
    simp only [TcState.exec, there, apply_ite (Option.map _), Option.map_some, grown]
  | setObject name ss =>
    obtain rfl := object rfl
    simp only [TcState.exec, there, apply_ite (Option.map _), Option.map_some, same]
  | saveConfig name =>
    obtain rfl := object rfl
    simp only [TcState.exec, there, apply_ite (Option.map _), Option.map_some, same]
  | createGroup name group number =>
    obtain rfl := object rfl
    simp only [TcState.exec, objects]
    cases t.objects.lookup (F.name i) with
    | none => rfl
    | some groups =>
      simp only [Option.bind_some, apply_ite (Option.map _), Option.map_some, grown]
  | setGroup name group setting =>
    obtain rfl := object rfl
    simp only [TcState.exec, objects, apply_ite (Option.map _), Option.map_some, same]
  | createTarget iqn =>
    obtain rfl := target rfl
    simp only [TcState.exec, aimed, apply_ite (Option.map _), Option.map_some, aims]
  | createTpg iqn tag =>
    obtain rfl := target rfl
    simp only [TcState.exec, targets]
    cases t.targets.lookup (F.iqn i) with
    | none => rfl
    | some tpgs =>
      simp only [Option.bind_some, apply_ite (Option.map _), Option.map_some, aims]
  | createLun iqn tag name =>
    obtain rfl := object rfl
    simp only [TcState.exec, there, apply_ite (Option.map _), tpg rfl]
  | createPortal iqn tag addr =>
    obtain rfl := target rfl
    simp only [TcState.exec, targets, apply_ite (Option.map _), tpg rfl]
  | setLunGroup iqn tag group =>
    obtain rfl := target rfl
    refine onTpg_view same (fun tpgs found u lookup => ?_)
    have own := hs i tpgs found tag u lookup
    unfold TcState.regroup
    cases luns : u.luns with
    | nil => rfl
    | cons lun rest =>
      have mine : lun.object = F.name i := own lun (luns ▸ List.mem_cons_self)
      have known : s.objects.lookup lun.object = t.objects.lookup lun.object := by
        rw [mine, objects]
      dsimp only
      rw [known]
  | deletePortal iqn tag addr => exact tpg rfl
  | enable iqn tag => exact tpg rfl
  | setAttributes iqn tag ss => exact tpg rfl
  | setAuth iqn tag ss => exact tpg rfl

theorem put_luns {tpgs : Table Nat TcTpg} (hs : F.OwnLuns s)
    (own : ∀ tag t, tpgs.lookup tag = some t → ∀ lun ∈ t.luns, lun.object = F.name i) :
    F.OwnLuns (s.put (F.iqn i) tpgs) := by
  intro j found target
  by_cases here : j = i
  · subst here
    rw [TcState.put_lookup] at target
    cases target
    exact own
  · have other : F.iqn j ≠ F.iqn i := fun same => here (F.iqns same)
    unfold TcState.put at target
    rw [AList.lookup_insert_ne other] at target
    exact hs j found target

theorem insert_luns {tpgs : Table Nat TcTpg} {tag : Nat} {u : TcTpg} {name : Text}
    (own : ∀ n t, tpgs.lookup n = some t → ∀ lun ∈ t.luns, lun.object = name)
    (new : ∀ lun ∈ u.luns, lun.object = name) {n : Nat} {t : TcTpg}
    (found : (tpgs.insert tag u).lookup n = some t) : ∀ lun ∈ t.luns, lun.object = name := by
  by_cases here : n = tag
  · subst here
    rw [AList.lookup_insert] at found
    cases found
    exact new
  · rw [AList.lookup_insert_ne here] at found
    exact own n t found

theorem onTpg_luns {tag : Nat} {f : TcTpg → Option TcTpg} (hs : F.OwnLuns s)
    (keeps : ∀ t t', (∀ lun ∈ t.luns, lun.object = F.name i) → f t = some t' →
      ∀ lun ∈ t'.luns, lun.object = F.name i)
    (done : s.onTpg (F.iqn i) tag f = some s') : F.OwnLuns s' := by
  obtain ⟨tpgs, t, t', target, group, changed, rfl⟩ := onTpg_some done
  have own := hs i tpgs target
  exact put_luns hs (fun n u => insert_luns own (keeps t t' (own tag t group) changed))

theorem exec_luns {c : TcCommand} (owns : F.Owns i (.make c)) (hs : F.OwnLuns s)
    (done : s.exec c = some s') : F.OwnLuns s' := by
  have target : ∀ {iqn}, c.target? = some iqn → iqn = F.iqn i := fun about =>
    owns.target _ about
  have kept : ∀ {iqn tag f}, c.target? = some iqn → (∀ t t' : TcTpg, f t = some t' →
      t'.luns = t.luns) → s.onTpg iqn tag f = some s' → F.OwnLuns s' := by
    intro iqn tag f about same done
    rw [target about] at done
    exact onTpg_luns hs (fun t t' own changed => (same t t' changed).symm ▸ own) done
  cases c with
  | createObject name =>
    rw [TcState.exec, Option.ite_none_left_eq_some] at done
    exact Option.some.inj done.2 ▸ hs
  | setObject name ss =>
    rw [TcState.exec, Option.ite_none_right_eq_some] at done
    exact Option.some.inj done.2 ▸ hs
  | saveConfig name =>
    rw [TcState.exec, Option.ite_none_right_eq_some] at done
    exact Option.some.inj done.2 ▸ hs
  | createGroup name group number =>
    obtain ⟨groups, _, done⟩ := Option.bind_eq_some_iff.mp done
    rw [Option.ite_none_left_eq_some] at done
    exact Option.some.inj done.2 ▸ hs
  | setGroup name group setting =>
    rw [TcState.exec, Option.ite_none_right_eq_some] at done
    exact Option.some.inj done.2 ▸ hs
  | createTarget iqn =>
    rw [TcState.exec, Option.ite_none_left_eq_some, target rfl] at done
    obtain rfl := Option.some.inj done.2
    apply put_luns hs
    intro tag t found
    rw [← AList.insert_empty] at found
    have none (n : Nat) (t : TcTpg) (absurd : (∅ : Table Nat TcTpg).lookup n = some t) :
        ∀ lun ∈ t.luns, lun.object = F.name i := by cases absurd
    exact insert_luns none (List.forall_mem_nil _) found
  | createTpg iqn tag =>
    obtain ⟨tpgs, there, done⟩ := Option.bind_eq_some_iff.mp done
    rw [Option.ite_none_left_eq_some, target rfl] at done
    rw [target rfl] at there
    obtain rfl := Option.some.inj done.2
    exact put_luns hs (fun n t => insert_luns (hs i tpgs there) (List.forall_mem_nil _))
  | createLun iqn tag name =>
    rw [TcState.exec, Option.ite_none_right_eq_some, target rfl] at done
    refine onTpg_luns hs (fun t t' own changed lun mem => ?_) done.2
    obtain rfl := Option.some.inj changed
    rcases List.mem_append.mp mem with old | new
    · exact own lun old
    · rw [List.mem_singleton.mp new]
      exact owns.object name rfl
  | setLunGroup iqn tag group =>
    rw [TcState.exec, target rfl] at done
    refine onTpg_luns hs (fun t t' own changed lun mem => ?_) done
    unfold TcState.regroup at changed
    cases luns : t.luns with
    | nil =>
      rw [luns] at changed
      cases changed
    | cons first rest =>
      rw [luns] at changed own
      rw [Option.ite_none_right_eq_some] at changed
      obtain rfl := Option.some.inj changed.2
      rcases List.mem_cons.mp mem with rfl | later
      · exact own first List.mem_cons_self
      · exact own lun (List.mem_cons_of_mem _ later)
  | createPortal iqn tag addr =>
    rw [TcState.exec, Option.ite_none_left_eq_some] at done
    exact kept rfl (fun t t' changed => by cases changed; rfl) done.2
  | deletePortal iqn tag addr =>
    refine kept rfl (fun t t' changed => ?_) done
    rw [Option.ite_none_right_eq_some] at changed
    obtain rfl := Option.some.inj changed.2
    rfl
  | enable iqn tag => exact kept rfl (fun t t' changed => by cases changed; rfl) done
  | setAttributes iqn tag ss => exact kept rfl (fun t t' changed => by cases changed; rfl) done
  | setAuth iqn tag ss => exact kept rfl (fun t t' changed => by cases changed; rfl) done

end Blocks

section Removals

variable {I : Type} {F : Family I} {i j : I} {s t s' : TcState}

theorem without_other {name : Text} {u : TcTpg} (own : ∀ lun ∈ u.luns, lun.object ≠ name) :
    u.without name = u := by
  have luns : u.luns.filter (fun lun => lun.object ≠ name) = u.luns :=
    List.filter_eq_self.mpr (fun lun mem => decide_eq_true (own lun mem))
  unfold TcTpg.without
  rw [luns]

theorem remove_others (apart : i ≠ j) {r : TcRemoval} (owns : F.Owns j (.remove r))
    (hs : F.OwnLuns s) (done : F.cli.remove s r = some s') : F.view i s' = F.view i s := by
  cases r with
  | object name =>
    have own : name = F.name j := owns.object name rfl
    have other : F.name i ≠ name := fun same => apart (F.names (same.trans own))
    unfold Family.view
    rw [F.cli.objectGone done, if_neg other, F.cli.objectLuns done]
    congr 1
    cases target : s.targets.lookup (F.iqn i) with
    | none => rfl
    | some tpgs =>
      refine congrArg some (Tables.mapVals_id (fun tag u found => without_other ?_))
      intro lun mem
      rw [hs i tpgs target tag u found lun mem]
      exact other
  | target iqn =>
    have own : iqn = F.iqn j := owns.target iqn rfl
    have other : F.iqn i ≠ iqn := fun same => apart (F.iqns (same.trans own))
    obtain ⟨objects, targets⟩ := F.cli.targetGone done
    unfold Family.view
    rw [objects, targets, if_neg other]

theorem removals_agree {o p : Option TcState} (there : o.isSome ↔ p.isSome)
    (same : ∀ s', o = some s' → ∀ t', p = some t' → F.view i s' = F.view i t') :
    o.map (F.view i) = p.map (F.view i) := by
  cases o with
  | none =>
    cases p with
    | none => rfl
    | some t' => exact absurd (there.mpr rfl) (by simp)
  | some s' =>
    cases p with
    | none => exact absurd (there.mp rfl) (by simp)
    | some t' => exact congrArg some (same s' rfl t' rfl)

theorem remove_own {r : TcRemoval} (owns : F.Owns i (.remove r)) (same : F.view i s = F.view i t) :
    (F.cli.remove s r).map (F.view i) = (F.cli.remove t r).map (F.view i) := by
  obtain ⟨objects, targets⟩ := Prod.mk.inj same
  cases r with
  | object name =>
    obtain rfl : name = F.name i := owns.object name rfl
    refine removals_agree ?_ (fun s' first t' second => ?_)
    · rw [F.cli.objectThere, F.cli.objectThere, ← AList.lookup_isSome, ← AList.lookup_isSome,
        objects]
    · unfold Family.view
      rw [F.cli.objectGone first, F.cli.objectGone second, F.cli.objectLuns first,
        F.cli.objectLuns second, objects, targets]
  | target iqn =>
    obtain rfl : iqn = F.iqn i := owns.target iqn rfl
    refine removals_agree ?_ (fun s' first t' second => ?_)
    · rw [F.cli.targetThere, F.cli.targetThere, ← AList.lookup_isSome, ← AList.lookup_isSome,
        targets]
    · unfold Family.view
      rw [(F.cli.targetGone first).1, (F.cli.targetGone second).1, (F.cli.targetGone first).2,
        (F.cli.targetGone second).2, objects, targets]

theorem remove_luns {r : TcRemoval} (hs : F.OwnLuns s) (done : F.cli.remove s r = some s') :
    F.OwnLuns s' := by
  cases r with
  | object name =>
    intro i tpgs target tag u found lun mem
    rw [F.cli.objectLuns done] at target
    obtain ⟨before, there, rfl⟩ := Option.map_eq_some_iff.mp target
    rw [Tables.lookup_mapVals] at found
    obtain ⟨old, group, rfl⟩ := Option.map_eq_some_iff.mp found
    exact hs i before there tag old group lun (List.mem_of_mem_filter mem)
  | target iqn =>
    intro i tpgs target
    rw [(F.cli.targetGone done).2] at target
    split at target
    · cases target
    · exact hs i tpgs target

end Removals

section Apart

variable {I : Type} (F : Family I)

/-- The words are no line, or one about this block only. -/
def Family.OwnsWords (i : I) (words : List Text) : Prop :=
  ∀ l, lineOf words = some l → F.Owns i l

def Family.OwnsStep (i : I) (l : TcStep) : Prop := F.OwnsWords i l.words

/-- Each line of a block changes what the node has of this block, by what it has of it. -/
theorem node_unwinds : Unwinding.Unwinds F.cli.next F.OwnsStep F.view F.OwnLuns where
  keeps i s l owns hs := by
    rcases next_cases (T := F.cli) s l with same | ⟨line, reads, exec⟩
    · exact same.symm ▸ hs
    · cases line with
      | make c => exact exec_luns (owns _ reads) hs exec
      | remove r => exact remove_luns hs exec
  own i s t l owns hs _ same := by
    unfold Targetcli.next
    split
    · exact same
    · cases reads : lineOf l.words with
      | none => exact same
      | some line =>
        have agree : (F.cli.execLine s line).map (F.view i) =
            (F.cli.execLine t line).map (F.view i) := by
          cases line with
          | make c => exact exec_own (owns _ reads) hs same
          | remove r => exact remove_own (owns _ reads) same
        rw [Option.bind_some, Option.bind_some]
        cases first : F.cli.execLine s line with
        | none =>
          rw [first] at agree
          have second : F.cli.execLine t line = none := Option.map_eq_none_iff.mp agree.symm
          rw [second]
          exact same
        | some s' =>
          rw [first] at agree
          obtain ⟨t', second, view⟩ := Option.map_eq_some_iff.mp agree.symm
          rw [second]
          exact view.symm
  others i j s l owns away hs := by
    rcases next_cases (T := F.cli) s l with same | ⟨line, reads, exec⟩
    · rw [same]
    · cases line with
      | make c => exact exec_others away (owns _ reads) exec
      | remove r => exact remove_others away (owns _ reads) hs exec

end Apart

end GlusterBlock
