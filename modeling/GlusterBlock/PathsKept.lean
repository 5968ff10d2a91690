import GlusterBlock.BlocksApart

/-! The paths that a node offers to a block. A create makes one for each host of the list, and
only the one of the node itself is open; whatever is set on the block later, and whichever lines
of that fail, the paths stay as they were made. -/
namespace GlusterBlock

open Tally (Table)

def TcTpg.path (t : TcTpg) : List TcLun × Bool := (t.luns, t.enabled)

section Paths

variable {I : Type} {F : Family I} {i : I} {s t s' : TcState}

/-- The ALUA groups of a block, and the LUNs and the state of each portal group. -/
def Family.paths (F : Family I) (i : I) (s : TcState) :
    Option (List Text) × Option (Nat → Option (List TcLun × Bool)) :=
  (s.objects.lookup (F.name i),
    (s.targets.lookup (F.iqn i)).map (fun tpgs tag => (tpgs.lookup tag).map TcTpg.path))

theorem paths_view (same : F.view i s = F.view i t) : F.paths i s = F.paths i t := by
  obtain ⟨objects, targets⟩ := Prod.mk.inj same
  unfold Family.paths
  rw [objects, targets]

theorem onTpg_paths {iqn : Text} {tag : Nat} {f : TcTpg → Option TcTpg}
    (keeps : ∀ u u', f u = some u' → u'.path = u.path) (done : s.onTpg iqn tag f = some s') :
    F.paths i s' = F.paths i s := by
  obtain ⟨tpgs, u, u', target, group, changed, rfl⟩ := onTpg_some done
  have slots : (fun n => ((tpgs.insert tag u').lookup n).map TcTpg.path) =
      fun n => (tpgs.lookup n).map TcTpg.path := by
    funext n
    by_cases here : n = tag
    · subst here
      rw [AList.lookup_insert, group, Option.map_some, Option.map_some, keeps u u' changed]
    · rw [AList.lookup_insert_ne here]
  unfold Family.paths
  by_cases own : F.iqn i = iqn
  · subst own
    rw [TcState.put_lookup, TcState.put_objects, target, Option.map_some, Option.map_some, slots]
  · unfold TcState.put
    rw [AList.lookup_insert_ne own]

theorem exec_paths {c : TcCommand} (settles : c.settles) (done : s.exec c = some s') :
    F.paths i s' = F.paths i s := by
  cases c with
  | setObject name ss =>
    rw [TcState.exec, Option.ite_none_right_eq_some] at done
    rw [Option.some.inj done.2]
  | saveConfig name =>
    rw [TcState.exec, Option.ite_none_right_eq_some] at done
    rw [Option.some.inj done.2]
  | setGroup name group setting =>
    rw [TcState.exec, Option.ite_none_right_eq_some] at done
    rw [Option.some.inj done.2]
  | createPortal iqn tag addr =>
    rw [TcState.exec, Option.ite_none_left_eq_some] at done
    exact onTpg_paths (fun u u' changed => by cases changed; rfl) done.2
  | deletePortal iqn tag addr =>
    refine onTpg_paths (fun u u' changed => ?_) done
    rw [Option.ite_none_right_eq_some] at changed
    cases changed.2
    rfl
  | setAttributes iqn tag ss =>
    exact onTpg_paths (fun u u' changed => by cases changed; rfl) done
  | setAuth iqn tag ss => exact onTpg_paths (fun u u' changed => by cases changed; rfl) done
  | _ => exact settles.elim

theorem steps_paths {T : Targetcli} {steps : List TcStep}
    (settle : ∀ l ∈ steps, ∀ line, lineOf l.words = some line →
      ∃ c : TcCommand, line = .make c ∧ c.settles) :
    F.paths i (steps.foldl T.next s) = F.paths i s := by
  refine steps_along (R := fun s s' => F.paths i s' = F.paths i s) (fun _ => rfl)
    (fun first second => second.trans first) (fun l mem line reads s s' exec => ?_) s
  obtain ⟨c, rfl, mild⟩ := settle l mem line reads
  exact exec_paths mild exec

end Paths

section Calls

variable {I : Type} {F : Family I} {i : I}

/-- A modify of the authentication or of the size, or of a portal for a replaced node. -/
def NodeCall.settles : NodeCall → Prop
  | .modify _ _ | .modifySize _ | .replace _ _ => True
  | _ => False

theorem run_paths {c : OwnCall F} (settles : c.call.settles) (s : TcState) :
    F.paths i (c.run s) = F.paths i s := by
  apply steps_paths
  intro step mem l reads
  have row := OwnCall.steps_words mem
  obtain ⟨block, call, starts, refused, texts, name, iqn⟩ := c
  have line : step.words ∈ Fields.wordLines '\n' ' ' call.script := sessionLines_subset row
  cases call with
  | modify blk tpgs => exact (modifyScript_settles texts name iqn _ line l reads).settles
  | modifySize blk => exact (modifySizeScript_settles texts.name name _ line l reads).settles
  | replace blk tpg => exact (replaceScript_settles texts name iqn _ line l reads).settles
  | _ => exact settles.elim

theorem serve_paths {calls : List (OwnCall F)} (settle : ∀ c ∈ calls, c.call.settles)
    (s : TcState) : F.paths i (s.serve calls) = F.paths i s := by
  induction calls generalizing s with
  | nil => rfl
  | cons c calls ih =>
    have rest := ih (fun d mem => settle d (List.mem_cons_of_mem c mem)) (c.run s)
    exact rest.trans (run_paths (settle c List.mem_cons_self) s)

variable [DecidableEq I] {calls rest : List (OwnCall F)} {c : OwnCall F} {args : CommonArgs}
  {capable : Bool}

/-- All lines of the call are tried. -/
structure OwnCall.Whole (c : OwnCall F) : Prop where
  starts : c.starts = true
  tried : ∀ k, c.refused k = false

/-- A block is made once and set as often as one likes, between calls for other blocks: the
group of every host still has its LUN, and the only open one is that of the node. -/
theorem paths_served (own : calls.filter (fun d => d.block = c.block) = c :: rest)
    (made : c.call = .create args capable) (whole : c.Whole) (settle : ∀ d ∈ rest, d.call.settles)
    (distinct : args.hosts.Nodup) :
    (TcState.serve ⟨∅, ∅⟩ calls).objects.lookup (nameText args) = some (aluaGroups args) ∧
      ∃ tpgs, (TcState.serve ⟨∅, ∅⟩ calls).targets.lookup (iqnText args.blk.gbid) = some tpgs ∧
        (∀ tag, tag ∈ tpgs ↔ 1 ≤ tag ∧ tag ≤ args.hosts.length) ∧
        ∀ k h, args.hosts[k]? = some h → ∃ t, tpgs.lookup (k + 1) = some t ∧
          t.luns = [⟨nameText args, (aluaGroup args.prio h).map String.toList⟩] ∧
            (t.enabled = true ↔ args.blk.ipaddr = h) := by
  have texts : ScriptTexts args := c.texts.create args capable made
  have name : F.name c.block = nameText args := by rw [c.name, made]; rfl
  have iqn : F.iqn c.block = iqnText args.blk.gbid := by rw [c.iqn, made]; rfl
  obtain ⟨tpgs, run, tags, groups⟩ := run_createScript (s := ⟨∅, ∅⟩) capable texts distinct
    (AList.notMem_empty _) (AList.notMem_empty _)
  have alone : F.view c.block (TcState.serve ⟨∅, ∅⟩ calls) =
      F.view c.block (TcState.serve ⟨∅, ∅⟩ (c :: rest)) := by
    apply serve_same
    rw [← own, List.filter_filter]
    simp
  let fresh : TcState :=
    { objects := AList.insert (nameText args) (aluaGroups args) ∅,
      targets := AList.insert (iqnText args.blk.gbid) tpgs ∅ }
  have first : c.run ⟨∅, ∅⟩ = fresh := by
    unfold OwnCall.run OwnCall.steps
    rw [whole.starts, if_pos rfl, made]
    exact session_of_run whole.tried run
  have kept : F.paths c.block (TcState.serve ⟨∅, ∅⟩ calls) = F.paths c.block fresh :=
    first ▸ (paths_view alone).trans (serve_paths settle (c.run ⟨∅, ∅⟩))
  obtain ⟨objects, targets⟩ := Prod.mk.inj kept
  rw [name] at objects
  rw [iqn] at targets
  refine ⟨objects.trans (AList.lookup_insert _), ?_⟩
  rw [AList.lookup_insert, Option.map_some] at targets
  obtain ⟨final, found, slots⟩ := Option.map_eq_some_iff.mp targets
  have slot : ∀ n, (final.lookup n).map TcTpg.path = (tpgs.lookup n).map TcTpg.path :=
    fun n => congrFun slots n
  refine ⟨final, found, fun tag => ?_, fun k h listed => ?_⟩
  · rw [← tags, ← AList.lookup_isSome, ← AList.lookup_isSome, ← Option.isSome_map (f := TcTpg.path),
      slot, Option.isSome_map]
  · have there := slot (k + 1)
    rw [groups k h listed, Option.map_some] at there
    obtain ⟨t, lookup, path⟩ := Option.map_eq_some_iff.mp there
    obtain ⟨luns, enabled⟩ := Prod.mk.inj path
    have serves := madeTpg_serves args h
    exact ⟨t, lookup, luns.trans serves.lun, by rw [enabled, serves.enabled]⟩

theorem set_texts : (NodeCall.modify ⟨"vol", "blk", "0a", "pw", true⟩ 3).Texts where
  name := by decide
  gbid := by decide
  create _ _ absurd := by cases absurd
  modify _ _ same := by cases same; decide
  replace _ _ absurd := by cases absurd

theorem set_name : samplePair.name true =
    (NodeCall.modify ⟨"vol", "blk", "0a", "pw", true⟩ 3).blockName.toList := rfl

theorem set_iqn : samplePair.iqn true =
    iqnText (NodeCall.modify ⟨"vol", "blk", "0a", "pw", true⟩ 3).gbid := rfl

/-- The second line fails. -/
def sampleSet : OwnCall samplePair where
  block := true
  call := .modify ⟨"vol", "blk", "0a", "pw", true⟩ 3
  starts := true
  refused := fun k => k = 1
  texts := set_texts
  name := set_name
  iqn := set_iqn

theorem paths_served_sample : ∃ tpgs : Table Nat TcTpg,
    (TcState.serve ⟨∅, ∅⟩ [sampleMade, sampleMadeOther, sampleSet]).targets.lookup (iqnText "0a") =
      some tpgs ∧ ∃ t, tpgs.lookup 2 = some t ∧ t.enabled = true := by
  have own : [sampleMade, sampleMadeOther, sampleSet].filter
      (fun d => d.block = sampleMade.block) = [sampleMade, sampleSet] := rfl
  obtain ⟨_, tpgs, found, _, groups⟩ := paths_served own rfl ⟨rfl, fun _ => rfl⟩
    (by simp [sampleSet, NodeCall.settles]) (by decide +kernel)
  obtain ⟨t, group, _, enabled⟩ := groups 1 "10.0.0.2" (by decide +kernel)
  exact ⟨tpgs, found, t, group, enabled.mpr rfl⟩

end Calls

end GlusterBlock
