import GlusterBlock.Regenerate

/-! `genconfig` for the hosts of a volume one after another. Each run may give blocks a path and
records it, so that the hosts of a block get two faces of one target. -/
namespace GlusterBlock

section Assigned

/-- A later metafile of a block that at most had a path assigned. -/
structure Assigned (js js' : Journal) : Prop where
  same : replay js' = { replay js with prioPath := prioOf js' }
  chosen : prioOf js ≠ "" → prioOf js' = prioOf js

theorem Assigned.refl (js : Journal) : Assigned js js := ⟨rfl, fun _ => rfl⟩

theorem Assigned.trans {js js' js'' : Journal} (first : Assigned js js')
    (second : Assigned js' js'') : Assigned js js'' where
  same := by rw [second.same, first.same]
  chosen path := by
    have kept := first.chosen path
    exact (second.chosen (kept ▸ path)).trans kept

theorem replay_path (js : Journal) (path : Addr) :
    replay (js ++ [.prioPath path]) = { replay js with prioPath := path } := by
  unfold replay
  rw [List.foldl_append]
  rfl

theorem path_assigned (js : Journal) (path : Addr) (free : prioOf js = "") :
    Assigned js (js ++ [.prioPath path]) where
  same := by
    unfold prioOf
    rw [replay_path]
  chosen given := absurd free given

/-- A volume behind runs that at most assigned paths. -/
def VolumeMeta.Grown (v v' : VolumeMeta) : Prop :=
  ∀ name js, v.metas.lookup name = some js →
    ∃ js', v'.metas.lookup name = some js' ∧ Assigned js js'

theorem VolumeMeta.Grown.trans {v v' v'' : VolumeMeta} (first : v.Grown v')
    (second : v'.Grown v'') : v.Grown v'' := by
  intro name js there
  obtain ⟨js', mid, once⟩ := first name js there
  obtain ⟨js'', last, twice⟩ := second name js' mid
  exact ⟨js'', last, once.trans twice⟩

end Assigned

section Loop

/-- The objects of one more block. -/
def SoTgObj.add (objs : SoTgObj) (conf : GenConf) (addr : Addr) (name : String) (info : MetaInfo) :
    SoTgObj where
  soArr := objs.soArr ++ [getSoObj conf name info addr]
  tgArr := objs.tgArr ++ [getTgObj conf name info addr]

variable {env : GenConfigEnv} {addr : Addr}

/-- The metafile behind the assignment of a path. -/
theorem assign_grown {name : String} {js : Journal} {v : VolumeMeta}
    (there : v.metas.lookup name = some js) : v.Grown (assignPrioPath env name js v).2.1 := by
  intro other js' known
  by_cases same : other = name
  · subst other
    cases known.symm.trans there
    unfold assignPrioPath
    split_ifs with path
    · exact ⟨js, there, .refl js⟩
    · refine ⟨_, AList.lookup_insert _, ?_⟩
      have free : prioOf js = "" := not_not.mp path
      cases env.update name with
      | notOpened => exact .refl js
      | notWritten =>
        rw [show metaAfter (some js) (metaUpdate .notWritten [.prioPath _]).evs = some js from rfl]
        exact .refl js
      | ok => exact path_assigned js _ free
      | notClosed => exact path_assigned js _ free
  · exact ⟨js', (assign_other env same js v).trans known, .refl js'⟩

/-- What the loop does to a name: it passes over it, stops at it, or assigns it a path, behind
which it may stop, go on, or go on with the objects of the block. -/
theorem loop_step (env : GenConfigEnv) (addr : Addr) (name : String) (names : List String)
    (v : VolumeMeta) (objs : SoTgObj) {run : VolumeMeta × SoTgObj × Int}
    (looped : run = genConfigLoop env addr (name :: names) v objs) :
    run = genConfigLoop env addr names v objs ∨ run = (v, objs, -1) ∨
      ∃ js, v.metas.lookup name = some js ∧
        (run = ((assignPrioPath env name js v).2.1, objs, 0) ∨
          (assignPrioPath env name js v).2.2 = 0 ∧
            (run = genConfigLoop env addr names (assignPrioPath env name js v).2.1 objs ∨
              addr ∈ validHosts js ∧
                run = genConfigLoop env addr names (assignPrioPath env name js v).2.1
                  (objs.add env.conf addr name
                    { replay js with prioPath := (assignPrioPath env name js v).1 }))) := by
  unfold genConfigLoop at looped
  split at looped
  · exact .inl looped
  · rename_i js found
    obtain ⟨there, _⟩ := Option.filter_eq_some_iff.mp found
    split at looped
    · exact .inr (.inl looped)
    · refine .inr (.inr ⟨js, there, ?_⟩)
      dsimp only at looped
      split at looped
      · exact .inl looped
      · rename_i done
        refine .inr ⟨not_not.mp done, ?_⟩
        split at looped
        · rename_i valid
          exact .inr ⟨valid, looped⟩
        · exact .inl looped

theorem loop_grown (names : List String) (v : VolumeMeta) (objs : SoTgObj) :
    v.Grown (genConfigLoop env addr names v objs).1 := by
  induction names generalizing v objs with
  | nil => exact fun _ js there => ⟨js, there, .refl js⟩
  | cons name names ih =>
    rcases loop_step env addr name names v objs rfl with
      run | run | ⟨js, there, run | ⟨_, run | ⟨_, run⟩⟩⟩ <;> rw [run]
    · exact ih v objs
    · exact fun _ js there => ⟨js, there, .refl js⟩
    · exact assign_grown there
    · exact (assign_grown there).trans (ih _ _)
    · exact (assign_grown there).trans (ih _ _)

/-- A name that is not listed is left alone. -/
theorem loop_other {names : List String} {other : String} (away : other ∉ names) (v : VolumeMeta)
    (objs : SoTgObj) :
    (genConfigLoop env addr names v objs).1.metas.lookup other = v.metas.lookup other := by
  induction names generalizing v objs with
  | nil => rfl
  | cons name names ih =>
    obtain ⟨here, rest⟩ := not_or.mp (fun mem => away (List.mem_cons.mpr mem))
    rcases loop_step env addr name names v objs rfl with
      run | run | ⟨js, _, run | ⟨_, run | ⟨_, run⟩⟩⟩ <;> rw [run]
    · exact ih rest v objs
    · exact assign_other env here js v
    · exact (ih rest _ _).trans (assign_other env here js v)
    · exact (ih rest _ _).trans (assign_other env here js v)

/-- Objects made from a metafile as it is. -/
def MadeFrom (conf : GenConf) (addr : Addr) (name : String) (js : Journal) (p : SoObj × TgObj) :
    Prop :=
  addr ∈ validHosts js ∧
    p = (getSoObj conf name (replay js) addr, getTgObj conf name (replay js) addr)

/-- The info that the objects are made from is the one that the metafile then records. -/
theorem assign_recorded {name : String} {js : Journal} {v : VolumeMeta}
    (there : v.metas.lookup name = some js) (done : (assignPrioPath env name js v).2.2 = 0) :
    ∃ js', (assignPrioPath env name js v).2.1.metas.lookup name = some js' ∧
      replay js' = { replay js with prioPath := (assignPrioPath env name js v).1 } := by
  unfold assignPrioPath at done ⊢
  split_ifs at done ⊢ with path
  · exact ⟨js, there, rfl⟩
  · cases update : env.update name with
    | ok => exact ⟨_, AList.lookup_insert _, replay_path js _⟩
    | _ =>
      rw [update] at done
      cases done

/-- What is generated is made from the metafiles as the run leaves them. -/
theorem loop_made {names : List String} (distinct : names.Nodup) (v : VolumeMeta) (objs : SoTgObj)
    (even : objs.soArr.length = objs.tgArr.length) {p : SoObj × TgObj}
    (emitted : p ∈ (genConfigLoop env addr names v objs).2.1.pairs) :
    p ∈ objs.pairs ∨ ∃ name js,
      (genConfigLoop env addr names v objs).1.metas.lookup name = some js ∧
        MadeFrom env.conf addr name js p := by
  induction names generalizing v objs with
  | nil => exact .inl emitted
  | cons name names ih =>
    obtain ⟨once, distinct⟩ := List.nodup_cons.mp distinct
    rcases loop_step env addr name names v objs rfl with
      run | run | ⟨js, there, run | ⟨done, run | ⟨valid, run⟩⟩⟩ <;> rw [run] at emitted ⊢
    · exact ih distinct v objs even emitted
    · exact .inl emitted
    · exact .inl emitted
    · exact ih distinct _ objs even emitted
    · rcases ih distinct _ _ (by simp [SoTgObj.add, even]) emitted with first | later
      · rw [SoTgObj.pairs, SoTgObj.add, List.zip_append even] at first
        rcases List.mem_append.mp first with old | new
        · exact .inl old
        · obtain ⟨js', recorded, same⟩ := assign_recorded there done
          refine .inr ⟨name, js', (loop_other once _ _).trans recorded, ?_, ?_⟩
          · rw [← serverParse_replay, same]
            exact valid
          · rw [same]
            exact List.mem_singleton.mp new
      · exact .inr later

end Loop

section Agreement

/-- Any runs of `genconfig` on a volume, for any hosts. -/
def GenRuns : VolumeMeta → VolumeMeta → Prop :=
  Relation.ReflTransGen (fun v v' => ∃ addr env, v' = (getSoTgArrays env addr v ⟨[], []⟩).1)

theorem runs_grown {v v' : VolumeMeta} (runs : GenRuns v v') : v.Grown v' := by
  induction runs with
  | refl => exact fun _ js there => ⟨js, there, .refl js⟩
  | tail _ step ih =>
    obtain ⟨addr, env, rfl⟩ := step
    exact ih.trans (loop_grown _ _ _)

/-- A storage object without the host's own volfile server. -/
def SoObj.shared (so : SoObj) : SoObj := { so with config := { so.config with server := "" } }

/-- A portal group without what each host has its own of: which group it enables, and the random
name of the lun. -/
def TpgObj.shared (t : TpgObj) : TpgObj :=
  { t with enable := false, enabledSendtargets := none, lunAlias := "" }

/-- The objects of two hosts are one storage object and one target, and each host enables its
own portal group. -/
structure OneTarget (a b : Addr) (p q : SoObj × TgObj) : Prop where
  storage : p.1.shared = q.1.shared
  target : p.2.wwn = q.2.wwn ∧ p.2.fabric = q.2.fabric
  portals : p.2.tpgs.map TpgObj.shared = q.2.tpgs.map TpgObj.shared
  first : ∀ t ∈ p.2.tpgs, t.enable = decide (a = t.ipAddress)
  second : ∀ t ∈ q.2.tpgs, t.enable = decide (b = t.ipAddress)

theorem same_info (conf conf' : GenConf) (name : String) (info : MetaInfo) (a b : Addr) :
    OneTarget a b (getSoObj conf name info a, getTgObj conf name info a)
      (getSoObj conf' name info b, getTgObj conf' name info b) where
  storage := rfl
  target := ⟨rfl, rfl⟩
  portals := by
    unfold getTgObj
    rw [List.map_map, List.map_map]
    rfl
  first t mem := by
    obtain ⟨portal, _, rfl⟩ := List.mem_map.mp mem
    rfl
  second t mem := by
    obtain ⟨portal, _, rfl⟩ := List.mem_map.mp mem
    rfl

/-- Whatever hosts are generated in between, a block that has a path when it is generated for one
host is the same target for the next. -/
theorem genconfigs_agree {a b : Addr} {env env' : GenConfigEnv} {v v' : VolumeMeta}
    (distinct : env.listing.Nodup) (distinct' : env'.listing.Nodup)
    (runs : GenRuns (getSoTgArrays env a v ⟨[], []⟩).1 v') {p q : SoObj × TgObj}
    (first : p ∈ (getSoTgArrays env a v ⟨[], []⟩).2.1.pairs)
    (second : q ∈ (getSoTgArrays env' b v' ⟨[], []⟩).2.1.pairs) (block : p.1.name = q.1.name)
    (path : p.1.aluaTpgs ≠ []) : OneTarget a b p q := by
  obtain ⟨name, js, there, _, made⟩ := (loop_made distinct v ⟨[], []⟩ rfl first).resolve_left
    List.not_mem_nil
  obtain ⟨name', js', there', _, made'⟩ := (loop_made distinct' v' ⟨[], []⟩ rfl second).resolve_left
    List.not_mem_nil
  subst made made'
  have same : name = name' := block
  subst name'
  have given : prioOf js ≠ "" := fun none => path (if_pos none)
  obtain ⟨js'', later, assigned⟩ := ((runs_grown runs).trans (loop_grown _ _ _)) name js there
  obtain rfl : js'' = js' := Option.some.inj (later.symm.trans there')
  have info : replay js'' = replay js := by
    rw [assigned.same, assigned.chosen given]
    rfl
  rw [info]
  exact same_info env.conf env'.conf name (replay js) a b

end Agreement

section Sample

def twoHostVolume : VolumeMeta where
  metas := AList.insert "block" (configuredLines 2 ["10.0.0.1", "10.0.0.2"]) ∅
  prio := fun _ => none

/-- The first of the hosts gets the path. -/
def twoHostObjects (addr : Addr) : SoObj × TgObj :=
  let info := { replay (configuredLines 2 ["10.0.0.1", "10.0.0.2"]) with prioPath := "10.0.0.1" }
  (getSoObj timedGenEnv.conf "block" info addr, getTgObj timedGenEnv.conf "block" info addr)

theorem genconfigs_agree_sample :
    OneTarget "10.0.0.1" "10.0.0.2" (twoHostObjects "10.0.0.1") (twoHostObjects "10.0.0.2") :=
  genconfigs_agree (v := twoHostVolume) (a := "10.0.0.1") (b := "10.0.0.2")
    (show timedGenEnv.listing.Nodup by decide) (show timedGenEnv.listing.Nodup by decide) .refl
    (by decide) (by decide) rfl (by decide)

end Sample

end GlusterBlock
