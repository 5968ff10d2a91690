import GlusterBlock.CommandLog
import GlusterBlock.Regenerate

/-! `genconfig` over other passwords. It makes the same objects with other passwords, so
its reply shows the password of each block that it reaches and the host is a part of. -/
namespace GlusterBlock

open Json

section Repass

variable {f : String → String} {v w : VolumeMeta}

/-- No password stays none, and one stays one. -/
def Keeps (f : String → String) : Prop := ∀ p, f p = "" ↔ p = ""

/-- The directory with other passwords. -/
structure Repassed (f : String → String) (v w : VolumeMeta) : Prop where
  metas : ∀ name, w.metas.lookup name = (v.metas.lookup name).map (repass f)
  prio : w.prio = v.prio

def VolumeMeta.repass (f : String → String) (v : VolumeMeta) : VolumeMeta where
  metas := ⟨v.metas.entries.map (Sigma.map id (fun _ => GlusterBlock.repass f)),
    v.metas.nodupKeys.map₂ (fun _ => GlusterBlock.repass f) _⟩
  prio := v.prio

theorem repassed (f : String → String) (v : VolumeMeta) : Repassed f v (v.repass f) :=
  ⟨fun _ => List.dlookup_map₂ _, rfl⟩

def TpgObj.repass (f : String → String) (t : TpgObj) : TpgObj :=
  { t with chapPassword := t.chapPassword.map f }

def TgObj.repass (f : String → String) (tg : TgObj) : TgObj :=
  { tg with tpgs := tg.tpgs.map (TpgObj.repass f) }

def SoTgObj.repass (f : String → String) (objs : SoTgObj) : SoTgObj :=
  { objs with tgArr := objs.tgArr.map (TgObj.repass f) }

theorem getTgObj_repass (keeps : Keeps f) (conf : GenConf) (block : String) (info : MetaInfo)
    (addr : Addr) :
    getTgObj conf block (info.repass f) addr = (getTgObj conf block info addr).repass f := by
  have group : ∀ portal tag, getTpgObj conf block (info.repass f) addr portal tag =
      (getTpgObj conf block info addr portal tag).repass f := by
    intro portal tag
    by_cases none : info.passwd = ""
    · simp [getTpgObj, TpgObj.repass, MetaInfo.repass, none, (keeps "").mpr rfl]
    · simp [getTpgObj, TpgObj.repass, MetaInfo.repass, none, keeps info.passwd]
      rfl
  simp only [getTgObj, TgObj.repass, List.map_map]
  refine congrArg (fun tpgs => TgObj.mk _ tpgs _) (List.map_congr_left (fun portal _ => ?_))
  exact group portal.1 portal.2

theorem readable_repass (same : Repassed f v w) (name : String) :
    readable w name = (readable v name).map (repass f) := by
  unfold readable
  rw [same.metas]
  cases v.metas.lookup name with
  | none => rfl
  | some js =>
    simp only [Option.map_some, Option.filter_some]
    split <;> rfl

theorem assign_repass (keeps : Keeps f) (same : Repassed f v w) (env : GenConfigEnv) (name : String)
    (js : Journal) :
    (assignPrioPath env name (repass f js) w).1 = (assignPrioPath env name js v).1 ∧
      Repassed f (assignPrioPath env name js v).2.1 (assignPrioPath env name (repass f js) w).2.1 ∧
      (assignPrioPath env name (repass f js) w).2.2 = (assignPrioPath env name js v).2.2 := by
  have lines : replay (repass f js) = (replay js).repass f := replay_repass f ((keeps "").mpr rfl) js
  have path : (replay (repass f js)).prioPath = (replay js).prioPath := by rw [lines]; rfl
  have servers : blockMetaInfoToServerParse (replay (repass f js)) =
      blockMetaInfoToServerParse (replay js) := by rw [lines]; rfl
  unfold assignPrioPath
  rw [path, servers, same.prio]
  split
  · exact ⟨rfl, same, rfl⟩
  · refine ⟨rfl, ⟨fun other => ?_, rfl⟩, rfl⟩
    by_cases this : other = name
    · subst other
      dsimp only
      rw [AList.lookup_insert, AList.lookup_insert]
      cases env.update name <;> simp [metaUpdate, metaAfter, metaStep, repass, MetaLine.repass]
    · dsimp only
      rw [AList.lookup_insert_ne this, AList.lookup_insert_ne this, same.metas]

theorem genConfigLoop_cons (env : GenConfigEnv) (addr : Addr) (name : String) (names : List String)
    (v : VolumeMeta) (objs : SoTgObj) :
    genConfigLoop env addr (name :: names) v objs =
      match readable v name with
      | none => genConfigLoop env addr names v objs
      | some js =>
        if env.readMeta name = false then (v, objs, -1)
        else
          let info := { replay js with prioPath := (assignPrioPath env name js v).1 }
          if (assignPrioPath env name js v).2.2 ≠ 0 then ((assignPrioPath env name js v).2.1, objs, 0)
          else
            genConfigLoop env addr names (assignPrioPath env name js v).2.1
              (if addr ∈ validHosts js then
                { soArr := objs.soArr ++ [getSoObj env.conf name info addr],
                  tgArr := objs.tgArr ++ [getTgObj env.conf name info addr] }
              else objs) := by
  rw [genConfigLoop]
  change (match readable v name with | none => _ | some js => _) = _
  cases readable v name with
  | none => rfl
  | some js =>
    dsimp only
    split
    · rfl
    · split
      · rfl
      · split
        · rename_i part
          exact congrArg (genConfigLoop env addr names _) (if_pos part).symm
        · rename_i apart
          exact congrArg (genConfigLoop env addr names _) (if_neg apart).symm

/-- One pass makes the same objects with other passwords. -/
theorem loop_repass (keeps : Keeps f) (env : GenConfigEnv) (addr : Addr) (names : List String)
    (same : Repassed f v w) (objs : SoTgObj) :
    (genConfigLoop env addr names w (objs.repass f)).2 =
        ((genConfigLoop env addr names v objs).2.1.repass f,
          (genConfigLoop env addr names v objs).2.2) ∧
      genConfigAborts env names w = genConfigAborts env names v := by
  induction names generalizing v w objs with
  | nil => exact ⟨rfl, rfl⟩
  | cons name names ih =>
    rw [genConfigLoop_cons, genConfigLoop_cons, genConfigAborts, genConfigAborts,
      readable_repass same name]
    cases readable v name with
    | none => exact ih same objs
    | some js =>
      obtain ⟨path, after, failed⟩ := assign_repass keeps same env name js
      have lines : replay (repass f js) = (replay js).repass f :=
        replay_repass f ((keeps "").mpr rfl) js
      have valid : validHosts (repass f js) = validHosts js := by
        rw [← serverParse_replay, lines]
        rfl
      dsimp only [Option.map_some]
      rw [path, failed, valid, lines]
      by_cases unread : env.readMeta name = false
      · rw [if_pos unread, if_pos unread, if_pos unread, if_pos unread]
        exact ⟨rfl, rfl⟩
      · rw [if_neg unread, if_neg unread, if_neg unread, if_neg unread]
        by_cases stops : (assignPrioPath env name js v).2.2 ≠ 0
        · rw [if_pos stops, if_pos stops, if_pos stops, if_pos stops]
          exact ⟨rfl, rfl⟩
        · rw [if_neg stops, if_neg stops, if_neg stops, if_neg stops]
          let info := { replay js with prioPath := (assignPrioPath env name js v).1 }
          have target : getTgObj env.conf name (info.repass f) addr =
              (getTgObj env.conf name info addr).repass f := getTgObj_repass keeps ..
          by_cases part : addr ∈ validHosts js
          · rw [if_pos part, if_pos part]
            have next := ih after ⟨objs.soArr ++ [getSoObj env.conf name info addr],
              objs.tgArr ++ [getTgObj env.conf name info addr]⟩
            have added : SoTgObj.repass f ⟨objs.soArr ++ [getSoObj env.conf name info addr],
                objs.tgArr ++ [getTgObj env.conf name info addr]⟩ =
                  ⟨(objs.repass f).soArr ++ [getSoObj env.conf name (info.repass f) addr],
                    (objs.repass f).tgArr ++ [getTgObj env.conf name (info.repass f) addr]⟩ := by
              rw [target]
              simp [SoTgObj.repass]
              rfl
            rw [added] at next
            exact next
          · rw [if_neg part, if_neg part]
            exact ih after objs

/-- The same volume with other passwords in its directory. -/
structure GenVolume.Repassed (f : String → String) (vol wol : GenVolume) : Prop where
  connects : wol.connects = vol.connects
  lists : wol.lists = vol.lists
  env : wol.env = vol.env
  held : GlusterBlock.Repassed f vol.held wol.held

def GenVolume.repass (f : String → String) (vol : GenVolume) : GenVolume :=
  { vol with held := vol.held.repass f }

theorem GenVolume.Repassed.reads {vol wol : GenVolume} (same : vol.Repassed f wol) :
    wol.reads = vol.reads := by
  unfold GenVolume.reads
  rw [same.env]
  refine congrArg (vol.env.listing.any ·) (funext (fun name => ?_))
  rw [readable_repass same.held, Option.isSome_map]

theorem allVolumes_cons (addr : Addr) (ret : Int) (vol : GenVolume) (vols : List GenVolume)
    (objs : SoTgObj) :
    getSoTgArraysForAllVolume addr ret (vol :: vols) objs =
      if vol.connects = false then (objs, ret)
      else if vol.lists = false then (objs, -1)
      else
        let pass := (getSoTgArrays vol.env addr vol.held objs).2
        if pass.2 ≠ 0 ∨ genConfigAborts vol.env vol.env.listing vol.held = true then pass
        else getSoTgArraysForAllVolume addr (if vol.reads then 0 else ret) vols pass.1 := rfl

theorem volumes_repass (keeps : Keeps f) (addr : Addr) (ret : Int) {vols wols : List GenVolume}
    (same : List.Forall₂ (GenVolume.Repassed f) vols wols) (objs : SoTgObj) :
    getSoTgArraysForAllVolume addr ret wols (objs.repass f) =
      ((getSoTgArraysForAllVolume addr ret vols objs).1.repass f,
        (getSoTgArraysForAllVolume addr ret vols objs).2) := by
  induction same generalizing ret objs with
  | nil => rfl
  | @cons vol wol vols wols first _ ih =>
    obtain ⟨loop, aborts⟩ := loop_repass keeps vol.env addr vol.env.listing first.held objs
    rw [allVolumes_cons, allVolumes_cons, getSoTgArrays, getSoTgArrays, first.connects, first.lists,
      first.env, first.reads, loop, aborts]
    dsimp only
    by_cases closed : vol.connects = false
    · rw [if_pos closed, if_pos closed]
    · rw [if_neg closed, if_neg closed]
      by_cases hidden : vol.lists = false
      · rw [if_pos hidden, if_pos hidden]
      · rw [if_neg hidden, if_neg hidden]
        split
        · rfl
        · exact ih _ _

end Repass

section Shown

variable {f : String → String}

/-- Passwords are changed within their length, and JSON prints them as they are. -/
def Shaped (f : String → String) : Prop :=
  ∀ p, f p = p ∨ Json.Plain p ∧ Json.Plain (f p) ∧ p.length = (f p).length

theorem Shaped.length (shaped : Shaped f) (p : String) :
    SameLength (Json.str p) (Json.str (f p)) := by
  rcases shaped p with same | ⟨plain, other, length⟩
  · rw [same]
    exact .refl _
  · exact str_length plain other length

theorem Shaped.inj (shaped : Shaped f) (L : Layout) (level : Nat) {p : String}
    (same : Json.str p L level = Json.str (f p) L level) : f p = p := by
  rcases shaped p with kept | ⟨plain, other, _⟩
  · exact kept
  · exact (str_inj plain other same).symm

def SoTgObj.passwords (objs : SoTgObj) : List String :=
  objs.tgArr.flatMap (fun tg => tg.tpgs.filterMap TpgObj.chapPassword)

theorem mem_passwords {objs : SoTgObj} {p : String} : p ∈ objs.passwords ↔
    ∃ tg ∈ objs.tgArr, ∃ t ∈ tg.tpgs, t.chapPassword = some p := by
  simp [SoTgObj.passwords]

theorem repass_none {objs : SoTgObj} (none : objs.passwords = []) : objs.repass f = objs := by
  have group : ∀ tg ∈ objs.tgArr, ∀ t ∈ tg.tpgs, t.repass f = t := by
    intro tg htg t ht
    cases chap : t.chapPassword with
    | none => rw [TpgObj.repass, chap, Option.map_none, ← chap]
    | some p =>
      have shown : p ∈ objs.passwords := mem_passwords.mpr ⟨tg, htg, t, ht, chap⟩
      rw [none] at shown
      cases shown
  have targets : objs.tgArr.map (TgObj.repass f) = objs.tgArr.map id := by
    refine List.map_congr_left (fun tg htg => ?_)
    have tpgs : tg.tpgs.map (TpgObj.repass f) = tg.tpgs.map id :=
      List.map_congr_left (group tg htg)
    rw [TgObj.repass, tpgs, List.map_id]
    rfl
  rw [SoTgObj.repass, targets, List.map_id]

theorem passwords_repass (objs : SoTgObj) : (objs.repass f).passwords = objs.passwords.map f := by
  unfold SoTgObj.passwords SoTgObj.repass TgObj.repass
  rw [List.flatMap_map, List.map_flatMap]
  refine List.flatMap_congr (fun tg _ => ?_)
  rw [List.filterMap_map, List.map_filterMap]
  rfl

def chapField (passwd : Option String) : List (String × Json.Value) :=
  (passwd.map (fun passwd => ("chap_password", Json.str passwd))).toList

theorem tpg_fields (t : TpgObj) : ∃ before after, ∀ passwd : Option String,
    TpgObj.toJson { t with chapPassword := passwd } =
      Json.obj (before ++ chapField passwd ++ after) := by
  refine ⟨?before, ?after, fun passwd => ?fields⟩
  case fields =>
    rw [TpgObj.toJson, List.append_assoc]
    dsimp only
    rfl

theorem chap_same (shaped : Shaped f) (passwd : Option String) :
    List.Forall₂ SameField (chapField passwd) (chapField (passwd.map f)) := by
  cases passwd with
  | none => exact .nil
  | some p => exact .cons ⟨rfl, shaped.length p⟩ .nil

theorem fields_refl (fields : List (String × Json.Value)) :
    List.Forall₂ SameField fields fields :=
  List.forall₂_same.mpr (fun field _ => .refl field)

theorem tpg_same (shaped : Shaped f) (t : TpgObj) :
    SameLength t.toJson (t.repass f).toJson ∧
      ∀ L level, t.toJson L level = (t.repass f).toJson L level →
        ∀ p, t.chapPassword = some p → f p = p := by
  obtain ⟨before, after, fields⟩ := tpg_fields t
  have same : List.Forall₂ SameField (before ++ chapField t.chapPassword ++ after)
      (before ++ chapField (t.chapPassword.map f) ++ after) :=
    List.rel_append (List.rel_append (fields_refl before) (chap_same shaped _)) (fields_refl after)
  have text : t.toJson = _ := fields t.chapPassword
  have other : (t.repass f).toJson = _ := fields (t.chapPassword.map f)
  rw [text, other]
  refine ⟨obj_length same, fun L level equal p chap => ?_⟩
  have values := obj_inj same equal
  rw [chap] at values
  simp only [List.map_append] at values
  have shown := List.append_cancel_left (List.append_cancel_right values)
  exact shaped.inj L (level + 1) (List.cons.inj shown).1

theorem tg_same (shaped : Shaped f) (tg : TgObj) :
    SameLength tg.toJson (tg.repass f).toJson ∧
      ∀ L level, tg.toJson L level = (tg.repass f).toJson L level →
        ∀ t ∈ tg.tpgs, ∀ p, t.chapPassword = some p → f p = p := by
  have groups : List.Forall₂ SameLength (tg.tpgs.map TpgObj.toJson)
      ((tg.tpgs.map (TpgObj.repass f)).map TpgObj.toJson) := by
    rw [List.map_map, List.forall₂_map_left_iff, List.forall₂_map_right_iff, List.forall₂_same]
    exact fun t _ => (tpg_same shaped t).1
  have fields : List.Forall₂ SameField
      [("fabric", Json.str tg.fabric), ("tpgs", Json.arr (tg.tpgs.map TpgObj.toJson)),
        ("wwn", Json.str tg.wwn)]
      [("fabric", Json.str tg.fabric),
        ("tpgs", Json.arr ((tg.tpgs.map (TpgObj.repass f)).map TpgObj.toJson)),
        ("wwn", Json.str tg.wwn)] :=
    .cons (.refl _) (.cons ⟨rfl, arr_length groups⟩ (.cons (.refl _) .nil))
  refine ⟨obj_length fields, fun L level equal t ht p chap => ?_⟩
  have values := obj_inj fields equal
  have tpgs := arr_inj groups (List.cons.inj (List.cons.inj values).2).1
  rw [List.map_map, List.map_map, List.map_map, List.map_inj_left] at tpgs
  exact (tpg_same shaped t).2 _ _ (tpgs t ht) p chap

theorem document_shows (shaped : Shaped f) (json : JsonResponseFormat → Layout) (objs : SoTgObj) :
    let text := fun objs : SoTgObj => jsonText json .pretty (Json.obj
      [("storage_objects", Json.arr (objs.soArr.map SoObj.toJson)),
       ("targets", Json.arr (objs.tgArr.map TgObj.toJson))])
    text objs = text (objs.repass f) → ∀ p ∈ objs.passwords, f p = p := by
  intro text same p shown
  obtain ⟨tg, htg, t, ht, chap⟩ := mem_passwords.mp shown
  have targets : List.Forall₂ SameLength (objs.tgArr.map TgObj.toJson)
      ((objs.tgArr.map (TgObj.repass f)).map TgObj.toJson) := by
    rw [List.map_map, List.forall₂_map_left_iff, List.forall₂_map_right_iff, List.forall₂_same]
    exact fun tg _ => (tg_same shaped tg).1
  have fields : List.Forall₂ SameField
      [("storage_objects", Json.arr (objs.soArr.map SoObj.toJson)),
        ("targets", Json.arr (objs.tgArr.map TgObj.toJson))]
      [("storage_objects", Json.arr (objs.soArr.map SoObj.toJson)),
        ("targets", Json.arr ((objs.tgArr.map (TgObj.repass f)).map TgObj.toJson))] :=
    .cons (.refl _) (.cons ⟨rfl, arr_length targets⟩ .nil)
  have values := obj_inj fields (List.append_cancel_right same)
  have each := arr_inj targets (List.cons.inj (List.cons.inj values).2).1
  rw [List.map_map, List.map_map, List.map_map, List.map_inj_left] at each
  exact (tg_same shaped tg).2 _ _ (each tg htg) t ht p chap

end Shown

section Stops

/-- The two ways a request ends before its last file: as a failure, or with the objects it
has made so far. -/
inductive GenStop where
  | fails | ends
  deriving DecidableEq, Repr

def GenVolume.stopAt (vol : GenVolume) (name : String) : Option GenStop :=
  match readable vol.held name with
  | none => none
  | some js =>
    if vol.env.readMeta name = false then some .fails
    else if (replay js).prioPath = "" ∧ vol.env.update name ≠ .ok then some .ends
    else none

/-- A volume that cannot be opened or locked is a failure only as long as no metafile was
read. -/
def GenVolume.stop (read : Bool) (vol : GenVolume) : Option GenStop :=
  if vol.connects = false then some (if read then .ends else .fails)
  else if vol.lists = false then some .fails
  else vol.env.listing.findSome? vol.stopAt

def genStop : Bool → List GenVolume → Option GenStop
  | _, [] => none
  | read, vol :: vols => (vol.stop read).or (genStop (read || vol.reads) vols)

/-- The files that a request gets to. -/
def GenVolume.reached (vol : GenVolume) : List String :=
  if vol.connects = false ∨ vol.lists = false then []
  else vol.env.listing.takeWhile (fun name => (vol.stopAt name).isNone)

def genReached : List GenVolume → List (GenVolume × String)
  | [] => []
  | vol :: vols =>
    vol.reached.map (fun name => (vol, name)) ++
      if (vol.stop false).isNone then genReached vols else []

theorem reached_among {vols : List GenVolume} {file : GenVolume × String}
    (reached : file ∈ genReached vols) : file.1 ∈ vols := by
  induction vols with
  | nil => cases reached
  | cons vol vols ih =>
    rcases List.mem_append.mp reached with here | later
    · obtain ⟨name, _, rfl⟩ := List.mem_map.mp here
      exact List.mem_cons_self
    · split at later
      · exact List.mem_cons_of_mem _ (ih later)
      · cases later

/-- The block has the password `p` and the host is a part of it. -/
def GenVolume.shows (vol : GenVolume) (addr : Addr) (name p : String) : Prop :=
  ∃ js, readable vol.held name = some js ∧ addr ∈ validHosts js ∧ (replay js).passwd = p ∧ p ≠ ""

theorem assign_fails (env : GenConfigEnv) (name : String) (js : Journal) (v : VolumeMeta) :
    (assignPrioPath env name js v).2.2 ≠ 0 ↔
      (replay js).prioPath = "" ∧ env.update name ≠ .ok := by
  unfold assignPrioPath
  by_cases path : (replay js).prioPath = ""
  · rw [if_neg (not_not.mpr path)]
    cases env.update name <;> simp [metaUpdate, path]
  · rw [if_pos path]
    simp [path]

theorem target_passwords (conf : GenConf) (block : String) (info : MetaInfo) {addr : Addr}
    (part : addr ∈ blockMetaInfoToServerParse info) (p : String) :
    (∃ t ∈ (getTgObj conf block info addr).tpgs, t.chapPassword = some p) ↔
      info.passwd = p ∧ p ≠ "" := by
  have chap : ∀ portal tag, (getTpgObj conf block info addr portal tag).chapPassword = some p ↔
      info.passwd = p ∧ p ≠ "" := by
    intro portal tag
    by_cases none : info.passwd = ""
    · simp only [getTpgObj, none, ne_eq, not_true_eq_false, if_false, reduceCtorEq, false_iff, not_and]
      exact fun same => not_not.mpr same.symm
    · simp only [getTpgObj, none, if_true, ne_eq, not_false_eq_true, Option.some.injEq]
      exact ⟨fun same => ⟨same, same ▸ none⟩, And.left⟩
  constructor
  · rintro ⟨t, listed, shown⟩
    obtain ⟨portal, _, rfl⟩ := List.mem_map.mp listed
    exact (chap _ _).mp shown
  · intro shown
    obtain ⟨i, here⟩ := List.getElem?_of_mem part
    refine ⟨getTpgObj conf block info addr addr (1 + i), List.mem_map.mpr ⟨(addr, 1 + i), ?_, rfl⟩,
      (chap _ _).mpr shown⟩
    exact List.mk_add_mem_zipIdx_iff_getElem?.mpr here

/-- One pass over a volume: how it ends and which passwords it takes up. -/
theorem loop_stops {vol : GenVolume} (addr : Addr) {names : List String} (distinct : names.Nodup)
    (v : VolumeMeta) (held : ∀ name ∈ names, readable v name = readable vol.held name)
    (objs : SoTgObj) :
    ((genConfigLoop vol.env addr names v objs).2.2 ≠ 0 ↔ names.findSome? vol.stopAt = some .fails) ∧
      genConfigAborts vol.env names v = (names.findSome? vol.stopAt).isSome ∧
      ∀ p, p ∈ (genConfigLoop vol.env addr names v objs).2.1.passwords ↔ p ∈ objs.passwords ∨
        ∃ name ∈ names.takeWhile (fun name => (vol.stopAt name).isNone), vol.shows addr name p := by
  induction names generalizing v objs with
  | nil => simp [genConfigLoop, genConfigAborts]
  | cons name names ih =>
    obtain ⟨once, distinct⟩ := List.nodup_cons.mp distinct
    have here := held name List.mem_cons_self
    have later : ∀ name ∈ names, readable v name = readable vol.held name :=
      fun other listed => held other (List.mem_cons_of_mem _ listed)
    rw [genConfigLoop_cons, genConfigAborts, here, List.findSome?_cons, List.takeWhile_cons]
    cases file : readable vol.held name with
    | none =>
      have goes : vol.stopAt name = none := by rw [GenVolume.stopAt, file]
      have hidden : ∀ p, ¬ vol.shows addr name p := by
        rintro p ⟨js, there, _⟩
        cases file.symm.trans there
      rw [goes]
      simpa only [Option.isNone_none, if_true, List.mem_cons, exists_eq_or_imp, hidden,
        false_or] using ih distinct v later objs
    | some js =>
      dsimp only
      by_cases unread : vol.env.readMeta name = false
      · have fails : vol.stopAt name = some .fails := by
          simp only [GenVolume.stopAt, file]
          exact if_pos unread
        rw [fails, if_pos unread, if_pos unread]
        simp
      · rw [if_neg unread, if_neg unread]
        by_cases cut : (assignPrioPath vol.env name js v).2.2 ≠ 0
        · have ends : vol.stopAt name = some .ends := by
            simp only [GenVolume.stopAt, file]
            rw [if_neg unread, if_pos ((assign_fails ..).mp cut)]
          rw [ends, if_pos cut, if_pos cut]
          simp
        · have goes : vol.stopAt name = none := by
            simp only [GenVolume.stopAt, file]
            rw [if_neg unread, if_neg (fun fails => cut ((assign_fails ..).mpr fails))]
          rw [goes, if_neg cut, if_neg cut]
          have others : ∀ other ∈ names,
              readable (assignPrioPath vol.env name js v).2.1 other = readable vol.held other := by
            intro other listed
            have ne : other ≠ name := fun e => once (e ▸ listed)
            rw [← later other listed, readable, readable, assign_other _ ne]
          obtain ⟨fails, aborts, passwords⟩ := ih distinct _ others
            (if addr ∈ validHosts js then
              ⟨objs.soArr ++ [getSoObj vol.env.conf name
                  { replay js with prioPath := (assignPrioPath vol.env name js v).1 } addr],
                objs.tgArr ++ [getTgObj vol.env.conf name
                  { replay js with prioPath := (assignPrioPath vol.env name js v).1 } addr]⟩
            else objs)
          refine ⟨fails, aborts, fun p => (passwords p).trans ?_⟩
          have first : vol.shows addr name p ↔
              addr ∈ validHosts js ∧ (replay js).passwd = p ∧ p ≠ "" := by
            unfold GenVolume.shows
            rw [file]
            simp
          simp only [Option.isNone_none, if_true, List.mem_cons, exists_eq_or_imp, first]
          by_cases part : addr ∈ validHosts js
          · have made := target_passwords vol.env.conf name
              { replay js with prioPath := (assignPrioPath vol.env name js v).1 } part p
            rw [if_pos part, mem_passwords, mem_passwords, and_iff_right part]
            simp only [List.mem_append, List.mem_singleton, or_and_right, exists_or, exists_eq_left,
              made, or_assoc]
          · rw [if_neg part]
            simp only [part, false_and, false_or]

theorem volumes_stops (addr : Addr) {ret : Int} {read : Bool} (kept : ret = 0 ↔ read = true)
    {vols : List GenVolume} (distinct : ∀ vol ∈ vols, vol.env.listing.Nodup) (objs : SoTgObj) :
    ((getSoTgArraysForAllVolume addr ret vols objs).2 ≠ 0 ↔ genStop read vols = some .fails) ∧
      ∀ p, p ∈ (getSoTgArraysForAllVolume addr ret vols objs).1.passwords ↔ p ∈ objs.passwords ∨
        ∃ file ∈ genReached vols, file.1.shows addr file.2 p := by
  induction vols generalizing ret read objs with
  | nil => simp [getSoTgArraysForAllVolume, genStop, genReached]
  | cons vol vols ih =>
    rw [allVolumes_cons, genStop, genReached]
    by_cases closed : vol.connects = false
    · have stop : ∀ read, vol.stop read = some (if read then .ends else .fails) :=
        fun _ => if_pos closed
      have none : vol.reached = [] := if_pos (.inl closed)
      rw [if_pos closed, stop, stop, none]
      cases read <;> simp_all
    by_cases hidden : vol.lists = false
    · have stop : ∀ read, vol.stop read = some .fails :=
        fun _ => (if_neg closed).trans (if_pos hidden)
      have none : vol.reached = [] := if_pos (.inr hidden)
      rw [if_neg closed, if_pos hidden, stop, stop, none]
      simp
    · have stop : ∀ read, vol.stop read = vol.env.listing.findSome? vol.stopAt :=
        fun _ => (if_neg closed).trans (if_neg hidden)
      have reached : vol.reached = vol.env.listing.takeWhile (fun name => (vol.stopAt name).isNone) :=
        if_neg (not_or.mpr ⟨closed, hidden⟩)
      obtain ⟨fails, aborts, passwords⟩ := loop_stops addr (distinct vol List.mem_cons_self) vol.held
        (fun _ _ => rfl) objs
      rw [if_neg closed, if_neg hidden, getSoTgArrays, aborts, stop, stop, reached]
      dsimp only
      cases ends : vol.env.listing.findSome? vol.stopAt with
      | some how =>
        rw [ends] at fails
        rw [if_pos (.inr rfl)]
        refine ⟨fails, fun p => (passwords p).trans ?_⟩
        simp
      | none =>
        rw [ends] at fails
        have through : (genConfigLoop vol.env addr vol.env.listing vol.held objs).2.2 = 0 := by
          simpa using fails
        rw [if_neg (by simp [through])]
        have passed : (if vol.reads = true then 0 else ret) = 0 ↔ (read || vol.reads) = true := by
          cases vol.reads <;> simp [kept]
        obtain ⟨code, rest⟩ := ih passed (fun w hw => distinct w (List.mem_cons_of_mem _ hw))
          (genConfigLoop vol.env addr vol.env.listing vol.held objs).2.1
        refine ⟨code, fun p => (rest p).trans ?_⟩
        rw [passwords p]
        simp [or_and_right, exists_or, or_assoc]

end Stops

end GlusterBlock
