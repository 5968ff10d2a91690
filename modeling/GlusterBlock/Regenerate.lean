import GlusterBlock.PrioCounters
import GlusterBlock.TargetConfig

/-! A block that `genconfig` makes from the metafile of a create, next to what the create
made on its nodes. -/
namespace GlusterBlock

section Succeeds

variable {blk : BlockCreateCli} {env : CreateEnv} {js : Journal}

/-- The request on a free name configures all its hosts. -/
def Succeeds (blk : BlockCreateCli) (env : CreateEnv) (js : Journal) : Prop :=
  metaAfter none (blockCreateCli blk env none).evs = some js ∧
    (configuredHosts js).length = blk.mpath

theorem reaches_gate {file : Metafile} {resultCaps : Caps}
    (reaches : createReaches blk env file = some resultCaps) :
    createCapGate blk (createArgs blk env) = .ok resultCaps := by
  unfold createReaches at reaches
  dsimp only at reaches
  split at reaches
  · cases reaches
  · split at reaches
    · rename_i gate _
      split at reaches
      · cases reaches
      · cases reaches
        exact gate
    · cases reaches

/-- Nothing is rolled back. -/
theorem audited_rest {resultCaps : Caps} (prepared : env.prepared blk)
    (made : metaAfter none (createBody blk env resultCaps none).1.act.evs = some js)
    (full : (configuredHosts js).length = blk.mpath) :
    js = auditedLines blk env resultCaps := by
  let audited := auditedLines blk env resultCaps
  have body := createBody_prepared blk env resultCaps prepared
  dsimp only at body
  rw [body.1] at made
  unfold glusterBlockAuditRequest at made
  rw [successcnt_replay] at made
  by_cases all : blk.mpath = (configuredHosts audited).length
  · rw [if_pos all] at made
    exact (Option.some.inj made).symm
  · rw [if_neg all] at made
    dsimp only at made
    have removes := cleanUp_removes audited blk.blockName false true env.cleanUp
    have stuck : ¬ ((false = true ∨ env.cleanUp.nodesCleared audited) ∧
        env.cleanUp.filesOk true) := by
      intro goes
      rw [removes.mpr goes] at made
      cases made
    rw [metaAfter_some audited (cleanUp_keeps blk.blockName stuck)] at made
    cases made
    have less := cleanUp_configured audited blk.blockName false true env.cleanUp
    have bound : (configuredHosts audited).length ≤ (createHosts blk).length :=
      configured_bound (preparedLines_hosts blk env resultCaps)
    have most : (createHosts blk).length ≤ blk.mpath := List.length_take_le _ _
    omega

/-- The metafile of a create that succeeds is the one its audit reads. -/
theorem succeeds_lines (positive : 0 < blk.mpath) (made : Succeeds blk env js) :
    ∃ resultCaps, createCapGate blk (createArgs blk env) = .ok resultCaps ∧
      js = auditedLines blk env resultCaps ∧
      blk.mpath ≤ (blockServerParse blk.blockHosts).length := by
  obtain ⟨file, full⟩ := made
  rcases create_reaches blk env none with ⟨_, none⟩ | ⟨resultCaps, reaches, few, _, body⟩
  · rw [none] at file
    cases file
  · rw [body] at file
    refine ⟨resultCaps, reaches_gate reaches, ?_, few⟩
    by_cases prepared : env.prepared blk
    · exact audited_rest prepared file full
    · obtain ⟨act, _, empty⟩ := createBody_failed blk env resultCaps prepared
      rw [act] at file
      rw [configuredHosts, empty js file] at full
      exact absurd full.symm (Nat.ne_of_gt positive)

theorem configured_valid {s : Option MetaStatus} (configured : isConfigured s = true) :
    s.any MetaStatus.isValid = true := by
  cases s with
  | none => cases configured
  | some s => cases s <;> first | rfl | cases configured

theorem audited_valid {resultCaps : Caps}
    (few : blk.mpath ≤ (blockServerParse blk.blockHosts).length)
    (full : (configuredHosts (auditedLines blk env resultCaps)).length = blk.mpath) (a : Addr) :
    a ∈ validHosts (auditedLines blk env resultCaps) ↔ a ∈ createHosts blk := by
  have fresh := preparedLines_hosts blk env resultCaps
  have distinct : (configuredHosts (auditedLines blk env resultCaps)).Nodup :=
    (hosts_nodup _).filter _
  have count : (createHosts blk).length ≤ (configuredHosts (auditedLines blk env resultCaps)).length := by
    rw [createHosts, List.length_take]
    omega
  have perm : (configuredHosts (auditedLines blk env resultCaps)).Perm (createHosts blk) :=
    (List.subperm_of_subset distinct (configured_within fresh)).perm_of_length_le count
  rw [mem_validHosts]
  constructor
  · intro valid
    have listed : a ∈ hosts (auditedLines blk env resultCaps) := by
      by_contra unknown
      rw [isValidAt, latest_unmentioned unknown] at valid
      exact Bool.false_ne_true valid
    rcases mem_hosts_append.mp listed with old | new
    · rw [fresh] at old
      cases old
    · exact createEvs_hosts new
  · intro listed
    exact configured_valid (List.mem_filter.mp (perm.mem_iff.mpr listed)).2

end Succeeds

section Emitted

def SoTgObj.pairs (objs : SoTgObj) : List (SoObj × TgObj) := objs.soArr.zip objs.tgArr

/-- The objects of a block whose metafile is `js`, with a path assigned on the way. -/
def Emits (env : GenConfigEnv) (addr : Addr) (name : String) (js : Journal)
    (p : SoObj × TgObj) : Prop :=
  ∃ v, let info := { replay js with prioPath := (assignPrioPath env name js v).1 }
    addr ∈ validHosts js ∧ p = (getSoObj env.conf name info addr, getTgObj env.conf name info addr)

theorem assign_other (env : GenConfigEnv) {name other : String} (ne : other ≠ name) (js : Journal)
    (v : VolumeMeta) :
    (assignPrioPath env name js v).2.1.metas.lookup other = v.metas.lookup other := by
  unfold assignPrioPath
  split
  · rfl
  · exact AList.lookup_insert_ne ne

/-- Each block of the directory is read once. -/
theorem loop_emits {env : GenConfigEnv} {addr : Addr} {names : List String} (distinct : names.Nodup)
    (v : VolumeMeta) (objs : SoTgObj) (even : objs.soArr.length = objs.tgArr.length)
    {p : SoObj × TgObj} (emitted : p ∈ (genConfigLoop env addr names v objs).2.1.pairs) :
    p ∈ objs.pairs ∨
      ∃ name ∈ names, ∃ js, v.metas.lookup name = some js ∧ Emits env addr name js p := by
  induction names generalizing v objs with
  | nil => exact .inl emitted
  | cons name names ih =>
    obtain ⟨once, distinct⟩ := List.nodup_cons.mp distinct
    have later : ∀ {v' : VolumeMeta}, (∀ other, other ≠ name →
        v'.metas.lookup other = v.metas.lookup other) →
        (∃ name ∈ names, ∃ js, v'.metas.lookup name = some js ∧ Emits env addr name js p) →
        ∃ other ∈ name :: names, ∃ js, v.metas.lookup other = some js ∧ Emits env addr other js p := by
      rintro v' same ⟨other, among, js, there, emits⟩
      have ne : other ≠ name := fun e => once (e ▸ among)
      exact ⟨other, List.mem_cons_of_mem _ among, js, (same other ne) ▸ there, emits⟩
    unfold genConfigLoop at emitted
    split at emitted
    · exact (ih distinct v objs even emitted).imp_right (later fun _ _ => rfl)
    · rename_i js found
      obtain ⟨there, _⟩ := Option.filter_eq_some_iff.mp found
      have assigned := fun other (ne : other ≠ name) => assign_other env ne js v
      split at emitted
      · exact .inl emitted
      · dsimp only at emitted
        split at emitted
        · exact .inl emitted
        · split at emitted
          · rename_i valid
            have longer := ih distinct _ _ (by simp [even]) emitted
            rcases longer with first | rest
            · rw [SoTgObj.pairs, List.zip_append even] at first
              rcases List.mem_append.mp first with old | new
              · exact .inl old
              · refine .inr ⟨name, List.mem_cons_self, js, there, v, valid, ?_⟩
                exact List.mem_singleton.mp new
            · exact .inr (later assigned rest)
          · exact (ih distinct _ objs even emitted).imp_right (later assigned)

end Emitted

section Agree

/-- The parameters of a control text, empty ones are skipped. -/
def controlParams (text : String) : List String := (blockServerParse text).filter (· ≠ "")

/-- The script has its parameters behind a word, and may end in a comma. -/
def SameControl (created generated : Option String) : Prop :=
  created = none ∧ generated = none ∨
    ∃ params text, created = some (" control=" ++ params) ∧ generated = some text ∧
      controlParams params = controlParams text

/-- The volfile server is that of the create, or the host's own name for itself. -/
structure SameStorage (h : Addr) (b : Backstore) (so : SoObj) : Prop where
  name : so.name = b.name
  size : so.size = b.size ∧ so.devSize = b.size
  wwn : so.wwn = b.wwn
  volume : so.config.volume = b.cfg.volume
  file : so.config.gbid = b.cfg.gbid
  server : so.config.server = b.cfg.server ∨ b.cfg.server = "localhost" ∧ so.config.server = h
  control : SameControl b.control so.control
  cmdTimeOut : b.cmdTimeOut = some so.cmdTimeOut

def TpgObj.portal (t : TpgObj) : PortalConfig where
  enabled := t.enable
  chap := t.chapUserid.bind (fun userid => t.chapPassword.map (fun password => (userid, password)))
  aluaGroup := t.aluaTgPtGpName

def TgObj.offers (tg : TgObj) (a : Addr) (c : PortalConfig) : Prop :=
  ∃ t ∈ tg.tpgs, t.ipAddress = a ∧ c = t.portal

/-- The objects are what the script made. -/
structure Regenerated (h : Addr) (s : Target) (p : SoObj × TgObj) : Prop where
  storage : ∃ b, s.backstore = some b ∧ SameStorage h b p.1 ∧ p.1.config.ioTimeout = b.cfg.ioTimeout
  iqn : s.iqn = some p.2.wwn
  portals : ∀ a c, p.2.offers a c ↔ s.offers a c

/-- The timeout is that of the request if it has one, and the groups are those of
`path`. -/
structure RegeneratedAs (h : Addr) (args : CommonArgs) (path : Addr) (s : Target)
    (p : SoObj × TgObj) : Prop where
  storage : ∃ b, s.backstore = some b ∧ SameStorage h b p.1 ∧
    (args.ioTimeout ≠ 0 → p.1.config.ioTimeout = b.cfg.ioTimeout)
  iqn : s.iqn = some p.2.wwn
  portals : ∀ a c, p.2.offers a c ↔
    ∃ made, s.offers a made ∧ c = { made with aluaGroup := aluaGroup path a }
  chosen : args.prio ≠ "" → ∀ a c, p.2.offers a c ↔ s.offers a c

theorem plain_param (key : String) (n : Nat) (clean : ',' ∉ key.toList) :
    ',' ∉ (key ++ toString n).toList := by
  intro comma
  rw [String.toList_append] at comma
  rcases List.mem_append.mp comma with front | digits
  · exact clean front
  · rw [Nat.toString_eq_repr, Nat.toList_repr] at digits
    exact absurd (CText.digits_isDigit digits) (by decide)

theorem params_single {a : String} (clean : ',' ∉ a.toList) :
    controlParams a = [a].filter (· ≠ "") := by
  have join : joinServers [a] = a := by simp [joinServers, List.intercalate]
  have parse := blockServerParse_join (List.cons_ne_nil a []) (fun h mem =>
    List.mem_singleton.mp mem ▸ clean)
  rw [join] at parse
  rw [controlParams, parse]

theorem params_pair {a b : String} (cleanA : ',' ∉ a.toList) (cleanB : ',' ∉ b.toList) :
    controlParams (a ++ "," ++ b) = [a, b].filter (· ≠ "") := by
  have join : joinServers [a, b] = a ++ "," ++ b := by
    apply String.toList_injective
    simp [joinServers, List.intercalate]
  have parse := blockServerParse_join (List.cons_ne_nil a [b]) (fun h mem => by
    rcases List.mem_pair.mp mem with rfl | rfl
    · exact cleanA
    · exact cleanB)
  rw [join] at parse
  rw [controlParams, parse]

theorem append_ne_empty {a b : String} (some_text : a ≠ "") : a ++ b ≠ "" :=
  fun none => some_text (String.append_eq_empty_iff.mp none).1

theorem genControl_eq (rbSize blkSize : Nat) :
    let ring := "max_data_area_mb=" ++ toString rbSize
    let block := "hw_block_size=" ++ toString blkSize
    genControl rbSize blkSize =
      if rbSize = 0 then if blkSize = 0 then none else some block
      else some (if blkSize = 0 then ring else ring ++ "," ++ block) := by
  have ringKey : gbRingBufferStr ++ "=" = "max_data_area_mb=" := by decide
  have blockKey : gbBlockSizeStr ++ "=" = "hw_block_size=" := by decide
  have ringText : ∀ rest, "max_data_area_mb=" ++ rest ≠ "" := fun _ => append_ne_empty (by decide)
  have blockText : ∀ rest, "hw_block_size=" ++ rest ≠ "" := fun _ => append_ne_empty (by decide)
  have pairText : ∀ a b, "max_data_area_mb=" ++ a ++ "," ++ b ≠ "" := fun _ _ =>
    append_ne_empty (append_ne_empty (ringText _))
  have blockOf : ∀ front : String, front ++ gbBlockSizeStr ++ "=" ++ toString blkSize =
      front ++ ("hw_block_size=" ++ toString blkSize) := by
    intro front
    have joined : front ++ gbBlockSizeStr ++ "=" = front ++ (gbBlockSizeStr ++ "=") := String.append_assoc
    rw [joined, blockKey, String.append_assoc]
  unfold genControl
  dsimp only
  rw [ringKey]
  by_cases rb : rbSize = 0 <;> by_cases bs : blkSize = 0
  · simp [rb, bs]
  · rw [if_pos rb, if_neg bs, if_pos rb, if_neg bs, if_pos rb, blockOf]
    exact if_neg (blockText _)
  · rw [if_neg rb, if_pos bs, if_neg rb, if_pos bs]
    exact if_neg (ringText _)
  · rw [if_neg rb, if_neg bs, if_neg rb, if_neg bs, if_neg rb, if_neg bs, blockOf]
    exact if_neg (pairText _ _)

theorem control_same (rbSize blkSize : Nat) :
    SameControl (controlText rbSize blkSize) (genControl rbSize blkSize) := by
  have ring : ',' ∉ ("max_data_area_mb=" ++ toString rbSize).toList := plain_param _ _ (by decide)
  have block : ',' ∉ ("hw_block_size=" ++ toString blkSize).toList := plain_param _ _ (by decide)
  rw [genControl_eq]
  unfold controlText
  by_cases rb : rbSize = 0 <;> by_cases bs : blkSize = 0
  · exact .inl ⟨if_pos ⟨rb, bs⟩, by rw [if_pos rb, if_pos bs]⟩
  · refine .inr ⟨"hw_block_size=" ++ toString blkSize, _, ?_, by rw [if_pos rb, if_neg bs], rfl⟩
    rw [if_neg (fun none => bs none.2), if_pos rb, if_neg bs]
    rfl
  · refine .inr ⟨"max_data_area_mb=" ++ toString rbSize ++ "," ++ "", _, ?_,
      by rw [if_neg rb, if_pos bs], ?_⟩
    · rw [if_neg (fun none => rb none.1), if_neg rb, if_pos bs, String.append_assoc]
    · rw [params_pair ring List.not_mem_nil, params_single ring]
      rfl
  · refine .inr ⟨"max_data_area_mb=" ++ toString rbSize ++ "," ++ ("hw_block_size=" ++ toString blkSize),
      _, ?_, by rw [if_neg rb, if_neg bs], rfl⟩
    rw [if_neg (fun none => rb none.1), if_neg rb, if_neg bs, String.append_assoc]

theorem generated_offers (conf : GenConf) (block : String) (info : MetaInfo) (addr a : Addr)
    (c : PortalConfig) : (getTgObj conf block info addr).offers a c ↔
      a ∈ blockMetaInfoToServerParse info ∧
        c = ⟨decide (addr = a), if info.passwd ≠ "" then some (info.gbid, info.passwd) else none,
          aluaGroup info.prioPath a⟩ := by
  have portal : ∀ a tag, (getTpgObj conf block info addr a tag).portal =
      ⟨decide (addr = a), if info.passwd ≠ "" then some (info.gbid, info.passwd) else none,
        aluaGroup info.prioPath a⟩ := by
    intro a tag
    unfold getTpgObj TpgObj.portal aluaGroup
    by_cases auth : info.passwd = "" <;> simp [auth]
  constructor
  · rintro ⟨t, listed, rfl, rfl⟩
    obtain ⟨⟨b, tag⟩, mem, rfl⟩ := List.mem_map.mp listed
    exact ⟨(List.mem_zipIdx mem).2.2 ▸ List.getElem_mem _, portal b tag⟩
  · rintro ⟨listed, rfl⟩
    obtain ⟨i, here⟩ := List.getElem?_of_mem listed
    refine ⟨getTpgObj conf block info addr a (1 + i), List.mem_map.mpr ⟨(a, 1 + i), ?_, rfl⟩, rfl,
      (portal a _).symm⟩
    exact List.mk_add_mem_zipIdx_iff_getElem?.mpr here

end Agree

section Genconfig

variable {blk : BlockCreateCli} {env : CreateEnv} {js : Journal}

/-- A create that succeeds, with a host list as the command line lets it through, on hosts
that all know timeouts. -/
structure TimedCreate (blk : BlockCreateCli) (env : CreateEnv) (js : Journal) : Prop where
  positive : 0 < blk.mpath
  listed : (blockServerParse blk.blockHosts).length = blk.mpath
  capable : ∀ a ∈ createArgs blk env, a.reports .createIoTimeout = true
  server : IsServerName env.volServer
  uuid : env.passwd ≠ ""
  blkSize : blk.blkSize < 2 ^ 32
  ioTimeout : blk.ioTimeout < 2 ^ 32
  succeeds : Succeeds blk env js

/-- The node's side of the create. -/
def createdOn (h : Addr) (obj : BlockCreate2) (behind : List UInt8) (node : CreateNode) : Target :=
  Target.empty.run (blockCreateCommon (glusterBlockCallCreate h obj behind) node).1

/-- The pass of `genconfig` for a host of the block. -/
structure GenConfigRun (genv : GenConfigEnv) (v : VolumeMeta) (name : String) (js : Journal)
    (volServer : String) : Prop where
  server : genv.conf.volServer = volServer
  distinct : genv.listing.Nodup
  metafile : v.metas.lookup name = some js

theorem call_blk (h : Addr) (obj : BlockCreate2) (behind : List UInt8) :
    (glusterBlockCallCreate h obj behind).blk = convertTypeCreate2ToCreate { obj with ipaddr := h } := by
  unfold glusterBlockCallCreate
  dsimp only
  split <;> rfl

/-- What the node is called with. -/
theorem timed_call (made : TimedCreate blk env js) {h : Addr} {obj : BlockCreate2} {exit : Int}
    (called : Ev.call h (.create obj) exit ∈ (blockCreateCli blk env none).evs)
    (behind : List UInt8) :
    ∃ resultCaps, js = auditedLines blk env resultCaps ∧ resultCaps .createIoTimeout = false ∧
      (glusterBlockCallCreate h obj behind).blk =
        convertTypeCreate2ToCreate { createObj blk env resultCaps with ipaddr := h } ∧
      (glusterBlockCallCreate h obj behind).carries
        ⟨env.volServer, blk.ioTimeout, createPrioPath env resultCaps, blk.rbSize, blk.blkSize⟩ := by
  obtain ⟨resultCaps, gate, lines, _⟩ := succeeds_lines made.positive made.succeeds
  obtain ⟨caps, same, rfl⟩ := create_call called
  cases gate.symm.trans same
  have timed := (gate_timeout gate).mpr (.inr made.capable)
  have xdata : (createObj blk env resultCaps).xdata = .v4 env.volServer blk.blkSize blk.ioTimeout := by
    simp [createObj, timed]
  refine ⟨resultCaps, lines, timed, call_blk .., ?_⟩
  have size := made.blkSize
  have timeout := made.ioTimeout
  have sent : ({ createObj blk env resultCaps with ipaddr := h } : BlockCreate2).xdata =
      .v4 env.volServer blk.blkSize blk.ioTimeout := xdata
  exact call_v4 made.server (by omega) (by omega) sent

/-- What the create made on the node. -/
theorem createdOn_eq {h : Addr} {obj : BlockCreate2} {behind : List UInt8} {node : CreateNode}
    (fresh : node.nameSaved = false) :
    createdOn h obj behind node =
      createdTarget (glusterBlockCallCreate h obj behind) node.ioTimeoutCap := by
  unfold createdOn blockCreateCommon
  rw [fresh, if_neg Bool.false_ne_true]
  split <;> rfl

theorem recorded_path (genv : GenConfigEnv) (name : String) (v : VolumeMeta)
    (recorded : (replay js).prioPath ≠ "") :
    (assignPrioPath genv name js v).1 = (replay js).prioPath := by
  unfold assignPrioPath
  rw [if_pos recorded]

theorem emitted_block {genv : GenConfigEnv} {v : VolumeMeta} {name volServer : String}
    (run : GenConfigRun genv v name js volServer) {h : Addr} {p : SoObj × TgObj}
    (emitted : p ∈ (getSoTgArrays genv h v ⟨[], []⟩).2.1.pairs) (block : p.1.name = name) :
    Emits genv h name js p := by
  rcases loop_emits run.distinct v ⟨[], []⟩ rfl emitted with start | ⟨other, _, js', there, v', valid, rfl⟩
  · cases start
  · obtain rfl : other = name := block
    cases run.metafile.symm.trans there
    exact ⟨v', valid, rfl⟩

theorem storage_same {resultCaps : Caps} {info : MetaInfo} {args : CommonArgs} {conf : GenConf}
    {h : Addr} (recorded : RecordsCreate blk env resultCaps info)
    (argBlk : args.blk = convertTypeCreate2ToCreate { createObj blk env resultCaps with ipaddr := h })
    (server : args.volServer = some env.volServer)
    (control : args.control = controlText blk.rbSize blk.blkSize)
    (same : conf.volServer = env.volServer) (capable : Bool) (groups : List (String × Nat))
    (settings : List (String × String × Nat)) (path : Addr) :
    SameStorage h { backstoreOf args capable with
        cmdTimeOut := some gbCmdTimeOut, aluaTpgs := groups, aluaSettings := settings }
      (getSoObj conf blk.blockName { info with prioPath := path } h) := by
  have name : args.blk.blockName = blk.blockName := by rw [argBlk]; rfl
  have size : args.blk.size = createSize blk env := by rw [argBlk]; rfl
  have gbid : args.blk.gbid = env.gbid := by rw [argBlk]; rfl
  have volume : args.blk.volume = blk.volume := by rw [argBlk]; rfl
  constructor
  · exact name.symm
  · exact ⟨recorded.size.trans size.symm, recorded.size.trans size.symm⟩
  · exact recorded.gbid.trans gbid.symm
  · exact recorded.volume.trans volume.symm
  · exact recorded.gbid.trans gbid.symm
  · have script : args.volServer.getD args.blk.ipaddr = env.volServer := by rw [server]; rfl
    by_cases localhost : conf.volServer = "localhost"
    · exact .inr ⟨script.trans (same ▸ localhost), if_pos localhost⟩
    · exact .inl ((if_neg localhost).trans (same.trans script.symm))
  · change SameControl args.control (genControl info.rbSize info.blkSize)
    rw [control, recorded.rbSize, recorded.blkSize]
    exact control_same blk.rbSize blk.blkSize
  · rfl

/-- The objects agree with the script up to a default timeout and to the path of a block
that has none. -/
theorem genconfig_regenerates {genv : GenConfigEnv} {v : VolumeMeta} {h : Addr} {obj : BlockCreate2}
    {exit : Int} {behind : List UInt8} {node : CreateNode} {p : SoObj × TgObj}
    (made : TimedCreate blk env js)
    (called : Ev.call h (.create obj) exit ∈ (blockCreateCli blk env none).evs)
    (fresh : node.nameSaved = false) (run : GenConfigRun genv v blk.blockName js env.volServer)
    (emitted : p ∈ (getSoTgArrays genv h v ⟨[], []⟩).2.1.pairs) (block : p.1.name = blk.blockName) :
    ∃ v', RegeneratedAs h (glusterBlockCallCreate h obj behind)
      (assignPrioPath genv blk.blockName js v').1 (createdOn h obj behind node) p := by
  obtain ⟨v', valid, rfl⟩ := emitted_block run emitted block
  obtain ⟨resultCaps, lines, timed, argBlk, server, timeout, prio, control⟩ :=
    timed_call made called behind
  have info : RecordsCreate blk env resultCaps (replay js) := lines ▸ audited_info blk env resultCaps
  have recorded : (replay js).ioTimeout = blk.ioTimeout := by rw [info.ioTimeout, timed]; rfl
  have listed : ∀ a, a ∈ validHosts js ↔
      a ∈ (glusterBlockCallCreate h obj behind).hosts := by
    intro a
    have all : createHosts blk = blockServerParse blk.blockHosts := by
      rw [createHosts, ← made.listed, List.take_length]
    have full := made.succeeds.2
    rw [lines] at full ⊢
    rw [audited_valid (Nat.le_of_eq made.listed.symm) full a, all, CommonArgs.hosts, argBlk]
    rfl
  refine ⟨v', ?_⟩
  rw [createdOn_eq fresh]
  let args := glusterBlockCallCreate h obj behind
  let path := (assignPrioPath genv blk.blockName js v').1
  have auth : (if (replay js).passwd ≠ "" then some ((replay js).gbid, (replay js).passwd) else none) =
      if args.blk.authMode then some (args.blk.gbid, args.blk.passwd) else none := by
    rw [info.passwd, info.gbid, argBlk]
    change _ = if blk.authMode then some (env.gbid, if blk.authMode then env.passwd else "") else none
    cases blk.authMode with
    | false => rfl
    | true => exact if_pos made.uuid
  have own : args.blk.ipaddr = h := by rw [argBlk]; rfl
  have portals : ∀ a c, (getTgObj genv.conf blk.blockName { replay js with prioPath := path } h).offers
      a c ↔ ∃ was, (createdTarget args node.ioTimeoutCap).offers a was ∧
        c = { was with aluaGroup := aluaGroup path a } := by
    intro a c
    rw [generated_offers, auth]
    simp only [created_offers, own]
    constructor
    · rintro ⟨there, rfl⟩
      exact ⟨_, ⟨(listed a).mp there, rfl⟩, rfl⟩
    · rintro ⟨_, ⟨there, rfl⟩, rfl⟩
      exact ⟨(listed a).mpr there, rfl⟩
  obtain ⟨groups, settings, backstore⟩ := created_backstore args node.ioTimeoutCap
  constructor
  · refine ⟨_, backstore, ?_, fun given => ?_⟩
    · exact storage_same info argBlk server control run.server _ groups settings _
    · change (replay js).ioTimeout = args.timeout node.ioTimeoutCap
      rw [recorded, CommonArgs.timeout, if_neg (fun none => given none.1), timeout]
  · rw [created_iqn, argBlk]
    exact congrArg (fun gbid => some (gbTgcliIqnPrefix ++ gbid)) info.gbid.symm
  · exact portals
  · intro chosen a c
    have kept : path = args.prio := by
      have same : (replay js).prioPath = args.prio := info.prioPath.trans prio.symm
      exact (recorded_path genv blk.blockName v' (same ▸ chosen)).trans same
    rw [portals, kept]
    simp only [created_offers]
    constructor
    · rintro ⟨_, ⟨there, rfl⟩, rfl⟩
      exact ⟨there, rfl⟩
    · rintro ⟨there, rfl⟩
      exact ⟨_, ⟨there, rfl⟩, rfl⟩

section Sample

def timedSample : BlockCreateCli :=
  { oneHost with ioTimeout := 30, rbSize := 8, authMode := true }

/-- The hosts lack `lacking`. -/
def timedEnv (lacking : List GbCapability) : CreateEnv :=
  { createSampleEnv [] with
    caps := fun _ => .replied 0 (GbCapability.all.map (fun i =>
      { cap := gbCapabilitiesLookup i, status := decide (i ∉ lacking) }))
    prioPath := "10.0.0.1"
    passwd := "5cdb7c3b-4b47-4de2-b7d2-13fd26ba0ae5" }

def timedJournal (lacking : List GbCapability) : Journal :=
  (metaAfter none (blockCreateCli timedSample (timedEnv lacking) none).evs).getD []

def timedGenEnv : GenConfigEnv where
  conf := ⟨"localhost", fun name _ => name⟩
  listing := ["block"]
  prioCalls := .good
  readMeta := fun _ => true
  update := fun _ => .ok

def timedVolume (lacking : List GbCapability) : VolumeMeta where
  metas := AList.insert "block" (timedJournal lacking) ∅
  prio := fun _ => none

def timedObj (resultCaps : Caps) (lacking : List GbCapability) : BlockCreate2 :=
  { createObj timedSample (timedEnv lacking) resultCaps with ipaddr := "10.0.0.1" }

def timedObjects (lacking : List GbCapability) : SoObj × TgObj :=
  let info := { replay (timedJournal lacking) with prioPath := "10.0.0.1" }
  (getSoObj timedGenEnv.conf "block" info "10.0.0.1",
    getTgObj timedGenEnv.conf "block" info "10.0.0.1")

theorem timed_create {lacking : List GbCapability}
    (lacks : lacking = [] ∨ lacking = [.createLoadBalance]) :
    TimedCreate timedSample (timedEnv lacking) (timedJournal lacking) where
  positive := by decide
  listed := by decide
  capable := by rcases lacks with rfl | rfl <;> decide
  server := localhost_name
  uuid := by
    change "5cdb7c3b-4b47-4de2-b7d2-13fd26ba0ae5" ≠ ""
    decide
  blkSize := by decide
  ioTimeout := by decide
  succeeds := by rcases lacks with rfl | rfl <;> exact ⟨by decide, by decide⟩

theorem timed_run (lacking : List GbCapability) :
    GenConfigRun timedGenEnv (timedVolume lacking) "block" (timedJournal lacking) "localhost" where
  server := rfl
  distinct := by decide
  metafile := AList.lookup_insert _

theorem timed_emitted {lacking : List GbCapability}
    (lacks : lacking = [] ∨ lacking = [.createLoadBalance]) :
    timedObjects lacking ∈
      (getSoTgArrays timedGenEnv "10.0.0.1" (timedVolume lacking) ⟨[], []⟩).2.1.pairs := by
  rcases lacks with rfl | rfl <;> decide

theorem genconfig_regenerates_sample :
    ∃ v', RegeneratedAs "10.0.0.1"
      (glusterBlockCallCreate "10.0.0.1" (timedObj (fun _ => false) []) [])
      (assignPrioPath timedGenEnv "block" (timedJournal []) v').1
      (createdOn "10.0.0.1" (timedObj (fun _ => false) []) [] ⟨false, true, true⟩)
      (timedObjects []) :=
  genconfig_regenerates (timed_create (.inl rfl))
    (show Ev.call "10.0.0.1" (.create (timedObj (fun _ => false) [])) 0 ∈
      (blockCreateCli timedSample (timedEnv []) none).evs by decide)
    rfl (timed_run []) (timed_emitted (.inl rfl)) rfl

/-- Without load balancing the create gives the block no path, and `genconfig` gives it
one. -/
theorem unrecorded_path_differs :
    let lacking := [GbCapability.createLoadBalance]
    let obj := timedObj (fun i => i == .createLoadBalance) lacking
    TimedCreate timedSample (timedEnv lacking) (timedJournal lacking) ∧
      Ev.call "10.0.0.1" (.create obj) 0 ∈
        (blockCreateCli timedSample (timedEnv lacking) none).evs ∧
      GenConfigRun timedGenEnv (timedVolume lacking) "block" (timedJournal lacking) "localhost" ∧
      timedObjects lacking ∈
        (getSoTgArrays timedGenEnv "10.0.0.1" (timedVolume lacking) ⟨[], []⟩).2.1.pairs ∧
      ¬ Regenerated "10.0.0.1" (createdOn "10.0.0.1" obj [] ⟨false, true, true⟩)
        (timedObjects lacking) := by
  intro lacking obj
  refine ⟨timed_create (.inr rfl), by decide, timed_run _, timed_emitted (.inr rfl), fun same => ?_⟩
  let made : PortalConfig := ⟨true, some ("6b60c53c-8ce0-4d8d-a42c-5b546bca3d09",
    "5cdb7c3b-4b47-4de2-b7d2-13fd26ba0ae5"), none⟩
  have offered : (createdOn "10.0.0.1" obj [] ⟨false, true, true⟩).offers "10.0.0.1" made := by
    rw [createdOn_eq rfl, created_offers]
    exact ⟨by decide, by decide⟩
  obtain ⟨_, absurd⟩ := (generated_offers _ _ _ _ _ _).mp ((same.portals _ _).mpr offered)
  exact (nomatch congrArg PortalConfig.aluaGroup absurd)

end Sample

end Genconfig

end GlusterBlock
