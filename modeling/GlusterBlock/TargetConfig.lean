import GlusterBlock.CreateWire
import GlusterBlock.GenConfig

/-! The target of a block on a node: what one command of `targetcli` does to it, and the
script that `block_create_common` runs. -/
namespace GlusterBlock

structure Tpg where
  lun : Option String := none
  aluaGroup : Option String := none
  portals : List Addr := []
  enabled : Bool := false
  attributes : List (String × Nat) := []
  auth : Option (String × String) := none
  deriving DecidableEq, Repr

/-- The commands on one portal group. -/
inductive TpgCmd where
  | lunCreate (path : String)
  | lunAlua (group : String)
  | portalCreate (addr : Addr)
  | portalDelete (addr : Addr)
  | enable
  | setAttributes (attrs : List (String × Nat))
  | setAuth (userid password : String)
  deriving DecidableEq, Repr

def Tpg.exec (t : Tpg) : TpgCmd → Tpg
  | .lunCreate path => { t with lun := some path }
  | .lunAlua group => { t with aluaGroup := some group }
  | .portalCreate addr => { t with portals := t.portals ++ [addr] }
  | .portalDelete addr => { t with portals := t.portals.filter (· ≠ addr) }
  | .enable => { t with enabled := true }
  | .setAttributes attrs => { t with attributes := t.attributes ++ attrs }
  | .setAuth userid password => { t with auth := some (userid, password) }

def Tpg.run (t : Tpg) (cs : List TpgCmd) : Tpg := cs.foldl Tpg.exec t

/-- The control parameters are a text of their own behind ` control=`. -/
structure Backstore where
  name : String
  size : Nat
  cfg : CfgString
  control : Option String
  wwn : String
  cmdTimeOut : Option Nat := none
  aluaTpgs : List (String × Nat) := []
  aluaSettings : List (String × String × Nat) := []
  deriving DecidableEq, Repr

structure Target where
  backstore : Option Backstore
  iqn : Option String
  tpgs : Nat → Option Tpg

def Target.empty : Target := ⟨none, none, fun _ => none⟩

inductive TargetCmd where
  | backstoreCreate (b : Backstore)
  | setCmdTimeOut (n : Nat)
  | aluaCreate (group : String) (tag : Nat)
  | aluaSet (group attr : String) (value : Nat)
  | iqnCreate (iqn : String)
  | tpgCreate (tag : Nat)
  | onTpg (tag : Nat) (cmd : TpgCmd)
  deriving DecidableEq, Repr

/-- A new target has its first portal group already. -/
def Target.exec (s : Target) : TargetCmd → Target
  | .backstoreCreate b => { s with backstore := some b }
  | .setCmdTimeOut n =>
    { s with backstore := s.backstore.map (fun b => { b with cmdTimeOut := some n }) }
  | .aluaCreate group tag =>
    { s with backstore := s.backstore.map (fun b =>
        { b with aluaTpgs := b.aluaTpgs ++ [(group, tag)] }) }
  | .aluaSet group attr value =>
    { s with backstore := s.backstore.map (fun b =>
        { b with aluaSettings := b.aluaSettings ++ [(group, attr, value)] }) }
  | .iqnCreate iqn => { s with iqn := some iqn, tpgs := Function.update s.tpgs 1 (some {}) }
  | .tpgCreate tag => { s with tpgs := Function.update s.tpgs tag (some {}) }
  | .onTpg tag cmd =>
    { s with tpgs := Function.update s.tpgs tag ((s.tpgs tag).map (fun t => t.exec cmd)) }

def Target.run (s : Target) (cs : List TargetCmd) : Target := cs.foldl Target.exec s

section Create

def gbIoTimeoutDef : Nat := 43
def gbTgcliGlfsPath : String := "/backstores/user:glfs"

/-- `generate_node_acls=1 demo_mode_write_protect=0` -/
def gbTgcliAttributes : List (String × Nat) :=
  [("generate_node_acls", 1), ("demo_mode_write_protect", 0)]

/-- No priority path and an empty one are the same. -/
def CommonArgs.prio (args : CommonArgs) : Addr := args.prioPath.getD ""

/-- The default stands in on a node that knows timeouts. -/
def CommonArgs.timeout (args : CommonArgs) (capable : Bool) : Nat :=
  if args.ioTimeout = 0 ∧ capable = true then gbIoTimeoutDef else args.ioTimeout

def CommonArgs.hosts (args : CommonArgs) : List Addr := blockServerParse args.blk.blockHosts

def backstoreOf (args : CommonArgs) (capable : Bool) : Backstore where
  name := args.blk.blockName
  size := args.blk.size
  cfg := {
    volume := args.blk.volume
    server := args.volServer.getD args.blk.ipaddr
    gbid := args.blk.gbid
    ioTimeout := args.timeout capable }
  control := args.control
  wwn := args.blk.gbid

def aluaCommands : List TargetCmd :=
  [.aluaCreate gbAluaAoTpgName 1, .aluaCreate gbAluaAnoTpgName 2,
   .aluaSet gbAluaAoTpgName "alua_access_type" 1, .aluaSet gbAluaAnoTpgName "alua_access_type" 1,
   .aluaSet gbAluaAoTpgName "alua_access_state" 0, .aluaSet gbAluaAnoTpgName "alua_access_state" 1,
   .aluaSet gbAluaAoTpgName "alua_support_offline" 0,
   .aluaSet gbAluaAoTpgName "alua_support_standby" 0,
   .aluaSet gbAluaAoTpgName "alua_support_unavailable" 0,
   .aluaSet gbAluaAnoTpgName "alua_support_offline" 0,
   .aluaSet gbAluaAnoTpgName "alua_support_standby" 0,
   .aluaSet gbAluaAnoTpgName "alua_support_unavailable" 0]

/-- The commands for the portal group of one host of the list. -/
def tpgCommands (args : CommonArgs) (host : Addr) : List TpgCmd :=
  let auth := if args.blk.authMode then [("authentication", 1)] else []
  [.lunCreate (gbTgcliGlfsPath ++ "/" ++ args.blk.blockName)] ++
    (if args.prio = "" then []
     else [.lunAlua (if args.prio = host then gbAluaAoTpgName else gbAluaAnoTpgName)]) ++
    [.portalCreate host] ++
    (if args.blk.ipaddr = host then [.enable, .setAttributes (auth ++ gbTgcliAttributes)]
     else [.setAttributes (("tpg_enabled_sendtargets", 0) :: auth ++ gbTgcliAttributes)]) ++
    if args.blk.authMode then [.setAuth args.blk.gbid args.blk.passwd] else []

def createCommands (args : CommonArgs) (capable : Bool) : List TargetCmd :=
  [.backstoreCreate (backstoreOf args capable), .setCmdTimeOut gbCmdTimeOut] ++
    (if args.prio = "" then [] else aluaCommands) ++
    [.iqnCreate (gbTgcliIqnPrefix ++ args.blk.gbid)] ++
    (List.range' 2 (args.hosts.length - 1)).map TargetCmd.tpgCreate ++
    (args.hosts.zipIdx 1).flatMap (fun h => (tpgCommands args h.1).map (TargetCmd.onTpg h.2))

/-- What the node knows when the call arrives: the name is in its saved configuration,
timeouts are a capability of its own, the script runs through. -/
structure CreateNode where
  nameSaved : Bool
  ioTimeoutCap : Bool
  runs : Bool
  deriving DecidableEq, Repr

/-- The commands that are run, the exit code and the message. -/
def blockCreateCommon (args : CommonArgs) (node : CreateNode) :
    List TargetCmd × Int × Option String :=
  if node.nameSaved then
    ([], -1, some ("block with name '" ++ args.blk.blockName ++
      "' already exist (Hint: may be hosted on a different block-hosting volume)"))
  else if node.runs then (createCommands args node.ioTimeoutCap, 0, none)
  else (createCommands args node.ioTimeoutCap, -1, some "configure failed")

end Create

section Run

variable {s : Target} {cs ds : List TargetCmd}

theorem run_append (s : Target) (cs ds : List TargetCmd) :
    s.run (cs ++ ds) = (s.run cs).run ds := List.foldl_append ..

/-- Commands on one portal group. -/
theorem run_onTpg (s : Target) (tag : Nat) (cs : List TpgCmd) :
    s.run (cs.map (TargetCmd.onTpg tag)) =
      { s with tpgs := Function.update s.tpgs tag ((s.tpgs tag).map (fun t => t.run cs)) } := by
  induction cs generalizing s with
  | nil =>
    have same : (s.tpgs tag).map (fun t => t.run []) = s.tpgs tag := by
      change (s.tpgs tag).map (fun t => t) = s.tpgs tag
      simp
    rw [same, Function.update_eq_self]
    rfl
  | cons c cs ih =>
    change (s.exec (.onTpg tag c)).run (cs.map (TargetCmd.onTpg tag)) = _
    rw [ih]
    simp only [Target.exec, Function.update_self, Option.map_map, Function.update_idem]
    rfl

/-- Each host of the list has its own portal group. -/
theorem run_hosts (cmds : Addr → List TpgCmd) (hosts : List Addr) (k : Nat) (s : Target) :
    let s' := s.run ((hosts.zipIdx k).flatMap (fun h => (cmds h.1).map (TargetCmd.onTpg h.2)))
    s'.backstore = s.backstore ∧ s'.iqn = s.iqn ∧ ∀ i, s'.tpgs i =
      (s.tpgs i).map (fun t => if k ≤ i then ((hosts[i - k]?).map (fun h => t.run (cmds h))).getD t
        else t) := by
  induction hosts generalizing k s with
  | nil =>
    refine ⟨rfl, rfl, fun i => ?_⟩
    change s.tpgs i = _
    simp
  | cons h hs ih =>
    intro s'
    have split : s' = (s.run ((cmds h).map (TargetCmd.onTpg k))).run
        ((hs.zipIdx (k + 1)).flatMap (fun h => (cmds h.1).map (TargetCmd.onTpg h.2))) := by
      change s.run _ = _
      rw [List.zipIdx_cons, List.flatMap_cons, run_append]
    obtain ⟨backstore, iqn, tpgs⟩ := ih (k + 1) (s.run ((cmds h).map (TargetCmd.onTpg k)))
    rw [split]
    rw [run_onTpg] at backstore iqn tpgs ⊢
    refine ⟨backstore, iqn, fun i => ?_⟩
    rw [tpgs i]
    rcases Nat.lt_trichotomy i k with before | rfl | behind
    · have other : i ≠ k := Nat.ne_of_lt before
      dsimp only
      rw [Function.update_of_ne other]
      simp [Nat.not_le.mpr before, show ¬ k + 1 ≤ i by omega]
    · dsimp only
      rw [Function.update_self]
      cases s.tpgs i <;> simp
    · have other : i ≠ k := Nat.ne_of_gt behind
      obtain ⟨n, rfl⟩ : ∃ n, i = k + 1 + n := ⟨i - (k + 1), by omega⟩
      have next : k + 1 + n - k = n + 1 := by omega
      dsimp only
      rw [Function.update_of_ne other, next]
      simp [show k ≤ k + 1 + n by omega]

theorem run_tpgCreate (tags : List Nat) (s : Target) :
    let s' := s.run (tags.map TargetCmd.tpgCreate)
    s'.backstore = s.backstore ∧ s'.iqn = s.iqn ∧
      ∀ i, s'.tpgs i = if i ∈ tags then some {} else s.tpgs i := by
  induction tags generalizing s with
  | nil => exact ⟨rfl, rfl, fun i => by simp [Target.run]⟩
  | cons tag tags ih =>
    obtain ⟨backstore, iqn, tpgs⟩ := ih (s.exec (.tpgCreate tag))
    refine ⟨backstore, iqn, fun i => ?_⟩
    change ((s.exec (.tpgCreate tag)).run (tags.map TargetCmd.tpgCreate)).tpgs i = _
    rw [tpgs i]
    by_cases same : i = tag
    · subst i
      simp [Target.exec]
    · simp [Target.exec, same]

end Run

section Created

variable (args : CommonArgs) (capable : Bool)

/-- What the script of a create makes. -/
def createdTarget : Target := Target.empty.run (createCommands args capable)

def createdTpg (host : Addr) : Tpg := Tpg.run {} (tpgCommands args host)

theorem created_backstore : ∃ groups settings, (createdTarget args capable).backstore =
    some { backstoreOf args capable with
      cmdTimeOut := some gbCmdTimeOut, aluaTpgs := groups, aluaSettings := settings } := by
  unfold createdTarget createCommands
  rw [run_append, (run_hosts (tpgCommands args) args.hosts 1 _).1, run_append,
    (run_tpgCreate _ _).1]
  by_cases prio : args.prio = ""
  · rw [if_pos prio]
    exact ⟨_, _, rfl⟩
  · rw [if_neg prio]
    exact ⟨_, _, rfl⟩

theorem created_iqn : (createdTarget args capable).iqn = some (gbTgcliIqnPrefix ++ args.blk.gbid) := by
  unfold createdTarget createCommands
  rw [run_append, (run_hosts (tpgCommands args) args.hosts 1 _).2.1, run_append,
    (run_tpgCreate _ _).2.1, run_append]
  rfl

theorem hosts_positive : 0 < args.hosts.length := by
  unfold CommonArgs.hosts blockServerParse
  rw [List.length_map]
  exact List.length_pos_of_ne_nil (List.splitOn_ne_nil _ _)

/-- The portal groups are numbered as the hosts are listed. -/
theorem created_tpgs (i : Nat) : (createdTarget args capable).tpgs i =
    if i = 0 then none else (args.hosts[i - 1]?).map (createdTpg args) := by
  have positive := hosts_positive args
  unfold createdTarget createCommands
  rw [run_append, (run_hosts (tpgCommands args) args.hosts 1 _).2.2, run_append,
    (run_tpgCreate _ _).2.2]
  have start : ∀ cs : List TargetCmd, (∀ c ∈ cs, ∀ s : Target, (s.exec c).tpgs = s.tpgs) →
      ∀ s : Target, (s.run cs).tpgs = s.tpgs := by
    intro cs
    induction cs with
    | nil => exact fun _ _ => rfl
    | cons c cs ih =>
      intro quiet s
      exact (ih (fun c' h => quiet c' (List.mem_cons_of_mem _ h)) (s.exec c)).trans
        (quiet c List.mem_cons_self s)
  have groups : ∀ i, (Target.empty.run ([.backstoreCreate (backstoreOf args capable),
      .setCmdTimeOut gbCmdTimeOut] ++ (if args.prio = "" then [] else aluaCommands) ++
      [.iqnCreate (gbTgcliIqnPrefix ++ args.blk.gbid)])).tpgs i = if i = 1 then some {} else none := by
    intro i
    rw [run_append]
    change Function.update _ 1 _ i = _
    rw [start]
    · by_cases first : i = 1
      · subst i
        simp
      · simp [first, Target.empty]
    · intro c hc s
      split at hc
      · simp only [List.append_nil, List.mem_cons, List.not_mem_nil, or_false] at hc
        rcases hc with rfl | rfl <;> rfl
      · simp only [aluaCommands, List.cons_append, List.nil_append, List.mem_cons,
          List.not_mem_nil, or_false] at hc
        rcases hc with rfl | rfl | rfl | rfl | rfl | rfl | rfl | rfl | rfl | rfl | rfl | rfl | rfl |
          rfl <;> rfl
  rw [groups]
  simp only [List.mem_range'_1]
  rcases Nat.eq_zero_or_pos i with rfl | after
  · simp
  · rw [if_neg (by omega : ¬ i = 0)]
    by_cases listed : i - 1 < args.hosts.length
    · have made : (if 2 ≤ i ∧ i < 2 + (args.hosts.length - 1) then some ({} : Tpg)
          else if i = 1 then some {} else none) = some {} := by
        split_ifs <;> first | rfl | omega
      rw [made, List.getElem?_eq_getElem listed]
      simp [createdTpg, show 1 ≤ i from after]
    · have none : (if 2 ≤ i ∧ i < 2 + (args.hosts.length - 1) then some ({} : Tpg)
          else if i = 1 then some {} else none) = none := by
        split_ifs <;> first | rfl | omega
      rw [none, List.getElem?_eq_none (Nat.not_lt.mp listed)]
      rfl

end Created

/-- What an initiator finds behind a portal. -/
structure PortalConfig where
  enabled : Bool
  chap : Option (String × String)
  aluaGroup : Option String
  deriving DecidableEq, Repr

def Target.offers (s : Target) (a : Addr) (c : PortalConfig) : Prop :=
  ∃ i t, s.tpgs i = some t ∧ a ∈ t.portals ∧ c = ⟨t.enabled, t.auth, t.aluaGroup⟩

/-- The group of a portal under a priority path, none where there is no path. -/
def aluaGroup (path portal : Addr) : Option String :=
  if path = "" then none
  else some (if path = portal then gbAluaAoTpgName else gbAluaAnoTpgName)

theorem createdTpg_eq (args : CommonArgs) (host : Addr) :
    (createdTpg args host).portals = [host] ∧
      (createdTpg args host).enabled = decide (args.blk.ipaddr = host) ∧
      (createdTpg args host).auth =
        (if args.blk.authMode then some (args.blk.gbid, args.blk.passwd) else none) ∧
      (createdTpg args host).aluaGroup = aluaGroup args.prio host := by
  unfold createdTpg tpgCommands aluaGroup
  by_cases prio : args.prio = "" <;> by_cases own : args.blk.ipaddr = host <;>
    cases args.blk.authMode <;> simp [prio, own, Tpg.run, Tpg.exec]

/-- A portal for each host of the list. -/
theorem created_offers (args : CommonArgs) (capable : Bool) (a : Addr) (c : PortalConfig) :
    (createdTarget args capable).offers a c ↔ a ∈ args.hosts ∧
      c = ⟨decide (args.blk.ipaddr = a),
        if args.blk.authMode then some (args.blk.gbid, args.blk.passwd) else none,
        aluaGroup args.prio a⟩ := by
  constructor
  · rintro ⟨i, t, there, ha, rfl⟩
    rw [created_tpgs] at there
    split at there
    · cases there
    · obtain ⟨host, listed, rfl⟩ := Option.map_eq_some_iff.mp there
      obtain ⟨portals, enabled, auth, group⟩ := createdTpg_eq args host
      rw [portals] at ha
      obtain rfl := List.mem_singleton.mp ha
      rw [enabled, auth, group]
      exact ⟨List.mem_of_getElem? listed, rfl⟩
  · rintro ⟨ha, rfl⟩
    obtain ⟨i, listed⟩ := List.getElem?_of_mem ha
    obtain ⟨portals, enabled, auth, group⟩ := createdTpg_eq args a
    refine ⟨i + 1, createdTpg args a, ?_, ?_, ?_⟩
    · rw [created_tpgs, if_neg (Nat.succ_ne_zero i), Nat.add_sub_cancel, listed]
      rfl
    · rw [portals]
      exact List.mem_singleton.mpr rfl
    · rw [enabled, auth, group]

end GlusterBlock
