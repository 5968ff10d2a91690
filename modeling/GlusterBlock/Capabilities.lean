import GlusterBlock.Rpc

/-! The capability check of a request: what the request needs, what the hosts
answered, and the gate that create puts behind the check. -/
namespace GlusterBlock

inductive GbCapability where
  | create | createHa | createPrealloc | createAuth
  | delete | deleteForce
  | modify | modifyAuth | modifySize
  | replace
  | createRingBuffer | createLoadBalance
  | json
  | createBlockSize
  | reload
  | createIoTimeout
  deriving DecidableEq, Repr

namespace GbCapability

/-- In the order of the enum. -/
def all : List GbCapability :=
  [create, createHa, createPrealloc, createAuth, delete, deleteForce, modify, modifyAuth,
   modifySize, replace, createRingBuffer, createLoadBalance, json, createBlockSize, reload,
   createIoTimeout]

theorem mem_all (cap : GbCapability) : cap ∈ all := by
  cases cap <;> decide

end GbCapability

def gbCapabilitiesLookup : GbCapability → String
  | .create => "create"
  | .createHa => "create_ha"
  | .createPrealloc => "create_prealloc"
  | .createAuth => "create_auth"
  | .createRingBuffer => "create_ring_buffer"
  | .createLoadBalance => "create_load_balance"
  | .createBlockSize => "create_block_size"
  | .createIoTimeout => "create_io_timeout"
  | .delete => "delete"
  | .deleteForce => "delete_force"
  | .modify => "modify"
  | .modifyAuth => "modify_auth"
  | .modifySize => "modify_size"
  | .replace => "replace"
  | .json => "json"
  | .reload => "reload"

abbrev Caps := GbCapability → Bool

def JsonResponseFormat.given : JsonResponseFormat → Bool
  | .none => false
  | _ => true

inductive CapRequest where
  | create (blk : BlockCreateCli)
  | delete (blk : BlockDeleteCli)
  | modify (blk : BlockModifyCli)
  | modifySize (blk : BlockModifySizeCli)
  | replace (blk : BlockReplaceCli)
  | reload (blk : BlockReloadCli)
  deriving DecidableEq, Repr

def glusterBlockBuildMinCaps : CapRequest → Caps
  | .create blk => fun
    | .create => true
    | .createHa => blk.mpath > 1
    | .createPrealloc => blk.prealloc
    | .createAuth => blk.authMode
    | .createRingBuffer => blk.rbSize != 0
    | .createBlockSize => blk.blkSize != 0
    | .createLoadBalance => true
    | .json => blk.jsonResp.given
    | .createIoTimeout => blk.ioTimeout != 0
    | _ => false
  | .delete blk => fun
    | .delete => true
    | .deleteForce => blk.force
    | .json => blk.jsonResp.given
    | _ => false
  | .modify blk => fun
    | .modify => true
    | .modifyAuth => blk.authMode
    | .json => blk.jsonResp.given
    | _ => false
  | .modifySize blk => fun
    | .modifySize => true
    | .json => blk.jsonResp.given
    | _ => false
  | .replace blk => fun
    | .replace => true
    | .json => blk.jsonResp.given
    | _ => false
  | .reload blk => fun
    | .reload => true
    | .json => blk.jsonResp.given
    | _ => false

structure GbCapObj where
  cap : String
  status : Bool
  deriving DecidableEq, Repr

/-- What becomes of the version call to one host. -/
inductive VersionCall where
  | notSent
  | failed (stat : Int) (nonzero : stat ≠ 0)
  | replied (exit : Int) (caps : List GbCapObj)
  deriving Repr

/-- A host of this version with everything it needs. -/
def allCapable : Nat → VersionCall :=
  fun _ => .replied 0
    (GbCapability.all.map (fun i => { cap := gbCapabilitiesLookup i, status := true }))

/-- `blockRemoteObj` after the call: the exit code and the parsed reply. -/
structure CapArg where
  addr : Addr
  exit : Int
  reply : Option (List GbCapObj)
  deriving DecidableEq, Repr

def glusterBlockCapabilitiesRemote (addr : Addr) : VersionCall → CapArg
  | .notSent => { addr := addr, exit := -eNOTCONN, reply := none }
  | .failed stat _ => { addr := addr, exit := stat, reply := none }
  | .replied exit caps => { addr := addr, exit := exit, reply := some caps }

/-- What a daemon without the version call is taken to support. -/
def glusterBlockMimicOldCaps : List GbCapObj :=
  ["create", "create_ha", "create_prealloc", "create_auth", "delete", "delete_force", "modify",
   "modify_auth", "json"].map (fun cap => { cap := cap, status := true })

def CapArg.caps (a : CapArg) : Option (List GbCapObj) :=
  if a.exit = rpcProcunavail then some glusterBlockMimicOldCaps else a.reply

def capEnabled (caps : List GbCapObj) (i : GbCapability) : Bool :=
  caps.any (fun c => gbCapabilitiesLookup i == c.cap && c.status)

inductive HostScan where
  | allMatch
  | noMatch (addr : Addr)
  | noReply (addr : Addr)
  deriving DecidableEq, Repr

/-- The loop over the hosts for one capability, up to the first host without it. -/
def scanHosts (i : GbCapability) : List CapArg → HostScan
  | [] => .allMatch
  | a :: args =>
    match a.caps with
    | none => .noReply a.addr
    | some caps => if capEnabled caps i then scanHosts i args else .noMatch a.addr

structure CapResult where
  ret : Int
  resultCaps : Option Caps
  errMsg : Option String

def notSupported (i : GbCapability) (addr : Addr) : String :=
  "the capability '" ++ gbCapabilitiesLookup i ++ "' is not supported on host " ++ addr ++
    " yet, " ++
    (if i = .createBlockSize then "please upgrade rtslib >= 2.1.70" else "please upgrade") ++ "."

/-- The loop over the capabilities. A caller that passes a result array has every
missing capability recorded there and the loop goes on. -/
def scanCaps (args : List CapArg) (minCaps : Caps) :
    List GbCapability → Option Caps → Option String → CapResult
  | [], resultCaps, errMsg =>
    let recorded := resultCaps.any (fun r => GbCapability.all.any r)
    { ret := if recorded then -1 else 0, resultCaps := resultCaps, errMsg := errMsg }
  | i :: is, resultCaps, errMsg =>
    if minCaps i then
      match scanHosts i args with
      | .allMatch => scanCaps args minCaps is resultCaps errMsg
      | .noReply addr =>
        { ret := -1, resultCaps := resultCaps, errMsg := some ("capability empty on " ++ addr) }
      | .noMatch addr =>
        match resultCaps with
        | some r =>
          scanCaps args minCaps is (some (Function.update r i true)) (some (notSupported i addr))
        | none => { ret := -1, resultCaps := none, errMsg := some (notSupported i addr) }
    else scanCaps args minCaps is resultCaps errMsg

def blockRemoteCapabilitiesRespParse (args : List CapArg) (minCaps : Caps)
    (resultCaps : Option Caps) : CapResult :=
  match args.find? (fun a => a.exit != rpcProcunavail && a.exit != 0) with
  | some a =>
    { ret := a.exit, resultCaps := resultCaps,
      errMsg := some ("host " ++ a.addr ++ " returned " ++ toString a.exit) }
  | none => scanCaps args minCaps GbCapability.all resultCaps none

def glusterBlockCheckCapabilities (req : CapRequest) (args : List CapArg)
    (resultCaps : Option Caps) : CapResult :=
  let res := blockRemoteCapabilitiesRespParse args (glusterBlockBuildMinCaps req) resultCaps
  if res.ret = 0 then { res with errMsg := none }
  else if res.ret = -eNOTCONN then
    { res with
      errMsg := some ("Version check failed [" ++ res.errMsg.getD "(null)" ++ "] (Hint: See if all "
        ++ "servers are up and running gluster-blockd daemon)") }
  else
    { res with
      errMsg := some ("Version check failed between block servers. (" ++
        res.errMsg.getD "(null)" ++ ")") }

/-- The check in `block_create_cli`: the result array on the way on, the exit
code and message on the way out. -/
def createCapGate (blk : BlockCreateCli) (args : List CapArg) : Except (Int × Option String) Caps :=
  let res := glusterBlockCheckCapabilities (.create blk) args (some (fun _ => false))
  let resultCaps := res.resultCaps.getD (fun _ => false)
  if res.ret ≠ 0 ∧ ¬ resultCaps .createLoadBalance then .error (res.ret, res.errMsg)
  else .ok resultCaps

def capArgs (hosts : List Addr) (calls : Nat → VersionCall) : List CapArg :=
  hosts.zipIdx.map (fun h => glusterBlockCapabilitiesRemote h.1 (calls h.2))

section Gate

def CapArg.answered (a : CapArg) : Prop := a.exit = 0 ∨ a.exit = rpcProcunavail

/-- The host reports the capability enabled, by itself or as an old daemon. -/
def CapArg.reports (a : CapArg) (i : GbCapability) : Bool :=
  a.caps.any (fun caps => capEnabled caps i)

theorem capArgs_caps {hosts : List Addr} {calls : Nat → VersionCall} {a : CapArg}
    (ha : a ∈ capArgs hosts calls) (answered : a.answered) : ∃ caps, a.caps = some caps := by
  obtain ⟨⟨addr, n⟩, _, rfl⟩ := List.mem_map.mp ha
  by_cases old : (glusterBlockCapabilitiesRemote addr (calls n)).exit = rpcProcunavail
  · exact ⟨_, if_pos old⟩
  · have zero := answered.resolve_right old
    rw [CapArg.caps, if_neg old]
    cases hc : calls n with
    | notSent => rw [hc] at zero; cases zero
    | failed stat nonzero => rw [hc] at zero; exact absurd zero nonzero
    | replied exit caps => exact ⟨caps, rfl⟩

/-- With a reply from every host the scan finds a host without the capability
or finds that there is none. -/
theorem scanHosts_cases (i : GbCapability) {args : List CapArg}
    (replied : ∀ a ∈ args, ∃ caps, a.caps = some caps) :
    (∀ a ∈ args, a.reports i = true) ∧ scanHosts i args = .allMatch ∨
    (∃ a ∈ args, a.reports i = false) ∧ ∃ addr, scanHosts i args = .noMatch addr := by
  induction args with
  | nil => exact .inl ⟨by simp, rfl⟩
  | cons a args ih =>
    obtain ⟨caps, hcaps⟩ := replied a List.mem_cons_self
    have reports : a.reports i = capEnabled caps i := by rw [CapArg.reports, hcaps]; rfl
    cases enabled : capEnabled caps i with
    | false =>
      refine .inr ⟨⟨a, List.mem_cons_self, reports.trans enabled⟩, a.addr, ?_⟩
      simp [scanHosts, hcaps, enabled]
    | true =>
      have head : scanHosts i (a :: args) = scanHosts i args := by
        simp [scanHosts, hcaps, enabled]
      rw [head]
      rcases ih (fun b hb => replied b (List.mem_cons_of_mem _ hb)) with ⟨all, hs⟩ | ⟨⟨b, hb, hr⟩, hs⟩
      · refine .inl ⟨fun b hb => ?_, hs⟩
        rcases List.mem_cons.mp hb with rfl | hb
        · exact reports.trans enabled
        · exact all b hb
      · exact .inr ⟨⟨b, List.mem_cons_of_mem _ hb, hr⟩, hs⟩

/-- What the result array holds after the capabilities `is` were looked at. -/
def recordedCaps (args : List CapArg) (minCaps : Caps) (is : List GbCapability) (r : Caps) : Caps :=
  fun i => r i || (decide (i ∈ is) && minCaps i && args.any (fun a => !a.reports i))

theorem recordedCaps_cons (args : List CapArg) (minCaps : Caps) (i : GbCapability)
    (is : List GbCapability) (r : Caps) :
    recordedCaps args minCaps (i :: is) r =
      recordedCaps args minCaps is
        (Function.update r i (r i || (minCaps i && args.any (fun a => !a.reports i)))) := by
  funext j
  by_cases hj : j = i
  · subst j
    simp only [recordedCaps, Function.update_self, List.mem_cons, true_or, decide_true]
    cases r i <;> cases minCaps i <;> simp
  · simp [recordedCaps, hj]

theorem scanCaps_recorded {args : List CapArg} (minCaps : Caps)
    (replied : ∀ a ∈ args, ∃ caps, a.caps = some caps) (is : List GbCapability) (r : Caps)
    (errMsg : Option String) :
    (scanCaps args minCaps is (some r) errMsg).resultCaps =
        some (recordedCaps args minCaps is r) ∧
      ((scanCaps args minCaps is (some r) errMsg).ret = 0 ↔
        ∀ i, recordedCaps args minCaps is r i = false) := by
  induction is generalizing r errMsg with
  | nil =>
    have keep : recordedCaps args minCaps [] r = r := by
      funext i
      simp [recordedCaps]
    rw [keep]
    refine ⟨rfl, ?_⟩
    have any : GbCapability.all.any r = false ↔ ∀ i, r i = false := by
      rw [List.any_eq_false]
      exact ⟨fun h i => Bool.eq_false_iff.mpr (h i (GbCapability.mem_all i)),
        fun h i _ => Bool.eq_false_iff.mp (h i)⟩
    rw [← any]
    cases hr : GbCapability.all.any r <;> simp [scanCaps, hr]
  | cons i is ih =>
    rw [recordedCaps_cons]
    cases needed : minCaps i with
    | false =>
      have same : Function.update r i (r i || (false && args.any (fun a => !a.reports i))) = r := by
        simp
      rw [same]
      simpa [scanCaps, needed] using ih r errMsg
    | true =>
      rcases scanHosts_cases i replied with ⟨all, hs⟩ | ⟨⟨a, ha, hr⟩, addr, hs⟩
      · have none : args.any (fun a => !a.reports i) = false := by
          rw [List.any_eq_false]
          intro a ha
          simp [all a ha]
        rw [none]
        simpa [scanCaps, needed, hs] using ih r errMsg
      · have some_host : args.any (fun a => !a.reports i) = true :=
          List.any_eq_true.mpr ⟨a, ha, by simp [hr]⟩
        rw [some_host]
        simpa [scanCaps, needed, hs] using ih (Function.update r i true) _

/-- Some host lacks a capability the request needs. -/
def lacks (blk : BlockCreateCli) (args : List CapArg) (i : GbCapability) : Prop :=
  glusterBlockBuildMinCaps (.create blk) i = true ∧ ∃ a ∈ args, a.reports i = false

theorem check_parse (req : CapRequest) (args : List CapArg) (resultCaps : Option Caps) :
    (glusterBlockCheckCapabilities req args resultCaps).ret =
        (blockRemoteCapabilitiesRespParse args (glusterBlockBuildMinCaps req) resultCaps).ret ∧
      (glusterBlockCheckCapabilities req args resultCaps).resultCaps =
        (blockRemoteCapabilitiesRespParse args (glusterBlockBuildMinCaps req)
          resultCaps).resultCaps := by
  unfold glusterBlockCheckCapabilities
  dsimp only
  split
  · exact ⟨rfl, rfl⟩
  · split <;> exact ⟨rfl, rfl⟩

theorem recorded_iff (blk : BlockCreateCli) (args : List CapArg) (i : GbCapability) :
    recordedCaps args (glusterBlockBuildMinCaps (.create blk)) GbCapability.all (fun _ => false) i =
      true ↔ lacks blk args i := by
  simp [recordedCaps, lacks, GbCapability.mem_all i]

/-- Create goes on when every host answered and either nothing is missing or load
balancing is. -/
theorem gate_open_iff (blk : BlockCreateCli) (hosts : List Addr) (calls : Nat → VersionCall) :
    (createCapGate blk (capArgs hosts calls)).isOk = true ↔
      (∀ a ∈ capArgs hosts calls, a.answered) ∧
        ((∀ i, ¬ lacks blk (capArgs hosts calls) i) ∨
          lacks blk (capArgs hosts calls) .createLoadBalance) := by
  have caps_of : ∀ a ∈ capArgs hosts calls, a.answered → ∃ caps, a.caps = some caps :=
    fun a ha => capArgs_caps ha
  generalize capArgs hosts calls = args at caps_of ⊢
  obtain ⟨hret, hcaps⟩ := check_parse (.create blk) args (some (fun _ => false))
  have open_iff : (createCapGate blk args).isOk = true ↔
      (glusterBlockCheckCapabilities (.create blk) args (some (fun _ => false))).ret = 0 ∨
      (glusterBlockCheckCapabilities (.create blk) args (some (fun _ => false))).resultCaps.getD
        (fun _ => false) .createLoadBalance = true := by
    unfold createCapGate
    dsimp only
    split
    · rename_i closed
      simp only [Except.isOk, Except.toBool, Bool.false_eq_true, false_iff, not_or]
      exact closed
    · rename_i passed
      simp only [Except.isOk, Except.toBool, true_iff]
      exact (not_and_or.mp passed).imp not_not.mp not_not.mp
  rw [open_iff, hret, hcaps]
  unfold blockRemoteCapabilitiesRespParse
  cases failed : args.find? (fun a => a.exit != rpcProcunavail && a.exit != 0) with
  | some a =>
    have bad := List.find?_some failed
    simp only [Bool.and_eq_true, bne_iff_ne] at bad
    have unanswered : ¬ ∀ a ∈ args, a.answered := fun all =>
      (all a (List.mem_of_find?_eq_some failed)).elim bad.2 bad.1
    simp [bad.2, unanswered]
  | none =>
    have answered : ∀ a ∈ args, a.answered := by
      intro a ha
      have good := List.find?_eq_none.mp failed a ha
      by_cases zero : a.exit = 0
      · exact .inl zero
      · exact .inr (by simpa [zero] using good)
    obtain ⟨caps, ret⟩ := scanCaps_recorded (glusterBlockBuildMinCaps (.create blk))
      (fun a ha => caps_of a ha (answered a ha)) GbCapability.all (fun _ => false) none
    have nothing : (∀ i, recordedCaps args (glusterBlockBuildMinCaps (.create blk))
        GbCapability.all (fun _ => false) i = false) ↔ ∀ i, ¬ lacks blk args i := by
      simp only [← recorded_iff, Bool.not_eq_true]
    simp only [ret, caps, nothing, Option.getD_some, recorded_iff]
    exact ⟨fun h => ⟨answered, h⟩, fun h => h.2⟩

/-- What passes the gate has recorded the capabilities that are needed and missing. -/
theorem gate_records {blk : BlockCreateCli} {hosts : List Addr} {calls : Nat → VersionCall}
    {resultCaps : Caps} (gate : createCapGate blk (capArgs hosts calls) = .ok resultCaps)
    (i : GbCapability) : resultCaps i = true ↔ lacks blk (capArgs hosts calls) i := by
  have opened : (createCapGate blk (capArgs hosts calls)).isOk = true := by
    rw [gate]
    rfl
  obtain ⟨answered, _⟩ := (gate_open_iff blk hosts calls).mp opened
  have replied : ∀ a ∈ capArgs hosts calls, ∃ caps, a.caps = some caps :=
    fun a ha => capArgs_caps ha (answered a ha)
  generalize capArgs hosts calls = args at gate answered replied ⊢
  obtain ⟨_, checked⟩ := check_parse (.create blk) args (some (fun _ => false))
  have passed : args.find? (fun a => a.exit != rpcProcunavail && a.exit != 0) = none := by
    apply List.find?_eq_none.mpr
    intro a ha
    rcases answered a ha with zero | old
    · simp [zero]
    · simp [old]
  have parsed : (blockRemoteCapabilitiesRespParse args (glusterBlockBuildMinCaps (.create blk))
      (some (fun _ => false))).resultCaps = some (recordedCaps args
        (glusterBlockBuildMinCaps (.create blk)) GbCapability.all (fun _ => false)) := by
    unfold blockRemoteCapabilitiesRespParse
    rw [passed]
    exact (scanCaps_recorded _ replied _ _ _).1
  unfold createCapGate at gate
  dsimp only at gate
  split at gate
  · cases gate
  · cases gate
    rw [checked, parsed]
    exact recorded_iff blk args i

/-- The gate does what it should unless load balancing is not the only needed
capability that some host lacks. -/
theorem capability_gate (blk : BlockCreateCli) (hosts : List Addr) (calls : Nat → VersionCall) :
    ((createCapGate blk (capArgs hosts calls)).isOk = true ↔
      (∀ a ∈ capArgs hosts calls, a.answered) ∧
        ∀ i, glusterBlockBuildMinCaps (.create blk) i = true → i ≠ .createLoadBalance →
          ∀ a ∈ capArgs hosts calls, a.reports i = true) ↔
    ¬ ((∀ a ∈ capArgs hosts calls, a.answered) ∧
        (∃ a ∈ capArgs hosts calls, a.reports .createLoadBalance = false) ∧
        ∃ i, i ≠ .createLoadBalance ∧ glusterBlockBuildMinCaps (.create blk) i = true ∧
          ∃ a ∈ capArgs hosts calls, a.reports i = false) := by
  rw [gate_open_iff]
  generalize capArgs hosts calls = args
  have balanced : lacks blk args .createLoadBalance ↔
      ∃ a ∈ args, a.reports .createLoadBalance = false := by
    simp [lacks, glusterBlockBuildMinCaps]
  have others : (∀ i, glusterBlockBuildMinCaps (.create blk) i = true → i ≠ .createLoadBalance →
      ∀ a ∈ args, a.reports i = true) ↔ ∀ i, i ≠ .createLoadBalance → ¬ lacks blk args i := by
    simp only [lacks, not_and, not_exists, Bool.not_eq_false]
    exact forall_congr' (fun i => forall_comm)
  have missing : (∃ i, i ≠ .createLoadBalance ∧ glusterBlockBuildMinCaps (.create blk) i = true ∧
      ∃ a ∈ args, a.reports i = false) ↔ ∃ i, i ≠ .createLoadBalance ∧ lacks blk args i := Iff.rfl
  rw [others, missing, ← balanced]
  by_cases answered : ∀ a ∈ args, a.answered
  · by_cases lb : lacks blk args .createLoadBalance
    · simp [lb]
    · have all : (∀ i, ¬ lacks blk args i) ↔ ∀ i, i ≠ .createLoadBalance → ¬ lacks blk args i :=
        ⟨fun h i _ => h i, fun h i => by
          by_cases hi : i = .createLoadBalance
          · exact hi ▸ lb
          · exact h i hi⟩
      simp [lb, all]
  · simp [answered]

def gateRequest : BlockCreateCli where
  volume := "vol"
  blockName := "block"
  size := 1048576
  rbSize := 0
  blkSize := 4096
  ioTimeout := 0
  mpath := 1
  authMode := false
  prealloc := false
  storage := ""
  blockHosts := "10.0.0.1"
  jsonResp := .none

/-- A daemon of before the version call passes for a request with a block size,
which it does not know. -/
theorem old_daemon_passes :
    ¬ ((createCapGate gateRequest
          (capArgs ["10.0.0.1"] (fun _ => .failed rpcProcunavail (by decide)))).isOk = true ↔
        (∀ a ∈ capArgs ["10.0.0.1"] (fun _ => .failed rpcProcunavail (by decide)), a.answered) ∧
          ∀ i, glusterBlockBuildMinCaps (.create gateRequest) i = true → i ≠ .createLoadBalance →
            ∀ a ∈ capArgs ["10.0.0.1"] (fun _ => .failed rpcProcunavail (by decide)),
              a.reports i = true) := by
  intro gate
  have reported := (gate.mp (by decide)).2 .createBlockSize (by decide) (by decide)
  exact absurd reported (by decide)

end Gate

section Able

/-- The host answered and reports all that the request needs. -/
def CapArg.able (a : CapArg) (req : CapRequest) : Prop :=
  a.answered ∧ ∀ i, glusterBlockBuildMinCaps req i = true → a.reports i = true

theorem scanHosts_all (i : GbCapability) {args : List CapArg}
    (all : ∀ a ∈ args, a.reports i = true) : scanHosts i args = .allMatch := by
  induction args with
  | nil => rfl
  | cons a args ih =>
    have head := all a List.mem_cons_self
    have tail := ih (fun b hb => all b (List.mem_cons_of_mem _ hb))
    unfold CapArg.reports at head
    cases hcaps : a.caps with
    | none =>
      rw [hcaps] at head
      cases head
    | some caps =>
      have enabled : capEnabled caps i = true := by simpa [hcaps] using head
      simp [scanHosts, hcaps, enabled, tail]

theorem scanCaps_able {args : List CapArg} {req : CapRequest}
    (all : ∀ a ∈ args, a.able req) (is : List GbCapability) :
    (scanCaps args (glusterBlockBuildMinCaps req) is none none).ret = 0 := by
  induction is with
  | nil => rfl
  | cons i is ih =>
    unfold scanCaps
    split
    · rename_i needed
      rw [scanHosts_all i (fun a ha => (all a ha).2 i needed)]
      exact ih
    · exact ih

/-- Able hosts pass the check of a request on an existing block. -/
theorem check_able {args : List CapArg} {req : CapRequest} (all : ∀ a ∈ args, a.able req) :
    (glusterBlockCheckCapabilities req args none).ret = 0 := by
  rw [(check_parse req args none).1]
  unfold blockRemoteCapabilitiesRespParse
  cases failed : args.find? (fun a => a.exit != rpcProcunavail && a.exit != 0) with
  | some a =>
    have bad := List.find?_some failed
    simp only [Bool.and_eq_true, bne_iff_ne] at bad
    obtain ⟨answered, _⟩ := all a (List.mem_of_find?_eq_some failed)
    exact absurd answered (not_or.mpr ⟨bad.2, bad.1⟩)
  | none => exact scanCaps_able all _

end Able

end GlusterBlock
