import GlusterBlock.LoadedStatus

/-! Reload: the saved configuration of a block is restored on all its valid hosts at once. The
command that restores it is not trusted, the searches behind it tell what it did. -/
namespace GlusterBlock

structure BlockReload where
  blockName : String
  gbid : String
  deriving DecidableEq, Repr

def gbReload : String := "restoreconfig /etc/target/saveconfig.json clear_existing"

def reloadCommand (blk : BlockReload) : Text :=
  ("targetcli " ++ gbReload ++ " target=" ++ gbTgcliIqnPrefix ++ blk.gbid ++ " storage_object=" ++
    blk.blockName).toList

/-- A node: what a command does to it, and what it answers to the searches for a block. -/
structure TargetNode (N : Type) where
  run : Text → N → N
  searches : BlockReload → N → LoadedRuns

section Node

variable {N : Type} (M : TargetNode N)

/-- `block_reload_1_svc_st`: the exit of the command is dropped. -/
def blockReloadSvc (blk : BlockReload) (n : N) : SrvReply × N :=
  let n := M.run (reloadCommand blk) n
  let (ret, reply) := blockCheckBlockLoadedStatus blk.blockName (M.searches blk n) (-1)
  (if ret ≠ 0 then reply else ⟨"reload success".toList, 0⟩, n)

/-- What becomes of the call to a host; a lost reply does not tell whether it was served. -/
inductive ReloadCall where
  | notSent
  | lost (served : Bool)
  | answered
  deriving DecidableEq, Repr

def glusterBlockReloadRemote (robj : BlockReload) (call : ReloadCall) (n : N) : Int × N :=
  match call with
  | .notSent => (-1, n)
  | .lost served => (-1, if served then (blockReloadSvc M robj n).2 else n)
  | .answered =>
    let (reply, n) := blockReloadSvc M robj n
    (reply.exit, n)

end Node

def glusterBlockReloadFillArgs (info : MetaInfo) : List Addr :=
  (info.list.filter (fun node => blockhostIsValid node.status)).map NodeInfo.addr

structure ReloadRun (N : Type) where
  ret : Int
  attempt : List Addr
  success : List Addr
  nodes : Addr → N

def glusterBlockReloadRemoteAsync {N : Type} (M : TargetNode N) (info : MetaInfo)
    (robj : BlockReload) (force : Bool) (calls : Addr → ReloadCall) (nodes : Addr → N) :
    ReloadRun N :=
  let args := glusterBlockReloadFillArgs info
  let served := fun a => glusterBlockReloadRemote M robj (calls a) (nodes a)
  let exits := args.map (fun a => (a, (served a).1))
  let lists := glusterBlockCollectAttemptSuccess exits false
  { ret := if force then 0 else if exits.any (fun e => e.2 != 0) then -1 else 0,
    attempt := lists.1, success := lists.2,
    nodes := fun a => if a ∈ args then (served a).2 else nodes a }

structure ReloadEnv where
  session : Session
  caps : Nat → VersionCall
  calls : Addr → ReloadCall

/-- The same texts as those of a delete. -/
def blockReloadCliFormatResponse (errCode : Int) (errMsg : Option String)
    (saved : List Addr × List Addr) : BlockResponse :=
  blockDeleteCliFormatResponse errCode errMsg saved

/-- `block_reload_cli_1_svc_st`; no reply means that the daemon died of the array of hosts,
which is filled before `force` is asked for. -/
def blockReloadCli {N : Type} (M : TargetNode N) (blk : BlockReloadCli) (env : ReloadEnv)
    (file : Metafile) (nodes : Addr → N) : Option BlockResponse × (Addr → N) :=
  let finish := fun (errCode : Int) (errMsg : Option String) saved =>
    let (errCode, errMsg) := env.session.unlock blk.volume errCode errMsg
    some (blockReloadCliFormatResponse errCode errMsg saved)
  match env.session.connect with
  | some (errCode, msg) => (some (blockReloadCliFormatResponse errCode (some msg) ([], [])), nodes)
  | none =>
    match env.session.access blk.volume blk.blockName file with
    | .error (errCode, errMsg) => (finish errCode errMsg ([], []), nodes)
    | .ok js =>
      match glusterBlockGetListFromInfo (replay js) with
      | none => (none, nodes)
      | some list =>
        let (errCode, errMsg) :=
          if blk.force then (0, none) else checkHosts (.reload blk) list env.caps
        if errCode ≠ 0 then (finish errCode errMsg ([], []), nodes)
        else
          let robj : BlockReload := { blockName := blk.blockName, gbid := (replay js).gbid }
          let res := glusterBlockReloadRemoteAsync M (replay js) robj blk.force env.calls nodes
          (finish res.ret none (res.attempt, res.success), res.nodes)

/-- The searches find both parts of the block, or end in a way that is taken for it. -/
def LoadedRuns.Passes (runs : LoadedRuns) : Prop :=
  runs.glfs = 0 ∧ runs.iscsi = 0 ∨ runs.Odd ∧ runs.savecfg = 0

theorem loaded_zero (blockName : String) (runs : LoadedRuns) (exit : Int) :
    (blockCheckBlockLoadedStatus blockName runs exit).1 = 0 ↔ runs.Passes := by
  by_cases missing : runs.Missing
  · have failed : ¬ runs.Passes := by
      unfold LoadedRuns.Passes LoadedRuns.Odd
      unfold LoadedRuns.Missing at missing
      simp only [List.mem_cons, List.not_mem_nil, or_false]
      omega
    refine iff_of_false (fun zero => ?_) failed
    by_cases aborted : runs.savecfg = -1
    · rw [(aborted_status blockName exit missing aborted).1] at zero
      cases zero
    · rcases missing_status blockName exit missing aborted with ⟨gone, code, _⟩ | ⟨_, code, _⟩
      · rw [code] at zero
        omega
      · rw [code] at zero
        cases zero
  · exact (present_status blockName exit missing).2

/-- Away from a delete every host that returns 0 succeeds, and no other does. -/
theorem collect_plain (args : List Addr) (exit : Addr → Int) (a : Addr) :
    (a ∈ (glusterBlockCollectAttemptSuccess (args.map (fun a => (a, exit a))) false).1 ↔
        a ∈ args ∧ exit a ≠ 0) ∧
      (a ∈ (glusterBlockCollectAttemptSuccess (args.map (fun a => (a, exit a))) false).2 ↔
        a ∈ args ∧ exit a = 0) := by
  unfold glusterBlockCollectAttemptSuccess
  constructor <;> simp

section Reply

variable {N : Type} {M : TargetNode N} {blk : BlockReloadCli} {env : ReloadEnv} {js : Journal}
  {nodes : Addr → N}

theorem reloadSvc_zero (robj : BlockReload) (n : N) :
    (blockReloadSvc M robj n).1.exit = 0 ↔
      (M.searches robj (M.run (reloadCommand robj) n)).Passes := by
  rw [← loaded_zero robj.blockName _ (-1)]
  unfold blockReloadSvc
  dsimp only
  split
  · rename_i failed
    exact iff_of_false (loaded_exit _ _) failed
  · rename_i passed
    exact iff_of_true rfl (not_not.mp passed)

/-- The host answered, and the block is found on it behind the command. -/
def Reloaded (M : TargetNode N) (robj : BlockReload) (calls : Addr → ReloadCall)
    (nodes : Addr → N) (a : Addr) : Prop :=
  calls a = .answered ∧ (M.searches robj (M.run (reloadCommand robj) (nodes a))).Passes

theorem remote_zero (robj : BlockReload) (calls : Addr → ReloadCall) (a : Addr) :
    (glusterBlockReloadRemote M robj (calls a) (nodes a)).1 = 0 ↔
      Reloaded M robj calls nodes a := by
  unfold glusterBlockReloadRemote Reloaded
  cases calls a with
  | notSent => simp
  | lost served => simp
  | answered => simpa using reloadSvc_zero robj (nodes a)

/-- The request gets past its checks. -/
structure ReloadEnv.Passes (blk : BlockReloadCli) (env : ReloadEnv) (js : Journal) : Prop where
  connect : env.session.connect = none
  access : env.session.access blk.volume blk.blockName (some js) = .ok js
  room : (validHosts js).length ≤ (replay js).mpath
  caps : blk.force = false → (checkHosts (.reload blk) (validHosts js) env.caps).1 = 0
  unlocked : env.session.unlocked = true

theorem reload_run (passes : env.Passes blk js) (nodes : Addr → N) :
    let res := glusterBlockReloadRemoteAsync M (replay js) ⟨blk.blockName, (replay js).gbid⟩
      blk.force env.calls nodes
    blockReloadCli M blk env (some js) nodes =
      (some (blockReloadCliFormatResponse res.ret none (res.attempt, res.success)), res.nodes) := by
  have list : glusterBlockGetListFromInfo (replay js) = some (validHosts js) := by
    rw [getListFromInfo_replay, if_pos passes.room]
  have caps : (if blk.force then (0, none)
      else checkHosts (.reload blk) (validHosts js) env.caps).1 = 0 := by
    cases force : blk.force with
    | true => rfl
    | false => simpa using passes.caps force
  unfold blockReloadCli
  simp only [passes.connect, passes.access, list, caps, Session.unlock, passes.unlocked, if_true]
  rfl

section Async

variable (robj : BlockReload) (force : Bool) (calls : Addr → ReloadCall)

/-- Every valid host is on one of the two lists. -/
theorem async_lists (a : Addr) :
    let res := glusterBlockReloadRemoteAsync M (replay js) robj force calls nodes
    (a ∈ res.attempt ↔ a ∈ validHosts js ∧ ¬ Reloaded M robj calls nodes a) ∧
      (a ∈ res.success ↔ a ∈ validHosts js ∧ Reloaded M robj calls nodes a) := by
  have zero : (glusterBlockReloadRemote M robj (calls a) (nodes a)).1 = 0 ↔
      Reloaded M robj calls nodes a := remote_zero robj calls a
  obtain ⟨attempt, success⟩ := collect_plain (validHosts js)
    (fun a => (glusterBlockReloadRemote M robj (calls a) (nodes a)).1) a
  exact ⟨attempt.trans (and_congr_right fun _ => not_congr zero),
    success.trans (and_congr_right fun _ => zero)⟩

theorem async_zero :
    let res := glusterBlockReloadRemoteAsync M (replay js) robj force calls nodes
    res.ret = 0 ↔ force = true ∨ res.attempt = [] := by
  let exit (a : Addr) : Int := (glusterBlockReloadRemote M robj (calls a) (nodes a)).1
  have none : (glusterBlockReloadRemoteAsync M (replay js) robj force calls nodes).attempt = [] ↔
      ∀ a ∈ validHosts js, exit a = 0 := by
    rw [List.eq_nil_iff_forall_not_mem]
    exact forall_congr' fun a => (not_congr (collect_plain (validHosts js) exit a).1).trans (by simp)
  dsimp only
  rw [none]
  cases force with
  | true => exact iff_of_true rfl (.inl rfl)
  | false =>
    change (if ((validHosts js).map (fun a => (a, exit a))).any (fun e => e.2 != 0) then (-1 : Int)
      else 0) = 0 ↔ _
    split
    · rename_i some_failed
      obtain ⟨e, mem, code⟩ := List.any_eq_true.mp some_failed
      obtain ⟨a, host, rfl⟩ := List.mem_map.mp mem
      refine iff_of_false (by decide) (fun all => ?_)
      exact (bne_iff_ne.mp code) ((all.resolve_left Bool.false_ne_true) a host)
    · rename_i no_failed
      refine iff_of_true rfl (.inr fun a host => ?_)
      rw [Bool.not_eq_true] at no_failed
      simpa using List.any_eq_false.mp no_failed _ (List.mem_map.mpr ⟨a, host, rfl⟩)

end Async

/-- The reply tells of every valid host whether the block is loaded on it, and the others are
left alone. It is a success when all of them have it, and always under force. -/
theorem reload_truth (passes : env.Passes blk js) :
    ∃ r failed done, (blockReloadCli M blk env (some js) nodes).1 = some r ∧
      r.lists = [("FAILED ON", failed), ("SUCCESSFUL ON", done)] ∧
      (∀ a, a ∈ failed ↔ a ∈ validHosts js ∧
        ¬ Reloaded M ⟨blk.blockName, (replay js).gbid⟩ env.calls nodes a) ∧
      (∀ a, a ∈ done ↔ a ∈ validHosts js ∧
        Reloaded M ⟨blk.blockName, (replay js).gbid⟩ env.calls nodes a) ∧
      (r.exit = 0 ↔ blk.force = true ∨ failed = []) ∧ (r.exit = 0 ↔ r.result = .success) ∧
      ∀ a, a ∉ validHosts js → (blockReloadCli M blk env (some js) nodes).2 a = nodes a := by
  let robj : BlockReload := ⟨blk.blockName, (replay js).gbid⟩
  let res := glusterBlockReloadRemoteAsync M (replay js) robj blk.force env.calls nodes
  rw [reload_run passes]
  refine ⟨_, res.attempt, res.success, rfl, rfl,
    fun a => (async_lists robj blk.force env.calls a).1,
    fun a => (async_lists robj blk.force env.calls a).2, ?_, ?_, fun a away => if_neg away⟩
  · exact exitCode_zero.trans (async_zero robj blk.force env.calls)
  · have word : resultOf res.ret = .success ↔ res.ret = 0 := by
      unfold resultOf
      split <;> simp_all
    exact exitCode_zero.trans word.symm

/-- A node that knows whether the block is saved and whether it is loaded. -/
def savedNode : TargetNode (Bool × Bool) where
  run := fun _ n => (n.1, n.1)
  searches := fun _ n =>
    { glfs := if n.2 then 0 else 1, iscsi := if n.2 then 0 else 1,
      savecfg := if n.1 then 0 else 1 }

def reloadSample : BlockReloadCli where
  volume := "vol"
  blockName := "block"
  force := false
  jsonResp := .none

/-- All hosts answer. -/
def reloadSampleEnv : ReloadEnv where
  session := .good
  caps := allCapable
  calls := fun _ => .answered

/-- Two hosts that lost the block, and the saved configuration of one of them. -/
theorem reload_truth_sample : ∃ r failed, (blockReloadCli savedNode reloadSample reloadSampleEnv
      (some (configuredLines 2 ["10.0.0.1", "10.0.0.2"]))
      (fun a => (decide (a = "10.0.0.1"), false))).1 = some r ∧
    r.lists.lookup "FAILED ON" = some failed ∧ "10.0.0.1" ∉ failed ∧ "10.0.0.2" ∈ failed ∧
    r.exit ≠ 0 := by
  have passes : reloadSampleEnv.Passes reloadSample (configuredLines 2 ["10.0.0.1", "10.0.0.2"]) :=
    ⟨rfl, rfl, by decide +kernel, fun _ => by
      change (checkHosts (.reload reloadSample) _ allCapable).1 = 0
      decide +kernel, rfl⟩
  have truth : ∃ r failed done, (blockReloadCli savedNode reloadSample reloadSampleEnv
      (some (configuredLines 2 ["10.0.0.1", "10.0.0.2"]))
      (fun a => (decide (a = "10.0.0.1"), false))).1 = some r ∧ _ := reload_truth passes
  obtain ⟨r, failed, done, reply, lists, lost, _, exit, _⟩ := truth
  have first : "10.0.0.1" ∉ failed := fun mem =>
    ((lost _).mp mem).2 ⟨rfl, .inl ⟨rfl, rfl⟩⟩
  have second : "10.0.0.2" ∈ failed := by
    refine (lost _).mpr ⟨by decide +kernel, ?_⟩
    rintro ⟨_, ⟨absurd, _⟩ | ⟨_, absurd⟩⟩
    · cases absurd
    · cases absurd
  refine ⟨r, failed, reply, by rw [lists]; rfl, first, second, fun zero => ?_⟩
  rcases exit.mp zero with forced | none
  · cases forced
  · rw [none] at second
    cases second

end Reply

end GlusterBlock
