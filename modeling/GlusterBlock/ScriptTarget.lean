import GlusterBlock.CreateScript

/-! What the script of a create makes when it is run line by line: the portal groups of the
target, one for each host of the list. -/
namespace GlusterBlock

section Made

variable (args : CommonArgs) (capable : Bool)

def nameText : Text := args.blk.blockName.toList

/-- The ALUA groups of the object. -/
def aluaGroups : List Text :=
  if args.prio = "" then [] else [gbAluaAoTpgName.toList, gbAluaAnoTpgName.toList]

def attributesOf (host : Addr) : List Setting :=
  let auth := if args.blk.authMode then [("authentication", 1)] else []
  (if args.blk.ipaddr = host then auth ++ gbTgcliAttributes
    else ("tpg_enabled_sendtargets", 0) :: auth ++ gbTgcliAttributes).map
      (fun a => (a.1.toList, (toString a.2).toList))

def loginOf : List Setting :=
  if args.blk.authMode then
    [("userid".toList, args.blk.gbid.toList), ("password".toList, args.blk.passwd.toList)]
  else []

/-- The portal group of a host. -/
def madeTpg (host : Addr) : TcTpg where
  luns := [⟨nameText args, (aluaGroup args.prio host).map String.toList⟩]
  portals := [host.toList]
  enabled := decide (args.blk.ipaddr = host)
  attributes := settings ∅ (attributesOf args host)
  auth := settings ∅ (loginOf args)

variable {args} {s : TcState} {iqn : Text} {tag : Nat} {host : Addr}

theorem makes_login {addrs : List Text} (t : TcTpg) :
    s.Makes iqn tag addrs t
      ((if args.blk.authMode then [TpgCmd.setAuth args.blk.gbid args.blk.passwd] else []).map
        (TpgCmd.line iqn tag))
      { t with auth := settings t.auth (loginOf args) } := by
  unfold loginOf
  cases args.blk.authMode with
  | false => exact TcState.makes_nil
  | true => exact TcState.makes_auth _

theorem makes_settings {addrs : List Text} (t : TcTpg) :
    s.Makes iqn tag addrs t ((settingCommands args host).map (TpgCmd.line iqn tag))
      { t with
        enabled := t.enabled || decide (args.blk.ipaddr = host)
        attributes := settings t.attributes (attributesOf args host)
        auth := settings t.auth (loginOf args) } := by
  unfold settingCommands attributesOf
  rw [List.map_append]
  refine TcState.Makes.append ?_ (makes_login
    { t with
      enabled := t.enabled || decide (args.blk.ipaddr = host)
      attributes := settings t.attributes _ })
  by_cases own : args.blk.ipaddr = host
  · simp only [if_pos own, decide_eq_true own, Bool.or_true]
    exact TcState.makes_enable.append (TcState.makes_attributes _)
  · simp only [if_neg own, decide_eq_false own, Bool.or_false]
    exact TcState.makes_attributes _

theorem makes_lunAlua {addrs : List Text}
    (object : s.objects.lookup (nameText args) = some (aluaGroups args)) (t : TcTpg)
    (own : t.luns = [⟨nameText args, none⟩]) :
    s.Makes iqn tag addrs t
      ((if args.prio = "" then []
        else [TpgCmd.lunAlua (if args.prio = host then gbAluaAoTpgName else gbAluaAnoTpgName)]).map
          (TpgCmd.line iqn tag))
      { t with luns := [⟨nameText args, (aluaGroup args.prio host).map String.toList⟩] } := by
  unfold aluaGroups at object
  unfold aluaGroup
  by_cases prio : args.prio = ""
  · rw [if_pos prio, if_pos prio]
    have same : { t with luns := [⟨nameText args, none⟩] } = t := by
      rw [← own]
    exact same ▸ TcState.makes_nil
  · rw [if_neg prio] at object ⊢
    rw [if_neg prio]
    refine TcState.makes_lunGroup own object ?_
    split
    · exact List.mem_cons_self
    · exact List.mem_cons_of_mem _ List.mem_cons_self

variable (tag) in
theorem makes_host (texts : ScriptTexts args)
    (object : s.objects.lookup (nameText args) = some (aluaGroups args)) :
    s.Makes (iqnText args.blk.gbid) tag [host.toList] {} (hostCommands args (host, tag))
      (madeTpg args host) := by
  have there : nameText args ∈ s.objects := by
    rw [← AList.lookup_isSome, object]
    rfl
  have lun : (TpgCmd.lunCreate (gbTgcliGlfsPath ++ "/" ++ args.blk.blockName)).line
      (iqnText args.blk.gbid) tag = .createLun (iqnText args.blk.gbid) tag (nameText args) := by
    have line : (TpgCmd.lunCreate (gbTgcliGlfsPath ++ "/" ++ args.blk.blockName)).line
        (iqnText args.blk.gbid) tag = .createLun (iqnText args.blk.gbid) tag
          (((placeOf (tgcliGlfs args.blk.blockName)).bind objectOf).getD []) := rfl
    rw [line, (names_glfs texts.name).place]
    rfl
  unfold hostCommands
  rw [tpgCommands_split, List.map_append, List.map_append, List.map_append, List.map_singleton, lun]
  refine (TcState.makes_lun there).append ((makes_lunAlua object _ rfl).append
    ((TcState.makes_portal List.mem_cons_self (by simp)).append ?_))
  exact makes_settings _

end Made

section Run

variable {args : CommonArgs} (capable : Bool) {s : TcState}

/-- One portal group after the other. -/
theorem run_groups (texts : ScriptTexts args)
    (object : s.objects.lookup (nameText args) = some (aluaGroups args)) {hosts : List Addr}
    (distinct : hosts.Nodup) {k : Nat} {tpgs : Tally.Table Nat TcTpg}
    (fresh : ∀ j, j < hosts.length → tpgs.lookup (k + j) = some {})
    (free : ∀ i u, tpgs.lookup i = some u → ∀ h ∈ hosts, h.toList ∉ u.portals) :
    ∃ tpgs', (s.put (iqnText args.blk.gbid) tpgs).run
        ((hosts.zipIdx k).flatMap (hostCommands args)) =
          some (s.put (iqnText args.blk.gbid) tpgs') ∧
      (∀ j h, hosts[j]? = some h → tpgs'.lookup (k + j) = some (madeTpg args h)) ∧
      ∀ i, i < k ∨ k + hosts.length ≤ i → tpgs'.lookup i = tpgs.lookup i := by
  induction hosts generalizing k tpgs with
  | nil => exact ⟨tpgs, rfl, fun j h found => by simp at found, fun _ _ => rfl⟩
  | cons host hosts ih =>
    obtain ⟨apart, distinct⟩ := List.nodup_cons.mp distinct
    obtain ⟨mid, run, own, others⟩ := makes_host k texts object tpgs (fresh 0 (by simp))
      (fun i u other found a mem => by
        obtain rfl := List.mem_singleton.mp mem
        exact free i u found host List.mem_cons_self)
    have freshRest : ∀ j, j < hosts.length → mid.lookup (k + 1 + j) = some {} := by
      intro j inside
      rw [others _ (by omega), Nat.add_assoc, Nat.add_comm 1 j]
      exact fresh (j + 1) (by simpa using inside)
    have freeRest : ∀ i u, mid.lookup i = some u → ∀ h ∈ hosts, h.toList ∉ u.portals := by
      intro i u found h mem
      by_cases here : i = k
      · subst i
        cases own.symm.trans found
        intro same
        have equal : h = host := String.toList_inj.mp (List.mem_singleton.mp same)
        exact apart (equal ▸ mem)
      · rw [others i here] at found
        exact free i u found h (List.mem_cons_of_mem host mem)
    obtain ⟨last, rest, made, kept⟩ := ih distinct freshRest freeRest
    refine ⟨last, ?_, ?_, ?_⟩
    · rw [List.zipIdx_cons, List.flatMap_cons]
      exact TcState.run_trans run rest
    · intro j h found
      cases j with
      | zero =>
        obtain rfl : host = h := by simpa using found
        rw [Nat.add_zero, kept k (.inl (Nat.lt_succ_self k)), own]
      | succ j =>
        have later := made j h (by simpa using found)
        rwa [Nat.add_assoc, Nat.add_comm 1 j] at later
    · intro i outside
      rw [List.length_cons] at outside
      rw [kept i (by omega), others i (by omega)]

/-- The object with its ALUA groups. -/
theorem run_backstores (new : nameText args ∉ s.objects) :
    s.run (([TargetCmd.backstoreCreate (backstoreOf args capable), .setCmdTimeOut gbCmdTimeOut] ++
        if args.prio = "" then [] else aluaCommands).map
          (TargetCmd.line (nameText args) (iqnText args.blk.gbid))) =
      some { s with objects := s.objects.insert (nameText args) (aluaGroups args) } := by
  let object (groups : List Text) : TcState :=
    { s with objects := s.objects.insert (nameText args) groups }
  have found (groups : List Text) : (object groups).objects.lookup (nameText args) = some groups :=
    AList.lookup_insert _
  have regroup (groups : List Text) (name : Text) (tag : Text) (other : name ∉ groups) :
      (object groups).exec (.createGroup (nameText args) name tag) =
        some (object (groups ++ [name])) := by
    rw [TcState.exec, found, Option.bind_some, if_neg other]
    simp [object, AList.insert_insert]
  have created : s.exec (.createObject (nameText args)) = some (object []) := if_neg new
  have timeout (ss : List Setting) : (object []).exec (.setObject (nameText args) ss) =
      some (object []) := if_pos ((AList.mem_insert _).mpr (.inl rfl))
  have first : s.run ([TargetCmd.backstoreCreate (backstoreOf args capable),
      .setCmdTimeOut gbCmdTimeOut].map (TargetCmd.line (nameText args) (iqnText args.blk.gbid))) =
        some (object []) := TcState.run_pair created (timeout _)
  rw [List.map_append, TcState.run_append, first, Option.bind_some]
  unfold aluaGroups
  split
  · rfl
  · let both : List Text := [gbAluaAoTpgName.toList, gbAluaAnoTpgName.toList]
    have groups : (object []).run ((aluaCommands.take 2).map
        (TargetCmd.line (nameText args) (iqnText args.blk.gbid))) = some (object both) := by
      have ao := regroup [] gbAluaAoTpgName.toList "1".toList (by simp)
      have ano := regroup [gbAluaAoTpgName.toList] gbAluaAnoTpgName.toList "2".toList (by decide)
      exact TcState.run_pair ao ano
    have sets : (object both).run ((aluaCommands.drop 2).map
        (TargetCmd.line (nameText args) (iqnText args.blk.gbid))) = some (object both) := by
      refine TcState.run_quiet (fun c mem => ?_)
      obtain ⟨cmd, listed, rfl⟩ := List.mem_map.mp mem
      have named : ∃ group attr value, cmd = .aluaSet group attr value ∧ group.toList ∈ both := by
        simp only [aluaCommands, List.drop_succ_cons, List.drop_zero, List.mem_cons,
          List.not_mem_nil, or_false] at listed
        rcases listed with rfl | rfl | rfl | rfl | rfl | rfl | rfl | rfl | rfl | rfl <;>
          exact ⟨_, _, _, rfl, by simp [both]⟩
      obtain ⟨group, attr, value, rfl, defined⟩ := named
      rw [TargetCmd.line, TcState.exec, found, Option.getD_some, if_pos defined]
    rw [← List.take_append_drop 2 aluaCommands, List.map_append, TcState.run_append, groups,
      Option.bind_some, sets]

/-- A portal group serves the block at the address of a host. -/
structure ServesHost (args : CommonArgs) (host : Addr) (t : TcTpg) : Prop where
  lun : t.luns = [⟨nameText args, (aluaGroup args.prio host).map String.toList⟩]
  portal : t.portals = [host.toList]
  enabled : t.enabled = true ↔ args.blk.ipaddr = host
  authentication : t.attributes.lookup "authentication".toList =
    if args.blk.authMode then some "1".toList else none
  login : ∀ key, t.auth.lookup key =
    if args.blk.authMode then
      if key = "userid".toList then some args.blk.gbid.toList
      else if key = "password".toList then some args.blk.passwd.toList
      else none
    else none

theorem madeTpg_serves (args : CommonArgs) (host : Addr) :
    ServesHost args host (madeTpg args host) where
  lun := rfl
  portal := rfl
  enabled := decide_eq_true_iff
  authentication := by
    unfold madeTpg attributesOf
    dsimp only
    cases args.blk.authMode <;> split <;> decide
  login key := by
    unfold madeTpg loginOf
    dsimp only
    cases args.blk.authMode with
    | false => rfl
    | true =>
      simp only [if_true, settings, List.foldl_cons, List.foldl_nil]
      by_cases password : key = "password".toList
      · subst key
        rw [AList.lookup_insert, if_neg (by decide), if_pos rfl]
      · rw [AList.lookup_insert_ne password, if_neg password]
        by_cases userid : key = "userid".toList
        · subst key
          rw [AList.lookup_insert, if_pos rfl]
        · rw [AList.lookup_insert_ne userid, if_neg userid]
          rfl

/-- The run of the script. -/
theorem run_createScript (texts : ScriptTexts args) (distinct : args.hosts.Nodup)
    (newObject : nameText args ∉ s.objects) (newTarget : iqnText args.blk.gbid ∉ s.targets) :
    ∃ tpgs : Tally.Table Nat TcTpg, s.runScript (createScript args capable) =
        some { objects := s.objects.insert (nameText args) (aluaGroups args),
               targets := s.targets.insert (iqnText args.blk.gbid) tpgs } ∧
      (∀ tag, tag ∈ tpgs ↔ 1 ≤ tag ∧ tag ≤ args.hosts.length) ∧
      ∀ i h, args.hosts[i]? = some h → tpgs.lookup (i + 1) = some (madeTpg args h) := by
  let made : TcState := { s with objects := s.objects.insert (nameText args) (aluaGroups args) }
  have object : made.objects.lookup (nameText args) = some (aluaGroups args) :=
    AList.lookup_insert _
  have backstores : s.run _ = some made := run_backstores capable newObject
  have target : made.run [.createTarget (iqnText args.blk.gbid)] =
      some (made.put (iqnText args.blk.gbid) (AList.singleton 1 {})) :=
    (TcState.run_singleton _ _).trans (if_neg newTarget)
  have other : ∀ i ∈ List.range' 2 (args.hosts.length - 1),
      i ∉ (AList.singleton 1 {} : Tally.Table Nat TcTpg) := by
    intro i mem
    rw [List.mem_range'_1] at mem
    rw [AList.mem_keys, AList.keys_singleton, List.mem_singleton]
    omega
  obtain ⟨empty, more, lookups⟩ :
      ∃ tpgs', (made.put (iqnText args.blk.gbid) (AList.singleton 1 {})).run
          ((List.range' 2 (args.hosts.length - 1)).map
            (TcCommand.createTpg (iqnText args.blk.gbid))) =
          some (made.put (iqnText args.blk.gbid) tpgs') ∧
        ∀ i, tpgs'.lookup i = if i ∈ List.range' 2 (args.hosts.length - 1) then some {} else
          (AList.singleton 1 {} : Tally.Table Nat TcTpg).lookup i :=
    TcState.run_createTpg List.nodup_range' other
  have single (i : Nat) : (AList.singleton 1 {} : Tally.Table Nat TcTpg).lookup i =
      if i = 1 then some {} else none := by
    rw [← AList.insert_empty]
    by_cases first : i = 1
    · subst i
      rw [AList.lookup_insert, if_pos rfl]
    · rw [AList.lookup_insert_ne first, if_neg first]
      rfl
  have numbered (i : Nat) : empty.lookup i =
      if 1 ≤ i ∧ i ≤ args.hosts.length then some {} else none := by
    have positive := hosts_positive args
    rw [lookups, single]
    simp only [List.mem_range'_1]
    split_ifs <;> first | rfl | omega
  obtain ⟨tpgs, groups, servers, kept⟩ := run_groups texts object distinct (k := 1)
    (fun j inside => by rw [numbered, if_pos (by omega)])
    (fun i u found h mem => by
      rw [numbered] at found
      split at found
      · cases found
        simp
      · cases found)
  have save : (made.put (iqnText args.blk.gbid) tpgs).run [.saveConfig (nameText args)] =
      some (made.put (iqnText args.blk.gbid) tpgs) :=
    (TcState.run_singleton _ _).trans (if_pos ((AList.mem_insert _).mpr (.inl rfl)))
  refine ⟨tpgs, ?_, fun tag => ?_, fun i h found => ?_⟩
  · have commands := createScript_commands capable texts
    rw [TcState.runScript, commands, Option.bind_some, createCommands_line]
    exact TcState.run_trans
      (TcState.run_trans backstores (TcState.run_trans target (TcState.run_trans more groups))) save
  · rw [← AList.lookup_isSome]
    by_cases listed : 1 ≤ tag ∧ tag ≤ args.hosts.length
    · have inside : tag - 1 < args.hosts.length := by omega
      have number : 1 + (tag - 1) = tag := by omega
      have served := servers (tag - 1) _ (List.getElem?_eq_getElem inside)
      rw [number] at served
      simp [served, listed]
    · rw [kept tag (by omega), numbered, if_neg listed]
      simpa using listed
  · rw [Nat.add_comm]
    exact servers i h found

/-- A LUN is put into a group only under a priority path, and the group is one of the two. -/
theorem lunGroup_known {h : Addr × Nat} {iqn group : Text} {tag : Nat}
    (mem : .setLunGroup iqn tag group ∈ hostCommands args h) :
    args.prio ≠ "" ∧ group ∈ aluaGroups args := by
  obtain ⟨cmd, listed, same⟩ := List.mem_map.mp mem
  cases cmd with
  | lunAlua name =>
    cases same
    have settings : .lunAlua name ∉ settingCommands args h.1 := by
      unfold settingCommands
      dsimp only
      by_cases own : args.blk.ipaddr = h.1
      · rw [if_pos own]
        cases args.blk.authMode <;> simp
      · rw [if_neg own]
        cases args.blk.authMode <;> simp
    rw [tpgCommands_split] at listed
    unfold aluaGroups
    by_cases prio : args.prio = ""
    · simp [prio, settings] at listed
    · rw [if_neg prio] at listed ⊢
      have named : name = if args.prio = h.1 then gbAluaAoTpgName else gbAluaAnoTpgName := by
        simpa [settings] using listed
      refine ⟨prio, ?_⟩
      rw [named]
      split <;> simp
  | _ => cases same

/-- The commands in front of a group of a LUN have made the group. -/
theorem group_defined {cs front rest : List TcCommand} {iqn group : Text} {tag : Nat}
    (commands : cs = (createCommands args capable).map
      (TargetCmd.line (nameText args) (iqnText args.blk.gbid)) ++ [.saveConfig (nameText args)])
    (split : cs = front ++ .setLunGroup iqn tag group :: rest) :
    ∃ number, .createGroup (nameText args) group number ∈ front := by
  let line := TargetCmd.line (nameText args) (iqnText args.blk.gbid)
  let objects : List TcCommand :=
    ([TargetCmd.backstoreCreate (backstoreOf args capable), .setCmdTimeOut gbCmdTimeOut] ++
      if args.prio = "" then [] else aluaCommands).map line
  let groups : List TcCommand := [.createTarget (iqnText args.blk.gbid)] ++
    ((List.range' 2 (args.hosts.length - 1)).map (TcCommand.createTpg (iqnText args.blk.gbid)) ++
      (args.hosts.zipIdx 1).flatMap (hostCommands args)) ++ [.saveConfig (nameText args)]
  have shape : cs = objects ++ groups := by
    rw [commands, ← List.append_assoc]
    exact congrArg (· ++ _) (createCommands_line capable)
  have other : .setLunGroup iqn tag group ∉ objects := by
    intro mem
    obtain ⟨cmd, listed, same⟩ := List.mem_map.mp mem
    cases cmd with
    | onTpg tag cmd =>
      rcases List.mem_append.mp listed with front | alua
      · simp at front
      · split at alua
        · cases alua
        · simp [aluaCommands] at alua
    | _ => cases same
  have before : objects <+: front := by
    have first : objects <+: cs := ⟨groups, shape.symm⟩
    rcases List.prefix_or_prefix_of_prefix first ⟨_, split.symm⟩ with h | ⟨more, h⟩
    · exact h
    · have behind : more ++ groups = .setLunGroup iqn tag group :: rest := by
        rw [shape, ← h, List.append_assoc] at split
        exact List.append_cancel_left split
      cases more with
      | nil => exact ⟨[], by simpa using h.symm⟩
      | cons c more =>
        obtain ⟨rfl, -⟩ := List.cons.inj behind
        exact absurd (h ▸ List.mem_append_right front List.mem_cons_self) other
  have there : .setLunGroup iqn tag group ∈ groups := by
    have mem : .setLunGroup iqn tag group ∈ objects ++ groups := by
      rw [← shape, split]
      exact List.mem_append_right front List.mem_cons_self
    exact (List.mem_append.mp mem).resolve_left other
  have known : args.prio ≠ "" ∧ group ∈ aluaGroups args := by
    simp only [groups, List.mem_append, List.mem_cons, List.not_mem_nil, or_false, List.mem_map,
      List.mem_flatMap, reduceCtorEq, false_or, and_false, exists_const] at there
    obtain ⟨h, -, mem⟩ := there
    exact lunGroup_known mem
  obtain ⟨prio, mem⟩ := known
  unfold aluaGroups at mem
  rw [if_neg prio] at mem
  have made : ∃ number, .createGroup (nameText args) group number ∈ objects := by
    simp only [objects, line, if_neg prio]
    simp only [List.mem_cons, List.not_mem_nil, or_false] at mem
    rcases mem with rfl | rfl
    · exact ⟨_, List.mem_map_of_mem (a := TargetCmd.aluaCreate gbAluaAoTpgName 1) (by simp [aluaCommands])⟩
    · exact ⟨_, List.mem_map_of_mem (a := TargetCmd.aluaCreate gbAluaAnoTpgName 2) (by simp [aluaCommands])⟩
  obtain ⟨number, defined⟩ := made
  exact ⟨number, before.subset defined⟩

/-- What the command line lets through are words. -/
theorem plain_text {t : Text} (some : t ≠ []) {p : Char → Bool} (all : ∀ c ∈ t, p c = true)
    (others : p ' ' = false ∧ p '\n' = false ∧ p '/' = false) : Plain t := by
  have clean (c : Char) (other : p c = false) : c ∉ t :=
    fun mem => Bool.false_ne_true (other.symm.trans (all c mem))
  exact ⟨some, clean ' ' others.1, clean '\n' others.2.1, clean '/' others.2.2⟩

theorem scriptTexts_accepted (name : glusterBlockIsNameAcceptable args.blk.blockName = true)
    (some : args.blk.blockName ≠ "") (volume : glusterBlockIsNameAcceptable args.blk.volume = true)
    (gbid : isUuid args.blk.gbid = true)
    (passwd : args.blk.authMode = true → isUuid args.blk.passwd = true)
    (hosts : ∀ h ∈ args.hosts, addrAcceptable h = true)
    (server : '\n' ∉ (args.volServer.getD args.blk.ipaddr).toList)
    (control : '\n' ∉ (args.control.getD "").toList) : ScriptTexts args where
  name := by
    simp only [glusterBlockIsNameAcceptable, Bool.and_eq_true, List.all_eq_true] at name
    exact plain_text (by simpa using some) name.2 (by decide)
  gbid := by
    have length := uuid_length gbid
    refine ⟨?_, uuid_not_mem gbid (by decide) (by decide), uuid_not_mem gbid (by decide) (by decide),
      uuid_not_mem gbid (by decide) (by decide)⟩
    intro empty
    rw [empty] at length
    cases length
  passwd auth := ⟨uuid_not_mem (passwd auth) (by decide) (by decide),
    uuid_not_mem (passwd auth) (by decide) (by decide)⟩
  hosts h mem := by
    have ok := hosts h mem
    simp only [addrAcceptable, Bool.and_eq_true, bne_iff_ne, ne_eq, List.all_eq_true] at ok
    exact plain_text (by simpa using ok.1.1) ok.2 (by decide)
  volume := by
    simp only [glusterBlockIsNameAcceptable, Bool.and_eq_true, List.all_eq_true] at volume
    exact fun mem => absurd (volume.2 _ mem) (by decide)
  server := server
  control := control

/-- The script runs through and makes a portal group for each host, in the order of the list. -/
theorem create_script (texts : ScriptTexts args) (distinct : args.hosts.Nodup)
    (own : args.blk.ipaddr ∈ args.hosts) (newObject : nameText args ∉ s.objects)
    (newTarget : iqnText args.blk.gbid ∉ s.targets) :
    ∃ tpgs : Tally.Table Nat TcTpg, s.runScript (createScript args capable) =
        some { objects := s.objects.insert (nameText args) (aluaGroups args),
               targets := s.targets.insert (iqnText args.blk.gbid) tpgs } ∧
      (∀ tag, tag ∈ tpgs ↔ 1 ≤ tag ∧ tag ≤ args.hosts.length) ∧
      (∀ i h, args.hosts[i]? = some h → ∃ t, tpgs.lookup (i + 1) = some t ∧ ServesHost args h t) ∧
      (∃ i, args.hosts[i]? = some args.blk.ipaddr ∧
        ∀ tag t, tpgs.lookup tag = some t → (t.enabled = true ↔ tag = i + 1)) ∧
      ∀ cs front rest iqn tag group, sessionCommands (createScript args capable) = some cs →
        cs = front ++ .setLunGroup iqn tag group :: rest →
          ∃ number, .createGroup (nameText args) group number ∈ front := by
  obtain ⟨tpgs, run, tags, made⟩ := run_createScript capable texts distinct newObject newTarget
  have serves : ∀ i h, args.hosts[i]? = some h →
      ∃ t, tpgs.lookup (i + 1) = some t ∧ ServesHost args h t :=
    fun i h found => ⟨_, made i h found, madeTpg_serves args h⟩
  refine ⟨tpgs, run, tags, serves, ?_, fun cs front rest iqn tag group commands split => ?_⟩
  · obtain ⟨i, found⟩ := List.getElem?_of_mem own
    refine ⟨i, found, fun tag t there => ?_⟩
    obtain ⟨after, listed⟩ := (tags tag).mp (AList.lookup_isSome.mp (by rw [there]; rfl))
    obtain ⟨j, rfl⟩ : ∃ j, tag = j + 1 := ⟨tag - 1, by omega⟩
    have inside : j < args.hosts.length := by omega
    obtain ⟨u, same, serves⟩ := serves j _ (List.getElem?_eq_getElem inside)
    cases there.symm.trans same
    obtain ⟨bound, value⟩ := List.getElem?_eq_some_iff.mp found
    rw [serves.enabled, ← value, distinct.getElem_inj_iff]
    omega
  · rw [createScript_commands capable texts] at commands
    exact group_defined capable (Option.some.inj commands).symm split

def sampleCreate : CommonArgs where
  blk := {
    ipaddr := "10.0.0.2"
    volume := "vol"
    gbid := "0a"
    passwd := "pw"
    size := 1048576
    blockName := "blk"
    blockHosts := "10.0.0.1,10.0.0.2,10.0.0.3"
    authMode := true }
  control := none
  volServer := none
  prioPath := some "10.0.0.3"
  ioTimeout := 0

theorem create_script_sample :
    ∃ tpgs : Tally.Table Nat TcTpg,
      TcState.runScript ⟨∅, ∅⟩ (createScript sampleCreate true) =
        some { objects := AList.insert (nameText sampleCreate) (aluaGroups sampleCreate) ∅,
               targets := AList.insert (iqnText "0a") tpgs ∅ } ∧
      ∃ t, tpgs.lookup 3 = some t ∧ ServesHost sampleCreate "10.0.0.3" t := by
  have texts : ScriptTexts sampleCreate :=
    ⟨by decide, by decide, fun _ => by decide, by decide +kernel, by decide, by decide, by decide⟩
  obtain ⟨tpgs, run, -, serves, -, -⟩ := create_script (s := ⟨∅, ∅⟩) true texts (by decide +kernel)
    (by decide +kernel) (AList.notMem_empty _) (AList.notMem_empty _)
  exact ⟨tpgs, run, serves 2 "10.0.0.3" (by decide +kernel)⟩

end Run

end GlusterBlock
