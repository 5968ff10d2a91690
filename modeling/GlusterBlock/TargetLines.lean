import GlusterBlock.ExecLog
import GlusterBlock.PortalReplace
import GlusterBlock.Lib.Tally

/-! The lines that `targetcli` is given and what each of them does to the storage objects
and the targets of a node. A line that `targetcli` would complain about is no step: a path
that is not there, a thing that is there already, a portal of another portal group. -/
namespace GlusterBlock

section Read

/-- What a path names. -/
inductive TcPlace where
  | glfs
  | object (name : Text)
  | groups (object : Text)
  | group (object name : Text)
  | iscsi
  | target (iqn : Text)
  | tpg (iqn : Text) (tag : Nat)
  | luns (iqn : Text) (tag : Nat)
  | lun0 (iqn : Text) (tag : Nat)
  | portals (iqn : Text) (tag : Nat)
  deriving DecidableEq, Repr

def objectPlace : List Text → Option TcPlace
  | [] => some .glfs
  | [name] => some (.object name)
  | [name, w] => if w = "alua".toList then some (.groups name) else none
  | [name, w, group] => if w = "alua".toList then some (.group name group) else none
  | _ => none

def tpgPlace (iqn : Text) (tag : Nat) : List Text → Option TcPlace
  | [] => some (.tpg iqn tag)
  | [w] =>
    if w = "luns".toList then some (.luns iqn tag)
    else if w = "portals".toList then some (.portals iqn tag)
    else none
  | [w, v] => if w = "luns".toList ∧ v = "lun0".toList then some (.lun0 iqn tag) else none
  | _ => none

def iscsiPlace : List Text → Option TcPlace
  | [] => some .iscsi
  | [iqn] => some (.target iqn)
  | iqn :: tpg :: names => (tagOf tpg).bind (fun tag => tpgPlace iqn tag names)

def placeOf (path : Text) : Option TcPlace :=
  match Fields.tokens '/' path with
  | [] => none
  | root :: names =>
    if root = "iscsi".toList then iscsiPlace names
    else if root = "backstores".toList ∧ names.head? = some "user:glfs".toList then
      objectPlace names.tail
    else none

/-- One setting, `key=value`. -/
abbrev Setting := Text × Text

def settingOf (w : Text) : Option Setting :=
  (CText.after '=' w).map (fun value => (w.takeWhile (· != '='), value))

def paramOf (key : String) (w : Text) : Option Text :=
  (settingOf w).bind (fun s => if s.1 = key.toList then some s.2 else none)

inductive TcCommand where
  | createObject (name : Text)
  | setObject (name : Text) (settings : List Setting)
  | saveConfig (name : Text)
  | createGroup (object name tag : Text)
  | setGroup (object name : Text) (setting : Setting)
  | createTarget (iqn : Text)
  | createTpg (iqn : Text) (tag : Nat)
  | createLun (iqn : Text) (tag : Nat) (object : Text)
  | setLunGroup (iqn : Text) (tag : Nat) (group : Text)
  | createPortal (iqn : Text) (tag : Nat) (addr : Text)
  | deletePortal (iqn : Text) (tag : Nat) (addr : Text)
  | enable (iqn : Text) (tag : Nat)
  | setAttributes (iqn : Text) (tag : Nat) (settings : List Setting)
  | setAuth (iqn : Text) (tag : Nat) (settings : List Setting)
  deriving DecidableEq, Repr

def objectOf : TcPlace → Option Text
  | .object name => some name
  | _ => none

/-- What a verb with these words behind it does at a place. -/
def TcPlace.command (verb : Text) (args : List Text) : TcPlace → Option TcCommand
  | .glfs =>
    if verb = "create".toList then (args.head?.bind (paramOf "name")).map .createObject else none
  | .object name =>
    if verb = "saveconfig".toList ∧ args = [] then some (.saveConfig name)
    else if verb = "set".toList ∧ args.head? = some "attribute".toList then
      (args.tail.mapM settingOf).map (.setObject name)
    else none
  | .groups obj =>
    match args with
    | [name, tag] =>
      if verb = "create".toList then
        (paramOf "name" name).bind (fun n => (paramOf "tag" tag).map (.createGroup obj n))
      else none
    | _ => none
  | .group obj name =>
    match args with
    | [w, setting] =>
      if verb = "set".toList ∧ w = "alua".toList then
        (settingOf setting).map (.setGroup obj name)
      else none
    | _ => none
  | .iscsi =>
    match args with
    | [iqn] => if verb = "create".toList then some (.createTarget iqn) else none
    | _ => none
  | .target iqn =>
    match args with
    | [name] => if verb = "create".toList then (tagOf name).map (.createTpg iqn) else none
    | _ => none
  | .tpg iqn tag =>
    if verb = "enable".toList ∧ args = [] then some (.enable iqn tag)
    else if verb = "set".toList ∧ args.head? = some "attribute".toList then
      (args.tail.mapM settingOf).map (.setAttributes iqn tag)
    else if verb = "set".toList ∧ args.head? = some "auth".toList then
      (args.tail.mapM settingOf).map (.setAuth iqn tag)
    else none
  | .luns iqn tag =>
    match args with
    | [path] =>
      if verb = "create".toList then
        ((placeOf path).bind objectOf).map (.createLun iqn tag)
      else none
    | _ => none
  | .lun0 iqn tag =>
    match args with
    | [w, setting] =>
      if verb = "set".toList ∧ w = "alua".toList then
        (paramOf "alua_tg_pt_gp_name" setting).map (.setLunGroup iqn tag)
      else none
    | _ => none
  | .portals iqn tag =>
    match args with
    | [addr] => if verb = "create".toList then some (.createPortal iqn tag addr) else none
    | [addr, port] =>
      if verb = "delete".toList then
        (paramOf "ip_port" port).map (fun _ => .deletePortal iqn tag addr)
      else none
    | _ => none

def commandOf : List Text → Option TcCommand
  | path :: verb :: args => (placeOf path).bind (fun p => p.command verb args)
  | _ => none

/-- The lines of a session: those of the here document, up to the one that ends the
session. A line without a word does nothing. -/
def sessionLines (script : Text) : Option (List (List Text)) :=
  match Fields.wordLines '\n' ' ' script with
  | [] => none
  | first :: lines =>
    if first = ["targetcli".toList, "<<EOF".toList] then
      some ((lines.takeWhile (· ≠ ["EOF".toList])).takeWhile (· ≠ ["exit".toList]))
    else none

def sessionCommands (script : Text) : Option (List TcCommand) :=
  (sessionLines script).bind (fun lines => lines.mapM commandOf)

theorem settingOf_of {key : Text} (inside : '=' ∉ key) (value : Text) :
    settingOf (key ++ '=' :: value) = some (key, value) := by
  have front : ∀ c ∈ key, (c != '=') = true := by
    intro c mem
    have other : c ≠ '=' := by
      rintro rfl
      exact inside mem
    simpa using other
  rw [settingOf, CText.after_of inside, List.takeWhile_append_of_pos front,
    List.takeWhile_cons_of_neg (by simp), List.append_nil]
  rfl

theorem paramOf_of {key : String} (inside : '=' ∉ key.toList) (value : Text) :
    paramOf key (key.toList ++ '=' :: value) = some value := by
  rw [paramOf, settingOf_of inside]
  exact if_pos rfl

end Read

section Exec

open Tally (Table)

structure TcLun where
  object : Text
  group : Option Text
  deriving DecidableEq, Repr

/-- A portal group; its LUNs are numbered as they were made. -/
structure TcTpg where
  luns : List TcLun := []
  portals : List Text := []
  enabled : Bool := false
  attributes : Table Text Text := ∅
  auth : Table Text Text := ∅

/-- The storage objects with their ALUA groups, and the targets with their portal groups. -/
structure TcState where
  objects : Table Text (List Text)
  targets : Table Text (Table Nat TcTpg)

def settings (table : Table Text Text) (ss : List Setting) : Table Text Text :=
  ss.foldl (fun table s => table.insert s.1 s.2) table

def TcState.put (s : TcState) (iqn : Text) (tpgs : Table Nat TcTpg) : TcState :=
  { s with targets := s.targets.insert iqn tpgs }

/-- A change of one portal group, which has to be there. -/
def TcState.onTpg (s : TcState) (iqn : Text) (tag : Nat) (f : TcTpg → Option TcTpg) :
    Option TcState := do
  let tpgs ← s.targets.lookup iqn
  let tpg ← tpgs.lookup tag
  let tpg ← f tpg
  return s.put iqn (tpgs.insert tag tpg)

def portalTaken (tpgs : Table Nat TcTpg) (addr : Text) : Bool :=
  tpgs.entries.any (fun e => addr ∈ e.2.portals)

/-- The group of a LUN is one of the object behind it. -/
def TcState.regroup (s : TcState) (group : Text) (tpg : TcTpg) : Option TcTpg :=
  match tpg.luns with
  | [] => none
  | lun :: luns =>
    if group ∈ (s.objects.lookup lun.object).getD [] then
      some { tpg with luns := { lun with group := some group } :: luns }
    else none

/-- A new target has its first portal group already. -/
def TcState.exec (s : TcState) : TcCommand → Option TcState
  | .createObject name =>
    if name ∈ s.objects then none else some { s with objects := s.objects.insert name [] }
  | .setObject name _ | .saveConfig name => if name ∈ s.objects then some s else none
  | .createGroup object name _ =>
    (s.objects.lookup object).bind (fun groups =>
      if name ∈ groups then none
      else some { s with objects := s.objects.insert object (groups ++ [name]) })
  | .setGroup object name _ =>
    if name ∈ (s.objects.lookup object).getD [] then some s else none
  | .createTarget iqn =>
    if iqn ∈ s.targets then none else some (s.put iqn (AList.singleton 1 {}))
  | .createTpg iqn tag =>
    (s.targets.lookup iqn).bind (fun tpgs =>
      if tag ∈ tpgs then none else some (s.put iqn (tpgs.insert tag {})))
  | .createLun iqn tag object =>
    if object ∈ s.objects then
      s.onTpg iqn tag (fun t => some { t with luns := t.luns ++ [⟨object, none⟩] })
    else none
  | .setLunGroup iqn tag group => s.onTpg iqn tag (s.regroup group)
  | .createPortal iqn tag addr =>
    if ((s.targets.lookup iqn).any (fun tpgs => portalTaken tpgs addr)) then none
    else s.onTpg iqn tag (fun t => some { t with portals := t.portals ++ [addr] })
  | .deletePortal iqn tag addr =>
    s.onTpg iqn tag (fun t =>
      if addr ∈ t.portals then some { t with portals := t.portals.filter (· ≠ addr) } else none)
  | .enable iqn tag => s.onTpg iqn tag (fun t => some { t with enabled := true })
  | .setAttributes iqn tag ss =>
    s.onTpg iqn tag (fun t => some { t with attributes := settings t.attributes ss })
  | .setAuth iqn tag ss => s.onTpg iqn tag (fun t => some { t with auth := settings t.auth ss })

def TcState.run (s : TcState) (cs : List TcCommand) : Option TcState := cs.foldlM TcState.exec s

/-- Line by line; `none` is a line that is no command or whose command fails. -/
def TcState.runScript (s : TcState) (script : Text) : Option TcState :=
  (sessionCommands script).bind s.run

section Steps

variable {s : TcState} {iqn : Text} {tag : Nat} {tpgs : Table Nat TcTpg} {t t' t'' : TcTpg}
  {cs ds : List TcCommand}

theorem TcState.run_append (s : TcState) (cs ds : List TcCommand) :
    s.run (cs ++ ds) = (s.run cs).bind (fun s => s.run ds) := List.foldlM_append ..

theorem TcState.run_trans {s' s'' : TcState} (first : s.run cs = some s')
    (second : s'.run ds = some s'') : s.run (cs ++ ds) = some s'' := by
  rw [TcState.run_append, first, Option.bind_some, second]

theorem TcState.run_singleton (s : TcState) (c : TcCommand) : s.run [c] = s.exec c := by
  simp [TcState.run]

theorem TcState.run_pair {s' s'' : TcState} {c d : TcCommand} (first : s.exec c = some s')
    (second : s'.exec d = some s'') : s.run [c, d] = some s'' := by
  simp [TcState.run, first, second]

/-- Commands that only ask for something to be there. -/
theorem TcState.run_quiet (quiet : ∀ c ∈ cs, s.exec c = some s) : s.run cs = some s := by
  induction cs with
  | nil => rfl
  | cons c cs ih =>
    have rest := ih (fun d mem => quiet d (List.mem_cons_of_mem c mem))
    rw [TcState.run, List.foldlM_cons, quiet c List.mem_cons_self]
    exact rest

@[simp] theorem TcState.put_objects (s : TcState) (iqn : Text) (tpgs : Table Nat TcTpg) :
    (s.put iqn tpgs).objects = s.objects := rfl

@[simp] theorem TcState.put_lookup (s : TcState) (iqn : Text) (tpgs : Table Nat TcTpg) :
    (s.put iqn tpgs).targets.lookup iqn = some tpgs := AList.lookup_insert _

@[simp] theorem TcState.put_put (s : TcState) (iqn : Text) (tpgs tpgs' : Table Nat TcTpg) :
    (s.put iqn tpgs).put iqn tpgs' = s.put iqn tpgs' := by
  simp [TcState.put, AList.insert_insert]

theorem portalTaken_eq_false {addr : Text} : portalTaken tpgs addr = false ↔
    ∀ i t, tpgs.lookup i = some t → addr ∉ t.portals := by
  simp only [portalTaken, List.any_eq_false, decide_eq_true_eq]
  constructor
  · intro free i t there
    exact free ⟨i, t⟩ (AList.mem_lookup_iff.mp there)
  · intro free e mem
    exact free e.1 e.2 (AList.mem_lookup_iff.mpr mem)

/-- From a portal group `t` the commands make `t'`, when no other one of the target has a
portal at these addresses. -/
def TcState.Makes (s : TcState) (iqn : Text) (tag : Nat) (addrs : List Text) (t : TcTpg)
    (cs : List TcCommand) (t' : TcTpg) : Prop :=
  ∀ tpgs : Table Nat TcTpg, tpgs.lookup tag = some t →
    (∀ i u, i ≠ tag → tpgs.lookup i = some u → ∀ a ∈ addrs, a ∉ u.portals) →
    ∃ tpgs', (s.put iqn tpgs).run cs = some (s.put iqn tpgs') ∧ tpgs'.lookup tag = some t' ∧
      ∀ i, i ≠ tag → tpgs'.lookup i = tpgs.lookup i

variable {addrs : List Text}

theorem TcState.makes_nil : s.Makes iqn tag addrs t [] t :=
  fun tpgs there _ => ⟨tpgs, rfl, there, fun _ _ => rfl⟩

theorem TcState.Makes.append (first : s.Makes iqn tag addrs t cs t')
    (second : s.Makes iqn tag addrs t' ds t'') : s.Makes iqn tag addrs t (cs ++ ds) t'' := by
  intro tpgs there free
  obtain ⟨mid, run, own, others⟩ := first tpgs there free
  obtain ⟨last, rest, own', others'⟩ := second mid own (fun i u other found => by
    rw [others i other] at found
    exact free i u other found)
  exact ⟨last, TcState.run_trans run rest, own',
    fun i other => (others' i other).trans (others i other)⟩

/-- A command on a portal group. -/
theorem TcState.makes_of {c : TcCommand} {f : TcTpg → Option TcTpg} (done : f t = some t')
    (exec : ∀ tpgs : Table Nat TcTpg, tpgs.lookup tag = some t →
      (∀ i u, i ≠ tag → tpgs.lookup i = some u → ∀ a ∈ addrs, a ∉ u.portals) →
      (s.put iqn tpgs).exec c = (s.put iqn tpgs).onTpg iqn tag f) :
    s.Makes iqn tag addrs t [c] t' := by
  intro tpgs there free
  refine ⟨tpgs.insert tag t', ?_, AList.lookup_insert _, fun i other => AList.lookup_insert_ne other⟩
  rw [TcState.run_singleton, exec tpgs there free]
  simp [TcState.onTpg, there, done]

theorem TcState.makes_lun {name : Text} (there : name ∈ s.objects) :
    s.Makes iqn tag addrs t [.createLun iqn tag name]
      { t with luns := t.luns ++ [⟨name, none⟩] } :=
  TcState.makes_of rfl (fun _ _ _ => if_pos there)

theorem TcState.makes_lunGroup {lun : TcLun} {luns : List TcLun} {groups : List Text} {group : Text}
    (first : t.luns = lun :: luns) (defined : s.objects.lookup lun.object = some groups)
    (mem : group ∈ groups) :
    s.Makes iqn tag addrs t [.setLunGroup iqn tag group]
      { t with luns := { lun with group := some group } :: luns } := by
  refine TcState.makes_of (f := s.regroup group) ?_ (fun _ _ _ => rfl)
  rw [TcState.regroup, first]
  simp [defined, mem]

/-- A portal that no portal group of the target has. -/
theorem TcState.makes_portal {addr : Text} (mem : addr ∈ addrs) (own : addr ∉ t.portals) :
    s.Makes iqn tag addrs t [.createPortal iqn tag addr]
      { t with portals := t.portals ++ [addr] } := by
  refine TcState.makes_of (f := fun t => some { t with portals := t.portals ++ [addr] }) rfl
    (fun tpgs there free => ?_)
  have none : portalTaken tpgs addr = false := by
    rw [portalTaken_eq_false]
    intro i u found
    by_cases same : i = tag
    · subst i
      cases there.symm.trans found
      exact own
    · exact free i u same found addr mem
  rw [TcState.exec, TcState.put_lookup]
  simp [none]

theorem TcState.makes_enable : s.Makes iqn tag addrs t [.enable iqn tag] { t with enabled := true } :=
  TcState.makes_of rfl (fun _ _ _ => rfl)

theorem TcState.makes_attributes (ss : List Setting) :
    s.Makes iqn tag addrs t [.setAttributes iqn tag ss]
      { t with attributes := settings t.attributes ss } :=
  TcState.makes_of rfl (fun _ _ _ => rfl)

theorem TcState.makes_auth (ss : List Setting) :
    s.Makes iqn tag addrs t [.setAuth iqn tag ss] { t with auth := settings t.auth ss } :=
  TcState.makes_of rfl (fun _ _ _ => rfl)

/-- More portal groups, each with a tag of its own. -/
theorem TcState.run_createTpg {tags : List Nat} (nodup : tags.Nodup) (new : ∀ i ∈ tags, i ∉ tpgs) :
    ∃ tpgs', (s.put iqn tpgs).run (tags.map (TcCommand.createTpg iqn)) = some (s.put iqn tpgs') ∧
      ∀ i, tpgs'.lookup i = if i ∈ tags then some {} else tpgs.lookup i := by
  induction tags generalizing tpgs with
  | nil => exact ⟨tpgs, rfl, fun i => by simp⟩
  | cons tag tags ih =>
    obtain ⟨apart, nodup⟩ := List.nodup_cons.mp nodup
    have step : (s.put iqn tpgs).exec (.createTpg iqn tag) =
        some (s.put iqn (tpgs.insert tag {})) := by
      rw [TcState.exec, TcState.put_lookup, Option.bind_some, if_neg (new tag List.mem_cons_self),
        TcState.put_put]
    have later : ∀ i ∈ tags, i ∉ tpgs.insert tag {} := by
      intro i mem
      rw [AList.mem_insert, not_or]
      exact ⟨fun same => apart (same ▸ mem), new i (List.mem_cons_of_mem tag mem)⟩
    obtain ⟨tpgs', run, lookups⟩ := ih nodup later
    refine ⟨tpgs', ?_, fun i => ?_⟩
    · rw [List.map_cons, TcState.run, List.foldlM_cons, step]
      exact run
    · rw [lookups i]
      by_cases same : i = tag
      · subst i
        simp [apart, AList.lookup_insert]
      · simp [same, AList.lookup_insert_ne same]

end Steps

end Exec

end GlusterBlock
