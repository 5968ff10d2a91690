import GlusterBlock.GenConfigLeak
import GlusterBlock.LogSecrecy

/-! The command log of two requests that differ only in their passwords: which requests
write the same line. -/
namespace GlusterBlock

open Masking Json

section Reissue

def firstUuid : String := "00000000-0000-0000-0000-000000000000"
def secondUuid : String := "11111111-1111-1111-1111-111111111111"

/-- Another password in the place of each. -/
def reissue (passwd : String) : String :=
  if isUuid passwd then if passwd = firstUuid then secondUuid else firstUuid else passwd

theorem reissue_uuid {p : String} (uuid : isUuid p = true) :
    isUuid (reissue p) = true ∧ reissue p ≠ p := by
  unfold reissue
  rw [if_pos uuid]
  by_cases first : p = firstUuid
  · rw [if_pos first, first]
    exact ⟨by decide, by decide⟩
  · rw [if_neg first]
    exact ⟨by decide, fun same => first same.symm⟩

theorem reissue_other {p : String} (other : isUuid p = false) : reissue p = p := by
  unfold reissue
  rw [other]
  rfl

theorem reissue_keeps : Keeps reissue := by
  intro p
  cases uuid : isUuid p with
  | false => rw [reissue_other uuid]
  | true =>
    have filled : ∀ {q}, isUuid q = true → q ≠ "" := by
      rintro q is rfl
      exact absurd is (by decide)
    exact ⟨fun none => absurd none (filled (reissue_uuid uuid).1), fun none => absurd none (filled uuid)⟩

theorem reissue_shaped : Shaped reissue := by
  intro p
  cases uuid : isUuid p with
  | false => exact .inl (reissue_other uuid)
  | true =>
    have other := (reissue_uuid uuid).1
    have lengths := (uuid_length uuid).trans (uuid_length other).symm
    rw [String.length_toList, String.length_toList] at lengths
    exact .inr ⟨words_plain (uuid_word uuid), words_plain (uuid_word other), lengths⟩

theorem veil_reissue (p : String) : veil (reissue p) = veil p := by
  cases uuid : isUuid p with
  | false => rw [reissue_other uuid]
  | true => rw [veil, veil, if_pos uuid, if_pos (reissue_uuid uuid).1]

theorem veil_keeps : Keeps veil := fun _ => veil_empty

theorem veiled_reissue (js : Journal) : veiled (repass reissue js) = veiled js := by
  unfold veiled repass
  rw [List.map_map]
  refine List.map_congr_left (fun l _ => ?_)
  cases l with
  | passwd p => exact congrArg MetaLine.passwd (veil_reissue p)
  | _ => rfl

/-- No password, or a generated one. -/
def PasswordForm (p : String) : Prop := p = "" ∨ isUuid p = true

theorem form_reissue {p : String} (form : PasswordForm p) : PasswordForm (reissue p) := by
  rcases form with none | uuid
  · exact .inl ((reissue_keeps p).mpr none)
  · exact .inr (reissue_uuid uuid).1

/-- Two passwords that look alike under the veil are both UUIDs or both missing. -/
theorem veil_forms {p q : String} (first : PasswordForm p) (second : PasswordForm q)
    (same : veil q = veil p) : p = "" ∧ q = "" ∨ isUuid p = true ∧ isUuid q = true := by
  rcases first with none | uuid
  · exact .inl ⟨none, veil_empty.mp (same.trans (veil_empty.mpr none))⟩
  · rcases second with none | other
    · have empty : p = "" := veil_empty.mp (same.symm.trans (veil_empty.mpr none))
      rw [empty] at uuid
      exact absurd uuid (by decide)
    · exact .inr ⟨uuid, other⟩

end Reissue

section Log

/-- The requests whose replies go to the command log, each with what it meets. -/
inductive Logged where
  | create (blk : BlockCreateCli) (env : CreateEnv) (resp : RemoteCreateResp) (file : Metafile)
  | modify (blk : BlockModifyCli) (env : ModifyEnv) (file : Metafile)
  | info (blk : BlockInfoCli) (env : InfoEnv) (file : Metafile)
  | genConfig (addr : Addr) (format : JsonResponseFormat) (errCode : Int) (vols : List GenVolume)

/-- What a modify knows of the block by the time it replies. -/
def modifyRead (blk : BlockModifyCli) (env : ModifyEnv) (file : Metafile) : Option MetaInfo :=
  if env.session.connect.isSome then none
  else
    match env.session.access blk.volume blk.blockName file with
    | .error _ => none
    | .ok js => some (replay js)

variable (json : JsonResponseFormat → Layout)

/-- The line of the reply. -/
def cmdlog : Logged → Option Text
  | .create blk env resp file => (blockCreateCli blk env file).reply.map (fun r =>
      gbClipoffSensitiveDetails (createText json blk env.gbid env.passwd resp r))
  | .modify blk env file => (blockModifyCli blk env file).reply.map (fun r =>
      gbClipoffSensitiveDetails (match modifyRead blk env file with
        | none => modifyText json blk "" "" r
        | some info => modifyText json blk info.gbid (modifyPasswd blk info env.passwd) r))
  | .info blk env file => some (gbClipoffSensitiveDetails (blockInfoCli json blk env file))
  | .genConfig addr format errCode vols =>
      some (glusterBlockGenConfigSvc json addr format errCode vols)

/-- The same volume with other passwords in its metafiles. -/
structure GenVolume.Alike (vol wol : GenVolume) : Prop where
  connects : wol.connects = vol.connects
  lists : wol.lists = vol.lists
  env : wol.env = vol.env
  prio : wol.held.prio = vol.held.prio
  metas : ∀ name, (wol.held.metas.lookup name).map veiled = (vol.held.metas.lookup name).map veiled

/-- The same request on blocks with other passwords, and with other ones generated. -/
inductive SameButPasswords : Logged → Logged → Prop
  | create {blk env env' resp file file'} (generated : env'.veil = env.veil)
      (recorded : file'.map veiled = file.map veiled) :
      SameButPasswords (.create blk env resp file) (.create blk env' resp file')
  | modify {blk env env' file file'} (generated : env'.veil = env.veil)
      (recorded : file'.map veiled = file.map veiled) :
      SameButPasswords (.modify blk env file) (.modify blk env' file')
  | info {blk env file file'} (recorded : file'.map veiled = file.map veiled) :
      SameButPasswords (.info blk env file) (.info blk env file')
  | genConfig {addr format errCode vols wols} (alike : List.Forall₂ GenVolume.Alike vols wols) :
      SameButPasswords (.genConfig addr format errCode vols) (.genConfig addr format errCode wols)

/-- Names as the command line takes them, generated ids and passwords that are UUIDs, a
target with the name that the nodes give it, and a directory that lists a name once. -/
def Logged.WellFormed : Logged → Prop
  | .create _ env resp _ => isUuid env.gbid = true ∧ isUuid env.passwd = true ∧
      ∀ iqn, resp.iqn = some iqn → iqn = iqnOf env.gbid
  | .modify _ env file => isUuid env.passwd = true ∧
      ∀ js, file = some js → isUuid (replay js).gbid = true ∧ PasswordForm (replay js).passwd
  | .info blk _ file => glusterBlockIsNameAcceptable blk.blockName = true ∧
      ∀ js, file = some js → isUuid (replay js).gbid = true ∧
        glusterBlockIsNameAcceptable (replay js).volume = true ∧ PasswordForm (replay js).passwd
  | .genConfig _ _ _ vols => ∀ vol ∈ vols, vol.env.listing.Nodup ∧
      ∀ name js, vol.held.metas.lookup name = some js → PasswordForm (replay js).passwd

/-- The line does not depend on the passwords. -/
def Hidden (r : Logged) : Prop :=
  ∀ r', r'.WellFormed → SameButPasswords r r' → cmdlog json r' = cmdlog json r

def infoPrinted (env : InfoEnv) (file : Metafile) : Option Journal :=
  if env.session.connect = none ∧ env.session.readMeta = true ∧ env.session.unlocked = true
  then file else none

/-- An info on a block with a password needs names without the marker; a `genconfig` may
not get to a block with a password on the host's behalf unless it fails. -/
def Logged.Safe : Logged → Prop
  | .create _ _ _ _ => True
  | .modify _ _ _ => True
  | .info blk env file => ∀ js, infoPrinted env file = some js → (replay js).passwd ≠ "" →
      Unmarked blk.blockName.toList ∧ Unmarked (replay js).volume.toList
  | .genConfig addr _ _ vols => genStop false vols = some .fails ∨
      ∀ file ∈ genReached vols, ∀ p, ¬ file.1.shows addr file.2 p

variable {json}

theorem create_hidden {blk : BlockCreateCli} {env : CreateEnv} {resp : RemoteCreateResp}
    {file : Metafile} (formed : (Logged.create blk env resp file).WellFormed) :
    Hidden json (.create blk env resp file) := by
  rintro r' formed' alike
  obtain @⟨_, _, env', _, _, file', generated, recorded⟩ := alike
  obtain ⟨gbid, passwd, target⟩ := formed
  have same : env'.gbid = env.gbid := (congrArg CreateEnv.gbid generated :)
  have reply : (blockCreateCli blk env' file').reply = (blockCreateCli blk env file).reply := by
    rw [← create_reply_veil blk env' file', generated, recorded, create_reply_veil]
  simp only [cmdlog]
  rw [reply, same]
  refine Option.map_congr (fun r _ => ?_)
  exact create_hides json blk gbid formed'.2.1 passwd target r

theorem modifyRead_veil (blk : BlockModifyCli) {env env' : ModifyEnv} {file file' : Metafile}
    (session : env'.session = env.session) (recorded : file'.map veiled = file.map veiled) :
    (modifyRead blk env' file').map MetaInfo.veil = (modifyRead blk env file).map MetaInfo.veil := by
  unfold modifyRead Session.access
  rw [session]
  split
  · rfl
  · cases env.session.accessErr with
    | some errno => rfl
    | none =>
      cases file with
      | none =>
        rw [Option.map_eq_none_iff.mp recorded]
      | some js =>
        obtain ⟨js', rfl, same⟩ := Option.map_eq_some_iff.mp recorded
        have lines := congrArg replay same
        rw [replay_veiled, replay_veiled] at lines
        cases env.session.readMeta with
        | false => rfl
        | true => exact congrArg some lines

theorem modifyRead_file {blk : BlockModifyCli} {env : ModifyEnv} {file : Metafile} {info : MetaInfo}
    (read : modifyRead blk env file = some info) : ∃ js, file = some js ∧ info = replay js := by
  unfold modifyRead at read
  split at read
  · cases read
  · rcases access_cases env.session blk.volume blk.blockName file with ⟨e, failed⟩ | ⟨js, rfl, ok⟩
    · rw [failed] at read
      cases read
    · rw [ok] at read
      exact ⟨js, rfl, (Option.some.inj read).symm⟩

theorem modifyPasswd_uuid {blk : BlockModifyCli} {info : MetaInfo} {passwd : String}
    (auth : blk.authMode = true) (generated : isUuid passwd = true)
    (form : PasswordForm info.passwd) : isUuid (modifyPasswd blk info passwd) = true := by
  unfold modifyPasswd
  rw [if_pos auth]
  rcases form with none | uuid
  · rw [if_pos none]
    exact generated
  · split
    · exact generated
    · exact uuid

theorem modify_hidden {blk : BlockModifyCli} {env : ModifyEnv} {file : Metafile}
    (formed : (Logged.modify blk env file).WellFormed) : Hidden json (.modify blk env file) := by
  rintro r' formed' alike
  obtain _ | @⟨_, _, env', _, file', generated, recorded⟩ := alike
  have session : env'.session = env.session := (congrArg ModifyEnv.session generated :)
  have passwd : veil env'.passwd = veil env.passwd := (congrArg ModifyEnv.passwd generated :)
  have reply : (blockModifyCli blk env' file').reply = (blockModifyCli blk env file).reply := by
    rw [← modify_reply_veil blk env' file', generated, recorded, modify_reply_veil]
  have read := modifyRead_veil blk session recorded
  simp only [cmdlog]
  rw [reply]
  refine Option.map_congr (fun r _ => ?_)
  cases known : modifyRead blk env file with
  | none =>
    rw [known] at read
    rw [Option.map_eq_none_iff.mp read]
  | some info =>
    rw [known] at read
    obtain ⟨info', known', same⟩ := Option.map_eq_some_iff.mp read
    obtain ⟨js, rfl, rfl⟩ := modifyRead_file known
    obtain ⟨js', rfl, rfl⟩ := modifyRead_file known'
    obtain ⟨gbid, form⟩ := formed.2 js rfl
    have form' := (formed'.2 js' rfl).2
    have id : (replay js').gbid = (replay js).gbid := (congrArg MetaInfo.gbid same :)
    rw [known']
    dsimp only
    rw [id]
    cases auth : blk.authMode with
    | false =>
      have none : ∀ info passwd, modifyPasswd blk info passwd = "" := by
        intro info passwd
        rw [modifyPasswd, auth]
        rfl
      rw [none, none]
    | true =>
      exact modify_hides json blk gbid (modifyPasswd_uuid auth formed'.1 form')
        (modifyPasswd_uuid auth formed.1 form) r

theorem info_refused {blk : BlockInfoCli} {env : InfoEnv} {file file' : Metafile}
    (refused : infoPrinted env file = none) (same : file'.isSome = file.isSome) :
    blockInfoCli json blk env file' = blockInfoCli json blk env file := by
  cases file with
  | none =>
    rw [Option.isSome_none, Option.isSome_eq_false_iff, Option.isNone_iff_eq_none] at same
    rw [same]
  | some js =>
    obtain ⟨js', rfl⟩ := Option.isSome_iff_exists.mp same
    cases connect : env.session.connect with
    | some e => simp [blockInfoCli, connect]
    | none =>
      cases read : env.session.readMeta with
      | false => simp [blockInfoCli, connect, read]
      | true =>
        cases unlocked : env.session.unlocked with
        | false => simp [blockInfoCli, Session.unlock, connect, read, unlocked]
        | true => simp [infoPrinted, connect, read, unlocked] at refused

theorem info_printed {env : InfoEnv} {file : Metafile} {js : Journal}
    (printed : infoPrinted env file = some js) : file = some js ∧
      ∀ json blk js', blockInfoCli json blk env (some js') = infoText json blk (replay js') := by
  unfold infoPrinted at printed
  split at printed
  · rename_i ok
    refine ⟨printed, fun json blk js' => ?_⟩
    unfold blockInfoCli Session.unlock
    rw [ok.1, ok.2.1, ok.2.2]
    rfl
  · cases printed

theorem repass_text {js js' : Journal} (same : veiled js' = veiled js) :
    replay js' = { replay js with passwd := (replay js').passwd } := by
  have lines := congrArg replay same
  rw [replay_veiled, replay_veiled] at lines
  have back := congrArg (fun info : MetaInfo => { info with passwd := (replay js').passwd }) lines
  exact back

theorem info_hidden {blk : BlockInfoCli} {env : InfoEnv} {file : Metafile}
    (formed : (Logged.info blk env file).WellFormed) (safe : (Logged.info blk env file).Safe) :
    Hidden json (.info blk env file) := by
  rintro r' formed' alike
  obtain _ | _ | @⟨_, _, _, file', recorded⟩ := alike
  cases printed : infoPrinted env file with
  | none =>
    have known : file'.isSome = file.isSome := by
      rw [← Option.isSome_map (f := veiled), recorded, Option.isSome_map]
    simp only [cmdlog, info_refused printed known]
  | some js =>
    obtain ⟨rfl, text⟩ := info_printed printed
    obtain ⟨js', rfl, same⟩ := Option.map_eq_some_iff.mp recorded
    obtain ⟨gbid, volume, form⟩ := formed.2 js rfl
    have passwd : veil (replay js').passwd = veil (replay js).passwd := by
      have lines := congrArg replay same
      rw [replay_veiled, replay_veiled] at lines
      exact (congrArg MetaInfo.passwd lines :)
    have shown := repass_text same
    simp only [cmdlog, text, Option.some.injEq]
    rw [shown]
    rcases veil_forms form (formed'.2 js' rfl).2.2 passwd with ⟨none, none'⟩ | ⟨uuid, uuid'⟩
    · rw [none', ← none]
    · have marked : (replay js).passwd ≠ "" := by
        intro none
        rw [none] at uuid
        exact absurd uuid (by decide)
      obtain ⟨blockFree, volumeFree⟩ := safe js printed marked
      exact info_hides json blk (replay js) gbid uuid' uuid formed.1 volume blockFree volumeFree

theorem info_safe {blk : BlockInfoCli} {env : InfoEnv} {file : Metafile}
    (formed : (Logged.info blk env file).WellFormed) (hidden : Hidden json (.info blk env file)) :
    (Logged.info blk env file).Safe := by
  intro js printed password
  obtain ⟨rfl, text⟩ := info_printed printed
  obtain ⟨gbid, volume, form⟩ := formed.2 js rfl
  have uuid := form.resolve_left password
  have lines : replay (repass reissue js) = (replay js).repass reissue :=
    replay_repass reissue ((reissue_keeps "").mpr rfl) js
  have formed' : (Logged.info blk env (some (repass reissue js))).WellFormed := by
    refine ⟨formed.1, fun js' there => ?_⟩
    obtain rfl := Option.some.inj there
    rw [lines]
    exact ⟨gbid, volume, form_reissue form⟩
  have same := hidden _ formed' (.info (congrArg some (veiled_reissue js)))
  simp only [cmdlog, text, Option.some.injEq] at same
  rw [lines] at same
  by_contra marked
  obtain ⟨other, ne⟩ := reissue_uuid uuid
  exact ne (info_leaks json blk (replay js) other uuid formed.1 volume marked same)

theorem genConfig_hidden {addr : Addr} {format : JsonResponseFormat} {errCode : Int}
    {vols : List GenVolume} (formed : (Logged.genConfig addr format errCode vols).WellFormed)
    (safe : (Logged.genConfig addr format errCode vols).Safe) :
    Hidden json (.genConfig addr format errCode vols) := by
  rintro r' formed' alike
  obtain _ | _ | _ | @⟨_, _, _, _, wols, alike⟩ := alike
  have first : List.Forall₂ (GenVolume.Repassed veil) vols (vols.map (GenVolume.repass veil)) := by
    rw [List.forall₂_map_right_iff, List.forall₂_same]
    exact fun vol _ => ⟨rfl, rfl, rfl, repassed veil vol.held⟩
  have second : List.Forall₂ (GenVolume.Repassed veil) wols (vols.map (GenVolume.repass veil)) := by
    rw [List.forall₂_map_right_iff]
    refine alike.flip.imp (fun wol vol same =>
      ⟨same.connects.symm, same.lists.symm, same.env.symm, fun name => ?_, same.prio.symm⟩)
    exact ((repassed veil vol.held).metas name).trans (same.metas name).symm
  -- the code that a request starts with stands for no metafile read yet
  have unread : (-1 : Int) = 0 ↔ false = true := by decide
  obtain ⟨stops, passwords⟩ := volumes_stops addr unread
    (fun vol hvol => (formed vol hvol).1) ⟨[], []⟩
  have veils := (volumes_repass veil_keeps addr (-1) second ⟨[], []⟩).symm.trans
    (volumes_repass veil_keeps addr (-1) first ⟨[], []⟩)
  obtain ⟨objects, code⟩ := Prod.mk.inj veils
  simp only [cmdlog, glusterBlockGenConfigSvc]
  rw [code]
  by_cases failed : (getSoTgArraysForAllVolume addr (-1) vols ⟨[], []⟩).2 ≠ 0
  · rw [if_pos failed, if_pos failed]
  · rw [if_neg failed, if_neg failed]
    have none : (getSoTgArraysForAllVolume addr (-1) vols ⟨[], []⟩).1.passwords = [] := by
      refine List.eq_nil_iff_forall_not_mem.mpr (fun p shown => ?_)
      rcases (passwords p).mp shown with start | ⟨file, reached, shows⟩
      · cases start
      · exact (safe.resolve_left (fun fails => failed (stops.mpr fails))) file reached p shows
    have none' : (getSoTgArraysForAllVolume addr (-1) wols ⟨[], []⟩).1.passwords = [] := by
      have veiled := congrArg SoTgObj.passwords objects
      rw [passwords_repass, passwords_repass, none] at veiled
      exact List.map_eq_nil_iff.mp veiled
    rw [repass_none none, repass_none none'] at objects
    rw [objects]

theorem genConfig_safe {addr : Addr} {format : JsonResponseFormat} {errCode : Int}
    {vols : List GenVolume} (formed : (Logged.genConfig addr format errCode vols).WellFormed)
    (hidden : Hidden json (.genConfig addr format errCode vols)) :
    (Logged.genConfig addr format errCode vols).Safe := by
  let wols := vols.map (GenVolume.repass reissue)
  have formed' : (Logged.genConfig addr format errCode wols).WellFormed := by
    intro wol listed
    obtain ⟨vol, among, rfl⟩ := List.mem_map.mp listed
    obtain ⟨distinct, forms⟩ := formed vol among
    refine ⟨distinct, fun name js' there => ?_⟩
    rw [show (GenVolume.repass reissue vol).held.metas.lookup name = _ from
      (repassed reissue vol.held).metas name] at there
    obtain ⟨js, found, rfl⟩ := Option.map_eq_some_iff.mp there
    rw [replay_repass reissue ((reissue_keeps "").mpr rfl)]
    exact form_reissue (forms name js found)
  have alike : List.Forall₂ GenVolume.Alike vols wols := by
    rw [List.forall₂_map_right_iff, List.forall₂_same]
    refine fun vol _ => ⟨rfl, rfl, rfl, rfl, fun name => ?_⟩
    rw [show (GenVolume.repass reissue vol).held.metas.lookup name = _ from
      (repassed reissue vol.held).metas name, Option.map_map]
    exact Option.map_congr (fun js _ => veiled_reissue js)
  have repassed : List.Forall₂ (GenVolume.Repassed reissue) vols wols := by
    rw [List.forall₂_map_right_iff, List.forall₂_same]
    exact fun vol _ => ⟨rfl, rfl, rfl, repassed reissue vol.held⟩
  have unread : (-1 : Int) = 0 ↔ false = true := by decide
  obtain ⟨stops, passwords⟩ := volumes_stops addr unread
    (fun vol hvol => (formed vol hvol).1) ⟨[], []⟩
  have objects := volumes_repass reissue_keeps addr (-1) repassed ⟨[], []⟩
  have same := hidden _ formed' (.genConfig alike)
  by_cases fails : genStop false vols = some .fails
  · exact .inl fails
  · refine .inr (fun file reached p shows => ?_)
    have through : ¬ (getSoTgArraysForAllVolume addr (-1) vols ⟨[], []⟩).2 ≠ 0 :=
      fun failed => fails (stops.mp failed)
    have shown := (passwords p).mpr (.inr ⟨file, reached, shows⟩)
    obtain ⟨js, readable, _, passwd, filled⟩ := shows
    have among : file.1 ∈ vols := reached_among reached
    have uuid : isUuid p = true := by
      have form := (formed file.1 among).2 file.2 js (Option.filter_eq_some_iff.mp readable).1
      rw [passwd] at form
      exact form.resolve_left filled
    have start : SoTgObj.repass reissue ⟨[], []⟩ = ⟨[], []⟩ := rfl
    rw [start] at objects
    simp only [cmdlog, glusterBlockGenConfigSvc, Option.some.injEq] at same
    rw [objects] at same
    dsimp only at same
    rw [if_neg through, if_neg through] at same
    exact (reissue_uuid uuid).2 (document_shows reissue_shaped json _ same.symm p shown)

/-- Of a well-formed request, the line hides the passwords exactly when it is safe. -/
theorem cmdlog_hides (json : JsonResponseFormat → Layout) {r : Logged} (formed : r.WellFormed) :
    Hidden json r ↔ r.Safe := by
  cases r with
  | create blk env resp file => exact ⟨fun _ => trivial, fun _ => create_hidden formed⟩
  | modify blk env file => exact ⟨fun _ => trivial, fun _ => modify_hidden formed⟩
  | info blk env file => exact ⟨info_safe formed, info_hidden formed⟩
  | genConfig addr format errCode vols => exact ⟨genConfig_safe formed, genConfig_hidden formed⟩

def mapJsonFlagToJsonCstring : JsonResponseFormat → Layout
  | .plain => .plain
  | .pretty => .pretty
  | _ => .spaced

def secretJournal : Journal := configuredLines 1 ["10.0.0.1"] ++ [.passwd firstUuid]

def secretInfo (blockName : String) : Logged :=
  .info ⟨blockName, "vol", .none⟩ ⟨.good, (0, "")⟩ (some secretJournal)

def secretVolume : GenVolume where
  connects := true
  lists := true
  env := timedGenEnv
  held := { metas := AList.insert "block" secretJournal ∅, prio := fun _ => none }

theorem secretInfo_formed {blockName : String} (acceptable : glusterBlockIsNameAcceptable blockName = true) :
    (secretInfo blockName).WellFormed := by
  refine ⟨acceptable, fun js there => ?_⟩
  obtain rfl := Option.some.inj there
  exact ⟨by decide, by decide, .inr (by decide)⟩

theorem secretVolume_formed :
    (Logged.genConfig "10.0.0.1" .none 0 [secretVolume]).WellFormed := by
  intro vol listed
  obtain rfl := List.mem_singleton.mp listed
  refine ⟨by decide, fun name js there => ?_⟩
  by_cases block : name = "block"
  · subst name
    obtain rfl := Option.some.inj ((AList.lookup_insert _).symm.trans there)
    exact .inr (by decide)
  · rw [show secretVolume.held.metas.lookup name = _ from AList.lookup_insert_ne block] at there
    cases there

/-- An info on a block with a password. -/
theorem cmdlog_hides_info : Hidden mapJsonFlagToJsonCstring (secretInfo "block") := by
  refine (cmdlog_hides _ (secretInfo_formed (by decide))).mpr (fun js printed _ => ?_)
  obtain rfl := Option.some.inj printed
  exact ⟨unmarked_of_no_w (by decide), unmarked_of_no_w (by decide)⟩

/-- The line of a `genconfig` shows the password of its block, and the line of an info one
of a block whose name is the marker. -/
theorem cmdlog_shows :
    (Logged.genConfig "10.0.0.1" .none 0 [secretVolume]).WellFormed ∧
      ¬ Hidden mapJsonFlagToJsonCstring (.genConfig "10.0.0.1" .none 0 [secretVolume]) ∧
    (secretInfo "PASSWORD").WellFormed ∧
      ¬ Hidden mapJsonFlagToJsonCstring (secretInfo "PASSWORD") := by
  refine ⟨secretVolume_formed, fun hidden => ?_, secretInfo_formed (by decide), fun hidden => ?_⟩
  · rcases genConfig_safe secretVolume_formed hidden with fails | silent
    · revert fails
      decide
    · have reached : (secretVolume, "block") ∈ genReached [secretVolume] := List.mem_cons_self
      exact silent _ reached firstUuid ⟨secretJournal, by decide, by decide, by decide, by decide⟩
  · have free := (info_safe (secretInfo_formed (by decide)) hidden secretJournal rfl (by decide)).1
    exact free (List.infix_refl _)

end Log

end GlusterBlock
