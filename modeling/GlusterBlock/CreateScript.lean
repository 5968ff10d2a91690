import GlusterBlock.ExecCommand
import GlusterBlock.TargetLines

/-! The script of a create, read line by line: which commands `targetcli` gets of it, and
what they make on a node that has neither the storage object nor the target. -/
namespace GlusterBlock

open Fields (tokens wordLines)

section Paths

/-- A path without a blank in it. -/
structure NamesPlace (path : Text) (p : TcPlace) : Prop where
  place : placeOf path = some p
  blank : ' ' ∉ path
  inLine : '\n' ∉ path

/-- The text has these commands in it. -/
structure Reads (t : Text) (cs : List TcCommand) : Prop where
  commands : (wordLines '\n' ' ' t).map commandOf = cs.map some

variable {s t path rest : Text} {p : TcPlace} {cs ds : List TcCommand} {c : TcCommand}

theorem reads_nil : Reads [] [] := ⟨rfl⟩

theorem Reads.behind (first : Reads s cs) (second : Reads t ds) :
    Reads (s ++ '\n' :: t) (cs ++ ds) where
  commands := by
    rw [Fields.wordLines_append, List.map_append, List.map_append, first.commands, second.commands]

theorem Reads.blank (reads : Reads t cs) : Reads (' ' :: t) cs where
  commands := by
    rw [Fields.wordLines_blank (by decide)]
    exact reads.commands

theorem Reads.lines (first : Reads s cs) {ls : List Text} (second : Reads (linesOf ls) ds) :
    Reads (linesOf (s :: ls)) (cs ++ ds) := by
  by_cases last : ls = []
  · subst last
    have none : ds = [] := by
      have empty : ([] : List (Option TcCommand)) = ds.map some := second.commands
      exact List.map_eq_nil_iff.mp empty.symm
    rw [none, List.append_nil]
    simpa [linesOf] using first
  · rw [linesOf_cons last]
    exact first.behind second

theorem Reads.last (reads : Reads t cs) : Reads (linesOf [t]) cs := by
  simpa [linesOf] using reads

/-- A path and the words behind it. -/
theorem Reads.line (names : NamesPlace path p) (inLine : '\n' ∉ rest) {verb : Text}
    {args : List Text} (words : tokens ' ' rest = verb :: args)
    (command : p.command verb args = some c) : Reads (path ++ ' ' :: rest) [c] := by
  have some : path ≠ [] := by
    rintro rfl
    exact nomatch names.place
  have split : tokens ' ' (path ++ ' ' :: rest) = path :: verb :: args := by
    rw [Fields.tokens_cons names.blank some, words]
  have one : '\n' ∉ path ++ ' ' :: rest := by
    simp [names.inLine, inLine]
  have reads : commandOf (path :: verb :: args) = .some c := by
    rw [commandOf, names.place]
    exact command
  refine ⟨?_⟩
  rw [Fields.wordLines_line one, split, if_neg (by simp), List.map_singleton, reads]
  rfl

end Paths

section Names

/-- A name that can be a word of a line and of a path. -/
def Plain (t : Text) : Prop := t ≠ [] ∧ ' ' ∉ t ∧ '\n' ∉ t ∧ '/' ∉ t

instance (t : Text) : Decidable (Plain t) := inferInstanceAs (Decidable (_ ∧ _ ∧ _ ∧ _))

def iqnText (gbid : String) : Text := (gbTgcliIqnPrefix ++ gbid).toList

variable {name gbid : String} {group w : Text} {i : Nat}

theorem plain_tpgName (i : Nat) : Plain (tpgName i) := by
  have digits : ∀ c ∈ (toString i).toList, c.isDigit = true := by
    intro c mem
    rw [Nat.toString_eq_repr, Nat.toList_repr] at mem
    exact CText.digits_isDigit mem
  have clean (c : Char) (other : c.isDigit = false) (fixed : c ∉ "tpg".toList) : c ∉ tpgName i := by
    intro mem
    rcases List.mem_append.mp mem with front | number
    · exact fixed front
    · exact Bool.false_ne_true (other.symm.trans (digits c number))
  exact ⟨by simp [tpgName], clean ' ' (by decide) (by decide), clean '\n' (by decide) (by decide),
    clean '/' (by decide) (by decide)⟩

theorem plain_iqn (hg : Plain gbid.toList) : Plain (iqnText gbid) := by
  have clean (c : Char) (inside : c ∉ gbid.toList) (fixed : c ∉ gbTgcliIqnPrefix.toList) :
      c ∉ iqnText gbid := by
    unfold iqnText
    rw [String.toList_append, List.mem_append, not_or]
    exact ⟨fixed, inside⟩
  refine ⟨?_, clean ' ' hg.2.1 (by decide), clean '\n' hg.2.2.1 (by decide),
    clean '/' hg.2.2.2 (by decide)⟩
  unfold iqnText
  rw [String.toList_append]
  exact List.append_ne_nil_of_right_ne_nil _ hg.1

theorem tokens_plain (plain : Plain w) : tokens '/' w = [w] := by
  rw [Fields.tokens_word plain.2.2.2, if_neg plain.1]

/-- A path below a root. -/
theorem tokens_below (plain : Plain w) (t : Text) :
    tokens '/' (w ++ '/' :: t) = w :: tokens '/' t :=
  Fields.tokens_cons plain.2.2.2 plain.1 t

theorem glfs_split (name : String) : tgcliGlfs name =
    '/' :: ("backstores".toList ++ '/' :: ("user:glfs".toList ++ '/' :: name.toList)) := by
  unfold tgcliGlfs
  rw [String.toList_append, String.toList_append]
  rfl

theorem tpg_split (gbid : String) (i : Nat) : tgcliTpg gbid i =
    '/' :: ("iscsi".toList ++ '/' :: (iqnText gbid ++ '/' :: tpgName i)) := by
  unfold tgcliTpg tgcliTarget
  rw [List.append_assoc]
  rfl

theorem target_split (gbid : String) : tgcliTarget gbid =
    '/' :: ("iscsi".toList ++ '/' :: iqnText gbid) := rfl

theorem tokens_glfs (plain : Plain name.toList) :
    tokens '/' (tgcliGlfs name) = ["backstores".toList, "user:glfs".toList, name.toList] := by
  rw [glfs_split, Fields.tokens_delim, tokens_below (by decide), tokens_below (by decide),
    tokens_plain plain]

theorem tokens_target (hg : Plain gbid.toList) :
    tokens '/' (tgcliTarget gbid) = ["iscsi".toList, iqnText gbid] := by
  rw [target_split, Fields.tokens_delim, tokens_below (by decide), tokens_plain (plain_iqn hg)]

theorem tokens_tpg (hg : Plain gbid.toList) (i : Nat) :
    tokens '/' (tgcliTpg gbid i) = ["iscsi".toList, iqnText gbid, tpgName i] := by
  rw [tpg_split, Fields.tokens_delim, tokens_below (by decide), tokens_below (plain_iqn hg),
    tokens_plain (plain_tpgName i)]

theorem glfs_clean (plain : Plain name.toList) : ' ' ∉ tgcliGlfs name ∧ '\n' ∉ tgcliGlfs name := by
  have clean (c : Char) (inside : c ∉ name.toList)
      (fixed : c ∉ '/' :: ("backstores".toList ++ '/' :: ("user:glfs".toList ++ ['/']))) :
      c ∉ tgcliGlfs name := by
    have shape : tgcliGlfs name =
        '/' :: ("backstores".toList ++ '/' :: ("user:glfs".toList ++ ['/'])) ++ name.toList := by
      rw [glfs_split]
      rfl
    rw [shape, List.mem_append, not_or]
    exact ⟨fixed, inside⟩
  exact ⟨clean ' ' plain.2.1 (by decide), clean '\n' plain.2.2.1 (by decide)⟩

theorem target_clean (hg : Plain gbid.toList) :
    ' ' ∉ tgcliTarget gbid ∧ '\n' ∉ tgcliTarget gbid := by
  have clean (c : Char) (inside : c ∉ iqnText gbid) (fixed : c ∉ "/iscsi/".toList) :
      c ∉ tgcliTarget gbid := by
    intro mem
    exact (List.mem_append.mp mem).elim fixed inside
  exact ⟨clean ' ' (plain_iqn hg).2.1 (by decide), clean '\n' (plain_iqn hg).2.2.1 (by decide)⟩

theorem tpg_clean (hg : Plain gbid.toList) (i : Nat) :
    ' ' ∉ tgcliTpg gbid i ∧ '\n' ∉ tgcliTpg gbid i := by
  have clean (c : Char) (target : c ∉ tgcliTarget gbid) (number : c ∉ tpgName i) (other : c ≠ '/') :
      c ∉ tgcliTpg gbid i := by
    have shape : tgcliTpg gbid i = tgcliTarget gbid ++ '/' :: tpgName i := rfl
    rw [shape, List.mem_append, List.mem_cons]
    tauto
  exact ⟨clean ' ' (target_clean hg).1 (plain_tpgName i).2.1 (by decide),
    clean '\n' (target_clean hg).2 (plain_tpgName i).2.2.1 (by decide)⟩

theorem names_glfs (plain : Plain name.toList) :
    NamesPlace (tgcliGlfs name) (.object name.toList) where
  place := by
    rw [placeOf, tokens_glfs plain]
    rfl
  blank := (glfs_clean plain).1
  inLine := (glfs_clean plain).2

/-- A place below an object. -/
theorem names_below (plain : Plain name.toList) {t : Text} {names : List Text} {p : TcPlace}
    (split : tokens '/' t = names) (blank : ' ' ∉ t) (inLine : '\n' ∉ t)
    (place : objectPlace (name.toList :: names) = some p) :
    NamesPlace (tgcliGlfs name ++ '/' :: t) p where
  place := by
    rw [placeOf, Fields.tokens_append, tokens_glfs plain, split]
    exact place
  blank := by simp [(glfs_clean plain).1, blank]
  inLine := by simp [(glfs_clean plain).2, inLine]

theorem names_target (hg : Plain gbid.toList) :
    NamesPlace (tgcliTarget gbid) (.target (iqnText gbid)) where
  place := by
    rw [placeOf, tokens_target hg]
    rfl
  blank := (target_clean hg).1
  inLine := (target_clean hg).2

theorem names_tpg (hg : Plain gbid.toList) (i : Nat) :
    NamesPlace (tgcliTpg gbid i) (.tpg (iqnText gbid) i) where
  place := by
    have tag : iscsiPlace [iqnText gbid, tpgName i] = some (.tpg (iqnText gbid) i) := by
      rw [iscsiPlace, tagOf_name]
      rfl
    rw [placeOf, tokens_tpg hg i]
    exact tag
  blank := (tpg_clean hg i).1
  inLine := (tpg_clean hg i).2

/-- A place below a portal group. -/
theorem names_inside (hg : Plain gbid.toList) (i : Nat) {t : Text} {names : List Text} {p : TcPlace}
    (split : tokens '/' t = names) (blank : ' ' ∉ t) (inLine : '\n' ∉ t)
    (place : tpgPlace (iqnText gbid) i names = some p) :
    NamesPlace (tgcliTpg gbid i ++ '/' :: t) p where
  place := by
    have tag : iscsiPlace (iqnText gbid :: tpgName i :: names) = some p := by
      rw [iscsiPlace, tagOf_name]
      exact place
    rw [placeOf, Fields.tokens_append, tokens_tpg hg i, split]
    exact tag
  blank := by simp [(tpg_clean hg i).1, blank]
  inLine := by simp [(tpg_clean hg i).2, inLine]

end Names

section Commands

def TpgCmd.line (iqn : Text) (tag : Nat) : TpgCmd → TcCommand
  | .lunCreate path => .createLun iqn tag (((placeOf path.toList).bind objectOf).getD [])
  | .lunAlua group => .setLunGroup iqn tag group.toList
  | .portalCreate addr => .createPortal iqn tag addr.toList
  | .portalDelete addr => .deletePortal iqn tag addr.toList
  | .enable => .enable iqn tag
  | .setAttributes attrs =>
    .setAttributes iqn tag (attrs.map (fun a => (a.1.toList, (toString a.2).toList)))
  | .setAuth userid password =>
    .setAuth iqn tag [("userid".toList, userid.toList), ("password".toList, password.toList)]

/-- A command on the target of a block, as it is said to `targetcli`. -/
def TargetCmd.line (name iqn : Text) : TargetCmd → TcCommand
  | .backstoreCreate b => .createObject b.name.toList
  | .setCmdTimeOut n => .setObject name [("cmd_time_out".toList, (toString n).toList)]
  | .aluaCreate group tag => .createGroup name group.toList (toString tag).toList
  | .aluaSet group attr value => .setGroup name group.toList (attr.toList, (toString value).toList)
  | .iqnCreate iqn => .createTarget iqn.toList
  | .tpgCreate tag => .createTpg iqn tag
  | .onTpg tag cmd => cmd.line iqn tag

/-- The texts that the script is made of: names and addresses are words, and none of the
others ends a line. -/
structure ScriptTexts (args : CommonArgs) : Prop where
  name : Plain args.blk.blockName.toList
  gbid : Plain args.blk.gbid.toList
  passwd : args.blk.authMode = true → ' ' ∉ args.blk.passwd.toList ∧ '\n' ∉ args.blk.passwd.toList
  hosts : ∀ h ∈ args.hosts, Plain h.toList
  volume : '\n' ∉ args.blk.volume.toList
  server : '\n' ∉ (args.volServer.getD args.blk.ipaddr).toList
  control : '\n' ∉ (args.control.getD "").toList

variable {args : CommonArgs} (capable : Bool)

theorem number_inLine (n : Nat) : ' ' ∉ (toString n).toList ∧ '\n' ∉ (toString n).toList := by
  rw [Nat.toString_eq_repr, Nat.toList_repr]
  constructor <;> exact fun mem => absurd (CText.digits_isDigit mem) (by decide)

/-- A line below the object. -/
theorem reads_below {name : String} (plain : Plain name.toList) {t rest line : Text}
    {names : List Text} {p : TcPlace} {verb : Text} {words : List Text} {c : TcCommand}
    (shape : line = tgcliGlfs name ++ ('/' :: (t ++ ' ' :: rest)))
    (split : tokens '/' t = names) (clean : ' ' ∉ t ∧ '\n' ∉ t ∧ '\n' ∉ rest)
    (place : objectPlace (name.toList :: names) = some p)
    (args : tokens ' ' rest = verb :: words) (command : p.command verb words = some c) :
    Reads line [c] := by
  have whole : line = (tgcliGlfs name ++ '/' :: t) ++ ' ' :: rest := by
    rw [shape, List.append_assoc]
    rfl
  rw [whole]
  exact Reads.line (names_below plain split clean.1 clean.2.1 place) clean.2.2 args command

/-- A line below a portal group. -/
theorem reads_inside {gbid : String} (hg : Plain gbid.toList) (i : Nat) {t rest line : Text}
    {names : List Text} {p : TcPlace} {verb : Text} {words : List Text} {c : TcCommand}
    (shape : line = tgcliTpg gbid i ++ ('/' :: (t ++ ' ' :: rest)))
    (split : tokens '/' t = names) (clean : ' ' ∉ t ∧ '\n' ∉ t ∧ '\n' ∉ rest)
    (place : tpgPlace (iqnText gbid) i names = some p)
    (args : tokens ' ' rest = verb :: words) (command : p.command verb words = some c) :
    Reads line [c] := by
  have whole : line = (tgcliTpg gbid i ++ '/' :: t) ++ ' ' :: rest := by
    rw [shape, List.append_assoc]
    rfl
  rw [whole]
  exact Reads.line (names_inside hg i split clean.1 clean.2.1 place) clean.2.2 args command

theorem cfg_inLine (texts : ScriptTexts args) :
    '\n' ∉ (backstoreOf args capable).cfg.text.toList := by
  have number := (number_inLine (args.timeout capable)).2
  have fixed : '\n' ∉ "@".toList ∧ '\n' ∉ "/block-store/".toList ∧ '\n' ∉ ";".toList ∧
      '\n' ∉ gbIoTimeoutStr.toList ∧ '\n' ∉ "=".toList := by decide
  obtain ⟨sign, dir, semicolon, key, equals⟩ := fixed
  have front : '\n' ∉ (args.blk.volume ++ "@" ++ args.volServer.getD args.blk.ipaddr ++
      "/block-store/" ++ args.blk.gbid).toList := by
    simp only [String.toList_append, List.mem_append, not_or]
    exact ⟨⟨⟨⟨texts.volume, sign⟩, texts.server⟩, dir⟩, texts.gbid.2.2.1⟩
  unfold CfgString.text backstoreOf
  dsimp only
  rw [String.toList_append, List.mem_append, not_or]
  refine ⟨front, ?_⟩
  split
  · decide
  · simp only [String.toList_append, List.mem_append, not_or]
    exact ⟨⟨⟨semicolon, key⟩, equals⟩, number⟩

theorem reads_backstore (texts : ScriptTexts args) :
    Reads (backstoreOf args capable).createText [.createObject args.blk.blockName.toList] := by
  have names : NamesPlace gbTgcliGlfsPath.toList .glfs := ⟨by decide, by decide, by decide⟩
  let named : Text := "name".toList ++ '=' :: args.blk.blockName.toList
  let others : Text := "size=".toList ++ ((toString args.blk.size).toList ++
    (" cfgstring=".toList ++ ((backstoreOf args capable).cfg.text.toList ++
      ((args.control.getD "").toList ++ (" wwn=".toList ++ args.blk.gbid.toList)))))
  have shape : (backstoreOf args capable).createText =
      gbTgcliGlfsPath.toList ++ ' ' :: ("create".toList ++ ' ' :: (named ++ ' ' :: others)) := by
    simp only [Backstore.createText, backstoreOf, List.append_assoc]
    rfl
  have clean (c : Char) (inside : c ∉ args.blk.blockName.toList) (fixed : c ∉ "name=".toList) :
      c ∉ named := by
    have split : named = "name=".toList ++ args.blk.blockName.toList := rfl
    rw [split, List.mem_append, not_or]
    exact ⟨fixed, inside⟩
  have words : tokens ' ' ("create".toList ++ ' ' :: (named ++ ' ' :: others)) =
      "create".toList :: named :: tokens ' ' others := by
    rw [Fields.tokens_cons (by decide) (by decide),
      Fields.tokens_cons (clean ' ' texts.name.2.1 (by decide)) (by simp [named])]
  have fixed : '\n' ∉ "size=".toList ∧ '\n' ∉ " cfgstring=".toList ∧ '\n' ∉ " wwn=".toList ∧
      '\n' ∉ "create".toList := by decide
  obtain ⟨size, cfg, wwn, create⟩ := fixed
  have rest : '\n' ∉ others := by
    simp only [others, List.mem_append, not_or]
    exact ⟨size, (number_inLine _).2, cfg, cfg_inLine capable texts, texts.control, wwn, texts.gbid.2.2.1⟩
  have inLine : '\n' ∉ "create".toList ++ ' ' :: (named ++ ' ' :: others) := by
    have own := clean '\n' texts.name.2.2.1 (by decide)
    simp only [List.mem_append, List.mem_cons, not_or]
    exact ⟨create, by decide, own, by decide, rest⟩
  have param : paramOf "name" named = some args.blk.blockName.toList := paramOf_of (by decide) _
  have command : TcPlace.glfs.command "create".toList (named :: tokens ' ' others) =
      some (.createObject args.blk.blockName.toList) := by
    rw [TcPlace.command, if_pos rfl, List.head?_cons, Option.bind_some, param]
    rfl
  rw [shape]
  exact Reads.line names inLine words command

theorem reads_timeout (texts : ScriptTexts args) :
    Reads (tgcliGlfs args.blk.blockName ++
        (" set attribute cmd_time_out=" ++ toString gbCmdTimeOut).toList)
      [.setObject args.blk.blockName.toList
        [("cmd_time_out".toList, (toString gbCmdTimeOut).toList)]] := by
  have words : tokens ' ' ("set attribute cmd_time_out=" ++ toString gbCmdTimeOut).toList =
      "set".toList :: ["attribute".toList, "cmd_time_out=130".toList] := by decide
  exact Reads.line (names_glfs texts.name) (by decide) words rfl

/-- A setting is one word. -/
theorem setting_word (key value : Text) (hk : ' ' ∉ key ∧ '\n' ∉ key)
    (hv : ' ' ∉ value ∧ '\n' ∉ value) :
    tokens ' ' (key ++ '=' :: value) = [key ++ '=' :: value] ∧ '\n' ∉ key ++ '=' :: value := by
  constructor
  · rw [Fields.tokens_word (by simp [hk.1, hv.1]), if_neg (by simp)]
  · simp [hk.2, hv.2]

theorem reads_group (texts : ScriptTexts args) {group : String} (plain : Plain group.toList)
    (tag : Nat) :
    Reads (tgcliGlfs args.blk.blockName ++
        ("/alua create name=" ++ group ++ " tag=" ++ toString tag).toList)
      [.createGroup args.blk.blockName.toList group.toList (toString tag).toList] := by
  let name : Text := "name".toList ++ '=' :: group.toList
  let number : Text := "tag".toList ++ '=' :: (toString tag).toList
  have hn := setting_word "name".toList _ (by decide) ⟨plain.2.1, plain.2.2.1⟩
  have ht := setting_word "tag".toList _ (by decide) (number_inLine tag)
  have shape : tgcliGlfs args.blk.blockName ++
        ("/alua create name=" ++ group ++ " tag=" ++ toString tag).toList =
      tgcliGlfs args.blk.blockName ++
        ('/' :: ("alua".toList ++ ' ' :: ("create".toList ++ ' ' :: (name ++ ' ' :: number)))) := by
    simp only [String.toList_append, List.append_assoc]
    rfl
  have words : tokens ' ' ("create".toList ++ ' ' :: (name ++ ' ' :: number)) =
      "create".toList :: [name, number] := by
    rw [Fields.tokens_cons (by decide) (by decide), Fields.tokens_append, hn.1, ht.1]
    rfl
  have inLine : '\n' ∉ "create".toList ++ ' ' :: (name ++ ' ' :: number) := by
    have fixed : '\n' ∉ "create".toList := by decide
    simp only [List.mem_append, List.mem_cons, not_or]
    exact ⟨fixed, by decide, hn.2, by decide, ht.2⟩
  have command : (TcPlace.groups args.blk.blockName.toList).command "create".toList [name, number] =
      some (.createGroup args.blk.blockName.toList group.toList (toString tag).toList) := by
    have first : paramOf "name" name = some group.toList := paramOf_of (by decide) _
    have second : paramOf "tag" number = some (toString tag).toList := paramOf_of (by decide) _
    simp only [TcPlace.command, if_true, first, second]
    rfl
  exact reads_below texts.name shape (tokens_plain (by decide)) ⟨by decide, by decide, inLine⟩ rfl
    words command

theorem reads_aluaSet (texts : ScriptTexts args) {group attr : String} (plain : Plain group.toList)
    (word : ' ' ∉ attr.toList ∧ '\n' ∉ attr.toList ∧ '=' ∉ attr.toList) (value : Nat) :
    Reads (aluaSet args group attr value)
      [.setGroup args.blk.blockName.toList group.toList (attr.toList, (toString value).toList)] := by
  let place : Text := "alua".toList ++ '/' :: group.toList
  let setting : Text := attr.toList ++ '=' :: (toString value).toList
  have hs := setting_word _ _ ⟨word.1, word.2.1⟩ (number_inLine value)
  have shape : aluaSet args group attr value = tgcliGlfs args.blk.blockName ++
      ('/' :: (place ++ ' ' :: ("set".toList ++ ' ' :: ("alua".toList ++ ' ' :: setting)))) := by
    simp only [aluaSet, String.toList_append, List.append_assoc, place]
    rfl
  have split : tokens '/' place = ["alua".toList, group.toList] := by
    rw [tokens_below (by decide), tokens_plain plain]
  have words : tokens ' ' ("set".toList ++ ' ' :: ("alua".toList ++ ' ' :: setting)) =
      "set".toList :: ["alua".toList, setting] := by
    rw [Fields.tokens_cons (by decide) (by decide), Fields.tokens_cons (by decide) (by decide), hs.1]
  have clean : ' ' ∉ place ∧ '\n' ∉ place ∧
      '\n' ∉ "set".toList ++ ' ' :: ("alua".toList ++ ' ' :: setting) := by
    have fixed : ' ' ∉ "alua".toList ∧ '\n' ∉ "alua".toList ∧ '\n' ∉ "set".toList := by decide
    obtain ⟨blank, below, verb⟩ := fixed
    simp only [place, List.mem_append, List.mem_cons, not_or]
    exact ⟨⟨blank, by decide, plain.2.1⟩, ⟨below, by decide, plain.2.2.1⟩,
      verb, by decide, below, by decide, hs.2⟩
  have command : (TcPlace.group args.blk.blockName.toList group.toList).command "set".toList
      ["alua".toList, setting] = some (.setGroup args.blk.blockName.toList group.toList
        (attr.toList, (toString value).toList)) := by
    have read : settingOf setting = some (attr.toList, (toString value).toList) :=
      settingOf_of word.2.2 _
    simp only [TcPlace.command, and_self, if_true, read]
    rfl
  exact reads_below texts.name shape split clean rfl words command

theorem reads_alua (texts : ScriptTexts args) {cs : List TcCommand} {ls : List Text}
    (rest : Reads (linesOf ls) cs) :
    Reads (linesOf (glfsAlua args :: glfsAluaType args :: glfsAluaSup args :: ls))
      (aluaCommands.map (TargetCmd.line args.blk.blockName.toList (iqnText args.blk.gbid)) ++ cs) := by
  have ao : Plain gbAluaAoTpgName.toList := by decide
  have ano : Plain gbAluaAnoTpgName.toList := by decide
  have groups : Reads (glfsAlua args) _ :=
    (reads_group texts ao 1).lines ((reads_group texts ano 2).lines reads_nil)
  have types : Reads (glfsAluaType args) _ :=
    (reads_aluaSet texts ao (by decide) 1).lines ((reads_aluaSet texts ano (by decide) 1).lines
      ((reads_aluaSet texts ao (by decide) 0).lines ((reads_aluaSet texts ano (by decide) 1).lines
        reads_nil)))
  have support : Reads (glfsAluaSup args) _ :=
    Reads.behind ((reads_aluaSet texts ao (by decide) 0).lines
      ((reads_aluaSet texts ao (by decide) 0).lines ((reads_aluaSet texts ao (by decide) 0).lines
        ((reads_aluaSet texts ano (by decide) 0).lines ((reads_aluaSet texts ano (by decide) 0).lines
          ((reads_aluaSet texts ano (by decide) 0).lines reads_nil)))))) reads_nil
  exact groups.lines (types.lines (support.lines rest))

theorem reads_backstores (texts : ScriptTexts args) {cs : List TcCommand} {ls : List Text}
    (rest : Reads (linesOf ls) cs) :
    Reads (linesOf (backstoreLines args capable ++ ls))
      (([TargetCmd.backstoreCreate (backstoreOf args capable), .setCmdTimeOut gbCmdTimeOut] ++
        if args.prio = "" then [] else aluaCommands).map
          (TargetCmd.line args.blk.blockName.toList (iqnText args.blk.gbid)) ++ cs) := by
  unfold backstoreLines
  split
  · exact (reads_backstore capable texts).lines ((reads_timeout texts).lines rest)
  · exact (reads_backstore capable texts).lines ((reads_timeout texts).lines (reads_alua texts rest))

theorem reads_iqn (texts : ScriptTexts args) :
    Reads ("/iscsi create ".toList ++ iqnText args.blk.gbid)
      [.createTarget (iqnText args.blk.gbid)] := by
  have names : NamesPlace "/iscsi".toList .iscsi := ⟨by decide, by decide, by decide⟩
  have plain := plain_iqn texts.gbid
  have words : tokens ' ' ("create".toList ++ ' ' :: iqnText args.blk.gbid) =
      "create".toList :: [iqnText args.blk.gbid] := by
    rw [Fields.tokens_cons (by decide) (by decide), Fields.tokens_word plain.2.1, if_neg plain.1]
  have fixed : '\n' ∉ "create ".toList := by decide
  have inLine : '\n' ∉ "create".toList ++ ' ' :: iqnText args.blk.gbid := by
    have split : "create".toList ++ ' ' :: iqnText args.blk.gbid =
      "create ".toList ++ iqnText args.blk.gbid := rfl
    rw [split, List.mem_append, not_or]
    exact ⟨fixed, plain.2.2.1⟩
  have shape : "/iscsi create ".toList ++ iqnText args.blk.gbid =
      "/iscsi".toList ++ ' ' :: ("create".toList ++ ' ' :: iqnText args.blk.gbid) := rfl
  rw [shape]
  exact Reads.line names inLine words rfl

theorem reads_tpgCreate (texts : ScriptTexts args) (tag : Nat) :
    Reads (tgcliTarget args.blk.gbid ++ (" create tpg".toList ++ (toString tag).toList))
      [.createTpg (iqnText args.blk.gbid) tag] := by
  have plain := plain_tpgName tag
  have words : tokens ' ' ("create".toList ++ ' ' :: tpgName tag) =
      "create".toList :: [tpgName tag] := by
    rw [Fields.tokens_cons (by decide) (by decide), Fields.tokens_word plain.2.1, if_neg plain.1]
  have fixed : '\n' ∉ "create ".toList := by decide
  have inLine : '\n' ∉ "create".toList ++ ' ' :: tpgName tag := by
    have split : "create".toList ++ ' ' :: tpgName tag = "create ".toList ++ tpgName tag := rfl
    rw [split, List.mem_append, not_or]
    exact ⟨fixed, plain.2.2.1⟩
  have command : (TcPlace.target (iqnText args.blk.gbid)).command "create".toList [tpgName tag] =
      some (.createTpg (iqnText args.blk.gbid) tag) := by
    simp only [TcPlace.command, if_true, tagOf_name]
    rfl
  exact Reads.line (names_target texts.gbid) inLine words command

/-- The other portal groups, each with a newline behind it, and what follows them. -/
theorem reads_tpgs (texts : ScriptTexts args) {t : Text} {cs : List TcCommand} (rest : Reads t cs)
    (tags : List Nat) :
    Reads ([' '].intercalate (tags.map (fun i =>
        tgcliTarget args.blk.gbid ++ (" create tpg".toList ++ (toString i).toList ++ ['\n']))) ++
          ' ' :: t)
      (tags.map (TcCommand.createTpg (iqnText args.blk.gbid)) ++ cs) := by
  induction tags with
  | nil => exact rest.blank
  | cons tag tags ih =>
    have first := reads_tpgCreate texts tag
    by_cases last : tags = []
    · subst last
      have shape : [' '].intercalate ([tag].map (fun i =>
          tgcliTarget args.blk.gbid ++ (" create tpg".toList ++ (toString i).toList ++ ['\n']))) ++
            ' ' :: t =
          (tgcliTarget args.blk.gbid ++ (" create tpg".toList ++ (toString tag).toList)) ++
            '\n' :: ' ' :: t := by
        simp [List.intercalate]
      rw [shape]
      exact first.behind rest.blank
    · rw [List.map_cons, List.intercalate_cons_of_ne_nil (by simpa using last)]
      have behind := first.behind ih.blank
      simp only [List.append_assoc, List.cons_append, List.nil_append] at behind ⊢
      exact behind

section Hosts

variable (host : Addr) (i : Nat)

theorem reads_lun (texts : ScriptTexts args) : Reads (lunText args i)
    [(TpgCmd.lunCreate (gbTgcliGlfsPath ++ "/" ++ args.blk.blockName)).line
      (iqnText args.blk.gbid) i] := by
  have object := names_glfs texts.name
  have words : tokens ' ' ("create".toList ++ ' ' :: tgcliGlfs args.blk.blockName) =
      "create".toList :: [tgcliGlfs args.blk.blockName] := by
    rw [Fields.tokens_cons (by decide) (by decide), Fields.tokens_word object.blank,
      if_neg (by simp [glfs_split])]
  have fixed : '\n' ∉ "create ".toList := by decide
  have inLine : '\n' ∉ "create".toList ++ ' ' :: tgcliGlfs args.blk.blockName := by
    have split : "create".toList ++ ' ' :: tgcliGlfs args.blk.blockName =
      "create ".toList ++ tgcliGlfs args.blk.blockName := rfl
    rw [split, List.mem_append, not_or]
    exact ⟨fixed, object.inLine⟩
  have shape : lunText args i = tgcliTpg args.blk.gbid i ++
      ('/' :: ("luns".toList ++ ' ' :: ("create".toList ++ ' ' :: tgcliGlfs args.blk.blockName))) := by
    unfold lunText
    rw [List.append_assoc]
    rfl
  have command : (TcPlace.luns (iqnText args.blk.gbid) i).command "create".toList
      [tgcliGlfs args.blk.blockName] =
        some ((TpgCmd.lunCreate (gbTgcliGlfsPath ++ "/" ++ args.blk.blockName)).line
          (iqnText args.blk.gbid) i) := by
    have line : (TpgCmd.lunCreate (gbTgcliGlfsPath ++ "/" ++ args.blk.blockName)).line
        (iqnText args.blk.gbid) i = .createLun (iqnText args.blk.gbid) i
          (((placeOf (tgcliGlfs args.blk.blockName)).bind objectOf).getD []) := rfl
    rw [line]
    simp only [TcPlace.command, if_true, object.place]
    rfl
  exact reads_inside texts.gbid i shape (tokens_plain (by decide)) ⟨by decide, by decide, inLine⟩ rfl
    words command

theorem reads_lun0 (texts : ScriptTexts args) {ls : List Text} {cs : List TcCommand}
    (rest : Reads (linesOf ls) cs) :
    Reads (linesOf (lun0Lines args host i ++ ls))
      ((if args.prio = "" then []
        else [TpgCmd.lunAlua (if args.prio = host then gbAluaAoTpgName else gbAluaAnoTpgName)]).map
          (TpgCmd.line (iqnText args.blk.gbid) i) ++ cs) := by
  have line (group : String) (plain : Plain group.toList) : Reads
      (tgcliTpg args.blk.gbid i ++ "/luns/lun0 set alua alua_tg_pt_gp_name=".toList ++ group.toList)
      [.setLunGroup (iqnText args.blk.gbid) i group.toList] := by
    let setting : Text := "alua_tg_pt_gp_name".toList ++ '=' :: group.toList
    have hs := setting_word "alua_tg_pt_gp_name".toList _ (by decide) ⟨plain.2.1, plain.2.2.1⟩
    have shape : tgcliTpg args.blk.gbid i ++
          "/luns/lun0 set alua alua_tg_pt_gp_name=".toList ++ group.toList =
        tgcliTpg args.blk.gbid i ++ ('/' :: ("luns/lun0".toList ++ ' ' ::
          ("set".toList ++ ' ' :: ("alua".toList ++ ' ' :: setting)))) := by
      rw [List.append_assoc]
      rfl
    have words : tokens ' ' ("set".toList ++ ' ' :: ("alua".toList ++ ' ' :: setting)) =
        "set".toList :: ["alua".toList, setting] := by
      rw [Fields.tokens_cons (by decide) (by decide), Fields.tokens_cons (by decide) (by decide), hs.1]
    have inLine : '\n' ∉ "set".toList ++ ' ' :: ("alua".toList ++ ' ' :: setting) := by
      have fixed : '\n' ∉ "alua".toList ∧ '\n' ∉ "set".toList := by decide
      simp only [List.mem_append, List.mem_cons, not_or]
      exact ⟨fixed.2, by decide, fixed.1, by decide, hs.2⟩
    have split : tokens '/' "luns/lun0".toList = ["luns".toList, "lun0".toList] := by decide
    have command : (TcPlace.lun0 (iqnText args.blk.gbid) i).command "set".toList
        ["alua".toList, setting] = some (.setLunGroup (iqnText args.blk.gbid) i group.toList) := by
      have read : paramOf "alua_tg_pt_gp_name" setting = some group.toList := paramOf_of (by decide) _
      simp only [TcPlace.command, and_self, if_true, read]
      rfl
    exact reads_inside texts.gbid i shape split ⟨by decide, by decide, inLine⟩ rfl words command
  unfold lun0Lines
  split
  · exact rest
  · split
    · exact (line gbAluaAoTpgName (by decide)).lines rest
    · exact (line gbAluaAnoTpgName (by decide)).lines rest

theorem reads_portal (texts : ScriptTexts args) (plain : Plain host.toList) :
    Reads (portalText args host i) [.createPortal (iqnText args.blk.gbid) i host.toList] := by
  let behind : Text := if args.blk.ipaddr = host then [' '] else []
  have shape : portalText args host i = tgcliTpg args.blk.gbid i ++ ('/' :: ("portals".toList ++
      ' ' :: ("create".toList ++ ' ' :: (host.toList ++ behind)))) := by
    unfold portalText
    rw [List.append_assoc, List.append_assoc]
    rfl
  have addr : tokens ' ' (host.toList ++ behind) = [host.toList] := by
    simp only [behind]
    split
    · rw [Fields.tokens_cons plain.2.1 plain.1]
      rfl
    · rw [List.append_nil, Fields.tokens_word plain.2.1, if_neg plain.1]
  have words : tokens ' ' ("create".toList ++ ' ' :: (host.toList ++ behind)) =
      "create".toList :: [host.toList] := by
    rw [Fields.tokens_cons (by decide) (by decide), addr]
  have inLine : '\n' ∉ "create".toList ++ ' ' :: (host.toList ++ behind) := by
    have fixed : '\n' ∉ "create".toList := by decide
    have blank : '\n' ∉ behind := by
      simp only [behind]
      split <;> decide
    simp only [List.mem_append, List.mem_cons, not_or]
    exact ⟨fixed, by decide, plain.2.2.1, blank⟩
  exact reads_inside texts.gbid i shape (tokens_plain (by decide)) ⟨by decide, by decide, inLine⟩ rfl
    words rfl

theorem reads_settings (texts : ScriptTexts args) {rest : Text} {ss : List Setting}
    (inLine : '\n' ∉ rest) (verb : (tokens ' ' rest).take 2 = ["set".toList, "attribute".toList])
    (read : ((tokens ' ' rest).drop 2).mapM settingOf = some ss) :
    Reads (tgcliTpg args.blk.gbid i ++ ' ' :: rest)
      [.setAttributes (iqnText args.blk.gbid) i ss] := by
  have words : tokens ' ' rest =
      "set".toList :: ("attribute".toList :: (tokens ' ' rest).drop 2) := by
    calc tokens ' ' rest = (tokens ' ' rest).take 2 ++ (tokens ' ' rest).drop 2 :=
          (List.take_append_drop 2 _).symm
      _ = _ := by
        rw [verb]
        rfl
  refine Reads.line (names_tpg texts.gbid i) inLine words ?_
  rw [TcPlace.command, if_neg (by simp), if_pos ⟨rfl, rfl⟩, List.tail_cons, read]
  rfl

/-- With a blank behind it or not. -/
theorem reads_attr (texts : ScriptTexts args) {t : Text} (blank : t = [] ∨ t = [' ']) :
    let auth := if args.blk.authMode then [("authentication", 1)] else []
    Reads (attrText args host i ++ t)
      ((if args.blk.ipaddr = host then [TpgCmd.enable, .setAttributes (auth ++ gbTgcliAttributes)]
        else [.setAttributes (("tpg_enabled_sendtargets", 0) :: auth ++ gbTgcliAttributes)]).map
          (TpgCmd.line (iqnText args.blk.gbid) i)) := by
  have enable : Reads (tgcliTpg args.blk.gbid i ++ " enable".toList)
      [.enable (iqnText args.blk.gbid) i] :=
    Reads.line (names_tpg texts.gbid i) (by decide)
      (show tokens ' ' "enable".toList = "enable".toList :: [] by decide) rfl
  intro auth
  by_cases own : args.blk.ipaddr = host
  · have shape : attrText args host i ++ t = (tgcliTpg args.blk.gbid i ++ " enable".toList) ++
        '\n' :: (tgcliTpg args.blk.gbid i ++
          ' ' :: ("set attribute ".toList ++ (authAttribute args ++ t))) := by
      unfold attrText
      rw [if_pos own, linesOf_cons (by simp)]
      simp only [linesOf, List.append_assoc, List.cons_append, List.intercalate_singleton]
      rfl
    rw [shape, if_pos own]
    refine enable.behind (reads_settings i texts ?_ ?_ ?_) <;> simp only [authAttribute, auth] <;>
      cases args.blk.authMode <;> rcases blank with rfl | rfl <;> decide
  · have shape : attrText args host i ++ t = tgcliTpg args.blk.gbid i ++
        ' ' :: ("set attribute tpg_enabled_sendtargets=0 ".toList ++ (authAttribute args ++ t)) := by
      unfold attrText
      rw [if_neg own]
      simp only [List.append_assoc]
      rfl
    rw [shape, if_neg own]
    refine reads_settings i texts ?_ ?_ ?_ <;> simp only [authAttribute, auth] <;>
      cases args.blk.authMode <;> rcases blank with rfl | rfl <;> decide

theorem reads_login (texts : ScriptTexts args) (auth : args.blk.authMode = true) :
    Reads (authcred args.blk.gbid i args.blk.passwd.toList)
      [(TpgCmd.setAuth args.blk.gbid args.blk.passwd).line (iqnText args.blk.gbid) i] := by
  let userid : Text := "userid".toList ++ '=' :: args.blk.gbid.toList
  let password : Text := "password".toList ++ '=' :: args.blk.passwd.toList
  have hu := setting_word "userid".toList _ (by decide) ⟨texts.gbid.2.1, texts.gbid.2.2.1⟩
  have hp := setting_word "password".toList _ (by decide) (texts.passwd auth)
  have shape : authcred args.blk.gbid i args.blk.passwd.toList = tgcliTpg args.blk.gbid i ++
      ' ' :: ("set".toList ++ ' ' :: ("auth".toList ++ ' ' :: (userid ++ ' ' :: password))) := by
    simp only [authcred, userid, password, List.append_assoc]
    rfl
  have words : tokens ' ' ("set".toList ++ ' ' :: ("auth".toList ++ ' ' :: (userid ++ ' ' :: password)))
      = "set".toList :: ["auth".toList, userid, password] := by
    rw [Fields.tokens_cons (by decide) (by decide), Fields.tokens_cons (by decide) (by decide),
      Fields.tokens_append, hu.1, hp.1]
    rfl
  have inLine : '\n' ∉ "set".toList ++ ' ' :: ("auth".toList ++ ' ' :: (userid ++ ' ' :: password)) := by
    have fixed : '\n' ∉ "set".toList ∧ '\n' ∉ "auth".toList := by decide
    simp only [List.mem_append (s := "set".toList), List.mem_append (s := "auth".toList),
      List.mem_append (s := userid), List.mem_cons, not_or]
    exact ⟨fixed.1, by decide, fixed.2, by decide, hu.2, by decide, hp.2⟩
  have command : (TcPlace.tpg (iqnText args.blk.gbid) i).command "set".toList
      ["auth".toList, userid, password] =
        some ((TpgCmd.setAuth args.blk.gbid args.blk.passwd).line (iqnText args.blk.gbid) i) := by
    have first : settingOf userid = some ("userid".toList, args.blk.gbid.toList) :=
      settingOf_of (by decide) _
    have second : settingOf password = some ("password".toList, args.blk.passwd.toList) :=
      settingOf_of (by decide) _
    have both : [userid, password].mapM settingOf = some [("userid".toList, args.blk.gbid.toList),
        ("password".toList, args.blk.passwd.toList)] := by
      simp [first, second]
    have other : ¬ ("set".toList = "set".toList ∧
        ["auth".toList, userid, password].head? = some "attribute".toList) := by
      rintro ⟨-, same⟩
      exact absurd (Option.some.inj same) (by decide)
    rw [TcPlace.command, if_neg (by simp), if_neg other, if_pos ⟨rfl, rfl⟩, List.tail_cons, both]
    rfl
  rw [shape]
  exact Reads.line (names_tpg texts.gbid i) inLine words command

theorem reads_cred (texts : ScriptTexts args) : Reads (createAuthcred args i)
    ((if args.blk.authMode then [TpgCmd.setAuth args.blk.gbid args.blk.passwd] else []).map
      (TpgCmd.line (iqnText args.blk.gbid) i)) := by
  unfold createAuthcred
  split
  · rename_i auth
    exact reads_nil.behind (reads_login i texts auth)
  · exact reads_nil

/-- The commands for the portal group of a host. -/
def hostCommands (args : CommonArgs) (h : Addr × Nat) : List TcCommand :=
  (tpgCommands args h.1).map (TpgCmd.line (iqnText args.blk.gbid) h.2)

/-- The settings of a portal group and its login. -/
def settingCommands (args : CommonArgs) (host : Addr) : List TpgCmd :=
  let auth := if args.blk.authMode then [("authentication", 1)] else []
  (if args.blk.ipaddr = host then [.enable, .setAttributes (auth ++ gbTgcliAttributes)]
    else [.setAttributes (("tpg_enabled_sendtargets", 0) :: auth ++ gbTgcliAttributes)]) ++
    if args.blk.authMode then [.setAuth args.blk.gbid args.blk.passwd] else []

/-- Their texts, as they follow the first host of the list and as they follow another one. -/
inductive HostEnd (args : CommonArgs) (host : Addr) (i : Nat) : List Text → Prop
  | first : HostEnd args host i [attrText args host i ++ ' ' :: createAuthcred args i]
  | later : HostEnd args host i [attrText args host i, createAuthcred args i]

theorem reads_end (texts : ScriptTexts args) {ls : List Text} (ends : HostEnd args host i ls) :
    Reads (linesOf ls)
      ((settingCommands args host).map (TpgCmd.line (iqnText args.blk.gbid) i)) := by
  have cred := reads_cred i texts
  unfold settingCommands
  rw [List.map_append]
  cases ends with
  | later =>
    have attr := reads_attr host i texts (.inl rfl)
    rw [List.append_nil] at attr
    exact attr.lines cred.last
  | first =>
    have attr := reads_attr host i texts (t := [' ']) (.inr rfl)
    refine Reads.last ?_
    by_cases auth : args.blk.authMode = true
    · have login : (if args.blk.authMode then [TpgCmd.setAuth args.blk.gbid args.blk.passwd] else []) =
        [.setAuth args.blk.gbid args.blk.passwd] := if_pos auth
      have text : createAuthcred args i = '\n' :: authcred args.blk.gbid i args.blk.passwd.toList :=
        if_pos auth
      have both := attr.behind (reads_login i texts auth)
      rw [List.append_assoc] at both
      rw [login, text]
      exact both
    · have login : (if args.blk.authMode then [TpgCmd.setAuth args.blk.gbid args.blk.passwd] else []) =
        [] := if_neg auth
      have text : createAuthcred args i = [] := if_neg auth
      rw [login, text, List.map_nil, List.append_nil]
      exact attr

theorem tpgCommands_split (args : CommonArgs) (host : Addr) : tpgCommands args host =
    [.lunCreate (gbTgcliGlfsPath ++ "/" ++ args.blk.blockName)] ++
      ((if args.prio = "" then []
        else [.lunAlua (if args.prio = host then gbAluaAoTpgName else gbAluaAnoTpgName)]) ++
      ([.portalCreate host] ++ settingCommands args host)) := by
  simp only [tpgCommands, settingCommands, List.append_assoc]

theorem reads_host (texts : ScriptTexts args) (plain : Plain host.toList) {front : Text}
    {cs : List TcCommand} {ls : List Text} (ends : HostEnd args host i ls)
    (lun : Reads front (cs ++ [(TpgCmd.lunCreate (gbTgcliGlfsPath ++ "/" ++ args.blk.blockName)).line
      (iqnText args.blk.gbid) i])) :
    Reads (linesOf (front :: (lun0Lines args host i ++ portalText args host i :: ls)))
      (cs ++ hostCommands args (host, i)) := by
  have all := lun.lines (reads_lun0 host i texts
    ((reads_portal host i texts plain).lines (reads_end host i texts ends)))
  unfold hostCommands
  rw [tpgCommands_split, List.map_append, List.map_append, List.map_append, ← List.append_assoc]
  exact all

theorem exec_next (texts : ScriptTexts args) (plain : Plain host.toList) {tmp : Text}
    {cs : List TcCommand} (before : Reads tmp cs) :
    ∃ t, createExec args capable (some tmp) (host, i) = some t ∧
      Reads t (cs ++ hostCommands args (host, i)) := by
  refine ⟨_, rfl, ?_⟩
  have own : Reads (linesOf (lunText args i :: (lun0Lines args host i ++ portalText args host i ::
      [attrText args host i, createAuthcred args i]))) ([] ++ hostCommands args (host, i)) :=
    reads_host host i texts plain .later (reads_lun i texts)
  have behind := before.lines own
  simp only [List.cons_append, List.nil_append] at behind ⊢
  exact behind

theorem exec_first (texts : ScriptTexts args) (plain : Plain host.toList) :
    ∃ t, createExec args capable none (host, i) = some t ∧
      Reads t (([TargetCmd.backstoreCreate (backstoreOf args capable), .setCmdTimeOut gbCmdTimeOut] ++
        if args.prio = "" then [] else aluaCommands).map
          (TargetCmd.line args.blk.blockName.toList (iqnText args.blk.gbid)) ++
        ([.createTarget (iqnText args.blk.gbid)] ++
          ((List.range' 2 (args.hosts.length - 1)).map (TcCommand.createTpg (iqnText args.blk.gbid)) ++
            hostCommands args (host, i)))) := by
  refine ⟨_, rfl, ?_⟩
  have tpgs : Reads (tpgText args ++ ' ' :: lunText args i) _ :=
    reads_tpgs texts (reads_lun i texts) (List.range' 2 (args.hosts.length - 1))
  have behind := reads_backstores capable texts
    ((reads_iqn texts).lines (reads_host host i texts plain .first tpgs))
  simp only [List.append_assoc, List.cons_append, List.nil_append] at behind ⊢
  exact behind

end Hosts

theorem exec_hosts (texts : ScriptTexts args) {tmp : Text} {cs : List TcCommand}
    (before : Reads tmp cs) {hs : List (Addr × Nat)} (plain : ∀ h ∈ hs, Plain h.1.toList) :
    ∃ t, hs.foldl (createExec args capable) (some tmp) = some t ∧
      Reads t (cs ++ hs.flatMap (hostCommands args)) := by
  induction hs generalizing tmp cs with
  | nil => exact ⟨tmp, rfl, by simpa using before⟩
  | cons h hs ih =>
    obtain ⟨next, exec, reads⟩ :=
      exec_next capable h.1 h.2 texts (plain h List.mem_cons_self) before
    obtain ⟨t, rest, all⟩ := ih reads (fun x mem => plain x (List.mem_cons_of_mem h mem))
    refine ⟨t, ?_, ?_⟩
    · rw [List.foldl_cons, exec, rest]
    · rw [List.flatMap_cons, ← List.append_assoc]
      exact all

theorem createCommands_line : (createCommands args capable).map
    (TargetCmd.line args.blk.blockName.toList (iqnText args.blk.gbid)) =
      ([TargetCmd.backstoreCreate (backstoreOf args capable), .setCmdTimeOut gbCmdTimeOut] ++
        if args.prio = "" then [] else aluaCommands).map
          (TargetCmd.line args.blk.blockName.toList (iqnText args.blk.gbid)) ++
      ([.createTarget (iqnText args.blk.gbid)] ++
        ((List.range' 2 (args.hosts.length - 1)).map (TcCommand.createTpg (iqnText args.blk.gbid)) ++
          (args.hosts.zipIdx 1).flatMap (hostCommands args))) := by
  have tags : ((List.range' 2 (args.hosts.length - 1)).map TargetCmd.tpgCreate).map
      (TargetCmd.line args.blk.blockName.toList (iqnText args.blk.gbid)) =
        (List.range' 2 (args.hosts.length - 1)).map
          (TcCommand.createTpg (iqnText args.blk.gbid)) := by
    rw [List.map_map]
    rfl
  have groups (hs : List (Addr × Nat)) :
      (hs.flatMap (fun h => (tpgCommands args h.1).map (TargetCmd.onTpg h.2))).map
        (TargetCmd.line args.blk.blockName.toList (iqnText args.blk.gbid)) =
          hs.flatMap (hostCommands args) := by
    rw [List.map_flatMap]
    simp only [List.map_map]
    rfl
  unfold createCommands
  rw [List.map_append, groups, List.map_append, tags, List.map_append, List.append_assoc,
    List.append_assoc]
  rfl

/-- What the loop over the hosts has made of the script. -/
theorem exec_all (texts : ScriptTexts args) :
    ∃ t, (args.hosts.zipIdx 1).foldl (createExec args capable) none = some t ∧
      Reads t ((createCommands args capable).map
        (TargetCmd.line args.blk.blockName.toList (iqnText args.blk.gbid))) := by
  obtain ⟨host, hosts, split⟩ := List.exists_cons_of_length_pos (hosts_positive args)
  have plain : ∀ h ∈ args.hosts.zipIdx 1, Plain h.1.toList :=
    fun h mem => texts.hosts h.1 (List.fst_mem_of_mem_zipIdx mem)
  rw [split, List.zipIdx_cons] at plain ⊢
  obtain ⟨first, exec, reads⟩ :=
    exec_first capable host 1 texts (plain _ List.mem_cons_self)
  obtain ⟨t, rest, all⟩ := exec_hosts capable texts reads
    (fun h mem => plain h (List.mem_cons_of_mem _ mem))
  refine ⟨t, ?_, ?_⟩
  · rw [List.foldl_cons, exec, rest]
  · rw [createCommands_line, split, List.zipIdx_cons, List.flatMap_cons, ← split]
    simp only [List.append_assoc] at all ⊢
    exact all

theorem mapM_of_map {α β : Type} {f : α → Option β} {rows : List α} {cs : List β}
    (each : rows.map f = cs.map some) : rows.mapM f = some cs := by
  induction rows generalizing cs with
  | nil =>
    rw [List.map_eq_nil_iff.mp each.symm]
    rfl
  | cons row rows ih =>
    cases cs with
    | nil => cases each
    | cons c cs =>
      obtain ⟨first, rest⟩ := List.cons.inj each
      rw [List.mapM_cons, first, ih rest]
      rfl

/-- The commands of a session are those in front of its end. -/
theorem session_reads {t : Text} {cs : List TcCommand} (reads : Reads t cs) :
    sessionCommands ("targetcli <<EOF".toList ++ '\n' :: (t ++ '\n' :: "exit\nEOF".toList)) =
      some cs := by
  let rows := wordLines '\n' ' ' t
  have other (w : Text) : ∀ row ∈ rows, row ≠ [w] := by
    rintro row mem rfl
    obtain ⟨c, -, read⟩ := List.mem_map.mp (reads.commands ▸ List.mem_map_of_mem (f := commandOf) mem)
    cases read
  have lines : wordLines '\n' ' '
      ("targetcli <<EOF".toList ++ '\n' :: (t ++ '\n' :: "exit\nEOF".toList)) =
        ["targetcli".toList, "<<EOF".toList] :: (rows ++ [["exit".toList], ["EOF".toList]]) := by
    rw [Fields.wordLines_append, Fields.wordLines_append]
    rfl
  have front : ((rows ++ [["exit".toList], ["EOF".toList]]).takeWhile
      (· ≠ ["EOF".toList])).takeWhile (· ≠ ["exit".toList]) = rows := by
    rw [List.takeWhile_append_of_pos (fun row mem => decide_eq_true (other _ row mem)),
      List.takeWhile_append_of_pos (fun row mem => decide_eq_true (other _ row mem))]
    exact List.append_nil rows
  have session : sessionLines
      ("targetcli <<EOF".toList ++ '\n' :: (t ++ '\n' :: "exit\nEOF".toList)) = some rows := by
    rw [sessionLines, lines]
    dsimp only
    rw [if_pos rfl, front]
  rw [sessionCommands, session]
  exact mapM_of_map reads.commands

/-- The commands that `targetcli` gets are those of the create and one that saves. -/
theorem createScript_commands (texts : ScriptTexts args) :
    sessionCommands (createScript args capable) = some ((createCommands args capable).map
      (TargetCmd.line args.blk.blockName.toList (iqnText args.blk.gbid)) ++
        [.saveConfig args.blk.blockName.toList]) := by
  obtain ⟨t, exec, reads⟩ := exec_all capable texts
  have save : Reads (tgcliGlfs args.blk.blockName ++ ' ' :: "saveconfig".toList)
      [.saveConfig args.blk.blockName.toList] :=
    Reads.line (names_glfs texts.name) (by decide)
      (show tokens ' ' "saveconfig".toList = "saveconfig".toList :: [] by decide) rfl
  have script : createScript args capable = "targetcli <<EOF".toList ++
      '\n' :: ((t ++ '\n' :: (tgcliGlfs args.blk.blockName ++ ' ' :: "saveconfig".toList)) ++
        '\n' :: "exit\nEOF".toList) := by
    have tail : " saveconfig\nexit\nEOF".toList =
        ' ' :: ("saveconfig".toList ++ '\n' :: "exit\nEOF".toList) := by decide
    unfold createScript targetcliScript
    rw [exec, Option.getD_some, tail]
    simp only [List.append_assoc, List.cons_append]
  rw [script]
  exact session_reads (reads.behind save)

end Commands

end GlusterBlock
