import GlusterBlock.NodeLines
import GlusterBlock.ModifySvc

/-! The scripts that a node runs for its blocks. Each of them is about one block, so that the
node has of a block what the scripts of this block alone make of it. -/
namespace GlusterBlock

open Fields (tokens wordLines)
open Unwinding (Turn)

section Scripts

/-- The script of `block_delete_1_svc_st`. -/
def deleteScript (blk : BlockDelete) : Text :=
  "targetcli <<EOF".toList ++ '\n' ::
    ((gbTgcliGlfsPath.toList ++ " delete name=".toList ++ blk.blockName.toList ++
        " save=True".toList) ++ '\n' ::
      (("/iscsi delete ".toList ++ iqnText blk.gbid) ++ '\n' :: "exit\nEOF".toList))

/-- The path of `block_replace_1_svc_st`, with the group as it was found. -/
def portalsPath (blk : BlockReplace) (tpg : Text) : Text :=
  tgcliTarget blk.gbid ++ '/' :: (tpg ++ "/portals".toList)

def replaceScript (blk : BlockReplace) (tpg : Text) : Text :=
  targetcliScript (some (
    (portalsPath blk tpg ++ " delete ".toList ++ blk.ripaddr.toList ++ " ip_port=3260".toList) ++
      '\n' :: (portalsPath blk tpg ++ " create ".toList ++ blk.ipaddr.toList))) blk.blockName

def modifySizeScript (blk : BlockModifySize) : Text :=
  targetcliScript (some (tgcliGlfs blk.blockName ++
    (" set attribute dev_size=" ++ toString blk.size).toList)) blk.blockName

/-- A call that makes a node run a script, with what the node found out for it: whether it can
set timeouts, how many groups the target has, the group of the old portal. -/
inductive NodeCall where
  | create (args : CommonArgs) (capable : Bool)
  | delete (blk : BlockDelete)
  | modify (blk : BlockModify) (tpgs : Nat)
  | modifySize (blk : BlockModifySize)
  | replace (blk : BlockReplace) (tpg : Text)

namespace NodeCall

def script : NodeCall → Text
  | create args capable => createScript args capable
  | delete blk => deleteScript blk
  | modify blk tpgs => modifyScript blk tpgs
  | modifySize blk => modifySizeScript blk
  | replace blk tpg => replaceScript blk tpg

def blockName : NodeCall → String
  | create args _ => args.blk.blockName
  | delete blk => blk.blockName
  | modify blk _ => blk.blockName
  | modifySize blk => blk.blockName
  | replace blk _ => blk.blockName

def gbid : NodeCall → String
  | create args _ => args.blk.gbid
  | delete blk => blk.gbid
  | modify blk _ => blk.gbid
  | modifySize blk => blk.gbid
  | replace blk _ => blk.gbid

/-- The texts of a call are words, and none of them ends a line. -/
structure Texts (call : NodeCall) : Prop where
  name : Plain call.blockName.toList
  gbid : Plain call.gbid.toList
  create : ∀ args capable, call = .create args capable → ScriptTexts args
  modify : ∀ blk tpgs, call = .modify blk tpgs → '\n' ∉ blk.passwd.toList
  replace : ∀ blk tpg, call = .replace blk tpg → Plain tpg ∧ '\n' ∉ blk.ripaddr.toList ∧
    '\n' ∉ blk.ipaddr.toList

end NodeCall

/-- The lines of a call. -/
def NodeCall.rows (call : NodeCall) : List (List Text) := (sessionLines call.script).getD []

end Scripts

section Rows

variable {P : TcLine → Prop} {s t : Text}

/-- Every line of a text that can be read is one of these. -/
def EveryLine (P : TcLine → Prop) (t : Text) : Prop :=
  ∀ row ∈ wordLines '\n' ' ' t, ∀ l, lineOf row = some l → P l

theorem everyLine_behind (first : EveryLine P s) (second : EveryLine P t) :
    EveryLine P (s ++ '\n' :: t) := by
  intro row mem
  rw [Fields.wordLines_append] at mem
  exact (List.mem_append.mp mem).elim (first row) (second row)

theorem everyLine_line (inLine : '\n' ∉ t) (all : ∀ l, lineOf (tokens ' ' t) = some l → P l) :
    EveryLine P t := by
  intro row mem
  rw [Fields.wordLines_line inLine] at mem
  split at mem
  · cases mem
  · exact List.mem_singleton.mp mem ▸ all

/-- Words that are no line. -/
theorem everyLine_other (inLine : '\n' ∉ t) (other : lineOf (tokens ' ' t) = none) :
    EveryLine P t :=
  everyLine_line inLine (fun l reads => by rw [other] at reads; cases reads)

theorem everyLine_lines {ls : List Text} (all : ∀ l ∈ ls, EveryLine P l) :
    EveryLine P (linesOf ls) := by
  induction ls with
  | nil =>
    intro row mem
    cases mem
  | cons l ls ih =>
    have first := all l List.mem_cons_self
    by_cases last : ls = []
    · subst last
      simpa [linesOf] using first
    · rw [linesOf_cons last]
      exact everyLine_behind first (ih (fun l mem => all l (List.mem_cons_of_mem _ mem)))

/-- Scripts have their commands between these lines. -/
theorem everyLine_script {body : Text} (all : EveryLine P body) :
    EveryLine P ("targetcli <<EOF".toList ++ '\n' :: (body ++ '\n' :: "exit\nEOF".toList)) := by
  have word (w : Text) (inLine : '\n' ∉ w) (other : lineOf (tokens ' ' w) = none) :
      EveryLine P w := everyLine_other inLine other
  refine everyLine_behind (word _ (by decide) (by decide)) (everyLine_behind all ?_)
  have ends : "exit\nEOF".toList = "exit".toList ++ '\n' :: "EOF".toList := rfl
  rw [ends]
  exact everyLine_behind (word _ (by decide) (by decide)) (word _ (by decide) (by decide))

theorem sessionLines_subset {script : Text} {row : List Text}
    (mem : row ∈ (sessionLines script).getD []) : row ∈ wordLines '\n' ' ' script := by
  unfold sessionLines at mem
  cases lines : wordLines '\n' ' ' script with
  | nil =>
    rw [lines] at mem
    cases mem
  | cons first rest =>
    rw [lines] at mem
    dsimp only at mem
    split at mem
    · have inner := (List.takeWhile_sublist _).subset mem
      exact List.mem_cons_of_mem _ ((List.takeWhile_sublist _).subset inner)
    · cases mem

end Rows

section Places

variable {I : Type} {F : Family I} {i : I} {path rest : Text} {p : TcPlace}

theorem owns_of {l : TcLine} (object : l.object? = none ∨ l.object? = some (F.name i))
    (target : l.target? = none ∨ l.target? = some (F.iqn i)) : F.Owns i l where
  object name named := by
    rcases object with none | own
    · cases none.symm.trans named
    · exact Option.some.inj (named.symm.trans own)
  target iqn named := by
    rcases target with none | own
    · cases none.symm.trans named
    · exact Option.some.inj (named.symm.trans own)

/-- The commands that leave the objects, the LUNs and the state of the groups as they are. -/
def TcCommand.settles : TcCommand → Prop
  | .setObject _ _ | .saveConfig _ | .setGroup _ _ _ | .createPortal _ _ _ | .deletePortal _ _ _
  | .setAttributes _ _ _ | .setAuth _ _ _ => True
  | _ => False

/-- The line settles something about this block only. -/
structure Family.Settles (F : Family I) (i : I) (l : TcLine) : Prop where
  owns : F.Owns i l
  settles : ∃ c : TcCommand, l = .make c ∧ c.settles

/-- The places at which a block is changed once it is there. -/
def TcPlace.Of (name iqn : Text) : TcPlace → Prop
  | .object n => n = name
  | .tpg q _ | .portals q _ => q = iqn
  | _ => False

theorem place_removal (own : p.Of (F.name i) (F.iqn i)) (verb : Text) (args : List Text) :
    p.removal verb args = none := by
  cases p with
  | glfs => exact own.elim
  | iscsi => exact own.elim
  | _ => rfl

theorem place_settles (own : p.Of (F.name i) (F.iqn i)) {verb : Text} {args : List Text}
    {c : TcCommand} (other : verb ≠ "enable".toList) (command : p.command verb args = some c) :
    F.Settles i (.make c) := by
  cases p with
  | object name =>
    obtain rfl : name = F.name i := own
    rw [TcPlace.command.eq_def] at command
    dsimp only at command
    split at command
    · cases command
      exact ⟨owns_of (.inr rfl) (.inl rfl), _, rfl, trivial⟩
    · split at command
      · obtain ⟨ss, _, rfl⟩ := Option.map_eq_some_iff.mp command
        exact ⟨owns_of (.inr rfl) (.inl rfl), _, rfl, trivial⟩
      · cases command
  | tpg iqn tag =>
    obtain rfl : iqn = F.iqn i := own
    rw [TcPlace.command.eq_def] at command
    dsimp only at command
    split at command
    · rename_i enables
      exact absurd enables.1 other
    · split at command
      · obtain ⟨ss, _, rfl⟩ := Option.map_eq_some_iff.mp command
        exact ⟨owns_of (.inl rfl) (.inr rfl), _, rfl, trivial⟩
      · split at command
        · obtain ⟨ss, _, rfl⟩ := Option.map_eq_some_iff.mp command
          exact ⟨owns_of (.inl rfl) (.inr rfl), _, rfl, trivial⟩
        · cases command
  | portals iqn tag =>
    obtain rfl : iqn = F.iqn i := own
    rw [TcPlace.command.eq_def] at command
    dsimp only at command
    split at command
    · split at command
      · cases command
        exact ⟨owns_of (.inl rfl) (.inr rfl), _, rfl, trivial⟩
      · cases command
    · split at command
      · obtain ⟨port, _, rfl⟩ := Option.map_eq_some_iff.mp command
        exact ⟨owns_of (.inl rfl) (.inr rfl), _, rfl, trivial⟩
      · cases command
    · cases command
  | _ => exact own.elim

theorem everyLine_path (blank : ' ' ∉ path) (filled : path ≠ [])
    (inLine : '\n' ∉ path ++ ' ' :: rest)
    (verb : (tokens ' ' rest).head? ≠ some "enable".toList)
    (own : ∀ p, placeOf path = some p → p.Of (F.name i) (F.iqn i)) :
    EveryLine (F.Settles i) (path ++ ' ' :: rest) := by
  refine everyLine_line inLine (fun l reads => ?_)
  rw [Fields.tokens_cons blank filled] at reads
  cases words : tokens ' ' rest with
  | nil =>
    rw [words] at reads
    cases reads
  | cons v args =>
    rw [words] at reads verb
    obtain ⟨p, place, line⟩ := Option.bind_eq_some_iff.mp reads
    rw [place_removal (own p place), Option.map_none, Option.or_none] at line
    obtain ⟨c, command, rfl⟩ := Option.map_eq_some_iff.mp line
    exact place_settles (own p place) (fun same => verb (congrArg some same)) command

theorem verb_other {verb tail : Text} (blank : ' ' ∉ verb) (filled : verb ≠ [])
    (other : verb ≠ "enable".toList) :
    (tokens ' ' (verb ++ ' ' :: tail)).head? ≠ some "enable".toList := by
  rw [Fields.tokens_cons blank filled]
  exact fun same => other (Option.some.inj same)

theorem everyLine_names (names : NamesPlace path p) (inLine : '\n' ∉ rest)
    (verb : (tokens ' ' rest).head? ≠ some "enable".toList)
    (own : p.Of (F.name i) (F.iqn i)) : EveryLine (F.Settles i) (path ++ ' ' :: rest) := by
  refine everyLine_path names.blank ?_ ?_ verb (fun q place => ?_)
  · rintro rfl
    cases names.place
  · simp [names.inLine, inLine]
  · cases names.place.symm.trans place
    exact own

end Places

section Owned

variable {I : Type} {F : Family I} {i : I}

theorem everyLine_save {name : String} (plain : Plain name.toList) (own : F.name i = name.toList) :
    EveryLine (F.Settles i) (tgcliGlfs name ++ ' ' :: "saveconfig".toList) :=
  everyLine_names (names_glfs plain) (by decide) (by decide) own.symm

/-- What is run on a target is saved with the object behind it. -/
theorem everyLine_saved {name : String} (plain : Plain name.toList) (own : F.name i = name.toList)
    {body : Text} (all : EveryLine (F.Settles i) body) :
    EveryLine (F.Settles i) (targetcliScript (some body) name) := by
  have shape : targetcliScript (some body) name = "targetcli <<EOF".toList ++
      '\n' :: ((body ++ '\n' :: (tgcliGlfs name ++ ' ' :: "saveconfig".toList)) ++
        '\n' :: "exit\nEOF".toList) := by
    have tail : " saveconfig\nexit\nEOF".toList =
        ' ' :: ("saveconfig".toList ++ '\n' :: "exit\nEOF".toList) := by decide
    unfold targetcliScript
    rw [Option.getD_some, tail]
    simp only [List.append_assoc, List.cons_append]
  rw [shape]
  exact everyLine_script (everyLine_behind all (everyLine_save plain own))

section Modify

variable {blk : BlockModify} (hg : Plain blk.gbid.toList) (iqn : F.iqn i = iqnText blk.gbid)
include hg iqn

theorem modifyLines_settle (passwd : '\n' ∉ blk.passwd.toList) (tag : Nat) :
    ∀ l ∈ modifyLines blk tag, EveryLine (F.Settles i) l := by
  have own : (TcPlace.tpg (iqnText blk.gbid) tag).Of (F.name i) (F.iqn i) := iqn.symm
  have setting (rest : Text) (inLine : '\n' ∉ rest) :
      EveryLine (F.Settles i) (tgcliTpg blk.gbid tag ++ ' ' :: ("set".toList ++ ' ' :: rest)) := by
    have other : (tokens ' ' ("set".toList ++ ' ' :: rest)).head? ≠ some "enable".toList :=
      verb_other (by decide) (by decide) (by decide)
    exact everyLine_names (names_tpg hg tag) (by simp [inLine]) other own
  have login : EveryLine (F.Settles i) (authcred blk.gbid tag blk.passwd.toList) := by
    have shape : authcred blk.gbid tag blk.passwd.toList = tgcliTpg blk.gbid tag ++
        ' ' :: ("set".toList ++ ' ' :: ("auth userid=".toList ++ (blk.gbid.toList ++
          (" password=".toList ++ blk.passwd.toList)))) := rfl
    have fixed : '\n' ∉ "auth userid=".toList ∧ '\n' ∉ " password=".toList := by decide
    rw [shape]
    refine setting _ ?_
    simp only [List.mem_append, not_or]
    exact ⟨fixed.1, hg.2.2.1, fixed.2, passwd⟩
  intro l mem
  unfold modifyLines at mem
  split at mem
  · rcases List.mem_cons.mp mem with rfl | mem
    · exact setting "attribute authentication=1".toList (by decide)
    · rw [List.mem_singleton.mp mem]
      exact login
  · rw [List.mem_singleton.mp mem]
    exact setting "attribute authentication=0".toList (by decide)

theorem modifyExec_settle (passwd : '\n' ∉ blk.passwd.toList) (tags : List Nat) {tmp : Option Text}
    (before : ∀ t, tmp = some t → EveryLine (F.Settles i) t) :
    ∀ t, tags.foldl (modifyExec blk) tmp = some t → EveryLine (F.Settles i) t := by
  induction tags generalizing tmp with
  | nil => exact before
  | cons tag tags ih =>
    apply ih
    intro t made
    have lines := modifyLines_settle hg iqn passwd tag
    cases tmp with
    | none =>
      cases made
      exact everyLine_lines lines
    | some front =>
      cases made
      apply everyLine_lines
      intro l mem
      rcases List.mem_cons.mp mem with rfl | mem
      · exact before _ rfl
      · exact lines l mem

end Modify

/-- A text that is no line stands where a target has no groups. -/
theorem modifyScript_settles {blk : BlockModify} {tpgs : Nat}
    (texts : (NodeCall.modify blk tpgs).Texts) (name : F.name i = blk.blockName.toList)
    (iqn : F.iqn i = iqnText blk.gbid) :
    EveryLine (F.Settles i) (modifyScript blk tpgs) := by
  have plain : Plain blk.blockName.toList := texts.name
  unfold modifyScript
  cases made : (List.range' 1 tpgs).foldl (modifyExec blk) none with
  | none =>
    have null : EveryLine (F.Settles i) "(null)".toList := everyLine_other (by decide) (by decide)
    exact everyLine_saved plain name null
  | some t =>
    apply everyLine_saved plain name
    refine modifyExec_settle texts.gbid iqn (texts.modify blk tpgs rfl) _ ?_ t made
    intro t absurd
    cases absurd

theorem modifySizeScript_settles {blk : BlockModifySize} (plain : Plain blk.blockName.toList)
    (name : F.name i = blk.blockName.toList) : EveryLine (F.Settles i) (modifySizeScript blk) := by
  let setting : Text := "attribute dev_size=".toList ++ (toString blk.size).toList
  have inLine : '\n' ∉ "set".toList ++ ' ' :: setting := by
    have fixed : '\n' ∉ "set".toList ++ ' ' :: "attribute dev_size=".toList := by decide
    have shape : "set".toList ++ ' ' :: setting =
        ("set".toList ++ ' ' :: "attribute dev_size=".toList) ++ (toString blk.size).toList := rfl
    rw [shape, List.mem_append, not_or]
    exact ⟨fixed, (number_inLine blk.size).2⟩
  have verb : (tokens ' ' ("set".toList ++ ' ' :: setting)).head? ≠ some "enable".toList :=
    verb_other (by decide) (by decide) (by decide)
  have line : (" set attribute dev_size=" ++ toString blk.size).toList =
      ' ' :: ("set".toList ++ ' ' :: setting) := by
    rw [String.toList_append]
    rfl
  refine everyLine_saved plain name ?_
  rw [line]
  exact everyLine_names (names_glfs plain) inLine verb name.symm

theorem portalsPath_place {blk : BlockReplace} (hg : Plain blk.gbid.toList) {tpg : Text}
    (ht : Plain tpg) {p : TcPlace} (place : placeOf (portalsPath blk tpg) = some p) :
    ∃ tag, p = .portals (iqnText blk.gbid) tag := by
  have split : tokens '/' (portalsPath blk tpg) =
      ["iscsi".toList, iqnText blk.gbid, tpg, "portals".toList] := by
    have tail : tokens '/' (tpg ++ '/' :: "portals".toList) = [tpg, "portals".toList] := by
      rw [tokens_below ht, tokens_plain (by decide)]
    have path : portalsPath blk tpg =
        tgcliTarget blk.gbid ++ '/' :: (tpg ++ '/' :: "portals".toList) := rfl
    rw [path, Fields.tokens_append, tokens_target hg, tail]
    rfl
  rw [placeOf, split] at place
  obtain ⟨tag, _, inside⟩ := Option.bind_eq_some_iff.mp
    (show (tagOf tpg).bind (fun tag => tpgPlace (iqnText blk.gbid) tag ["portals".toList]) = some p
      from place)
  have portals : tpgPlace (iqnText blk.gbid) tag ["portals".toList] =
      some (.portals (iqnText blk.gbid) tag) := rfl
  exact ⟨tag, Option.some.inj (inside.symm.trans portals)⟩

theorem replaceScript_settles {blk : BlockReplace} {tpg : Text}
    (texts : (NodeCall.replace blk tpg).Texts) (name : F.name i = blk.blockName.toList)
    (iqn : F.iqn i = iqnText blk.gbid) : EveryLine (F.Settles i) (replaceScript blk tpg) := by
  have hg : Plain blk.gbid.toList := texts.gbid
  obtain ⟨ht, old, new⟩ := texts.replace blk tpg rfl
  have clean (c : Char) (target : c ∉ tgcliTarget blk.gbid) (group : c ∉ tpg)
      (fixed : c ∉ '/' :: "/portals".toList) : c ∉ portalsPath blk tpg := by
    have path : portalsPath blk tpg =
        tgcliTarget blk.gbid ++ '/' :: (tpg ++ "/portals".toList) := rfl
    rw [path]
    simp only [List.mem_append, List.mem_cons, not_or] at fixed ⊢
    exact ⟨target, fixed.1, group, fixed.2⟩
  have blank := clean ' ' (target_clean hg).1 ht.2.1 (by decide)
  have inLine := clean '\n' (target_clean hg).2 ht.2.2.1 (by decide)
  have line (rest : Text) (one : '\n' ∉ rest)
      (verb : (tokens ' ' rest).head? ≠ some "enable".toList) :
      EveryLine (F.Settles i) (portalsPath blk tpg ++ ' ' :: rest) := by
    have filled : portalsPath blk tpg ≠ [] :=
      List.append_ne_nil_of_right_ne_nil _ (List.cons_ne_nil _ _)
    refine everyLine_path blank filled (by simp [inLine, one]) verb (fun p place => ?_)
    obtain ⟨tag, rfl⟩ := portalsPath_place hg ht place
    exact iqn.symm
  have other {verb tail : Text} (named : verb = "delete".toList ∨ verb = "create".toList) :
      (tokens ' ' (verb ++ ' ' :: tail)).head? ≠ some "enable".toList := by
    rcases named with rfl | rfl <;> exact verb_other (by decide) (by decide) (by decide)
  have delete := line
    ("delete".toList ++ ' ' :: (blk.ripaddr.toList ++ " ip_port=3260".toList))
    (by simp [old]) (other (.inl rfl))
  have create := line ("create".toList ++ ' ' :: blk.ipaddr.toList)
    (by simp [new]) (other (.inr rfl))
  refine everyLine_saved texts.name name ?_
  have shape : portalsPath blk tpg ++ " delete ".toList ++ blk.ripaddr.toList ++
        " ip_port=3260".toList =
      portalsPath blk tpg ++
        ' ' :: ("delete".toList ++ ' ' :: (blk.ripaddr.toList ++ " ip_port=3260".toList)) := by
    simp only [List.append_assoc]
    rfl
  have behind : portalsPath blk tpg ++ " create ".toList ++ blk.ipaddr.toList =
      portalsPath blk tpg ++ ' ' :: ("create".toList ++ ' ' :: blk.ipaddr.toList) := by
    rw [List.append_assoc]
    rfl
  rw [shape, behind]
  exact everyLine_behind delete create

def deleteRows (blk : BlockDelete) : List (List Text) :=
  [[gbTgcliGlfsPath.toList, "delete".toList, "name".toList ++ '=' :: blk.blockName.toList,
      "save=True".toList],
    ["/iscsi".toList, "delete".toList, iqnText blk.gbid]]

theorem deleteScript_rows {blk : BlockDelete} (hn : Plain blk.blockName.toList)
    (hg : Plain blk.gbid.toList) : sessionLines (deleteScript blk) = some (deleteRows blk) := by
  let named : Text := "name".toList ++ '=' :: blk.blockName.toList
  obtain ⟨word, one⟩ := setting_word "name".toList _ (by decide) ⟨hn.2.1, hn.2.2.1⟩
  obtain ⟨iqn, blank, inLine, _⟩ := plain_iqn hg
  have object : wordLines '\n' ' ' (gbTgcliGlfsPath.toList ++ " delete name=".toList ++
      blk.blockName.toList ++ " save=True".toList) = [[gbTgcliGlfsPath.toList, "delete".toList,
        named, "save=True".toList]] := by
    have shape : gbTgcliGlfsPath.toList ++ " delete name=".toList ++ blk.blockName.toList ++
        " save=True".toList = gbTgcliGlfsPath.toList ++
          ' ' :: ("delete".toList ++ ' ' :: (named ++ ' ' :: "save=True".toList)) := by
      simp only [List.append_assoc]
      rfl
    have words : tokens ' ' (gbTgcliGlfsPath.toList ++
          ' ' :: ("delete".toList ++ ' ' :: (named ++ ' ' :: "save=True".toList))) =
        [gbTgcliGlfsPath.toList, "delete".toList, named, "save=True".toList] := by
      rw [Fields.tokens_cons (by decide) (by decide), Fields.tokens_cons (by decide) (by decide),
        Fields.tokens_append, word]
      rfl
    have fixed : '\n' ∉ gbTgcliGlfsPath.toList ∧ '\n' ∉ "delete".toList ∧
        '\n' ∉ "save=True".toList := by decide
    have clean : '\n' ∉ gbTgcliGlfsPath.toList ++
        ' ' :: ("delete".toList ++ ' ' :: (named ++ ' ' :: "save=True".toList)) := by
      simp only [List.mem_append (s := gbTgcliGlfsPath.toList),
        List.mem_append (s := "delete".toList), List.mem_append (s := named), List.mem_cons, not_or]
      exact ⟨fixed.1, by decide, fixed.2.1, by decide, one, by decide, fixed.2.2⟩
    rw [shape, Fields.wordLines_line clean, words, if_neg (by simp)]
  have target : wordLines '\n' ' ' ("/iscsi delete ".toList ++ iqnText blk.gbid) =
      [["/iscsi".toList, "delete".toList, iqnText blk.gbid]] := by
    have shape : "/iscsi delete ".toList ++ iqnText blk.gbid =
        "/iscsi".toList ++ ' ' :: ("delete".toList ++ ' ' :: iqnText blk.gbid) := rfl
    have words : tokens ' '
          ("/iscsi".toList ++ ' ' :: ("delete".toList ++ ' ' :: iqnText blk.gbid)) =
        ["/iscsi".toList, "delete".toList, iqnText blk.gbid] := by
      rw [Fields.tokens_cons (by decide) (by decide), Fields.tokens_cons (by decide) (by decide),
        Fields.tokens_word blank, if_neg iqn]
    have clean : '\n' ∉ "/iscsi delete ".toList ++ iqnText blk.gbid := by
      have fixed : '\n' ∉ "/iscsi delete ".toList := by decide
      rw [List.mem_append, not_or]
      exact ⟨fixed, inLine⟩
    rw [shape] at clean ⊢
    rw [Fields.wordLines_line clean, words, if_neg (by simp)]
  have ends : wordLines '\n' ' ' "exit\nEOF".toList = [["exit".toList], ["EOF".toList]] := by decide
  have head : wordLines '\n' ' ' "targetcli <<EOF".toList =
      [["targetcli".toList, "<<EOF".toList]] := by decide
  unfold sessionLines deleteScript
  rw [Fields.wordLines_append, Fields.wordLines_append, Fields.wordLines_append, object, target,
    ends, head]
  rfl

theorem deleteRows_lines (blk : BlockDelete) : (deleteRows blk).map lineOf =
    [some (.remove (.object blk.blockName.toList)),
      some (.remove (.target (iqnText blk.gbid)))] := by
  let named : Text := "name".toList ++ '=' :: blk.blockName.toList
  have name : paramOf "name" named = some blk.blockName.toList := paramOf_of (by decide) _
  have object : lineOf [gbTgcliGlfsPath.toList, "delete".toList, named, "save=True".toList] =
      some (.remove (.object blk.blockName.toList)) := by
    have place : placeOf gbTgcliGlfsPath.toList = some .glfs := by decide
    have other : ¬ "delete".toList = "create".toList := by decide
    have made : TcPlace.glfs.command "delete".toList [named, "save=True".toList] = none := by
      rw [TcPlace.command, if_neg other]
    have removal : TcPlace.glfs.removal "delete".toList [named, "save=True".toList] =
        some (.object blk.blockName.toList) := by
      rw [TcPlace.removal, if_pos rfl, List.head?_cons, Option.bind_some, name]
      rfl
    rw [lineOf, place, Option.bind_some, made, removal]
    rfl
  have target : lineOf ["/iscsi".toList, "delete".toList, iqnText blk.gbid] =
      some (.remove (.target (iqnText blk.gbid))) := by
    have place : placeOf "/iscsi".toList = some .iscsi := by decide
    have other : ¬ "delete".toList = "create".toList := by decide
    have made : TcPlace.iscsi.command "delete".toList [iqnText blk.gbid] = none := by
      rw [TcPlace.command, if_neg other]
    have removal : TcPlace.iscsi.removal "delete".toList [iqnText blk.gbid] =
        some (.target (iqnText blk.gbid)) := by
      rw [TcPlace.removal, if_pos rfl]
    rw [lineOf, place, Option.bind_some, made, removal]
    rfl
  unfold deleteRows
  rw [List.map_cons, List.map_singleton, object, target]

theorem mem_mapM {α β : Type} {f : α → Option β} {l : List α} {bs : List β} {a : α}
    (all : l.mapM f = some bs) (mem : a ∈ l) : ∃ b ∈ bs, f a = some b := by
  induction l generalizing bs with
  | nil => cases mem
  | cons x l ih =>
    rw [List.mapM_cons] at all
    obtain ⟨b, first, rest⟩ := Option.bind_eq_some_iff.mp all
    obtain ⟨cs, others, same⟩ := Option.bind_eq_some_iff.mp rest
    cases same
    rcases List.mem_cons.mp mem with rfl | later
    · exact ⟨b, List.mem_cons_self, first⟩
    · obtain ⟨d, listed, reads⟩ := ih others later
      exact ⟨d, List.mem_cons_of_mem b listed, reads⟩

section Create

variable {args : CommonArgs} (name : F.name i = args.blk.blockName.toList)
  (iqn : F.iqn i = iqnText args.blk.gbid)
include name iqn

theorem tpgCommand_owned (texts : ScriptTexts args) {host : Addr} {cmd : TpgCmd}
    (mem : cmd ∈ tpgCommands args host) (tag : Nat) :
    F.Owns i (.make (cmd.line (iqnText args.blk.gbid) tag)) := by
  cases cmd with
  | lunCreate path =>
    have own : path = gbTgcliGlfsPath ++ "/" ++ args.blk.blockName := by
      rw [tpgCommands_split] at mem
      rcases List.mem_append.mp mem with lun | rest
      · cases List.mem_singleton.mp lun
        rfl
      · have other : .lunCreate path ∉ settingCommands args host := by
          unfold settingCommands
          dsimp only
          split <;> split <;> simp
        simp [other] at rest
    have place : placeOf path.toList = some (.object args.blk.blockName.toList) := by
      rw [own]
      exact (names_glfs texts.name).place
    have line : (TpgCmd.lunCreate path).line (iqnText args.blk.gbid) tag =
        .createLun (iqnText args.blk.gbid) tag args.blk.blockName.toList := by
      rw [TpgCmd.line, place]
      rfl
    rw [line]
    exact owns_of (.inr (congrArg some name.symm)) (.inr (congrArg some iqn.symm))
  | _ => exact owns_of (.inl rfl) (.inr (congrArg some iqn.symm))

theorem createCommand_owned (texts : ScriptTexts args) {capable : Bool} {cmd : TargetCmd}
    (mem : cmd ∈ createCommands args capable) :
    F.Owns i (.make (cmd.line args.blk.blockName.toList (iqnText args.blk.gbid))) := by
  cases cmd with
  | backstoreCreate b =>
    have own : b = backstoreOf args capable := by
      simpa [createCommands, aluaCommands, apply_ite (fun cs : List TargetCmd => _ ∈ cs)] using mem
    subst own
    exact owns_of (.inr (congrArg some name.symm)) (.inl rfl)
  | iqnCreate q =>
    have own : q = gbTgcliIqnPrefix ++ args.blk.gbid := by
      simpa [createCommands, aluaCommands, apply_ite (fun cs : List TargetCmd => _ ∈ cs)] using mem
    subst own
    exact owns_of (.inl rfl) (.inr (congrArg some iqn.symm))
  | onTpg tag cmd =>
    have own : ∃ host, cmd ∈ tpgCommands args host := by
      unfold createCommands at mem
      rcases List.mem_append.mp mem with front | groups
      · simp [aluaCommands] at front
      · obtain ⟨h, _, made⟩ := List.mem_flatMap.mp groups
        obtain ⟨_, listed, same⟩ := List.mem_map.mp made
        cases same
        exact ⟨h.1, listed⟩
    obtain ⟨host, listed⟩ := own
    exact tpgCommand_owned name iqn texts listed tag
  | tpgCreate tag => exact owns_of (.inl rfl) (.inr (congrArg some iqn.symm))
  | _ => exact owns_of (.inr (congrArg some name.symm)) (.inl rfl)

theorem createRows_owned (texts : ScriptTexts args) (capable : Bool) {row : List Text}
    (mem : row ∈ (sessionLines (createScript args capable)).getD []) : F.OwnsWords i row := by
  obtain ⟨rows, lines, each⟩ := Option.bind_eq_some_iff.mp (createScript_commands capable texts)
  rw [lines, Option.getD_some] at mem
  obtain ⟨c, listed, reads⟩ := mem_mapM each mem
  intro l line
  cases (lineOf_make reads).symm.trans line
  rcases List.mem_append.mp listed with made | save
  · obtain ⟨cmd, known, rfl⟩ := List.mem_map.mp made
    exact createCommand_owned name iqn texts known
  · rw [List.mem_singleton.mp save]
    exact owns_of (.inr (congrArg some name.symm)) (.inl rfl)

end Create

theorem rows_owned {call : NodeCall} (texts : call.Texts) (name : F.name i = call.blockName.toList)
    (iqn : F.iqn i = iqnText call.gbid) : ∀ row ∈ call.rows, F.OwnsWords i row := by
  intro row mem
  cases call with
  | create args capable =>
    exact createRows_owned name iqn (texts.create args capable rfl) capable mem
  | modify blk tpgs =>
    intro l reads
    exact (modifyScript_settles texts name iqn row (sessionLines_subset mem) l reads).owns
  | modifySize blk =>
    intro l reads
    have settles := modifySizeScript_settles texts.name name row (sessionLines_subset mem) l reads
    exact settles.owns
  | replace blk tpg =>
    intro l reads
    exact (replaceScript_settles texts name iqn row (sessionLines_subset mem) l reads).owns
  | delete blk =>
    have rows : NodeCall.rows (.delete blk) = deleteRows blk := by
      unfold NodeCall.rows
      rw [NodeCall.script, deleteScript_rows texts.name texts.gbid]
      rfl
    rw [rows] at mem
    intro l line
    have listed : some l ∈ (deleteRows blk).map lineOf := line ▸ List.mem_map_of_mem mem
    rw [deleteRows_lines] at listed
    rcases List.mem_cons.mp listed with object | listed
    · cases object
      exact owns_of (.inr (congrArg some name.symm)) (.inl rfl)
    · cases List.mem_singleton.mp listed
      exact owns_of (.inl rfl) (.inr (congrArg some iqn.symm))

end Owned

section Node

variable {I : Type} (F : Family I)

/-- A call for a block of the family. The checks of the service either start its script or turn
it away, and lines of the script may fail whatever the node has. -/
structure OwnCall where
  block : I
  call : NodeCall
  starts : Bool
  refused : Nat → Bool
  texts : call.Texts
  name : F.name block = call.blockName.toList
  iqn : F.iqn block = iqnText call.gbid

variable {F}

def OwnCall.steps (c : OwnCall F) : List TcStep :=
  if c.starts then sessionSteps c.call.script c.refused else []

theorem OwnCall.steps_words {c : OwnCall F} {l : TcStep} (mem : l ∈ c.steps) :
    l.words ∈ c.call.rows := by
  unfold OwnCall.steps at mem
  split at mem
  · exact sessionSteps_words mem
  · cases mem

theorem OwnCall.owned (c : OwnCall F) : ∀ l ∈ c.steps, F.OwnsStep c.block l :=
  fun _ mem => rows_owned c.texts c.name c.iqn _ (OwnCall.steps_words mem)

def OwnCall.turn (c : OwnCall F) : Turn F.OwnsStep where
  party := c.block
  steps := c.steps
  own := c.owned

/-- The node behind a call. -/
def OwnCall.run (c : OwnCall F) (s : TcState) : TcState := c.steps.foldl F.cli.next s

/-- The node behind some calls. -/
def TcState.serve (s : TcState) (calls : List (OwnCall F)) : TcState :=
  calls.foldl (fun s c => c.run s) s

theorem serve_turns (s : TcState) (calls : List (OwnCall F)) :
    s.serve calls = (calls.map OwnCall.turn).foldl (Turn.run F.cli.next) s := by
  unfold TcState.serve
  rw [List.foldl_map]
  rfl

theorem empty_luns : F.OwnLuns ⟨∅, ∅⟩ := by
  intro i tpgs target
  cases target

variable [DecidableEq I]

theorem serve_same {calls others : List (OwnCall F)} {i : I}
    (same : calls.filter (fun c => c.block = i) = others.filter (fun c => c.block = i)) :
    F.view i (TcState.serve ⟨∅, ∅⟩ calls) = F.view i (TcState.serve ⟨∅, ∅⟩ others) := by
  have own (calls : List (OwnCall F)) : F.view i (TcState.serve ⟨∅, ∅⟩ calls) =
      F.view i (TcState.serve ⟨∅, ∅⟩ (calls.filter (fun c => c.block = i))) := by
    have turns := (node_unwinds F).run_view i empty_luns empty_luns rfl (calls.map OwnCall.turn)
    rw [serve_turns, serve_turns, turns, List.filter_map]
    rfl
  rw [own calls, own others, same]

/-- What a node has of a block is what the calls for this block alone make of it, with the same
of them turned away and the same lines failing, whatever other blocks it serves in between. -/
theorem blocks_apart (calls : List (OwnCall F)) (i : I) :
    F.view i (TcState.serve ⟨∅, ∅⟩ calls) =
      F.view i (TcState.serve ⟨∅, ∅⟩ (calls.filter (fun c => c.block = i))) := by
  apply serve_same
  rw [List.filter_filter]
  simp

/-- Two blocks of the same hosts. -/
def samplePair : Family Bool where
  cli := plainCli
  name b := if b then "blk".toList else "other".toList
  iqn b := if b then iqnText "0a" else iqnText "0b"
  names a b := by cases a <;> cases b <;> decide
  iqns a b := by cases a <;> cases b <;> decide

def sampleOther : CommonArgs :=
  { sampleCreate with blk := { sampleCreate.blk with blockName := "other", gbid := "0b" } }

theorem sample_texts {args : CommonArgs} (texts : ScriptTexts args) :
    (NodeCall.create args true).Texts where
  name := texts.name
  gbid := texts.gbid
  create _ _ same := by cases same; exact texts
  modify _ _ absurd := by cases absurd
  replace _ _ absurd := by cases absurd

def sampleMade : OwnCall samplePair where
  block := true
  call := .create sampleCreate true
  starts := true
  refused := fun _ => false
  texts := sample_texts ⟨by decide, by decide, fun _ => by decide, by decide +kernel, by decide,
    by decide, by decide⟩
  name := rfl
  iqn := rfl

def sampleMadeOther : OwnCall samplePair where
  block := false
  call := .create sampleOther true
  starts := true
  refused := fun _ => false
  texts := sample_texts ⟨by decide, by decide, fun _ => by decide, by decide +kernel, by decide,
    by decide, by decide⟩
  name := rfl
  iqn := rfl

def sampleDeleted : OwnCall samplePair where
  block := true
  call := .delete ⟨"blk", "0a"⟩
  starts := true
  refused := fun _ => false
  texts := {
    name := by decide
    gbid := by decide
    create := fun _ _ absurd => by cases absurd
    modify := fun _ _ absurd => by cases absurd
    replace := fun _ _ absurd => by cases absurd }
  name := rfl
  iqn := rfl

end Node

end GlusterBlock
