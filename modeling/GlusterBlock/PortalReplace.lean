import GlusterBlock.CommandLog
import GlusterBlock.HostLists
import GlusterBlock.Lib.Grep
import GlusterBlock.TargetConfig

/-! The replacement of a portal on a node. The portal group is found by patterns in the
listing of the target: an address is a pattern there in which a dot stands for any
character, and a name of a group ends behind one more character. -/
namespace GlusterBlock

section Node

/-- The address as `grep` takes it. -/
def addrPattern (addr : Addr) : Grep.Pattern Char :=
  addr.toList.map (fun c => if c = '.' then fun _ => true else fun d => d == c)

def tpgPattern : Grep.Pattern Char := "tpg".toList.map (fun c d => d == c)

def wordChar (c : Char) : Bool := c.isAlphanum || c == '_'

def tpgNamePattern : Grep.Pattern Char := tpgPattern ++ [wordChar]

/-- The names in a line. -/
def tpgNames (line : Text) : List Text := tpgNamePattern.only 0 line

/-- `GB_CHECK_PORTAL` on the lines of the listing. -/
def checkPortal (listing : List Text) (addr : Addr) : Bool :=
  listing.any (addrPattern addr).found

/-- The lines that go into the search for the address. -/
def tpgOrPortal (addr : Addr) (line : Text) : Bool :=
  tpgPattern.found line || (addrPattern addr).found line

/-- `GB_GET_PORTAL_TPG` on the lines of the listing. -/
def getPortalTpg (listing : List Text) (addr : Addr) : List Text :=
  (Grep.before "--".toList (addrPattern addr).found
    (listing.filter (tpgOrPortal addr))).flatMap tpgNames

def replyBytes : Nat := 8192

/-- The reply, and the commands with the name of the group they are for. -/
structure ReplaceSvc where
  exit : Int
  out : Text
  script : List (Text × TpgCmd)
  deriving DecidableEq, Repr

/-- What `blockValidateCommandOutput` looks for behind a replacement. -/
def replaceValid (blk : BlockReplace) (out : Text) : Bool :=
  decide (("Deleted network portal " ++ blk.ripaddr ++ ":3260").toList <:+: out) &&
    decide (("Created network portal " ++ blk.ipaddr ++ ":3260.").toList <:+: out)

/-- `block_replace_1_svc_st`; `printed` is what `targetcli` prints for the commands. -/
def blockReplaceSvc (blk : BlockReplace) (listing : List Text) (printed : Text) : ReplaceSvc :=
  if checkPortal listing blk.ipaddr then
    { exit := gbOpSkipped, out := ("remote portal " ++ blk.ipaddr ++ " already exist").toList,
      script := [] }
  else
    let out := ((getPortalTpg listing blk.ripaddr).flatMap (· ++ ['\n'])).take replyBytes
    if "tpg".toList <:+: out then
      let tpg := (CText.token '\n' out).getD "(null)".toList
      let valid := replaceValid blk (printed.take replyBytes)
      { exit := if valid then 0 else -1,
        out := if valid then printed.take replyBytes else "replace portal failed".toList,
        script := [(tpg, .portalDelete blk.ripaddr), (tpg, .portalCreate blk.ipaddr)] }
    else { exit := -1, out := "failed to get portal tpg".toList, script := [] }

end Node

section Names

def tpgName (tag : Nat) : Text := "tpg".toList ++ (toString tag).toList

/-- The group that a name stands for, if it is one. -/
def tagOf (name : Text) : Option Nat :=
  let tag := Nat.ofDigitChars 10 (name.drop 3) 0
  if tpgName tag = name then some tag else none

/-- A command for a group that is not there changes nothing. -/
def Target.runScript (s : Target) (script : List (Text × TpgCmd)) : Target :=
  script.foldl (fun s c => ((tagOf c.1).map (fun tag => s.exec (.onTpg tag c.2))).getD s) s

theorem tagOf_name (tag : Nat) : tagOf (tpgName tag) = some tag := by
  have digits : (tpgName tag).drop 3 = Nat.toDigits 10 tag := by
    simp [tpgName, Nat.toString_eq_repr, Nat.toList_repr]
  rw [tagOf, digits, Nat.ofDigitChars_ten_toDigits]
  simp

theorem name_tagOf {name : Text} {tag : Nat} (h : tagOf name = some tag) : name = tpgName tag := by
  unfold tagOf at h
  dsimp only at h
  split at h
  · rename_i same
    cases h
    exact same.symm
  · cases h

theorem runScript_unnamed {s : Target} {name : Text} {c d : TpgCmd} (h : tagOf name = none) :
    s.runScript [(name, c), (name, d)] = s := by
  simp [Target.runScript, h]

theorem runScript_tpgs {s : Target} {name : Text} {tag : Nat} {c d : TpgCmd}
    (h : tagOf name = some tag) : (s.runScript [(name, c), (name, d)]).tpgs =
      Function.update s.tpgs tag ((s.tpgs tag).map (fun g => (g.exec c).exec d)) := by
  simp [Target.runScript, h, Target.exec, Option.map_map, Function.comp_def]

theorem mem_names {line name : Text} (h : name ∈ tpgNames line) :
    ∃ c, name = ['t', 'p', 'g', c] ∧ wordChar c = true := by
  obtain ⟨matched, length⟩ := Grep.mem_only h
  match name, length with
  | [t, p, g, c], _ =>
    simp [tpgNamePattern, tpgPattern, Grep.Pattern.starts] at matched
    obtain ⟨rfl, rfl, rfl, word⟩ := matched
    exact ⟨c, rfl, word⟩

end Names

section Listing

def Target.holds (s : Target) (tag : Nat) (a : Addr) : Prop :=
  (s.tpgs tag).map Tpg.portals = some [a]

/-- What `targetcli ls` prints of a target whose groups have one portal each: some lines
about the target, and for each group its line, the lines about its luns and portals, and
the line with the portal. -/
structure Listing (s : Target) where
  head : List Text
  tags : List Nat
  line : Nat → Text
  between : Nat → List Text
  portalLine : Nat → Text
  complete : ∀ tag, tag ∈ tags ↔ (s.tpgs tag).isSome = true
  once : tags.Nodup
  named : ∀ tag ∈ tags, tpgName tag <:+: line tag
  single : ∀ tag ∈ tags, ∃ a, s.holds tag a ∧ inetPton a.toList = true ∧
    (a ++ ":3260").toList <:+: portalLine tag
  distinct : ∀ t u a, s.holds t a → s.holds u a → t = u

def Listing.lines {s : Target} (ls : Listing s) : List Text :=
  ls.head ++ ls.tags.flatMap (fun tag => ls.line tag :: ls.between tag ++ [ls.portalLine tag])

/-- A request with addresses in it. -/
structure PortalRequest where
  blk : BlockReplace
  old : inetPton blk.ripaddr.toList = true
  new : inetPton blk.ipaddr.toList = true

end Listing

section Search

/-- Going through the lines, the first name that is seen is this one. A line is looked at
when it matches the address itself, or when it has `tpg` in it and the next line that has
it or matches is a match. -/
def FirstSeen (lines : List Text) (addr : Addr) (name : Text) : Prop :=
  ∃ front line back, lines = front ++ line :: back ∧
    Grep.shows (tpgOrPortal addr) (addrPattern addr).found line back = true ∧
    (tpgNames line).head? = some name ∧
    ∀ l e r, front = l ++ e :: r →
      Grep.shows (tpgOrPortal addr) (addrPattern addr).found e (r ++ line :: back) = true →
        tpgNames e = []

theorem getPortalTpg_head {lines : List Text} {addr : Addr} {name : Text} :
    (getPortalTpg lines addr).head? = some name ↔ FirstSeen lines addr name :=
  Grep.before_head (by decide)

variable {blk : BlockReplace} {lines : List Text} {printed : Text}

theorem mem_portalTpg {name : Text} (h : name ∈ getPortalTpg lines blk.ripaddr) :
    ∃ c, name = ['t', 'p', 'g', c] ∧ wordChar c = true := by
  obtain ⟨_, _, mem⟩ := List.mem_flatMap.mp h
  exact mem_names mem

/-- The text that is cut off behind its first line gives the first name. -/
theorem token_name {name : Text} {rest : List Text} {c : Char} (shape : name = ['t', 'p', 'g', c])
    (word : wordChar c = true) :
    CText.token '\n' (((name :: rest).flatMap (· ++ ['\n'])).take replyBytes) = some name := by
  have inside : c ≠ '\n' := by
    rintro rfl
    cases word
  have text : ((name :: rest).flatMap (· ++ ['\n'])).take replyBytes =
      name ++ '\n' :: (rest.flatMap (· ++ ['\n'])).take (replyBytes - 5) := by
    subst shape
    rfl
  rw [text]
  apply CText.token_of
  · simp [shape]
  · subst shape
    simp [inside.symm]

theorem tpg_printed {name : Text} {rest : List Text} {c : Char}
    (shape : name = ['t', 'p', 'g', c]) :
    "tpg".toList <:+: ((name :: rest).flatMap (· ++ ['\n'])).take replyBytes := by
  subst shape
  exact ⟨[], c :: '\n' :: (rest.flatMap (· ++ ['\n'])).take (replyBytes - 5), rfl⟩

/-- The request is skipped when some line matches the new address. -/
theorem skipped_iff : (blockReplaceSvc blk lines printed).exit = gbOpSkipped ↔
    checkPortal lines blk.ipaddr = true := by
  unfold blockReplaceSvc
  constructor
  · intro skipped
    by_contra clear
    rw [if_neg clear] at skipped
    dsimp only at skipped
    split at skipped
    · dsimp only at skipped
      split at skipped <;> exact absurd skipped (by decide)
    · exact absurd skipped (by decide)
  · intro taken
    rw [if_pos taken]

/-- Otherwise the commands are for the group whose name is found first, or there are none. -/
theorem script_cases (clear : checkPortal lines blk.ipaddr = false) :
    (getPortalTpg lines blk.ripaddr = [] ∧ (blockReplaceSvc blk lines printed).script = []) ∨
      ∃ name, FirstSeen lines blk.ripaddr name ∧ (blockReplaceSvc blk lines printed).script =
        [(name, .portalDelete blk.ripaddr), (name, .portalCreate blk.ipaddr)] := by
  unfold blockReplaceSvc
  rw [if_neg (by simp [clear])]
  cases found : getPortalTpg lines blk.ripaddr with
  | nil => exact .inl ⟨rfl, rfl⟩
  | cons name rest =>
    have first : FirstSeen lines blk.ripaddr name := by
      rw [← getPortalTpg_head, found]
      rfl
    have mem : name ∈ getPortalTpg lines blk.ripaddr := by
      rw [found]
      exact List.mem_cons_self
    obtain ⟨c, shape, word⟩ := mem_portalTpg mem
    refine .inr ⟨name, first, ?_⟩
    rw [if_pos (tpg_printed shape), token_name shape word]
    rfl

theorem firstSeen_unique {addr : Addr} {name name' : Text} (h : FirstSeen lines addr name)
    (h' : FirstSeen lines addr name') : name = name' :=
  Option.some.inj ((getPortalTpg_head.mpr h).symm.trans (getPortalTpg_head.mpr h'))

end Search

section Replacement

/-- The group has the new portal in place of its old one, and no other group changed. -/
structure PortalMoved (s s' : Target) (tag : Nat) (new : Addr) : Prop where
  moved : s'.tpgs tag = (s.tpgs tag).map (fun g => { g with portals := [new] })
  others : ∀ u, u ≠ tag → s'.tpgs u = s.tpgs u

/-- The request is skipped only when the new portal is there, and moves the old portal
where that is there and the new one is not. -/
structure ReplacesPortal {s : Target} (ls : Listing s) (blk : BlockReplace) (printed : Text) :
    Prop where
  skips : (blockReplaceSvc blk ls.lines printed).exit = gbOpSkipped →
    ∃ u, s.holds u blk.ipaddr
  moves : ∀ tag, s.holds tag blk.ripaddr → (¬ ∃ u, s.holds u blk.ipaddr) →
    (blockReplaceSvc blk ls.lines printed).exit ≠ gbOpSkipped ∧
      PortalMoved s (s.runScript (blockReplaceSvc blk ls.lines printed).script) tag blk.ipaddr

/-- The patterns find what they are meant to find. -/
structure PatternsFit {s : Target} (ls : Listing s) (blk : BlockReplace) : Prop where
  clear : (∃ line ∈ ls.lines, (addrPattern blk.ipaddr).found line = true) →
    ∃ u, s.holds u blk.ipaddr
  first : ∀ tag, s.holds tag blk.ripaddr → (¬ ∃ u, s.holds u blk.ipaddr) →
    FirstSeen ls.lines blk.ripaddr (tpgName tag)

variable {s : Target} {tag : Nat} {old new : Addr}

theorem holds_some (h : s.holds tag old) : ∃ g, s.tpgs tag = some g ∧ g.portals = [old] := by
  unfold Target.holds at h
  cases group : s.tpgs tag with
  | none =>
    rw [group] at h
    cases h
  | some g =>
    rw [group] at h
    exact ⟨g, rfl, Option.some.inj h⟩

/-- A target that is left as it is has not got the new portal. -/
theorem unmoved {s' : Target} (h : s.holds tag old) (other : old ≠ new)
    (same : s'.tpgs tag = s.tpgs tag) : ¬ PortalMoved s s' tag new := by
  intro done
  obtain ⟨g, group, portals⟩ := holds_some h
  have moved := same.symm.trans done.moved
  rw [group, Option.map_some] at moved
  have now := congrArg Tpg.portals (Option.some.inj moved)
  rw [portals] at now
  exact other (List.cons.inj now).1

/-- The two commands move the portal exactly when they are for the group that has it. -/
theorem script_moves {name : Text} (h : s.holds tag old) (other : old ≠ new) :
    PortalMoved s (s.runScript [(name, .portalDelete old), (name, .portalCreate new)]) tag new ↔
      name = tpgName tag := by
  constructor
  · intro done
    cases group : tagOf name with
    | none =>
      refine absurd done (unmoved h other ?_)
      rw [runScript_unnamed group]
    | some u =>
      by_cases here : u = tag
      · exact here ▸ name_tagOf group
      · refine absurd done (unmoved h other ?_)
        rw [runScript_tpgs group, Function.update_of_ne (Ne.symm here)]
  · rintro rfl
    have tpgs := runScript_tpgs (s := s) (c := .portalDelete old) (d := .portalCreate new)
      (tagOf_name tag)
    constructor
    · obtain ⟨g, group, portals⟩ := holds_some h
      rw [tpgs, Function.update_self, group]
      simp [Tpg.exec, portals]
    · intro u away
      rw [tpgs, Function.update_of_ne away]

/-- Patterns that fit find the group of the old portal. -/
theorem fit_moved {ls : Listing s} {blk : BlockReplace} (fit : PatternsFit ls blk) (printed : Text)
    (there : s.holds tag blk.ripaddr) (free : ¬ ∃ u, s.holds u blk.ipaddr) :
    (blockReplaceSvc blk ls.lines printed).exit ≠ gbOpSkipped ∧
      PortalMoved s (s.runScript (blockReplaceSvc blk ls.lines printed).script) tag blk.ipaddr := by
  have clear : checkPortal ls.lines blk.ipaddr = false :=
    Bool.eq_false_iff.mpr (fun hit => free (fit.clear (List.any_eq_true.mp hit)))
  refine ⟨fun skipped => Bool.eq_false_iff.mp clear (skipped_iff.mp skipped), ?_⟩
  have first := fit.first tag there free
  have different : blk.ripaddr ≠ blk.ipaddr := fun same => free ⟨tag, same ▸ there⟩
  rcases @script_cases _ _ printed clear with ⟨none, _⟩ | ⟨name, seen, script⟩
  · have some := getPortalTpg_head.mpr first
    rw [none] at some
    cases some
  · rw [script]
    exact (script_moves there different).mpr (firstSeen_unique seen first)

/-- The replacement hits the right portal exactly when the patterns fit the listing. -/
theorem replace_portal_right (s : Target) (ls : Listing s) (r : PortalRequest) (printed : Text) :
    ReplacesPortal ls r.blk printed ↔ PatternsFit ls r.blk := by
  have matched : checkPortal ls.lines r.blk.ipaddr = true ↔
      ∃ line ∈ ls.lines, (addrPattern r.blk.ipaddr).found line = true := List.any_eq_true
  constructor
  · intro right
    refine ⟨fun hit => right.skips (skipped_iff.mpr (matched.mpr hit)), fun tag there free => ?_⟩
    obtain ⟨notSkipped, moved⟩ := right.moves tag there free
    have clear : checkPortal ls.lines r.blk.ipaddr = false :=
      Bool.eq_false_iff.mpr (fun hit => notSkipped (skipped_iff.mpr hit))
    have other : r.blk.ripaddr ≠ r.blk.ipaddr := fun same => free ⟨tag, same ▸ there⟩
    rcases script_cases clear with ⟨_, idle⟩ | ⟨name, first, script⟩
    · rw [idle] at moved
      exact absurd moved (unmoved there other rfl)
    · rw [script] at moved
      exact (script_moves there other).mp moved ▸ first
  · intro fit
    exact ⟨fun skipped => fit.clear (matched.mp (skipped_iff.mp skipped)),
      fun tag there free => fit_moved fit printed there free⟩

end Replacement

section Sample

/-- A target with one group, which has this portal. -/
def oneGroup (tag : Nat) (portal : Addr) : Target where
  backstore := none
  iqn := none
  tpgs := fun t => if t = tag then some { portals := [portal] } else none

theorem oneGroup_holds {tag t : Nat} {portal a : Addr} :
    (oneGroup tag portal).holds t a ↔ t = tag ∧ a = portal := by
  unfold Target.holds oneGroup
  dsimp only
  split
  · rename_i here
    simp [here, eq_comm]
  · rename_i away
    simp [away]

def oneGroupListing (tag : Nat) (portal : Addr) (ipv4 : inetPton portal.toList = true) :
    Listing (oneGroup tag portal) where
  head := ["o- iqn.2016-12.org.gluster-block:6b60c53c ..... [TPGs: 1]".toList]
  tags := [tag]
  line := fun t => "  o- ".toList ++ tpgName t ++ " ..... [gen-acls, no-auth]".toList
  between := fun _ => ["    o- acls ..... [ACLs: 0]".toList, "    o- luns ..... [LUNs: 1]".toList,
    "    | o- lun0 ..... [user/block (glfs_tg_pt_gp_ao)]".toList,
    "    o- portals ..... [Portals: 1]".toList]
  portalLine := fun _ => "      o- ".toList ++ (portal ++ ":3260").toList ++ " ..... [OK]".toList
  complete t := by
    unfold oneGroup
    dsimp only
    split <;> simp_all
  once := List.nodup_singleton tag
  named t _ := ⟨_, _, rfl⟩
  single t h := ⟨portal, oneGroup_holds.mpr ⟨List.mem_singleton.mp h, rfl⟩, ipv4, ⟨_, _, rfl⟩⟩
  distinct t u a ht hu := by
    rw [(oneGroup_holds.mp ht).1, (oneGroup_holds.mp hu).1]

def portalSample (old new : Addr) (hold : inetPton old.toList = true)
    (hnew : inetPton new.toList = true) : PortalRequest where
  blk := { volume := "vol", blockName := "block", gbid := "6b60c53c", ipaddr := new, ripaddr := old }
  old := hold
  new := hnew

/-- The new address is the beginning of the old one, and the request is skipped. -/
theorem similar_portal_skipped : ¬ ReplacesPortal (oneGroupListing 1 "10.0.0.11" (by decide))
    (portalSample "10.0.0.11" "10.0.0.1" (by decide) (by decide)).blk [] := by
  intro right
  obtain ⟨u, there⟩ := right.skips (by decide)
  exact absurd (oneGroup_holds.mp there).2 (by decide)

end Sample

end GlusterBlock
