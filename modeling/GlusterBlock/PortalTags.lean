import GlusterBlock.PortalReplace
import GlusterBlock.Regenerate

/-! The tags of the portal groups on the nodes of a block. A replace puts the new node into the
group of the old one where the block is kept, and at the head of the list on the new node. -/
namespace GlusterBlock

section Tags

variable {s s' : Target} {T : List Addr} {tag : Nat} {old new : Addr}

/-- The groups have these portals, in this order from the first tag on. -/
def Tagged (s : Target) (T : List Addr) : Prop :=
  ∀ tag a, s.holds tag a ↔ 0 < tag ∧ T[tag - 1]? = some a

/-- The list with a host in the place of another. -/
def substituted (T : List Addr) (old new : Addr) : List Addr :=
  T.map (fun a => if a = old then new else a)

/-- Portals that a node replaces one after another, each of them there, by the address of a host
that has none there, in listings that the patterns fit. -/
inductive PortalsReplaced : Target → List (Addr × Addr) → Target → Prop where
  | nil (s : Target) : PortalsReplaced s [] s
  | cons {s s' : Target} {tag : Nat} {ms : List (Addr × Addr)} (ls : Listing s) (r : PortalRequest)
      (printed : Text) (there : s.holds tag r.blk.ripaddr) (free : ∀ u, ¬ s.holds u r.blk.ipaddr)
      (fit : PatternsFit ls r.blk)
      (rest : PortalsReplaced (s.runScript (blockReplaceSvc r.blk ls.lines printed).script) ms s') :
      PortalsReplaced s ((r.blk.ripaddr, r.blk.ipaddr) :: ms) s'

theorem tagged_same {T' : List Addr} (tagged : Tagged s T) (tagged' : Tagged s' T') :
    (∀ tag a, s.holds tag a ↔ s'.holds tag a) ↔ T = T' := by
  constructor
  · intro same
    refine List.ext_getElem? (fun i => Option.ext fun a => ?_)
    have here := same (i + 1) a
    rw [tagged, tagged'] at here
    simpa using here
  · rintro rfl tag a
    rw [tagged, tagged']

theorem substituted_other (away : old ∉ T) : substituted T old new = T := by
  conv_rhs => rw [← List.map_id T]
  refine List.map_congr_left (fun a mem => if_neg ?_)
  rintro rfl
  exact away mem

theorem free_list (tagged : Tagged s T) (free : ∀ u, ¬ s.holds u new) : new ∉ T := by
  intro mem
  obtain ⟨i, here⟩ := List.getElem?_of_mem mem
  exact free (i + 1) ((tagged _ _).mpr ⟨Nat.succ_pos i, here⟩)

/-- A move puts the new host where the old one was. -/
theorem move_tagged (tagged : Tagged s T) (distinct : T.Nodup) (there : s.holds tag old)
    (moved : PortalMoved s s' tag new) : Tagged s' (substituted T old new) := by
  obtain ⟨positive, place⟩ := (tagged tag old).mp there
  intro t a
  unfold substituted
  rw [List.getElem?_map]
  by_cases same : t = tag
  · subst t
    obtain ⟨g, group, _⟩ := holds_some there
    unfold Target.holds
    rw [moved.moved, group, place]
    simp [positive, eq_comm]
  · have kept : s'.holds t a ↔ s.holds t a := by
      unfold Target.holds
      rw [moved.others t same]
    rw [kept, tagged]
    refine and_congr_right (fun pos => ?_)
    cases there' : T[t - 1]? with
    | none => simp
    | some b =>
      have other : b ≠ old := by
        rintro rfl
        have index := (List.getElem?_inj (List.getElem?_eq_some_iff.mp place).1 distinct).mp
          (place.trans there'.symm)
        omega
      simp [other]

theorem move_distinct (distinct : T.Nodup) (free : new ∉ T) : (substituted T old new).Nodup := by
  refine (List.nodup_map_iff_inj_on distinct).mpr (fun a ha b hb same => ?_)
  split_ifs at same with first second second
  · exact first.trans second.symm
  · exact absurd (same ▸ hb) free
  · exact absurd (same ▸ ha) free
  · exact same

theorem replaced_tagged {ms : List (Addr × Addr)} (replaced : PortalsReplaced s ms s')
    (tagged : Tagged s T) (distinct : T.Nodup) :
    Tagged s' (ms.foldl (fun T m => substituted T m.1 m.2) T) ∧
      (ms.foldl (fun T m => substituted T m.1 m.2) T).Nodup := by
  induction replaced generalizing T with
  | nil => exact ⟨tagged, distinct⟩
  | cons ls r printed there free fit _ ih =>
    have moved := (fit_moved fit printed there (fun ⟨u, taken⟩ => free u taken)).2
    exact ih (move_tagged tagged distinct there moved)
      (move_distinct distinct (free_list tagged free))

theorem replaced_free (replaced : PortalsReplaced s [(old, new)] s') : ∀ u, ¬ s.holds u new := by
  cases replaced with
  | cons ls r printed there free fit rest => exact free

theorem substituted_head {others : List Addr} (distinct : T.Nodup) (free : new ∉ T) :
    substituted T old new = new :: others ↔ T = old :: others := by
  constructor
  · intro same
    cases T with
    | nil => cases same
    | cons a rest =>
      obtain ⟨first, tail⟩ := List.cons.inj same
      obtain ⟨once, _⟩ := List.nodup_cons.mp distinct
      have here : a = old := by
        by_contra other
        exact free ((if_neg other).symm.trans first ▸ List.mem_cons_self)
      subst a
      rw [← tail]
      exact congrArg _ (substituted_other once).symm
  · rintro rfl
    have rest : substituted others old new = others :=
      substituted_other (List.nodup_cons.mp distinct).1
    unfold substituted at rest ⊢
    rw [List.map_cons, if_pos rfl, rest]

end Tags

section Nodes

/-- A node has a group for each host of its create, in the order of the list. -/
theorem created_tagged (h : Addr) (obj : BlockCreate2) (behind : List UInt8) {node : CreateNode}
    (fresh : node.nameSaved = false) :
    Tagged (createdOn h obj behind node) (blockServerParse obj.blockHosts) := by
  have hosts : (glusterBlockCallCreate h obj behind).hosts = blockServerParse obj.blockHosts := by
    rw [CommonArgs.hosts, call_blk]
    rfl
  intro tag a
  unfold Target.holds
  rw [createdOn_eq fresh, created_tpgs, hosts]
  split_ifs with zero
  · simp [zero]
  · cases (blockServerParse obj.blockHosts)[tag - 1]? with
    | none => simp
    | some b =>
      simp [(createdTpg_eq (glusterBlockCallCreate h obj behind) b).1, Nat.pos_of_ne_zero zero]

/-- A node that keeps the block and the node that a replace brings in have the same portals under
the same tags exactly when the old node had the first tag and the others are in the order of the
metafile. -/
theorem tags_agree (h : Addr) (obj : BlockCreate2) {behind behind' : List UInt8}
    {node node' : CreateNode} (fresh : node.nameSaved = false) (fresh' : node'.nameSaved = false)
    (distinct : (blockServerParse obj.blockHosts).Nodup) {before : List (Addr × Addr)}
    {s s' : Target} (replaced : PortalsReplaced (createdOn h obj behind node) before s)
    (blk : BlockReplaceCli) {info : MetaInfo} (volServer : String)
    (last : PortalsReplaced s [(blk.oldNode, blk.newNode)] s')
    (clean : ∀ a ∈ blk.newNode :: replaceOthers info blk.oldNode, ',' ∉ a.toList) :
    (∀ t a, s'.holds t a ↔
        (createdOn blk.newNode (replaceCobj blk info volServer) behind' node').holds t a) ↔
      before.foldl (fun T m => substituted T m.1 m.2) (blockServerParse obj.blockHosts) =
        blk.oldNode :: replaceOthers info blk.oldNode := by
  obtain ⟨tagged, once⟩ := replaced_tagged replaced (created_tagged h obj behind fresh) distinct
  have moved := (replaced_tagged last tagged once).1
  have new := created_tagged blk.newNode (replaceCobj blk info volServer) behind' fresh'
  rw [show (replaceCobj blk info volServer).blockHosts =
    joinServers (blk.newNode :: replaceOthers info blk.oldNode) from rfl,
    blockServerParse_join (List.cons_ne_nil _ _) clean] at new
  rw [tagged_same moved new]
  exact substituted_head once (free_list tagged (replaced_free last))

end Nodes

section Sample

/-- The listing of a target with a group for each host. -/
def plainListing {s : Target} {T : List Addr} (tagged : Tagged s T)
    (groups : ∀ tag, (s.tpgs tag).isSome = true → tag ∈ (List.range T.length).map (· + 1))
    (distinct : T.Nodup) (addrs : ∀ a ∈ T, inetPton a.toList = true) : Listing s where
  head := ["o- iqn.2016-12.org.gluster-block:6b60c53c ..... [TPGs: 2]".toList]
  tags := (List.range T.length).map (· + 1)
  line := fun t => "  o- ".toList ++ tpgName t ++ " ..... [gen-acls, no-auth]".toList
  between := fun _ => ["    o- acls ..... [ACLs: 0]".toList, "    o- luns ..... [LUNs: 1]".toList,
    "    | o- lun0 ..... [user/block (glfs_tg_pt_gp_ao)]".toList,
    "    o- portals ..... [Portals: 1]".toList]
  portalLine := fun t =>
    "      o- ".toList ++ ((T.getD (t - 1) "") ++ ":3260").toList ++ " ..... [OK]".toList
  complete tag := by
    refine ⟨fun mem => ?_, groups tag⟩
    obtain ⟨i, small, rfl⟩ := List.mem_map.mp mem
    have held : s.holds (i + 1) _ :=
      (tagged _ _).mpr ⟨Nat.succ_pos i, List.getElem?_eq_getElem (List.mem_range.mp small)⟩
    obtain ⟨g, group, _⟩ := holds_some held
    rw [group]
    rfl
  once := List.nodup_range.map (fun _ _ same => Nat.succ.inj same)
  named t _ := ⟨_, _, rfl⟩
  single tag mem := by
    obtain ⟨i, small, rfl⟩ := List.mem_map.mp mem
    have here := List.getElem?_eq_getElem (List.mem_range.mp small)
    refine ⟨_, (tagged _ _).mpr ⟨Nat.succ_pos i, here⟩, addrs _ (List.getElem_mem _), ?_⟩
    rw [List.getD_eq_getElem?_getD, Nat.add_sub_cancel, here]
    exact ⟨_, _, rfl⟩
  distinct t u a ht hu := by
    obtain ⟨post, first⟩ := (tagged t a).mp ht
    obtain ⟨posu, second⟩ := (tagged u a).mp hu
    have same := (List.getElem?_inj (List.getElem?_eq_some_iff.mp first).1 distinct).mp
      (first.trans second.symm)
    omega

/-- Patterns that only the old portal matches, in the group of its tag. -/
theorem plain_fit {s : Target} {T : List Addr} {tagged : Tagged s T}
    {groups : ∀ tag, (s.tpgs tag).isSome = true → tag ∈ (List.range T.length).map (· + 1)}
    {distinct : T.Nodup} {addrs : ∀ a ∈ T, inetPton a.toList = true} {blk : BlockReplace}
    {tag : Nat} (there : s.holds tag blk.ripaddr)
    (clear : checkPortal (plainListing tagged groups distinct addrs).lines blk.ipaddr = false)
    (first : (getPortalTpg (plainListing tagged groups distinct addrs).lines blk.ripaddr).head? =
      some (tpgName tag)) : PatternsFit (plainListing tagged groups distinct addrs) blk where
  clear hit := absurd (List.any_eq_true.mpr hit) (Bool.eq_false_iff.mp clear)
  first t here _ := by
    rw [(plainListing tagged groups distinct addrs).distinct t tag _ here there]
    exact getPortalTpg_head.mp first

def twoHostObj : BlockCreate2 := createObj createSample (createSampleEnv []) (fun _ => false)

/-- The second of two hosts. -/
def keptNode : Target := createdOn "10.0.0.2" twoHostObj [] ⟨false, true, true⟩

theorem keptNode_tags : Tagged keptNode ["10.0.0.1", "10.0.0.2"] :=
  created_tagged "10.0.0.2" twoHostObj [] rfl

theorem keptNode_groups (tag : Nat) (group : (keptNode.tpgs tag).isSome = true) :
    tag ∈ (List.range ["10.0.0.1", "10.0.0.2"].length).map (· + 1) := by
  have hosts : (glusterBlockCallCreate "10.0.0.2" twoHostObj []).hosts =
      ["10.0.0.1", "10.0.0.2"] := by decide +kernel
  unfold keptNode at group
  rw [createdOn_eq rfl, created_tpgs, hosts] at group
  split_ifs at group with zero
  · cases group
  · rw [Option.isSome_map, isSome_getElem?] at group
    exact List.mem_map.mpr ⟨tag - 1, List.mem_range.mpr group, Nat.succ_pred_eq_of_ne_zero zero⟩

def firstListing : Listing keptNode :=
  plainListing keptNode_tags keptNode_groups (by decide) (by decide)

/-- The first host is replaced. -/
def firstMoved : PortalRequest :=
  portalSample "10.0.0.1" "10.0.0.3" (by decide) (by decide)

def onceMoved : Target :=
  keptNode.runScript (blockReplaceSvc firstMoved.blk firstListing.lines []).script

theorem firstMoved_there : keptNode.holds 1 firstMoved.blk.ripaddr :=
  (keptNode_tags 1 _).mpr ⟨by decide, rfl⟩

theorem firstMoved_free (u : Nat) : ¬ keptNode.holds u firstMoved.blk.ipaddr := by
  intro there
  exact absurd (List.mem_of_getElem? ((keptNode_tags u _).mp there).2) (by decide)

theorem firstMoved_fit : PatternsFit firstListing firstMoved.blk :=
  plain_fit firstMoved_there (by decide +kernel) (by decide +kernel)

theorem moved_once : PortalMoved keptNode onceMoved 1 firstMoved.blk.ipaddr :=
  (fit_moved firstMoved_fit [] firstMoved_there (fun ⟨u, there⟩ => firstMoved_free u there)).2

theorem onceMoved_tags : Tagged onceMoved ["10.0.0.3", "10.0.0.2"] :=
  move_tagged keptNode_tags (by decide) firstMoved_there moved_once

theorem onceMoved_groups (tag : Nat) (group : (onceMoved.tpgs tag).isSome = true) :
    tag ∈ (List.range ["10.0.0.3", "10.0.0.2"].length).map (· + 1) := by
  apply keptNode_groups
  by_cases here : tag = 1
  · subst here
    rwa [moved_once.moved, Option.isSome_map] at group
  · rwa [moved_once.others tag here] at group

def secondListing : Listing onceMoved :=
  plainListing onceMoved_tags onceMoved_groups (by decide) (by decide)

/-- And so is the one that took its place. -/
def secondMoved : PortalRequest :=
  portalSample "10.0.0.3" "10.0.0.4" (by decide) (by decide)

def twiceMoved : Target :=
  onceMoved.runScript (blockReplaceSvc secondMoved.blk secondListing.lines []).script

theorem secondMoved_there : onceMoved.holds 1 secondMoved.blk.ripaddr :=
  (onceMoved_tags 1 _).mpr ⟨by decide, rfl⟩

theorem secondMoved_free (u : Nat) : ¬ onceMoved.holds u secondMoved.blk.ipaddr := by
  intro there
  exact absurd (List.mem_of_getElem? ((onceMoved_tags u _).mp there).2) (by decide)

theorem secondMoved_fit : PatternsFit secondListing secondMoved.blk :=
  plain_fit secondMoved_there (by decide +kernel) (by decide +kernel)

def lastReplaced : BlockReplaceCli where
  volume := "vol"
  oldNode := "10.0.0.3"
  newNode := "10.0.0.4"
  blockName := "block"
  force := false
  jsonResp := .none

/-- The replaced node had the first tag, and the nodes agree. -/
theorem tags_agree_sample :
    (∀ t a, twiceMoved.holds t a ↔
        (createdOn "10.0.0.4" (replaceCobj lastReplaced
          (replay (configuredLines 2 ["10.0.0.2", "10.0.0.3"])) "localhost") []
            ⟨false, true, true⟩).holds t a) ↔
      ["10.0.0.3", "10.0.0.2"] = ["10.0.0.3", "10.0.0.2"] :=
  tags_agree "10.0.0.2" twoHostObj rfl rfl (by decide)
    (.cons firstListing firstMoved [] firstMoved_there firstMoved_free firstMoved_fit (.nil _))
    lastReplaced "localhost"
    (.cons secondListing secondMoved [] secondMoved_there secondMoved_free secondMoved_fit (.nil _))
    (by decide)

end Sample

end GlusterBlock
