import GlusterBlock.Lib.Fields
import GlusterBlock.MetaReader
import GlusterBlock.Rpc

/-! The host list of a create as the command line checks it and as the daemon takes it
apart. The check passes over empty fields, the daemon makes a host of each. -/
namespace GlusterBlock

open Fields (tokens Gapless)

/-- A number of a dotted quad: one to three digits, no zero in front, at most 255. -/
def octet (ds : List Char) : Bool :=
  ds != [] && ds.all Char.isDigit && ds.length ≤ 3 && (ds.length == 1 || ds.head? != some '0') &&
    Nat.ofDigitChars 10 ds 0 ≤ 255

/-- `inet_pton(AF_INET)`. -/
def inetPton (addr : List Char) : Bool :=
  (addr.splitOn '.').length == 4 && (addr.splitOn '.').all octet

/-- The text of an IPv6 address has a colon, so behind the test of the characters only
the conversion of a dotted quad can succeed. -/
def glusterBlockIsAddrAcceptable (addr : String) : Bool :=
  !(addr.length == 0 || addr.length > 255) &&
    addr.toList.all (fun c => c.isDigit || c == '.') && inetPton addr.toList

/-- The count of the addresses is an `unsigned int` and returned as an `int`. -/
def glusterBlockIsAddrListAcceptable (count : Nat) (addrList : String) : Int :=
  let toks := (tokens ',' addrList.toList).map String.ofList
  let ncommas := toks.length % 2 ^ 32
  if addrList = "" then -1
  else if !toks.all glusterBlockIsAddrAcceptable then -1
  else if ncommas ≠ count then (BitVec.ofNat 32 ncommas).toInt
  else 0

section Agreement

variable {n : Nat} {s : String}

/-- The daemon gets the hosts that were counted, all of them addresses, in the order of
the text. -/
def HostsAgree (n : Nat) (s : String) : Prop :=
  (blockServerParse s).length = n ∧
    (∀ h ∈ blockServerParse s, glusterBlockIsAddrAcceptable h = true) ∧
    joinServers (blockServerParse s) = s

instance (n : Nat) (s : String) : Decidable (HostsAgree n s) :=
  inferInstanceAs (Decidable (_ ∧ (∀ _ ∈ _, _) ∧ _))

theorem joinServers_parse (s : String) : joinServers (blockServerParse s) = s := by
  have id : String.toList ∘ String.ofList = id := funext fun _ => String.toList_ofList
  rw [joinServers, blockServerParse, List.map_map, id, List.map_id, List.intercalate_splitOn,
    String.ofList_toList]

theorem parse_length (s : String) : (blockServerParse s).length = s.toList.count ',' + 1 := by
  rw [blockServerParse, List.length_map, Fields.length_splitOn]

theorem accepted_tokens (accepted : glusterBlockIsAddrListAcceptable n s = 0) :
    s ≠ "" ∧ (∀ t ∈ tokens ',' s.toList, glusterBlockIsAddrAcceptable (String.ofList t) = true) ∧
      ((tokens ',' s.toList).length % 2 ^ 32 = n ∨ (tokens ',' s.toList).length % 2 ^ 32 = 0) := by
  unfold glusterBlockIsAddrListAcceptable at accepted
  dsimp only at accepted
  rw [List.length_map] at accepted
  split at accepted
  · cases accepted
  · rename_i nonempty
    split at accepted
    · cases accepted
    · rename_i all
      refine ⟨nonempty, ?_, ?_⟩
      · intro t mem
        have each : ((tokens ',' s.toList).map String.ofList).all glusterBlockIsAddrAcceptable =
            true := by simpa using all
        exact List.all_eq_true.mp each _ (List.mem_map_of_mem mem)
      · split at accepted
        · right
          have zero := congrArg (BitVec.ofInt 32) accepted
          rw [BitVec.ofInt_toInt] at zero
          have value := congrArg BitVec.toNat zero
          simpa using value
        · rename_i same
          exact .inl (by simpa using same)

/-- The addresses of a list that is written out are counted and accepted. -/
theorem accepted_join {hosts : List Addr} (some_host : hosts ≠ [])
    (addrs : ∀ h ∈ hosts, glusterBlockIsAddrAcceptable h = true) (few : hosts.length < 2 ^ 32) :
    glusterBlockIsAddrListAcceptable hosts.length (joinServers hosts) = 0 := by
  have clean : ∀ h ∈ hosts, ',' ∉ h.toList := by
    intro h mem comma
    have ok := addrs h mem
    simp only [glusterBlockIsAddrAcceptable, Bool.and_eq_true] at ok
    exact absurd (List.all_eq_true.mp ok.1.2 _ comma) (by decide)
  have filled : "" ∉ hosts := fun empty => absurd (addrs _ empty) (by decide)
  have parse := blockServerParse_join some_host clean
  have toks : (tokens ',' (joinServers hosts).toList).map String.ofList = hosts := by
    have fields : (joinServers hosts).toList.splitOn ',' = hosts.map String.toList := by
      have texts := congrArg (List.map String.toList) parse
      have id : String.toList ∘ String.ofList = id := funext fun _ => String.toList_ofList
      rwa [blockServerParse, List.map_map, id, List.map_id] at texts
    have whole : (hosts.map String.toList).filter (fun f => f ≠ []) = hosts.map String.toList := by
      apply List.filter_eq_self.mpr
      intro text mem
      obtain ⟨h, here, rfl⟩ := List.mem_map.mp mem
      have other : h ≠ "" := fun empty => filled (empty ▸ here)
      simpa using other
    have id : String.ofList ∘ String.toList = id := funext fun _ => String.ofList_toList
    rw [Fields.tokens_eq, fields, whole, List.map_map, id, List.map_id]
  have nonempty : joinServers hosts ≠ "" := by
    intro empty
    rw [empty] at parse
    have single : hosts = [""] := parse.symm.trans (by decide)
    exact filled (single ▸ List.mem_singleton.mpr rfl)
  have all : hosts.all glusterBlockIsAddrAcceptable = true := List.all_eq_true.mpr addrs
  unfold glusterBlockIsAddrListAcceptable
  dsimp only
  rw [if_neg nonempty, toks, Nat.mod_eq_of_lt few, if_neg (by simp [all]), if_neg (by simp)]

/-- What the command line lets through is what the daemon gets exactly when no comma
stands at an end of the list or beside another. -/
theorem host_lists_agree (accepted : glusterBlockIsAddrListAcceptable n s = 0) :
    HostsAgree n s ↔
      Gapless ',' s.toList ∧
        (s.toList.count ',' + 1 < 2 ^ 32 ∨ s.toList.count ',' + 1 = n) := by
  obtain ⟨nonempty, addrs, counted⟩ := accepted_tokens accepted
  have chars : s.toList ≠ [] := by simpa using nonempty
  constructor
  · rintro ⟨length, all, _⟩
    refine ⟨(Fields.fields_gapless chars).mp (fun empty => ?_), .inr ?_⟩
    · have host : String.ofList [] ∈ blockServerParse s := List.mem_map_of_mem empty
      exact absurd (all _ host) (by decide)
    · rw [← parse_length, length]
  · rintro ⟨gapless, few⟩
    have same := (Fields.tokens_eq_fields chars).mpr gapless
    have length := Fields.length_splitOn ',' s.toList
    rw [same, length] at counted
    refine ⟨?_, ?_, joinServers_parse s⟩
    · rw [parse_length]
      rcases few with small | asked
      · rw [Nat.mod_eq_of_lt small] at counted
        exact counted.resolve_right (Nat.succ_ne_zero _)
      · exact asked
    · intro h mem
      obtain ⟨field, split, rfl⟩ := List.mem_map.mp mem
      exact addrs field (same ▸ split)

theorem host_lists_agree_sample :
    glusterBlockIsAddrListAcceptable 2 "10.0.0.1,10.0.0.2" = 0 ∧
      HostsAgree 2 "10.0.0.1,10.0.0.2" := by
  have accepted : glusterBlockIsAddrListAcceptable 2 "10.0.0.1,10.0.0.2" = 0 := by decide
  exact ⟨accepted, (host_lists_agree accepted).mpr (by decide)⟩

/-- An empty field is not counted by the command line and a host to the daemon. -/
theorem empty_field_is_host :
    glusterBlockIsAddrListAcceptable 2 "10.0.0.1,,10.0.0.2" = 0 ∧
      ¬ HostsAgree 2 "10.0.0.1,,10.0.0.2" := by
  refine ⟨by decide, fun agree => ?_⟩
  exact absurd agree.1 (by decide)

end Agreement

end GlusterBlock
