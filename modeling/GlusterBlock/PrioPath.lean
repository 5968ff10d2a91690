import GlusterBlock.Metafile

/-! The counters of `prio.info`: an attribute for each host with the number of blocks it
is the priority path of, and the choice of the host that has the fewest. -/
namespace GlusterBlock

/-- The attributes of the file by their names. -/
abbrev Prio := String → Option Nat

/-- The calls on the file that succeed; an attribute that is missing is no failure. -/
structure PrioCalls where
  creat : Bool
  getxattr : Addr → Bool
  setxattr : Bool

def PrioCalls.good : PrioCalls := ⟨true, fun _ => true, true⟩

def gbLbAttrPrefix : String := "user.block"

def attrName (addr : Addr) : String := gbLbAttrPrefix ++ "." ++ addr

/-- The name of an attribute is cut off at the end of its buffer. -/
def prioAttr (addr : Addr) : String := String.ofList ((attrName addr).toList.take 255)

/-- The loop over the hosts with the best one so far; a host without a counter ends it. -/
def leastLoaded (prio : Prio) (calls : PrioCalls) : List Addr → Option (Addr × Nat) → Option Addr
  | [], best => best.map Prod.fst
  | h :: hs, best =>
    if calls.getxattr h then
      match prio (prioAttr h) with
      | none => some h
      | some count =>
        leastLoaded prio calls hs
          (if best.all (fun b => b.2 > count) then some (h, count) else best)
    else none

/-- No path when the file cannot be read or the name of the host is too long. -/
def blockGetPrioPath (prio : Prio) (calls : PrioCalls) (hosts : List Addr) : Addr :=
  if calls.creat then
    match leastLoaded prio calls hosts none with
    | some h => if h.length < 256 - gbLbAttrPrefix.length then h else ""
    | none => ""
  else ""

def blockIncPrioAttr (prio : Prio) (calls : PrioCalls) (addr : Addr) : Prio :=
  let attr := prioAttr addr
  if calls.getxattr addr && calls.setxattr then
    Function.update prio attr (some ((prio attr).getD 0 + 1))
  else prio

/-- A counter at zero stays there. -/
def blockDecPrioAttr (prio : Prio) (calls : PrioCalls) (addr : Addr) : Prio :=
  let attr := prioAttr addr
  let count := (prio attr).getD 0
  if calls.getxattr addr && count != 0 && calls.setxattr then
    Function.update prio attr (some (count - 1))
  else prio

/-- What the file says of a host. -/
def counter (prio : Prio) (addr : Addr) : Nat := (prio (attrName addr)).getD 0

section Counters

variable {prio : Prio} {a h : Addr}

/-- The names that fit their buffer. -/
def Short (addr : Addr) : Prop := addr.length ≤ 244

theorem prioAttr_short (short : Short a) : prioAttr a = attrName a := by
  have fits : (attrName a).toList.length ≤ 255 := by
    unfold Short at short
    rw [String.length_toList, attrName, String.length_append]
    change 11 + a.length ≤ 255
    omega
  rw [prioAttr, List.take_of_length_le fits, String.ofList_toList]

theorem attrName_inj (same : attrName a = attrName h) : a = h := by
  have chars := congrArg String.toList same
  simp only [attrName, String.toList_append] at chars
  exact String.toList_inj.mp (List.append_cancel_left chars)

theorem counter_update (prio : Prio) (short : Short a) (n : Nat) (h : Addr) :
    counter (Function.update prio (prioAttr a) (some n)) h = if a = h then n else counter prio h := by
  unfold counter
  rw [prioAttr_short short]
  by_cases same : a = h
  · subst h
    simp
  · have other : attrName h ≠ attrName a := fun eq => same (attrName_inj eq).symm
    rw [Function.update_of_ne other, if_neg same]

theorem counter_inc (prio : Prio) (short : Short a) (h : Addr) :
    counter (blockIncPrioAttr prio .good a) h = counter prio h + (decide (a = h)).toNat := by
  have run : blockIncPrioAttr prio .good a =
      Function.update prio (prioAttr a) (some ((prio (prioAttr a)).getD 0 + 1)) := rfl
  rw [run, counter_update prio short, prioAttr_short short]
  by_cases same : a = h
  · subst h
    simp [counter]
  · simp [same]

theorem counter_dec (short : Short a) (positive : 0 < counter prio a) (h : Addr) :
    counter (blockDecPrioAttr prio .good a) h + (decide (a = h)).toNat = counter prio h := by
  have count : (prio (prioAttr a)).getD 0 = counter prio a := by
    rw [prioAttr_short short, counter]
  have run : blockDecPrioAttr prio .good a =
      Function.update prio (prioAttr a) (some (counter prio a - 1)) := by
    unfold blockDecPrioAttr
    dsimp only
    rw [count, if_pos (by simp [PrioCalls.good]; omega)]
  rw [run, counter_update prio short]
  by_cases same : a = h
  · subst h
    simp
    omega
  · simp [same]

end Counters

section Choice

variable {prio : Prio} {calls : PrioCalls} {hosts : List Addr}

theorem leastLoaded_mem {best : Option (Addr × Nat)} {a : Addr}
    (found : leastLoaded prio calls hosts best = some a) :
    a ∈ hosts ∨ ∃ n, best = some (a, n) := by
  induction hosts generalizing best with
  | nil =>
    obtain ⟨b, here, rfl⟩ := Option.map_eq_some_iff.mp found
    exact .inr ⟨b.2, here⟩
  | cons h hs ih =>
    unfold leastLoaded at found
    split at found
    · split at found
      · cases found
        exact .inl List.mem_cons_self
      · rcases ih found with later | ⟨n, now⟩
        · exact .inl (List.mem_cons_of_mem _ later)
        · split at now
          · cases now
            exact .inl List.mem_cons_self
          · exact .inr ⟨n, now⟩
    · cases found

/-- A path that is chosen is a host of the list. -/
theorem prioPath_mem (prio : Prio) (calls : PrioCalls) (hosts : List Addr) :
    blockGetPrioPath prio calls hosts = "" ∨ blockGetPrioPath prio calls hosts ∈ hosts := by
  unfold blockGetPrioPath
  split
  · split
    · rename_i h found
      split
      · exact .inr ((leastLoaded_mem found).resolve_right (fun none => nomatch none.choose_spec))
      · exact .inl rfl
    · exact .inl rfl
  · exact .inl rfl

end Choice

end GlusterBlock
