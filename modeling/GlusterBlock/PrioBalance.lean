import GlusterBlock.PrioPath
import Mathlib.Algebra.Order.BigOperators.Group.List
import Mathlib.Algebra.Order.Ring.Nat

/-! The counters of `prio.info` as the decimal texts they are stored as. On the texts the
choice is the one on the numbers, and it keeps the counters of a list of hosts together until
they leave 64 bits. -/
namespace GlusterBlock

/-- The attributes of the file with their texts. -/
abbrev PrioTexts := String → Option String

namespace PrioTexts

/-- The loop over the hosts; a text without a number leaves `count` as it was. -/
def leastLoaded (texts : PrioTexts) (calls : PrioCalls) :
    List Addr → Nat → Option (Addr × Nat) → Option Addr
  | [], _, best => best.map Prod.fst
  | h :: hs, count, best =>
    if calls.getxattr h then
      match texts (prioAttr h) with
      | none => some h
      | some buf =>
        let count := (CText.scanZu buf.toList).getD count
        leastLoaded texts calls hs count
          (if best.all (fun b => b.2 > count) then some (h, count) else best)
    else none

def blockGetPrioPath (texts : PrioTexts) (calls : PrioCalls) (hosts : List Addr) : Addr :=
  if calls.creat then
    match texts.leastLoaded calls hosts 0 none with
    | some h => if h.length < 256 - gbLbAttrPrefix.length then h else ""
    | none => ""
  else ""

/-- The counter has no value of its own where its text has no number. -/
def blockIncPrioAttr (texts : PrioTexts) (calls : PrioCalls) (garbage : Nat) (addr : Addr) :
    PrioTexts :=
  let attr := prioAttr addr
  let count := match texts attr with
    | none => 0
    | some buf => (CText.scanZu buf.toList).getD garbage
  if calls.getxattr addr && calls.setxattr then
    Function.update texts attr (some (toString ((count + 1) % 2 ^ 64)))
  else texts

/-- What the texts say of a host. -/
def counter (texts : PrioTexts) (addr : Addr) : Nat :=
  ((texts (attrName addr)).bind (fun buf => CText.scanZu buf.toList)).getD 0

/-- The texts are those of these numbers. -/
def Written (texts : PrioTexts) (prio : Prio) : Prop :=
  ∀ attr, texts attr = (prio attr).map toString ∧ ∀ n ∈ prio attr, n ≤ CText.maxSize

/-- A number of selections in a row, each with its update, from no attributes on. -/
def selections (hosts : List Addr) (garbage : Nat) : Nat → PrioTexts
  | 0 => fun _ => none
  | k + 1 =>
    let texts := selections hosts garbage k
    texts.blockIncPrioAttr .good garbage (texts.blockGetPrioPath .good hosts)

end PrioTexts

section Texts

variable {texts : PrioTexts} {prio : Prio} {a : Addr} {hosts : List Addr}

theorem scan_toString {n : Nat} (fits : n ≤ CText.maxSize) :
    CText.scanZu (toString n).toList = some n := by
  have digits : (toString n).toList = Nat.toDigits 10 n := String.toList_ofList
  rw [digits, CText.scanZu_digits fits]

theorem leastLoaded_written (written : texts.Written prio) (calls : PrioCalls) (hosts : List Addr)
    (count : Nat) (best : Option (Addr × Nat)) :
    texts.leastLoaded calls hosts count best = leastLoaded prio calls hosts best := by
  induction hosts generalizing count best with
  | nil => rfl
  | cons h hs ih =>
    obtain ⟨text, fits⟩ := written (prioAttr h)
    unfold PrioTexts.leastLoaded leastLoaded
    rw [text]
    cases number : prio (prioAttr h) with
    | none => rfl
    | some n =>
      dsimp only [Option.map_some]
      rw [scan_toString (fits n number)]
      dsimp only [Option.getD_some]
      rw [ih]

theorem prioPath_written (written : texts.Written prio) (calls : PrioCalls) (hosts : List Addr) :
    texts.blockGetPrioPath calls hosts = blockGetPrioPath prio calls hosts := by
  have least := leastLoaded_written written calls hosts 0 none
  unfold PrioTexts.blockGetPrioPath blockGetPrioPath
  cases found : leastLoaded prio calls hosts none with
  | none => rw [least, found]
  | some h => rw [least, found]

theorem counter_written (written : texts.Written prio) (h : Addr) :
    texts.counter h = counter prio h := by
  obtain ⟨text, fits⟩ := written (attrName h)
  unfold PrioTexts.counter counter
  rw [text]
  cases number : prio (attrName h) with
  | none => rfl
  | some n => exact congrArg (Option.getD · 0) (scan_toString (fits n number))

/-- An update of the text is one of the number while that has room. -/
theorem inc_written (written : texts.Written prio) (calls : PrioCalls) (garbage : Nat)
    (room : (prio (prioAttr a)).getD 0 < CText.maxSize) :
    (texts.blockIncPrioAttr calls garbage a).Written (blockIncPrioAttr prio calls a) := by
  obtain ⟨text, fits⟩ := written (prioAttr a)
  have count : (match texts (prioAttr a) with
      | none => 0
      | some buf => (CText.scanZu buf.toList).getD garbage) = (prio (prioAttr a)).getD 0 := by
    rw [text]
    cases number : prio (prioAttr a) with
    | none => rfl
    | some n => exact congrArg (Option.getD · garbage) (scan_toString (fits n number))
  unfold PrioTexts.blockIncPrioAttr blockIncPrioAttr
  dsimp only
  rw [count]
  generalize (prio (prioAttr a)).getD 0 = n at room
  split
  · intro attr
    have small : (n + 1) % 2 ^ 64 = n + 1 := by
      apply Nat.mod_eq_of_lt
      unfold CText.maxSize at room
      omega
    rw [small]
    by_cases same : attr = prioAttr a
    · subst attr
      rw [Function.update_self, Function.update_self]
      refine ⟨rfl, fun m mem => ?_⟩
      cases mem
      exact room
    · rw [Function.update_of_ne same, Function.update_of_ne same]
      exact written attr
  · exact written

end Texts

section Choice

variable {prio : Prio} {a : Addr} {hosts : List Addr}

/-- The host that is found has the least counter of the list and of the best so far. -/
theorem leastLoaded_least {best : Option (Addr × Nat)} (short : ∀ h ∈ hosts, Short h)
    (known : ∀ b ∈ best, counter prio b.1 = b.2)
    (found : leastLoaded prio .good hosts best = some a) :
    (∀ h ∈ hosts, counter prio a ≤ counter prio h) ∧ ∀ b ∈ best, counter prio a ≤ b.2 := by
  induction hosts generalizing best with
  | nil =>
    obtain ⟨b, here, rfl⟩ := Option.map_eq_some_iff.mp found
    refine ⟨fun h mem => absurd mem List.not_mem_nil, fun b' mem => ?_⟩
    obtain rfl : b = b' := Option.some.inj (here.symm.trans mem)
    exact (known b here).le
  | cons h hs ih =>
    have attr := prioAttr_short (short h List.mem_cons_self)
    have short' : ∀ h ∈ hs, Short h := fun h' mem => short h' (List.mem_cons_of_mem h mem)
    unfold leastLoaded at found
    rw [attr] at found
    cases number : prio (attrName h) with
    | none =>
      rw [number] at found
      obtain rfl : h = a := Option.some.inj found
      have zero : counter prio h = 0 := by
        unfold counter
        rw [number]
        rfl
      rw [zero]
      exact ⟨fun h' _ => Nat.zero_le _, fun b _ => Nat.zero_le _⟩
    | some count =>
      rw [number] at found
      have here : counter prio h = count := by
        unfold counter
        rw [number]
        rfl
      by_cases better : best.all (fun b => b.2 > count) = true
      · change leastLoaded prio .good hs (if best.all (fun b => b.2 > count) = true then
          some (h, count) else best) = some a at found
        rw [if_pos better] at found
        obtain ⟨rest, new⟩ := ih short' (fun b mem => by cases mem; exact here) found
        have least := new (h, count) rfl
        refine ⟨fun h' mem => ?_, fun b mem => ?_⟩
        · rcases List.mem_cons.mp mem with rfl | later
          · rw [here]
            exact least
          · exact rest h' later
        · rw [Option.mem_def] at mem
          rw [mem] at better
          have more : count < b.2 := by simpa using better
          exact least.trans more.le
      · change leastLoaded prio .good hs (if best.all (fun b => b.2 > count) = true then
          some (h, count) else best) = some a at found
        rw [if_neg better] at found
        obtain ⟨rest, old⟩ := ih short' known found
        refine ⟨fun h' mem => ?_, old⟩
        rcases List.mem_cons.mp mem with rfl | later
        · cases best with
          | none => exact absurd rfl better
          | some b =>
            have fewer : b.2 ≤ count := by simpa using better
            rw [here]
            exact (old b rfl).trans fewer
        · exact rest h' later

theorem leastLoaded_found {best : Option (Addr × Nat)} (some_host : hosts ≠ [] ∨ best ≠ none) :
    ∃ a, leastLoaded prio .good hosts best = some a := by
  induction hosts generalizing best with
  | nil =>
    obtain ⟨b, rfl⟩ := Option.ne_none_iff_exists'.mp (some_host.resolve_left (fun h => h rfl))
    exact ⟨b.1, rfl⟩
  | cons h hs ih =>
    unfold leastLoaded
    cases prio (prioAttr h) with
    | none => exact ⟨h, rfl⟩
    | some count =>
      apply ih
      right
      split
      · exact Option.some_ne_none _
      · rename_i worse
        rintro rfl
        exact worse rfl

variable (prio) in
/-- The path that is chosen is a host of the list with the least counter. -/
theorem prioPath_least (some_host : hosts ≠ []) (short : ∀ h ∈ hosts, Short h) :
    blockGetPrioPath prio .good hosts ∈ hosts ∧
      ∀ h ∈ hosts, counter prio (blockGetPrioPath prio .good hosts) ≤ counter prio h := by
  obtain ⟨a, found⟩ : ∃ a, leastLoaded prio .good hosts none = some a :=
    leastLoaded_found (.inl some_host)
  have mem : a ∈ hosts := by
    rcases leastLoaded_mem found with mem | ⟨_, absurd⟩
    · exact mem
    · cases absurd
  have path : blockGetPrioPath prio .good hosts = a := by
    have length := short a mem
    unfold Short at length
    have fits : a.length < 256 - gbLbAttrPrefix.length := by
      change a.length < 246
      omega
    unfold blockGetPrioPath
    rw [found]
    exact if_pos fits
  rw [path]
  exact ⟨mem, (leastLoaded_least short (by simp) found).1⟩

end Choice

section Balance

variable {prio : Prio} {texts : PrioTexts} {a : Addr} {hosts : List Addr}

/-- The counters of the hosts are together, and they count the selections. -/
structure Balanced (prio : Prio) (hosts : List Addr) (k : Nat) : Prop where
  close : ∀ x ∈ hosts, ∀ y ∈ hosts, counter prio x ≤ counter prio y + 1
  total : (hosts.map (counter prio)).sum = k

/-- One more for a host is one more in all. -/
theorem inc_total (short : Short a) (distinct : hosts.Nodup) (mem : a ∈ hosts) :
    (hosts.map (counter (blockIncPrioAttr prio .good a))).sum =
      (hosts.map (counter prio)).sum + 1 := by
  have ones : ∀ hs : List Addr, (hs.map (counter (blockIncPrioAttr prio .good a))).sum =
      (hs.map (counter prio)).sum + hs.count a := by
    intro hs
    induction hs with
    | nil => rfl
    | cons h hs ih =>
      rw [List.map_cons, List.sum_cons, List.map_cons, List.sum_cons, ih, counter_inc prio short,
        List.count_cons]
      by_cases same : a = h
      · subst h
        simp
        omega
      · have other : ¬ h = a := fun eq => same eq.symm
        simp [same, other]
        omega
  rw [ones, List.count_eq_one_of_mem distinct mem]

/-- A selection with its update keeps the counters together. -/
theorem balanced_select {k : Nat} (some_host : hosts ≠ []) (short : ∀ h ∈ hosts, Short h)
    (distinct : hosts.Nodup) (balanced : Balanced prio hosts k) :
    Balanced (blockIncPrioAttr prio .good (blockGetPrioPath prio .good hosts)) hosts (k + 1) := by
  obtain ⟨mem, least⟩ := prioPath_least prio some_host short
  have short' := short _ mem
  refine ⟨fun x hx y hy => ?_, ?_⟩
  · rw [counter_inc prio short', counter_inc prio short']
    have near := balanced.close x hx y hy
    have few := least y hy
    by_cases same : blockGetPrioPath prio .good hosts = x
    · rw [same] at few ⊢
      simp
      omega
    · simp [same]
      omega
  · rw [inc_total short' distinct mem, balanced.total]

/-- While not every counter is full, the least one has room. -/
theorem least_room {k : Nat} (room : k < hosts.length * CText.maxSize)
    (total : (hosts.map (counter prio)).sum = k) (least : ∀ h ∈ hosts, counter prio a ≤ counter prio h) :
    counter prio a < CText.maxSize := by
  by_contra full
  have all : ∀ n ∈ hosts.map (counter prio), CText.maxSize ≤ n := by
    intro n mem
    obtain ⟨h, here, rfl⟩ := List.mem_map.mp mem
    exact (not_lt.mp full).trans (least h here)
  have sum := List.card_nsmul_le_sum _ _ all
  rw [List.length_map, nsmul_eq_mul, Nat.cast_id, total] at sum
  omega

theorem selections_balanced (some_host : hosts ≠ []) (short : ∀ h ∈ hosts, Short h)
    (distinct : hosts.Nodup) (garbage : Nat) {k : Nat} (room : k ≤ hosts.length * CText.maxSize) :
    ∃ prio, (PrioTexts.selections hosts garbage k).Written prio ∧ Balanced prio hosts k := by
  induction k with
  | zero =>
    have empty : (PrioTexts.selections hosts garbage 0).Written (fun _ => none) :=
      fun attr => ⟨rfl, by simp⟩
    refine ⟨_, empty, fun x _ y _ => Nat.zero_le _, ?_⟩
    have zero : counter (fun _ => none) = fun _ => 0 := rfl
    simp [zero]
  | succ k ih =>
    obtain ⟨prio, written, balanced⟩ := ih (by omega)
    obtain ⟨mem, least⟩ := prioPath_least prio some_host short
    have small := least_room (by omega) balanced.total least
    have inc := balanced_select some_host short distinct balanced
    refine ⟨_, ?_, inc⟩
    unfold PrioTexts.selections
    dsimp only
    rw [prioPath_written written]
    apply inc_written written
    rw [prioAttr_short (short _ mem)]
    exact small

/-- The choice is a host with the least counter, and as many selections as the counters have
room for are shared out evenly. -/
theorem prio_balance (some_host : hosts ≠ []) (short : ∀ h ∈ hosts, Short h) :
    (∀ (texts : PrioTexts) (prio : Prio), texts.Written prio →
      texts.blockGetPrioPath .good hosts ∈ hosts ∧ ∀ h ∈ hosts,
        texts.counter (texts.blockGetPrioPath .good hosts) ≤ texts.counter h) ∧
    (hosts.Nodup → ∀ garbage k, k ≤ hosts.length * (2 ^ 64 - 1) →
      let texts := PrioTexts.selections hosts garbage k
      (∀ x ∈ hosts, ∀ y ∈ hosts, texts.counter x ≤ texts.counter y + 1) ∧
        (hosts.map texts.counter).sum = k) := by
  constructor
  · intro texts prio written
    rw [prioPath_written written]
    obtain ⟨mem, least⟩ := prioPath_least prio some_host short
    refine ⟨mem, fun h here => ?_⟩
    rw [counter_written written, counter_written written]
    exact least h here
  · intro distinct garbage k room texts
    obtain ⟨prio, written, balanced⟩ := selections_balanced some_host short distinct garbage room
    have same : texts.counter = counter prio := funext (counter_written written)
    rw [same]
    exact ⟨balanced.close, balanced.total⟩

theorem prio_balance_sample :
    let hosts := ["10.0.0.1", "10.0.0.2"]
    let texts := PrioTexts.selections hosts 0 3
    hosts ≠ [] ∧ (∀ h ∈ hosts, Short h) ∧ (hosts.map texts.counter).sum = 3 := by
  have some_host : ["10.0.0.1", "10.0.0.2"] ≠ [] := List.cons_ne_nil _ _
  have short : ∀ h ∈ ["10.0.0.1", "10.0.0.2"], Short h := by
    unfold Short
    decide
  exact ⟨some_host, short, ((prio_balance some_host short).2 (by decide) 0 3 (by decide)).2⟩

/-- The counter of a host on its own counts the selections in 64 bits. -/
theorem single_count (short : Short a) (garbage k : Nat) :
    (PrioTexts.selections [a] garbage k).counter a = k % 2 ^ 64 := by
  have path : ∀ texts : PrioTexts, texts.blockGetPrioPath .good [a] = a := by
    intro texts
    have found : texts.leastLoaded .good [a] 0 none = some a := by
      unfold PrioTexts.leastLoaded
      cases texts (prioAttr a) <;> rfl
    have fits : a.length < 256 - gbLbAttrPrefix.length := by
      unfold Short at short
      change a.length < 246
      omega
    unfold PrioTexts.blockGetPrioPath
    rw [found]
    exact if_pos fits
  have scan : ∀ n, CText.scanZu (toString (n % 2 ^ 64)).toList = some (n % 2 ^ 64) := by
    intro n
    apply scan_toString
    unfold CText.maxSize
    omega
  have stored : ∀ k, PrioTexts.selections [a] garbage k (prioAttr a) =
      if k = 0 then none else some (toString (k % 2 ^ 64)) := by
    intro k
    induction k with
    | zero => rfl
    | succ k ih =>
      have count : (match PrioTexts.selections [a] garbage k (prioAttr a) with
          | none => 0
          | some buf => (CText.scanZu buf.toList).getD garbage) = k % 2 ^ 64 := by
        rw [ih]
        by_cases first : k = 0
        · rw [first]
          rfl
        · rw [if_neg first]
          exact congrArg (Option.getD · garbage) (scan k)
      unfold PrioTexts.selections
      dsimp only
      rw [path]
      unfold PrioTexts.blockIncPrioAttr
      rw [count, if_neg (Nat.succ_ne_zero k), Nat.mod_add_mod]
      exact Function.update_self _ _ _
  unfold PrioTexts.counter
  rw [← prioAttr_short short, stored]
  by_cases first : k = 0
  · rw [first]
    rfl
  · rw [if_neg first]
    exact congrArg (Option.getD · 0) (scan k)

/-- The selection of one host 2 ^ 64 times in a row leaves it with a counter of zero. -/
theorem full_counter_wraps :
    (["10.0.0.1"].map (PrioTexts.selections ["10.0.0.1"] 0 (2 ^ 64)).counter).sum ≠ 2 ^ 64 := by
  have short : Short "10.0.0.1" := by
    unfold Short
    decide
  rw [List.map_singleton, List.sum_singleton, single_count short]
  decide

end Balance

end GlusterBlock
