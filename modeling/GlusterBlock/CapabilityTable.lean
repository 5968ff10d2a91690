import GlusterBlock.Capabilities
import GlusterBlock.CommandLine
import GlusterBlock.ConfigFile
import GlusterBlock.CommandLog
import GlusterBlock.Lib.Stores

/-! The table of capabilities that a daemon reads at its start. An entry is put behind the
ones before it, so the file decides where it is, and the readers of the table take an entry
by the number of its capability. -/
namespace GlusterBlock

open Stores (Store Inside)
open DynConfig (getlines cstr)

section Read

def gbCapMax : Nat := GbCapability.all.length

def gbCapabilitiesEnumParse (cap : String) : Option GbCapability :=
  GbCapability.all.find? (fun i => cap == gbCapabilitiesLookup i)

/-- The capabilities that need a version of something else. -/
def GbCapability.dependent : GbCapability → Bool
  | .createBlockSize | .reload | .createIoTimeout => true
  | _ => false

/-- The entries so far, and the stores into the table. -/
structure CapScan where
  caps : List GbCapObj
  stores : List Store

/-- Where a line leads: on with the next one, out of the loop, or a null pointer is written
through. -/
inductive CapStep where
  | next (s : CapScan)
  | out (stores : List Store)
  | crash

def convertedSwitch (value : Text) : Int :=
  convertStringToTrillianParse (some (String.ofList (value.dropWhile CText.isSpace)))

/-- A line with the name of a capability; `checks` says how the version check of the entry
with this number ends. -/
def capEntry (checks : Nat → Bool) (cap : GbCapability) (rest : Text) (s : CapScan) : CapStep :=
  let count := s.caps.length
  let stores := s.stores ++ [(count, gbCapMax)]
  let put := fun status => CapStep.next ⟨s.caps ++ [⟨gbCapabilitiesLookup cap, status⟩], stores⟩
  if cap.dependent && !checks count then put false
  else if '\n' ∉ cstr rest then .crash
  else
    let ret := convertedSwitch (rest.takeWhile (· != '\n'))
    if ret ≥ 0 then put (ret != 0) else .out stores

def capLine (checks : Nat → Bool) (line : Text) (s : CapScan) : CapStep :=
  if line.head? = some '\n' ∨ line.head? = some '#' then .next s
  else if ':' ∉ cstr line then .crash
  else
    let name := line.takeWhile (· != ':')
    match gbCapabilitiesEnumParse (String.ofList name) with
    | none => .next s
    | some cap => capEntry checks cap (line.drop (name.length + 1)) s

/-- The stores, and the table when one is installed. -/
def readCaps (checks : Nat → Bool) : List Text → CapScan → Option (List Store × Option (List GbCapObj))
  | [], s => some (s.stores, if s.caps.length = gbCapMax then some s.caps else none)
  | line :: lines, s =>
    match capLine checks line s with
    | .next s => readCaps checks lines s
    | .out stores => some (stores, none)
    | .crash => none

/-- The loop over an open file and a table that was allocated. -/
def gbSetCapabilties (checks : Nat → Bool) (file : Text) :
    Option (List Store × Option (List GbCapObj)) :=
  readCaps checks (getlines file) ⟨[], []⟩

end Read

section Lines

structure IsCapName (name : Text) : Prop where
  first : name.head? ≠ some '#'
  plain : ∀ c ∈ name, c ≠ ':' ∧ c ≠ '\n' ∧ c ≠ '\x00'

inductive CapLine where
  | blank
  | comment (text : Text) (inLine : '\n' ∉ text)
  | pair (name value : Text) (named : IsCapName name) (inLine : ∀ c ∈ value, c ≠ '\n' ∧ c ≠ '\x00')

def CapLine.text : CapLine → Text
  | .blank => []
  | .comment text _ => '#' :: text
  | .pair name value _ _ => name ++ ':' :: value

def capFile (lines : List CapLine) : Text := lines.flatMap (fun l => l.text ++ ['\n'])

/-- The capability that a line names, and its value. -/
def CapLine.entry : CapLine → Option (GbCapability × Text)
  | .pair name value _ _ =>
    (gbCapabilitiesEnumParse (String.ofList name)).map (fun cap => (cap, value))
  | _ => none

/-- The check of an entry does not fail. -/
def capPasses (checks : Nat → Bool) (i : Nat) (cap : GbCapability) : Bool :=
  !cap.dependent || checks i

/-- The value is looked at and is no word for a switch. -/
def capFails (checks : Nat → Bool) (i : Nat) (e : GbCapability × Text) : Bool :=
  capPasses checks i e.1 && decide (convertedSwitch e.2 < 0)

/-- The entries up to the first one that fails. -/
def capsTaken (checks : Nat → Bool) : Nat → List (GbCapability × Text) → List (GbCapability × Text)
  | _, [] => []
  | i, e :: es => e :: if capFails checks i e then [] else capsTaken checks (i + 1) es

def capsFail (checks : Nat → Bool) : Nat → List (GbCapability × Text) → Bool
  | _, [] => false
  | i, e :: es => capFails checks i e || capsFail checks (i + 1) es

def capObj (checks : Nat → Bool) (e : GbCapability × Text) (i : Nat) : GbCapObj where
  cap := gbCapabilitiesLookup e.1
  status := capPasses checks i e.1 && convertedSwitch e.2 == 1

variable (checks : Nat → Bool)

theorem switch_values (value : Text) :
    convertedSwitch value = 1 ∨ convertedSwitch value = 0 ∨ convertedSwitch value = -1 := by
  unfold convertedSwitch convertStringToTrillianParse
  dsimp only
  split
  · split
    · exact .inl rfl
    · exact .inr (.inl rfl)
  · exact .inr (.inr rfl)

theorem passes_check (i : Nat) (cap : GbCapability) :
    capPasses checks i cap = !(cap.dependent && !checks i) := by
  unfold capPasses
  cases cap.dependent <;> cases checks i <;> rfl

theorem entry_step (cap : GbCapability) {value : Text}
    (inLine : ∀ c ∈ value, c ≠ '\n' ∧ c ≠ '\x00') (s : CapScan) :
    capEntry checks cap (value ++ ['\n']) s =
      if capFails checks s.caps.length (cap, value) then
        .out (s.stores ++ [(s.caps.length, gbCapMax)])
      else .next ⟨s.caps ++ [capObj checks (cap, value) s.caps.length],
        s.stores ++ [(s.caps.length, gbCapMax)]⟩ := by
  have whole : cstr (value ++ ['\n']) = value ++ ['\n'] := by
    apply DynConfig.cstr_plain
    intro c mem
    rcases List.mem_append.mp mem with inside | last
    · exact (inLine c inside).2
    · rw [List.mem_singleton.mp last]
      decide
  have text : (value ++ ['\n']).takeWhile (· != '\n') = value := by
    have inside : ∀ c ∈ value, (c != '\n') = true := fun c mem => bne_iff_ne.mpr (inLine c mem).1
    rw [List.takeWhile_append_of_pos inside]
    simp
  unfold capEntry capFails capObj
  dsimp only
  rw [whole, text, passes_check]
  cases cap.dependent && !checks s.caps.length with
  | true => simp
  | false =>
    have newline : ¬ '\n' ∉ value ++ ['\n'] := by simp
    rw [if_neg Bool.false_ne_true, if_neg newline]
    rcases switch_values value with on | off | bad
    · simp [on]
    · simp [off]
    · simp [bad]

theorem line_step (l : CapLine) (s : CapScan) :
    capLine checks (l.text ++ ['\n']) s =
      match l.entry with
      | none => .next s
      | some e =>
        if capFails checks s.caps.length e then .out (s.stores ++ [(s.caps.length, gbCapMax)])
        else .next ⟨s.caps ++ [capObj checks e s.caps.length],
          s.stores ++ [(s.caps.length, gbCapMax)]⟩ := by
  cases l with
  | blank => rfl
  | comment text inLine => rfl
  | pair name value named inLine =>
    have front : (name ++ ':' :: value) ++ ['\n'] = name ++ ':' :: (value ++ ['\n']) := by simp
    have starts : ¬ ((name ++ ':' :: (value ++ ['\n'])).head? = some '\n' ∨
        (name ++ ':' :: (value ++ ['\n'])).head? = some '#') := by
      cases text : name with
      | nil => simp
      | cons c cs =>
        have plain := named.plain c (text ▸ List.mem_cons_self)
        have first := named.first
        rw [text] at first
        simp only [List.head?_cons, ne_eq, Option.some.injEq] at first
        simp [plain.2.1, first]
    have whole : cstr (name ++ ':' :: (value ++ ['\n'])) = name ++ ':' :: (value ++ ['\n']) := by
      apply DynConfig.cstr_plain
      intro c mem
      simp only [List.mem_append, List.mem_cons, List.not_mem_nil, or_false] at mem
      rcases mem with inName | rfl | inValue | rfl
      · exact (named.plain c inName).2.2
      · decide
      · exact (inLine c inValue).2
      · decide
    have part : (name ++ ':' :: (value ++ ['\n'])).takeWhile (· != ':') = name := by
      have inside : ∀ c ∈ name, (c != ':') = true :=
        fun c mem => bne_iff_ne.mpr (named.plain c mem).1
      rw [List.takeWhile_append_of_pos inside]
      simp
    have colon : ¬ ':' ∉ name ++ ':' :: (value ++ ['\n']) := by simp
    have behind : (name ++ ':' :: (value ++ ['\n'])).drop (name.length + 1) = value ++ ['\n'] := by
      rw [← List.drop_drop]
      simp
    unfold capLine CapLine.text CapLine.entry
    dsimp only
    rw [front, if_neg starts, whole, if_neg colon, part, behind]
    cases gbCapabilitiesEnumParse (String.ofList name) with
    | none => rfl
    | some cap => exact entry_step checks cap inLine s

theorem capFile_lines (lines : List CapLine) :
    getlines (capFile lines) = lines.map (fun l => l.text ++ ['\n']) := by
  induction lines with
  | nil => rfl
  | cons l lines ih =>
    have inLine : '\n' ∉ l.text := by
      intro mem
      cases l with
      | blank => cases mem
      | comment text inLine =>
        rcases List.mem_cons.mp mem with first | rest
        · exact absurd first (by decide)
        · exact inLine rest
      | pair name value named inLine =>
        rcases List.mem_append.mp mem with inName | rest
        · exact (named.plain _ inName).2.1 rfl
        · rcases List.mem_cons.mp rest with first | inValue
          · exact absurd first (by decide)
          · exact (inLine _ inValue).1 rfl
    unfold capFile at ih ⊢
    rw [List.flatMap_cons, List.append_assoc, List.singleton_append,
      DynConfig.getlines_line inLine, ih, List.map_cons]

end Lines

section Table

variable (checks : Nat → Bool)

/-- The loop over the lines: one store for each entry that is taken, and a table of all
entries when there are as many as capabilities and none fails. -/
theorem readCaps_lines (lines : List CapLine) (s : CapScan) :
    readCaps checks (lines.map (fun l => l.text ++ ['\n'])) s =
      some (s.stores ++ Stores.run s.caps.length
          (capsTaken checks s.caps.length (lines.filterMap CapLine.entry)).length gbCapMax,
        if capsFail checks s.caps.length (lines.filterMap CapLine.entry) then none
        else
          let caps := s.caps ++
            ((lines.filterMap CapLine.entry).zipIdx s.caps.length).map
              (fun e => capObj checks e.1 e.2)
          if caps.length = gbCapMax then some caps else none) := by
  induction lines generalizing s with
  | nil => simp [readCaps, capsTaken, capsFail, Stores.run]
  | cons l lines ih =>
    rw [List.map_cons, readCaps, line_step]
    cases entry : l.entry with
    | none =>
      rw [List.filterMap_cons_none entry]
      exact ih s
    | some e =>
      rw [List.filterMap_cons_some entry, capsTaken, capsFail]
      dsimp only
      cases fails : capFails checks s.caps.length e with
      | true => simp [Stores.run]
      | false =>
        rw [if_neg Bool.false_ne_true, if_neg Bool.false_ne_true]
        dsimp only
        rw [ih]
        simp [Stores.run, List.zipIdx_cons, List.range'_succ]

/-- The number of a capability in the enum. -/
def GbCapability.index (c : GbCapability) : Nat := GbCapability.all.idxOf c

/-- A table as its readers take it to be, from a file of these lines. -/
structure CapTableRight (lines : List CapLine) (table : List GbCapObj) : Prop where
  once : ∀ c, table.countP (fun entry => entry.cap == gbCapabilitiesLookup c) = 1
  status : ∀ (i : Nat) (entry : GbCapObj), table[i]? = some entry → ∃ c value,
    (∃ l ∈ lines, l.entry = some (c, value)) ∧ entry.cap = gbCapabilitiesLookup c ∧
      entry.status = (capPasses checks i c && convertedSwitch value == 1)
  indexed : ∀ c, ∃ entry, table[c.index]? = some entry ∧ entry.cap = gbCapabilitiesLookup c

theorem lookup_injective {c d : GbCapability}
    (same : gbCapabilitiesLookup c = gbCapabilitiesLookup d) : c = d := by
  have found : ∀ c, gbCapabilitiesEnumParse (gbCapabilitiesLookup c) = some c := by
    intro c
    cases c <;> decide
  have parsed := found c
  rw [same, found d] at parsed
  exact (Option.some.inj parsed).symm

theorem all_indexed {cs : List GbCapability} (length : cs.length = gbCapMax) :
    cs = GbCapability.all ↔ ∀ c : GbCapability, cs[c.index]? = some c := by
  constructor
  · rintro rfl c
    cases c <;> rfl
  · intro indexed
    apply List.ext_getElem?
    intro i
    by_cases inside : i < GbCapability.all.length
    · have here : (GbCapability.all[i]).index = i := by
        have all : ∀ i : Fin GbCapability.all.length, (GbCapability.all.get i).index = i := by
          decide
        exact all ⟨i, inside⟩
      have entry := indexed (GbCapability.all[i])
      rw [here] at entry
      rw [entry, List.getElem?_eq_getElem inside]
    · have outside : cs.length ≤ i := by
        rw [length]
        exact Nat.le_of_not_lt inside
      rw [List.getElem?_eq_none outside, List.getElem?_eq_none (Nat.le_of_not_lt inside)]

variable {checks} {lines : List CapLine}

theorem table_entry (i : Nat) : (((lines.filterMap CapLine.entry).zipIdx 0).map
    (fun e => capObj checks e.1 e.2))[i]? =
      (lines.filterMap CapLine.entry)[i]?.map (fun e => capObj checks e i) := by
  rw [List.getElem?_map, List.getElem?_zipIdx]
  cases (lines.filterMap CapLine.entry)[i]? with
  | none => rfl
  | some e => simp

/-- A table of all entries is right exactly when the file has them in the order of the
enum. -/
theorem table_right (length : (lines.filterMap CapLine.entry).length = gbCapMax) :
    CapTableRight checks lines (((lines.filterMap CapLine.entry).zipIdx 0).map
        (fun e => capObj checks e.1 e.2)) ↔
      (lines.filterMap CapLine.entry).map Prod.fst = GbCapability.all := by
  have names : (lines.filterMap CapLine.entry).map Prod.fst = GbCapability.all ↔
      ∀ c : GbCapability, ((lines.filterMap CapLine.entry).map Prod.fst)[c.index]? = some c :=
    all_indexed (by rw [List.length_map, length])
  constructor
  · intro right
    apply names.mpr
    intro c
    obtain ⟨entry, here, cap⟩ := right.indexed c
    rw [table_entry] at here
    obtain ⟨e, at_index, rfl⟩ := Option.map_eq_some_iff.mp here
    rw [List.getElem?_map, at_index]
    exact congrArg some (lookup_injective cap)
  · intro order
    constructor
    · intro c
      have caps : (((lines.filterMap CapLine.entry).zipIdx 0).map
          (fun e => capObj checks e.1 e.2)).countP
            (fun entry => entry.cap == gbCapabilitiesLookup c) =
          GbCapability.all.countP (fun d => gbCapabilitiesLookup d == gbCapabilitiesLookup c) := by
        rw [← order, List.countP_map, List.countP_map]
        conv_rhs => rw [← List.zipIdx_map_fst 0 (lines.filterMap CapLine.entry), List.countP_map]
        rfl
      rw [caps]
      cases c <;> decide
    · intro i entry here
      rw [table_entry] at here
      obtain ⟨e, at_index, rfl⟩ := Option.map_eq_some_iff.mp here
      obtain ⟨l, mem, put⟩ := List.mem_filterMap.mp (List.mem_of_getElem? at_index)
      exact ⟨e.1, e.2, ⟨l, mem, put⟩, rfl, rfl⟩
    · intro c
      have here := names.mp order c
      rw [List.getElem?_map] at here
      obtain ⟨e, at_index, cap⟩ := Option.map_eq_some_iff.mp here
      refine ⟨capObj checks e c.index, ?_, ?_⟩
      · rw [table_entry, at_index]
        rfl
      · exact congrArg gbCapabilitiesLookup cap

/-- Reading the lines goes well: every store is into the table, and one that is installed
is right. -/
def CapsRight (checks : Nat → Bool) (lines : List CapLine) : Prop :=
  ∃ stores table, gbSetCapabilties checks (capFile lines) = some (stores, table) ∧
    Inside stores ∧ ∀ caps, table = some caps → CapTableRight checks lines caps

theorem taken_inside (n : Nat) : Inside (Stores.run 0 n gbCapMax) ↔ n ≤ gbCapMax := by
  cases n with
  | zero => exact ⟨fun _ => Nat.zero_le _, fun _ => Stores.inside_nil⟩
  | succ n =>
    rw [Stores.inside_run]
    omega

theorem setCapabilties_lines (checks : Nat → Bool) (lines : List CapLine) :
    gbSetCapabilties checks (capFile lines) =
      some (Stores.run 0 (capsTaken checks 0 (lines.filterMap CapLine.entry)).length gbCapMax,
        if capsFail checks 0 (lines.filterMap CapLine.entry) = true ∨
            (lines.filterMap CapLine.entry).length ≠ gbCapMax then none
        else some (((lines.filterMap CapLine.entry).zipIdx 0).map
          (fun e => capObj checks e.1 e.2))) := by
  unfold gbSetCapabilties
  rw [capFile_lines, readCaps_lines]
  by_cases fails : capsFail checks 0 (lines.filterMap CapLine.entry) = true
  · simp [fails]
  · by_cases full : (lines.filterMap CapLine.entry).length = gbCapMax
    · simp [fails, full]
    · simp [fails, full]

/-- The reading goes well exactly when no more entries than capabilities are taken, and a
file of as many good ones has them in the order of the enum. -/
theorem capabilities_right (checks : Nat → Bool) (lines : List CapLine) :
    CapsRight checks lines ↔
      (capsTaken checks 0 (lines.filterMap CapLine.entry)).length ≤ gbCapMax ∧
        (capsFail checks 0 (lines.filterMap CapLine.entry) = false →
          (lines.filterMap CapLine.entry).length = gbCapMax →
            (lines.filterMap CapLine.entry).map Prod.fst = GbCapability.all) := by
  unfold CapsRight
  rw [setCapabilties_lines]
  constructor
  · rintro ⟨stores, table, run, inside, right⟩
    cases run
    refine ⟨(taken_inside _).mp inside, fun good full => ?_⟩
    apply (table_right full).mp
    apply right
    rw [if_neg]
    simp [good, full]
  · rintro ⟨few, order⟩
    refine ⟨_, _, rfl, (taken_inside _).mpr few, fun caps installed => ?_⟩
    split at installed
    · cases installed
    · rename_i whole
      cases installed
      simp only [not_or, Bool.not_eq_true, not_not, ne_eq] at whole
      exact (table_right whole.2).mpr (order whole.1 whole.2)

/-- The line that turns a capability on. -/
def enabledLine (c : GbCapability) : CapLine :=
  .pair (gbCapabilitiesLookup c).toList " true".toList
    ⟨by cases c <;> decide, CText.forall_of_all (by cases c <;> decide)⟩
    (CText.forall_of_all (by decide))

/-- The capabilities in the order of the file that comes with the daemon. -/
def shippedCaps : List GbCapability :=
  [.create, .createHa, .createPrealloc, .createAuth, .delete, .deleteForce, .modify, .modifyAuth,
   .json, .replace, .modifySize, .createRingBuffer, .createLoadBalance, .createBlockSize, .reload,
   .createIoTimeout]

/-- The shipped file is installed, and the entry at the number of `modify_size` is that of
`json`. -/
theorem shipped_caps_wrong : ¬ CapsRight (fun _ => true) (shippedCaps.map enabledLine) := by
  have entries : (shippedCaps.map enabledLine).filterMap CapLine.entry =
      shippedCaps.map (fun c => (c, " true".toList)) := by decide
  have full : ((shippedCaps.map enabledLine).filterMap CapLine.entry).length = gbCapMax := by
    rw [entries]
    rfl
  have good : capsFail (fun _ => true) 0
      ((shippedCaps.map enabledLine).filterMap CapLine.entry) = false := by
    rw [entries]
    decide
  have whole : ¬ (capsFail (fun _ => true) 0
      ((shippedCaps.map enabledLine).filterMap CapLine.entry) = true ∨
        ((shippedCaps.map enabledLine).filterMap CapLine.entry).length ≠ gbCapMax) := by
    rw [good, full]
    decide
  rintro ⟨stores, table, run, _, right⟩
  rw [setCapabilties_lines, if_neg whole] at run
  cases run
  have order := (table_right full).mp (right _ rfl)
  rw [entries] at order
  exact absurd order (by decide)

end Table

end GlusterBlock
